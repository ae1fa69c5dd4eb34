import LanguageServer.Json.Value

/-! Writing JSON, on one line (`Json.compact`) or indented by two blanks a level (`Json.pretty`). A string
    escapes the quote, the backslash and the control characters below `U+0020`, and nothing else, so a
    compact text has no line break in it. -/

namespace LanguageServer.Json

/-- The lower-case hexadecimal digit of a number below 16. -/
def hexDigit (n : Nat) : Char := (Nat.toDigits 16 n).headD '0'

/-- How a character stands in a string. -/
def escape (c : Char) : List Char :=
  if c = '"' then ['\\', '"']
  else if c = '\\' then ['\\', '\\']
  else if 0x20 ≤ c.toNat then [c]
  else if c = '\n' then ['\\', 'n']
  else if c = '\r' then ['\\', 'r']
  else if c = '\t' then ['\\', 't']
  else if c.toNat = 8 then ['\\', 'b']
  else if c.toNat = 12 then ['\\', 'f']
  else ['\\', 'u', '0', '0', hexDigit (c.toNat / 16), hexDigit (c.toNat % 16)]

/-- A string in quotes. -/
def quote (s : String) : List Char := '"' :: s.toList.flatMap escape ++ ['"']

/-- The literals `true` and `false`. -/
def boolText : Bool → List Char
  | true => ['t', 'r', 'u', 'e']
  | false => ['f', 'a', 'l', 's', 'e']

/-- The literal `null`. -/
def nullText : List Char := ['n', 'u', 'l', 'l']

mutual

/-- The text of a value without any blank between its parts. -/
def compactChars : Json → List Char
  | .null => nullText
  | .bool b => boolText b
  | .num n => n.text
  | .str s => quote s
  | .arr [] => ['[', ']']
  | .arr (v :: rest) => '[' :: compactChars v ++ compactItems rest
  | .obj [] => ['{', '}']
  | .obj ((k, v) :: rest) => '{' :: quote k ++ ':' :: compactChars v ++ compactMembers rest

/-- The items after the first, each behind a comma, and the closing bracket. -/
def compactItems : List Json → List Char
  | [] => [']']
  | v :: rest => ',' :: compactChars v ++ compactItems rest

/-- The members after the first, each behind a comma, and the closing brace. -/
def compactMembers : Members → List Char
  | [] => ['}']
  | (k, v) :: rest => ',' :: quote k ++ ':' :: compactChars v ++ compactMembers rest

end

/-- A line break and the indentation of a level. -/
def indent (level : Nat) : List Char := '\n' :: List.replicate (2 * level) ' '

mutual

/-- The text of a value with every item and member on a line of its own. -/
def prettyChars (level : Nat) : Json → List Char
  | .null => nullText
  | .bool b => boolText b
  | .num n => n.text
  | .str s => quote s
  | .arr [] => ['[', ']']
  | .arr (v :: rest) =>
    '[' :: indent (level + 1) ++ prettyChars (level + 1) v ++ prettyItems level rest
  | .obj [] => ['{', '}']
  | .obj ((k, v) :: rest) =>
    '{' :: indent (level + 1) ++ quote k ++ ':' :: ' ' :: prettyChars (level + 1) v ++
      prettyMembers level rest

/-- The items after the first, and the closing bracket on a line of its own. -/
def prettyItems (level : Nat) : List Json → List Char
  | [] => indent level ++ [']']
  | v :: rest =>
    ',' :: indent (level + 1) ++ prettyChars (level + 1) v ++ prettyItems level rest

/-- The members after the first, and the closing brace on a line of its own. -/
def prettyMembers (level : Nat) : Members → List Char
  | [] => indent level ++ ['}']
  | (k, v) :: rest =>
    ',' :: indent (level + 1) ++ quote k ++ ':' :: ' ' :: prettyChars (level + 1) v ++
      prettyMembers level rest

end

/-- The text of a value on one line. -/
def compact (v : Json) : String := String.ofList (compactChars v)

/-- The text of a value on indented lines. -/
def pretty (v : Json) : String := String.ofList (prettyChars 0 v)

example : compact (.arr [.obj [("a\n", .int (-1))], .null, .arr [], .str "é\x01\""]) =
    "[\x7b\"a\\n\":-1\x7d,null,[],\"é\\u0001\\\"\"]" := by decide +kernel

end LanguageServer.Json
