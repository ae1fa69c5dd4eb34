import LanguageServer.Text.Unseen

/-! Text in quotes for a log line: the quote, the backslash and what cannot be seen are escaped. -/

namespace LanguageServer.Text

/-- How a character stands in quotes. -/
def escapeUnseen (c : Char) : List Char :=
  if c = '"' then ['\\', '"']
  else if c = '\\' then ['\\', '\\']
  else if c = '\n' then ['\\', 'n']
  else if c = '\r' then ['\\', 'r']
  else if c = '\t' then ['\\', 't']
  else if c.toNat = 0 then ['\\', '0']
  else if isUnseen c then ['\\', 'u', '{'] ++ Nat.toDigits 16 c.toNat ++ ['}']
  else [c]

/-- A text in quotes. -/
def quoted (s : String) : String :=
  String.ofList ('"' :: s.toList.flatMap escapeUnseen ++ ['"'])

/-- A value that may be absent. -/
def optional : Option String → String
  | none => "None"
  | some s => s!"Some({s})"

example : quoted "a\"b\\c\te\u0301\u00A0" = "\"a\\\"b\\\\c\\te\\u\x7b301\x7d\\u\x7ba0\x7d\"" := by
  decide +kernel

end LanguageServer.Text
