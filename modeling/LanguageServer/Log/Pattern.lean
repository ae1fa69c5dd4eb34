import LanguageServer.Text.Alphanumeric
import LanguageServer.Text.Digit

/-! Patterns that the value of a field is matched against. A pattern is a number or a regular expression.
    Only whether a text is a pattern counts here: no filter of the program is told the value of a field, but
    a text that is no pattern makes no filter. A pattern stands between braces, so there is no closing brace
    in it and no repetition by count. -/

namespace LanguageServer.Log.Pattern

/-! ### Numbers -/

/-- A decimal with an optional fraction and power of ten, or the name of what is no number or of
    infinity. -/
def isUnsignedNumber (cs : List Char) : Bool :=
  if ["inf", "infinity", "nan"].contains (String.ofList (cs.map Char.toLower)) then true
  else
    let whole := cs.takeWhile Char.isDigit
    let (fraction, rest) :=
      match cs.dropWhile Char.isDigit with
      | '.' :: rest => (rest.takeWhile Char.isDigit, rest.dropWhile Char.isDigit)
      | rest => ([], rest)
    let isPower : Bool :=
      match rest with
      | [] => true
      | c :: power =>
        let digits := match power with | '+' :: ds => ds | '-' :: ds => ds | ds => ds
        (c == 'e' || c == 'E') && !digits.isEmpty && digits.all Char.isDigit
    !(whole.isEmpty && fraction.isEmpty) && isPower

/-! ### Single items -/

/-- What one character or escape of a regular expression stands for. -/
inductive Item where
  /-- A character by its code point. -/
  | literal (code : Nat)
  /-- Any character of a class. -/
  | kind
  /-- A place in the text. -/
  | place
deriving DecidableEq

/-- A code point in so many hexadecimal digits, and what is behind it. -/
def code? (digits : Nat) (cs : List Char) : Option (Item × List Char) := do
  let code ← Text.hexNumber? (cs.take digits)
  if digits ≤ cs.length ∧ (code < 0xD800 ∨ 0xDFFF < code ∧ code < 0x110000) then
    some (.literal code, cs.drop digits)
  else none

/-- What stands behind a backslash, and the rest. Word boundaries are refused, and so are references to
    groups. -/
def escape? : List Char → Option (Item × List Char)
  | [] => none
  | c :: cs =>
    if c = 'x' then code? 2 cs
    else if c = 'u' then code? 4 cs
    else if c = 'U' then code? 8 cs
    else if c = 'p' ∨ c = 'P' then
      match cs with
      | d :: rest => if "CLMNPSZclmnpsz".toList.contains d then some (.kind, rest) else none
      | [] => none
    else if "dswDSW".toList.contains c then some (.kind, cs)
    else if c = 'A' ∨ c = 'z' then some (.place, cs)
    else
      match List.lookup c [('a', 0x07), ('f', 0x0C), ('t', 0x09), ('n', 0x0A), ('r', 0x0D),
        ('v', 0x0B)] with
      | some code => some (.literal code, cs)
      | none =>
        if 0x80 ≤ c.toNat || c.isAlphanum || c = '<' || c = '>' then none
        else some (.literal c.toNat, cs)

/-- A character or an escape in a class, and the rest. -/
def item? : List Char → Option (Item × List Char)
  | [] => none
  | '\\' :: cs => escape? cs
  | c :: cs => some (.literal c.toNat, cs)

/-! ### Classes in brackets -/

/-- The names of the classes of ASCII characters. -/
def asciiClasses : List String :=
  ["alnum", "alpha", "ascii", "blank", "cntrl", "digit", "graph", "lower", "print", "punct",
    "space", "upper", "word", "xdigit"]

/-- What is behind a class of ASCII characters that begins behind a bracket. -/
def afterAsciiClass? : List Char → Option (List Char)
  | ':' :: cs =>
    let cs := match cs with | '^' :: rest => rest | _ => cs
    match cs.dropWhile (· ≠ ':') with
    | ':' :: ']' :: rest =>
      if asciiClasses.contains (String.ofList (cs.takeWhile (· ≠ ':'))) then some rest else none
    | _ => none
  | _ => none

/-- What is behind the start of a class: a negation, minus signs, and a closing bracket that comes first
    stand for themselves. -/
def afterOpening (cs : List Char) : List Char :=
  let cs := match cs with | '^' :: rest => rest | _ => cs
  match cs with
  | ']' :: rest => rest
  | _ => cs.dropWhile (· = '-')

/-- What is behind a character or a range of characters in a class. -/
def afterRange? (cs : List Char) : Option (List Char) := do
  let (low, rest) ← item? cs
  match rest with
  | '-' :: behind =>
    if behind.head? = some ']' ∨ behind.head? = some '-' then
      if low = .place then none else some rest
    else
      let (high, rest) ← item? behind
      match low, high with
      | .literal a, .literal b => if a ≤ b then some rest else none
      | _, _ => none
  | _ => if low = .place then none else some rest

/-- What is behind a class, so many classes deep. Each round reads something, so the length of the text is
    enough for `fuel`. -/
def afterClass? (fuel depth : Nat) (cs : List Char) : Option (List Char) :=
  match fuel with
  | 0 => none
  | fuel + 1 =>
    match cs with
    | [] => none
    | '[' :: rest =>
      match afterAsciiClass? rest with
      | some rest => afterClass? fuel depth rest
      | none => afterClass? fuel (depth + 1) (afterOpening rest)
    | ']' :: rest => if depth = 0 then some rest else afterClass? fuel (depth - 1) rest
    | '&' :: '&' :: rest => afterClass? fuel depth rest
    | '-' :: '-' :: rest => afterClass? fuel depth rest
    | '~' :: '~' :: rest => afterClass? fuel depth rest
    | _ => (afterRange? cs).bind (afterClass? fuel depth)

/-! ### Groups -/

/-- The name of a group and what is behind it. -/
def groupName? (cs : List Char) : Option (List Char × List Char) :=
  let name := cs.takeWhile (· ≠ '>')
  match name, cs.dropWhile (· ≠ '>') with
  | first :: others, _ :: rest =>
    if (first = '_' || (Text.isAlphanumeric first && !first.isDigit)) &&
        others.all (fun c => "_.[]".toList.contains c || Text.isAlphanumeric c) then
      some (name, rest)
    else none
  | _, _ => none

/-- Reads flags: whether they open a group, and what is behind them. `seen` holds the flags so far, the last
    one first. -/
def flags? (seen : List Char) : List Char → Option (Bool × List Char)
  | [] => none
  | ':' :: rest => if seen.head? = some '-' then none else some (true, rest)
  | ')' :: rest => if seen = [] ∨ seen.head? = some '-' then none else some (false, rest)
  | c :: rest =>
    if "-imsUuRx".toList.contains c && !seen.contains c then flags? (c :: seen) rest else none

/-- A regular expression is well-formed from here on, with so many groups open and these names given to
    groups. `repeatable` tells whether there is something that can be repeated. Each round reads something,
    so one more than the length of the text is enough for `fuel`. -/
def isExpression (fuel : Nat) (groups : Nat) (names : List (List Char)) (repeatable : Bool)
    (cs : List Char) : Bool :=
  match fuel with
  | 0 => false
  | fuel + 1 =>
    let named (rest : List Char) : Bool :=
      match groupName? rest with
      | some (name, rest) =>
        !names.contains name && isExpression fuel (groups + 1) (name :: names) false rest
      | none => false
    match cs with
    | [] => groups == 0
    | '(' :: '?' :: 'P' :: '<' :: rest => named rest
    | '(' :: '?' :: '<' :: rest => named rest
    | '(' :: '?' :: rest =>
      match flags? [] rest with
      | some (opens, rest) =>
        isExpression fuel (if opens then groups + 1 else groups) names false rest
      | none => false
    | '(' :: rest => isExpression fuel (groups + 1) names false rest
    | ')' :: rest => groups != 0 && isExpression fuel (groups - 1) names true rest
    | '|' :: rest => isExpression fuel groups names false rest
    | '[' :: rest =>
      match afterClass? (rest.length + 1) 0 (afterOpening rest) with
      | some rest => isExpression fuel groups names true rest
      | none => false
    | '\\' :: rest =>
      match escape? rest with
      | some (_, rest) => isExpression fuel groups names true rest
      | none => false
    | c :: rest =>
      if c = '*' ∨ c = '+' ∨ c = '?' then
        let rest := match rest with | '?' :: rest => rest | _ => rest
        repeatable && isExpression fuel groups names true rest
      else c != '{' && isExpression fuel groups names true rest

/-- A text is a pattern. Of the numbers only one with a plus sign is no regular expression. -/
def isPattern (cs : List Char) : Bool :=
  (match cs with | '+' :: number => isUnsignedNumber number | _ => false) ||
    isExpression (cs.length + 1) 0 [] false cs

example : ["", "a|", "(a|b)*?", "[]a-z&&[^[:alpha:]]]", "\\x41\\d+", "(?i:x)", "+1.5e3"].all
    (isPattern ·.toList) = true := by decide +kernel
example : ["(", "a)", "*", "a|*", "[a", "[z-a]", "\\", "\\1", "(?i)*", "+a", "a\x7b2"].any
    (isPattern ·.toList) = false := by decide +kernel

end LanguageServer.Log.Pattern
