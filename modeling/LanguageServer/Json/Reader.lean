import LanguageServer.Json.Numeral
import LanguageServer.Json.Value
import LanguageServer.Text.Digit

/-! Reading JSON. The reader is a machine that takes one character at a time (`Reader.step`): a stack of the
    arrays and objects that are open, and what may come next. A text that stops before the machine is done
    has ended too early; every other failure is a character that cannot stand where it does, a number that
    is too great, or a value nested too deeply. The members of an object are put in the order of their keys,
    and of members with one key the last stays. -/

namespace LanguageServer.Json

/-- Why a text is no JSON value. -/
inductive ReadFault where
  /-- The text stops inside a value. -/
  | ended
  /-- The text goes on in a way that no value does. -/
  | broken
deriving DecidableEq

/-- What a message tells about a text that is no JSON value, in place of where it breaks. -/
def ReadFault.detail (_ : ReadFault) : String := "<detail>"

namespace Reader

/-- An array or object that is open around what is read. -/
inductive Frame where
  /-- An array with the items before, last first. -/
  | items (read : List Json)
  /-- An object with the members before, and the key of the value to come. -/
  | members (read : Members) (key : String)

/-- What a string stands for. -/
inductive Role where
  | value
  /-- The next key of an object with the members before. -/
  | key (read : Members)

/-- What may come next. -/
inductive Mode where
  /-- A value. -/
  | value
  /-- A value, or the end of an array. -/
  | firstItem
  /-- A key, or the end of an object. -/
  | firstKey
  /-- A key. -/
  | nextKey (read : Members)
  /-- The colon behind a key. -/
  | colon (read : Members) (key : String)
  /-- The rest of a string; its characters so far, last first. -/
  | text (role : Role) (read : List Char)
  /-- The character behind a backslash. -/
  | escape (role : Role) (read : List Char)
  /-- The four bytes of a code unit, `bytes` of them taken. `high` is the unit before, if that was the first
      half of a pair. -/
  | unit (role : Role) (read : List Char) (high : Option Nat) (taken : List Char) (bytes : Nat)
  /-- The backslash of the second half of a pair. -/
  | pairSlash (role : Role) (read : List Char) (high : Nat)
  /-- The letter of the second half of a pair. -/
  | pairLetter (role : Role) (read : List Char) (high : Nat)
  /-- The rest of a literal. -/
  | word (rest : List Char) (value : Json)
  /-- The rest of a number. -/
  | numeral (n : Numeral)
  /-- What follows a value that is complete. -/
  | done (value : Json)

/-- Where the machine stands. -/
structure State where
  stack : List Frame
  mode : Mode

/-- Before the first character. -/
def start : State := ⟨[], .value⟩

/-- The blanks that may stand between the parts of a value. -/
def isSpace (c : Char) : Bool := c == ' ' || c == '\t' || c == '\n' || c == '\r'

/-- The most arrays and objects that may be open at a time. -/
def maxDepth : Nat := 127

/-- The first character of a value. -/
def openValue (stack : List Frame) (c : Char) : Except ReadFault State :=
  match Numeral.start? c with
  | some n => .ok ⟨stack, .numeral n⟩
  | none =>
    if c = '"' then .ok ⟨stack, .text .value []⟩
    else if c = '[' then
      if stack.length < maxDepth then .ok ⟨.items [] :: stack, .firstItem⟩ else .error .broken
    else if c = '{' then
      if stack.length < maxDepth then .ok ⟨stack, .firstKey⟩ else .error .broken
    else if c = 'n' then .ok ⟨stack, .word ['u', 'l', 'l'] .null⟩
    else if c = 't' then .ok ⟨stack, .word ['r', 'u', 'e'] (.bool true)⟩
    else if c = 'f' then .ok ⟨stack, .word ['a', 'l', 's', 'e'] (.bool false)⟩
    else .error .broken

/-- The character behind a value. -/
def afterValue (stack : List Frame) (v : Json) (c : Char) : Except ReadFault State :=
  if isSpace c then .ok ⟨stack, .done v⟩
  else
    match stack with
    | [] => .error .broken
    | .items read :: rest =>
      if c = ',' then .ok ⟨.items (v :: read) :: rest, .value⟩
      else if c = ']' then .ok ⟨rest, .done (.arr (v :: read).reverse)⟩
      else .error .broken
    | .members read key :: rest =>
      if c = ',' then .ok ⟨rest, .nextKey (Members.insert key v read)⟩
      else if c = '}' then .ok ⟨rest, .done (.obj (Members.insert key v read))⟩
      else .error .broken

/-- The end of a string. -/
def closeText (stack : List Frame) (read : List Char) : Role → State
  | .value => ⟨stack, .done (.str (String.ofList read.reverse))⟩
  | .key members => ⟨stack, .colon members (String.ofList read.reverse)⟩

/-- The character that a backslash and a letter stand for. -/
def unescape? (c : Char) : Option Char :=
  if c = '"' ∨ c = '\\' ∨ c = '/' then some c
  else if c = 'b' then some (Char.ofNat 8)
  else if c = 'f' then some (Char.ofNat 12)
  else if c = 'n' then some '\n'
  else if c = 'r' then some '\r'
  else if c = 't' then some '\t'
  else none

/-- The four bytes of a code unit are there: a character of its own, the first half of a pair, or the second
    half of one. -/
def closeUnit (stack : List Frame) (role : Role) (read : List Char) (high : Option Nat)
    (taken : List Char) : Except ReadFault State :=
  match Text.hexNumber? taken.reverse, high with
  | none, _ => .error .broken
  | some n, none =>
    if 0xD800 ≤ n ∧ n ≤ 0xDBFF then .ok ⟨stack, .pairSlash role read n⟩
    else if 0xDC00 ≤ n ∧ n ≤ 0xDFFF then .error .broken
    else .ok ⟨stack, .text role (Char.ofNat n :: read)⟩
  | some n, some h =>
    if 0xDC00 ≤ n ∧ n ≤ 0xDFFF then
      .ok ⟨stack, .text role (Char.ofNat (0x10000 + (h - 0xD800) * 0x400 + (n - 0xDC00)) :: read)⟩
    else .error .broken

/-- Takes one character. -/
def step (s : State) (c : Char) : Except ReadFault State :=
  match s.mode with
  | .value => if isSpace c then .ok s else openValue s.stack c
  | .firstItem =>
    if isSpace c then .ok s
    else if c = ']' then
      match s.stack with
      | .items _ :: rest => .ok ⟨rest, .done (.arr [])⟩
      | _ => .error .broken
    else openValue s.stack c
  | .firstKey =>
    if isSpace c then .ok s
    else if c = '}' then .ok ⟨s.stack, .done (.obj [])⟩
    else if c = '"' then .ok ⟨s.stack, .text (.key []) []⟩
    else .error .broken
  | .nextKey read =>
    if isSpace c then .ok s
    else if c = '"' then .ok ⟨s.stack, .text (.key read) []⟩
    else .error .broken
  | .colon read key =>
    if isSpace c then .ok s
    else if c = ':' then .ok ⟨.members read key :: s.stack, .value⟩
    else .error .broken
  | .text role read =>
    if c = '"' then .ok (closeText s.stack read role)
    else if c = '\\' then .ok ⟨s.stack, .escape role read⟩
    else if c.toNat < 0x20 then .error .broken
    else .ok ⟨s.stack, .text role (c :: read)⟩
  | .escape role read =>
    if c = 'u' then .ok ⟨s.stack, .unit role read none [] 0⟩
    else
      match unescape? c with
      | some e => .ok ⟨s.stack, .text role (e :: read)⟩
      | none => .error .broken
  | .unit role read high taken bytes =>
    if bytes + c.utf8Size < 4 then
      .ok ⟨s.stack, .unit role read high (c :: taken) (bytes + c.utf8Size)⟩
    else closeUnit s.stack role read high (c :: taken)
  | .pairSlash role read high =>
    if c = '\\' then .ok ⟨s.stack, .pairLetter role read high⟩ else .error .broken
  | .pairLetter role read high =>
    if c = 'u' then .ok ⟨s.stack, .unit role read (some high) [] 0⟩ else .error .broken
  | .word [] v => afterValue s.stack v c
  | .word [e] v => if c = e then .ok ⟨s.stack, .done v⟩ else .error .broken
  | .word (e :: rest) v => if c = e then .ok ⟨s.stack, .word rest v⟩ else .error .broken
  | .numeral n =>
    match n.next c with
    | .more n => .ok ⟨s.stack, .numeral n⟩
    | .wrong => .error .broken
    | .over =>
      match n.value? with
      | some v => afterValue s.stack (.num v) c
      | none => .error .broken
  | .done v => afterValue s.stack v c

/-- The value at the end of the text. -/
def finish (s : State) : Except ReadFault Json :=
  match s.mode with
  | .done v => if s.stack.isEmpty then .ok v else .error .ended
  | .numeral n =>
    if n.isWhole then
      match n.value? with
      | some v => if s.stack.isEmpty then .ok (.num v) else .error .ended
      | none => .error .broken
    else .error .ended
  | _ => .error .ended

/-- The machine after all the characters. -/
def run (s : State) (cs : List Char) : Except ReadFault State := cs.foldlM step s

end Reader

/-- Reads the characters of one value, with blanks around it. -/
def readChars (cs : List Char) : Except ReadFault Json :=
  Reader.run Reader.start cs >>= Reader.finish

/-- Reads the text of one value, with blanks around it. -/
def read (text : String) : Except ReadFault Json := readChars text.toList

example : (read "\x7b\"b\" : [1, -0.5e1, \"\\ud83d\\ude00\"], \"a\":null, \"b\":[]\x7d ").toOption =
    some (.obj [("a", .null), ("b", .arr [])]) := by decide +kernel
example : (read "18446744073709551615").toOption = some (.int 18446744073709551615) := by
  decide +kernel
example : read "\"\\u12\"" = .error .ended := by cbv
example : read "[1,]" = .error .broken := by cbv
example : read "[nul" = .error .ended := by cbv

end LanguageServer.Json
