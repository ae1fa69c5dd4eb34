import LanguageServer.Log.Event
import LanguageServer.Log.Pattern
import LanguageServer.Text.Blank
import LanguageServer.Text.Slice

/-! Directives of a filter. A directive is a level, or the start of the name of a part of the program, with
    a level behind an equals sign or without one. Brackets behind the start of the name hold the name of a
    span of events and, in braces, a field. The program has no spans, and it tells no filter the value of a
    field: a directive with either concerns no event. -/

namespace LanguageServer.Log

/-- From which level on which events are logged. -/
structure Directive where
  /-- The start of the name of the events' part; none for every part. -/
  part : Option (List Char) := none
  /-- The span of the events; none for every event. -/
  span : Option (List Char) := none
  /-- A field of the events, and whether its value counts; none for every event. -/
  field : Option (List Char × Bool) := none
  /-- The lowest level that is logged; none if nothing is. -/
  level : Option Level := some .trace
deriving DecidableEq

namespace Directive

/-! ### Which events it concerns -/

/-- How much a directive says about the events it concerns. -/
def weight (d : Directive) : Nat × Nat :=
  ((d.part.map fun part => Text.byteLength part + 1).getD 0, if d.field.isSome then 1 else 0)

/-- The name of a directive's field. -/
def fieldName (d : Directive) : String := String.ofList ((d.field.map (·.1)).getD [])

/-- The second of two directives decides about the events that both concern: it says more about them, or as
    much with a field that is not before the other's. -/
def yields (d other : Directive) : Bool :=
  if d.weight = other.weight then !decide (other.fieldName < d.fieldName)
  else decide (d.weight.1 < other.weight.1 ∨
    d.weight.1 = other.weight.1 ∧ d.weight.2 < other.weight.2)

/-- The event has the directive's field, and the field's value does not count. -/
def fieldConcerns (d : Directive) (e : Event) : Bool :=
  match d.field with
  | none => true
  | some (_, hasValue) => !hasValue && e.fieldNames.contains d.fieldName

/-- The directive concerns an event. -/
def concerns (d : Directive) (e : Event) : Bool :=
  d.span.isNone && (d.part.map (·.isPrefixOf e.part.toList)).getD true && d.fieldConcerns e

/-- The directive has an event logged. -/
def admits (d : Directive) (e : Event) : Bool :=
  (d.level.map fun l => decide (l.rank ≤ e.level.rank)).getD false

/-! ### Its text -/

/-- Why a text is no directive. -/
inductive Misread where
  /-- The text has not the form of a directive. -/
  | malformed
  /-- The text would have to be cut inside a character. -/
  | torn
deriving DecidableEq

/-- A number in decimal digits, with or without a plus sign. -/
def number? (cs : List Char) : Option Nat :=
  let digits := match cs with | '+' :: rest => rest | _ => cs
  if digits.isEmpty || digits.any (!·.isDigit) then none
  else some (Nat.ofDigitChars 10 digits 0)

/-- A level by its number or by its name, in small or capital letters. -/
def level? (cs : List Char) : Option (Option Level) :=
  match number? cs with
  | some 0 => some none
  | some 1 => some (some .error)
  | some 2 => some (some .warn)
  | some 3 => some (some .info)
  | some 4 => some (some .debug)
  | some 5 => some (some .trace)
  | _ =>
    match String.ofList (cs.map Char.toLower) with
    | "off" => some none
    | "error" => some (some .error)
    | "warn" => some (some .warn)
    | "info" => some (some .info)
    | "debug" => some (some .debug)
    | "trace" => some (some .trace)
    | _ => none

/-- A field by its text: a name, and a pattern behind an equals sign if its value counts. -/
def field? (cs : List Char) : Except Misread (List Char × Bool) :=
  match cs, cs.dropWhile (· ≠ '=') with
  | [], _ => .error .malformed
  | _, [] => .ok (cs, false)
  | _, _ :: value =>
    if Pattern.isPattern (value.takeWhile (· ≠ '=')) then .ok (cs.takeWhile (· ≠ '='), true)
    else .error .malformed

/-- What is read of a directive at a place of its text. -/
inductive Reading where
  | start
  /-- The start of a part's name, or a level. -/
  | name
  /-- A span, from this place on. -/
  | span (start : Nat)
  /-- A field, from this place on. -/
  | field (start : Nat)
  /-- What is behind a field. -/
  | behindField
  /-- What is behind the brackets. -/
  | behindBrackets
  /-- A level, from this place on. -/
  | level (start : Nat)
deriving DecidableEq

/-- The characters of a text between two places. -/
def cut (text : List Char) (start stop : Nat) : Except Misread (List Char) :=
  match Text.slice? start stop text with
  | some cs => .ok cs
  | none => .error .torn

/-- A character that a directive can start with, brackets apart. -/
def isStart (c : Char) : Bool := c == '-' || c == ':' || c == '_' || Text.isAlphanumeric c

/-- Reads one character at a place. -/
def step (text : List Char) (d : Directive) (place : Nat) (c : Char) :
    Reading → Except Misread (Reading × Directive)
  | .start =>
    if c = '[' then .ok (.span (place + 1), d)
    else if isStart c then .ok (.name, d)
    else .error .malformed
  | .name =>
    if c = '=' then do return (.level (place + 1), { d with part := ← cut text 0 place })
    else if c = '[' then do return (.span (place + 1), { d with part := ← cut text 0 place })
    else .ok (.name, d)
  | .span start =>
    if c = ']' then do return (.behindBrackets, { d with span := ← cut text start place })
    else if c = '{' then do
      let span ← cut text start place
      return (.field (place + 1), { d with span := if span.isEmpty then none else some span })
    else .ok (.span start, d)
  | .field start =>
    if c = '}' then do
      return (.behindField, { d with field := ← field? (← cut text start place) })
    else .ok (.field start, d)
  | .behindField => if c = ']' then .ok (.behindBrackets, d) else .error .malformed
  | .behindBrackets => if c = '=' then .ok (.level (place + 1), d) else .error .malformed
  | .level start => .ok (.level start, d)

/-- What the end of the text makes of what was read. -/
def finish (text : List Char) (d : Directive) : Reading → Except Misread Directive
  | .name =>
    match level? text with
    | some level => .ok { level }
    | none => .ok { part := text }
  | .level start =>
    match Text.dropBytes? start text with
    | none => .error .torn
    | some [] => .ok d
    | some cs =>
      match level? cs with
      | some level => .ok { d with level }
      | none => .error .malformed
  | .behindBrackets => .ok d
  | _ => .error .malformed

/-- Reads what is left of a text from a place on. -/
def readFrom (text : List Char) (d : Directive) (r : Reading) (place : Nat) :
    List Char → Except Misread Directive
  | [] => finish text d r
  | c :: cs => do
    let (r, d) ← step text d place c r
    readFrom text d r (place + c.utf8Size) cs

/-- A directive by its text. The places are those in the text without the blanks around it, but what stands
    there is cut from the text with them, so that blanks at the start push every cut forward. -/
def ofText (text : List Char) : Except Misread Directive :=
  readFrom text {} .start 0 (Text.trim text)

end Directive

end LanguageServer.Log
