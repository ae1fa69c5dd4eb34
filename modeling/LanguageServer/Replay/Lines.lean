import LanguageServer.Text.Blank

/-! The lines of a recording. A recording is bytes. A line ends with a line feed, and the last need not; it
    has to be UTF-8. The blanks around a line do not count, and a line of blanks is no payload. -/

namespace LanguageServer.Replay

/-- A line of a recording; none if it is not UTF-8. -/
abbrev Line := Option String

/-- The bytes of a line as text. -/
def decode (bytes : List UInt8) : Line := String.fromUTF8? bytes.toByteArray

/-- The bytes of the lines, where `line` has the bytes of the first one before, last first. -/
def splitFrom (line : List UInt8) : List UInt8 → List (List UInt8)
  | [] => if line.isEmpty then [] else [line.reverse]
  | b :: rest => if b = 10 then line.reverse :: splitFrom [] rest else splitFrom (b :: line) rest

/-- The lines of a recording. -/
def lines (bytes : List UInt8) : List Line := (splitFrom [] bytes).map decode

/-- What a line holds: its text without the blanks around it, or nothing if there is no more. -/
def payload? (line : String) : Option String :=
  let text := Text.trim line.toList
  if text.isEmpty then none else some (String.ofList text)

end LanguageServer.Replay
