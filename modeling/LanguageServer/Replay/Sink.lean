/-! Where a replay writes to. A sink takes bytes as long as it has room. A text that does not fit is taken
    as far as there is room. -/

namespace LanguageServer.Replay

/-- What was written, and how many bytes there is room for; no number means that all fit. -/
structure Sink where
  written : ByteArray := .empty
  room : Option Nat := none

namespace Sink

/-- Writes a text, and tells whether all of it fits. -/
def write (s : Sink) (text : String) : Bool × Sink :=
  let bytes := text.toUTF8
  match s.room with
  | none => (true, { s with written := s.written ++ bytes })
  | some room =>
    if bytes.size ≤ room then
      (true, { written := s.written ++ bytes, room := some (room - bytes.size) })
    else (false, { written := s.written ++ bytes.extract 0 room, room := some 0 })

end Sink

end LanguageServer.Replay
