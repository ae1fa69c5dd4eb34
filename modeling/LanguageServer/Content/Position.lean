import LanguageServer.Content

/-! Positions, ranges and locations in text documents. Positions are ordered by line, then by character. A
    range holds its start and not its end. -/

namespace LanguageServer

open Content

/-- A line of a document and an offset in it, both from zero on. -/
structure Position where
  line : UInt32
  character : UInt32
deriving DecidableEq

/-- The form of `Position`. -/
def Position.schema : Schema :=
  .record "Position" <|
    .required "line" (.plain .unsigned) <|
    .required "character" (.plain .unsigned) <|
    .nil

instance : Content Position where
  schema := Position.schema
  pack x := (x.line, x.character, ())
  unpack := fun (line, character, _) => { line, character }
  unpack_pack _ := rfl
  pack_unpack _ := rfl

namespace Position

/-- The order of positions: by line, then by character. -/
def compare (a b : Position) : Ordering :=
  (Ord.compare a.line b.line).then (Ord.compare a.character b.character)

/-- The first position is before the second or the same. -/
def isLE (a b : Position) : Bool := (compare a b).isLE

/-- The first position is before the second. -/
def isLT (a b : Position) : Bool := (compare a b).isLT

end Position

/-- The part of a document from one position up to another. -/
structure Range where
  start : Position
  stop : Position
deriving DecidableEq

/-- The form of `Range`. -/
def Range.schema : Schema :=
  .record "Range" <|
    .required "start" (.nested Position.schema) <|
    .required "end" (.nested Position.schema) <|
    .nil

instance : Content Range where
  schema := Range.schema
  pack x := (pack x.start, pack x.stop, ())
  unpack := fun (start, stop, _) => { start := unpack start, stop := unpack stop }
  unpack_pack _ := rfl
  pack_unpack _ := rfl

namespace Range

/-- The range that starts and ends at a position. -/
def point (p : Position) : Range := ⟨p, p⟩

/-- The range ends where it starts. -/
def isEmpty (r : Range) : Bool := decide (r.start = r.stop)

/-- The position is in the range. -/
def contains (r : Range) (p : Position) : Bool := r.start.isLE p && p.isLT r.stop

end Range

/-- A range of a document. -/
structure Location where
  uri : Uri
  range : Range
deriving DecidableEq

/-- The form of `Location`. -/
def Location.schema : Schema :=
  .record "Location" <|
    .required "uri" (.plain .uri) <|
    .required "range" (.nested Range.schema) <|
    .nil

instance : Content Location where
  schema := Location.schema
  pack x := (x.uri, pack x.range, ())
  unpack := fun (uri, range, _) => { uri, range := unpack range }
  unpack_pack _ := rfl
  pack_unpack _ := rfl

end LanguageServer
