import LanguageServer.Json.Value

/-! Request ids. An id is a whole number of 64 bits or a string. Ids are compared by their text, so `7` and
    `"7"` are the same request, but an id is written back as it came. A number of another kind is never
    accepted as an id; it is kept only to name a request that is refused. -/

namespace LanguageServer

/-- The id of a request. -/
inductive RequestId where
  | number (value : Int64)
  | name (text : String)
  /-- A number outside the signed range, or a double. -/
  | other (value : Json.Number)
deriving DecidableEq

namespace RequestId

/-- The text by which ids are compared. -/
def text : RequestId → String
  | number n => String.ofList (Json.Number.intText n.toInt)
  | name s => s
  | other n => String.ofList n.text

/-- The id as a JSON value. -/
def toJson : RequestId → Json
  | number n => .int n.toInt
  | name s => .str s
  | other n => .num n

/-- The id that a value is accepted as. -/
def ofJson? : Json → Option RequestId
  | .str s => some (name s)
  | .num n => n.signed?.map fun i => number (Int64.ofInt i)
  | _ => none

/-- The id that a refused request is answered under. -/
def ofRefused? : Json → Option RequestId
  | .num n => some (match n.signed? with | some i => number (Int64.ofInt i) | none => other n)
  | v => ofJson? v

end RequestId

end LanguageServer
