import LanguageServer.Json.Value
import LanguageServer.Uri

/-! The kinds of plain properties: what a property may hold that is no interface of its own, and the type of
    its values. -/

namespace LanguageServer

/-- A whole number or a string. -/
inductive Code where
  | number (value : Int64)
  | name (text : String)
deriving DecidableEq

namespace Code

/-- The text of a code. -/
def text : Code → String
  | number n => toString n.toInt
  | name s => s

/-- The code is a number. -/
def isNumber : Code → Bool
  | number _ => true
  | name _ => false

end Code

/-- What a plain property may hold. -/
inductive PropertyKind where
  | object
  | array
  | string
  | number
  /-- A whole number of 32 bits with a sign. -/
  | integer
  /-- A whole number of 32 bits without a sign. -/
  | unsigned
  | boolean
  /-- A string, or a whole number of 64 bits with a sign. -/
  | stringOrInteger
  | unsignedOrNull
  | arrayOfString
  | uri
  | uriOrNull
deriving DecidableEq

namespace PropertyKind

/-- Every kind. -/
def all : List PropertyKind :=
  [object, array, string, number, integer, unsigned, boolean, stringOrInteger, unsignedOrNull,
    arrayOfString, uri, uriOrNull]

/-- The name of a kind in messages. -/
def text : PropertyKind → String
  | object => "object"
  | array => "array"
  | string => "string"
  | number => "number"
  | integer => "integer"
  | unsigned => "unsigned integer"
  | boolean => "boolean"
  | stringOrInteger => "string or integer"
  | unsignedOrNull => "unsigned integer or null"
  | arrayOfString => "array of string"
  | uri => "URI"
  | uriOrNull => "URI or null"

/-- The values of a kind. Objects stay free JSON. -/
@[reducible]
def Value : PropertyKind → Type
  | object => Json
  | array => List Json
  | string => String
  | number => Json.Number
  | integer => Int32
  | unsigned => UInt32
  | boolean => Bool
  | stringOrInteger => Code
  | unsignedOrNull => Option UInt32
  | arrayOfString => List String
  | uri => Uri
  | uriOrNull => Option Uri

/-- A whole number that fits 32 bits with a sign. -/
def integer? (n : Json.Number) : Option Int32 :=
  n.signed?.bind fun i =>
    if -0x80000000 ≤ i ∧ i ≤ 0x7FFFFFFF then some (Int32.ofInt i) else none

/-- A whole number that fits 32 bits without a sign. -/
def unsigned? (n : Json.Number) : Option UInt32 :=
  n.unsigned?.bind fun i => if i ≤ 0xFFFFFFFF then some (UInt32.ofNat i) else none

/-- The value has the kind. -/
def accepts : PropertyKind → Json → Bool
  | object, .obj _ => true
  | array, .arr _ => true
  | string, .str _ => true
  | number, .num _ => true
  | integer, .num n => (integer? n).isSome
  | unsigned, .num n => (unsigned? n).isSome
  | boolean, .bool _ => true
  | stringOrInteger, .str _ => true
  | stringOrInteger, .num n => n.signed?.isSome
  | unsignedOrNull, .null => true
  | unsignedOrNull, .num n => (unsigned? n).isSome
  | arrayOfString, .arr items => items.all (·.kind = .string)
  | uri, .str s => Uri.isUri s
  | uriOrNull, .null => true
  | uriOrNull, .str s => Uri.isUri s
  | _, _ => false

/-- The string in a value. -/
def string? : Json → Option String
  | .str s => some s
  | _ => none

/-- Reads a value of the kind. -/
def decode? : (k : PropertyKind) → Json → Option k.Value
  | object, .obj members => some (.obj members)
  | array, .arr items => some items
  | string, .str s => some s
  | number, .num n => some n
  | integer, .num n => integer? n
  | unsigned, .num n => unsigned? n
  | boolean, .bool b => some b
  | stringOrInteger, .str s => some (Code.name s)
  | stringOrInteger, .num n => n.signed?.map fun i => Code.number (Int64.ofInt i)
  | unsignedOrNull, .null => some (none : Option UInt32)
  | unsignedOrNull, .num n => (unsigned? n).map some
  | arrayOfString, .arr items => items.mapM string?
  | uri, .str s => (Uri.parse s).toOption
  | uriOrNull, .null => some (none : Option Uri)
  | uriOrNull, .str s => (Uri.parse s).toOption.map some
  | _, _ => none

/-- Writes a value of the kind. -/
def encode : (k : PropertyKind) → k.Value → Json
  | object, v => v
  | array, items => .arr items
  | string, s => .str s
  | number, n => .num n
  | integer, n => .int n.toInt
  | unsigned, n => .int n.toNat
  | boolean, b => .bool b
  | stringOrInteger, .number n => .int n.toInt
  | stringOrInteger, .name s => .str s
  | unsignedOrNull, none => .null
  | unsignedOrNull, some n => .int n.toNat
  | arrayOfString, items => .arr (items.map .str)
  | uri, u => .str u.text
  | uriOrNull, none => .null
  | uriOrNull, some u => .str u.text

end PropertyKind

end LanguageServer
