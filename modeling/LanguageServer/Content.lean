import LanguageServer.Schema.Codec
import LanguageServer.Schema.WellFormed

/-! Typed contents: types whose values are the values of a schema. A `Content` type and the values of its
    schema are two forms of the same data: `pack` and `unpack` undo each other. So reading, writing and
    checking are those of the schema, and what holds of every schema holds of every `Content` type. The
    instance of a record takes the tuple apart by the names of the fields; in `pack_unpack` it is enough to
    take off the first pair, and `simp` goes through the rest. -/

namespace LanguageServer

/-- A type whose values are the values of a well-formed schema. -/
class Content (α : Type) where
  schema : Schema
  wellFormed : schema.isWellFormed = true := by decide
  pack : α → schema.Value
  unpack : schema.Value → α
  unpack_pack : ∀ x, unpack (pack x) = x
  pack_unpack : ∀ x, pack (unpack x) = x

namespace Content

attribute [simp] unpack_pack pack_unpack

/-- Several values packed. -/
def packMany {α : Type} [Content α] (xs : List α) : List (schema α).Value := xs.map pack

/-- Several values unpacked. -/
def unpackMany {α : Type} [Content α] (xs : List (schema α).Value) : List α := xs.map unpack

/-- A value packed, if there is one. -/
def packSome {α : Type} [Content α] (x : Option α) : Option (schema α).Value := x.map pack

/-- A value unpacked, if there is one. -/
def unpackSome {α : Type} [Content α] (x : Option (schema α).Value) : Option α := x.map unpack

@[simp]
theorem unpackMany_packMany {α : Type} [Content α] (xs : List α) :
    unpackMany (packMany xs) = xs := by
  induction xs with
  | nil => rfl
  | cons x xs ih => exact congr (congrArg List.cons (unpack_pack x)) ih

@[simp]
theorem packMany_unpackMany {α : Type} [Content α] (xs : List (schema α).Value) :
    packMany (unpackMany (α := α) xs) = xs := by
  induction xs with
  | nil => rfl
  | cons x xs ih => exact congr (congrArg List.cons (pack_unpack x)) ih

@[simp]
theorem unpackSome_packSome {α : Type} [Content α] (x : Option α) :
    unpackSome (packSome x) = x := by
  cases x with
  | none => rfl
  | some x => exact congrArg some (unpack_pack x)

@[simp]
theorem packSome_unpackSome {α : Type} [Content α] (x : Option (schema α).Value) :
    packSome (unpackSome (α := α) x) = x := by
  cases x with
  | none => rfl
  | some x => exact congrArg some (pack_unpack x)

/-- The name of the interface in messages. -/
def name (α : Type) [Content α] : String := (schema α).name

/-- What is wrong with a value that should have the form of the interface. -/
def fault? (α : Type) [Content α] (v : Json) : Option Fault := (schema α).fault? v

/-- Reads a value of the interface. -/
def read (α : Type) [Content α] (v : Json) : Except Fault α := ((schema α).read v).map unpack

/-- Reads a text as a value of the interface. -/
def readText (α : Type) [Content α] (text : String) : Except Fault α :=
  match Json.read text with
  | .error fault => .error (.malformed fault)
  | .ok v => read α v

/-- Writes a value with the fields of records in the order of the schema. -/
def write {α : Type} [Content α] (x : α) : Json := (schema α).encode (pack x)

/-- The value as JSON, with the members of objects in the order of their keys. -/
def toJson {α : Type} [Content α] (x : α) : Json := (write x).sorted

instance : Content Json where
  schema := .any
  pack v := v
  unpack v := v
  unpack_pack _ := rfl
  pack_unpack _ := rfl

instance {α : Type} [Content α] : Content (List α) where
  schema := .list none (schema α)
  wellFormed := wellFormed (α := α)
  pack := packMany
  unpack := unpackMany
  unpack_pack := unpackMany_packMany
  pack_unpack := packMany_unpackMany

instance {α : Type} [Content α] : Content (Option α) where
  schema := .nullable (schema α)
  wellFormed := wellFormed (α := α)
  pack := packSome
  unpack := unpackSome
  unpack_pack := unpackSome_packSome
  pack_unpack := packSome_unpackSome

instance : Content RequestId where
  schema := .requestId
  pack id := id
  unpack id := id
  unpack_pack _ := rfl
  pack_unpack _ := rfl

end Content

end LanguageServer
