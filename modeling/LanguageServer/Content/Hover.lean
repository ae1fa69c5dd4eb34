import LanguageServer.Content.Position

/-! Answers to hover and definition requests. Both have several written forms, and are always written as a
    list: the contents of a hover are one marked string or an array of them, a definition is null, one
    location or an array of them. -/

namespace LanguageServer

open Content

/-- A piece of code in a language. -/
structure CodeBlock where
  language : String
  value : String
deriving DecidableEq

/-- The form of `CodeBlock`. -/
def CodeBlock.schema : Schema :=
  .record "MarkedString" <|
    .required "language" (.plain .string) <|
    .required "value" (.plain .string) <|
    .nil

instance : Content CodeBlock where
  schema := CodeBlock.schema
  pack x := (x.language, x.value, ())
  unpack := fun (language, value, _) => { language, value }
  unpack_pack _ := rfl
  pack_unpack _ := rfl

/-- A text to show: markdown, or a piece of code. -/
inductive MarkedString where
  | markdown (text : String)
  | code (block : CodeBlock)
deriving DecidableEq

namespace MarkedString

/-- The form of `MarkedString`. -/
def schema : Schema := .union "MarkedString" .string .text .object CodeBlock.schema

/-- The text itself. -/
def value : MarkedString → String
  | markdown text => text
  | code block => block.value

end MarkedString

instance : Content MarkedString where
  schema := MarkedString.schema
  pack x :=
    match x with
    | .markdown text => .inl text
    | .code block => .inr (pack block)
  unpack v :=
    match v with
    | .inl text => .markdown text
    | .inr block => .code (unpack block)
  unpack_pack x := by cases x <;> rfl
  pack_unpack v :=
    match v with
    | .inl _ => rfl
    | .inr _ => rfl

/-- What is shown at a position. The range is checked before the contents. -/
structure HoverResult where
  contents : List MarkedString
  range : Option Range := none
deriving DecidableEq

/-- The form of `HoverResult`. -/
def HoverResult.schema : Schema :=
  .record "HoverResult" <|
    .requiredLate "contents" (.nested (.oneOrMany MarkedString.schema)) <|
    .optional "range" (.nested Range.schema) <|
    .nil

instance : Content HoverResult where
  schema := HoverResult.schema
  pack x := (packMany x.contents, packSome x.range, ())
  unpack := fun (contents, range, _) =>
    { contents := unpackMany contents, range := unpackSome range }
  unpack_pack _ := by simp
  pack_unpack := fun (_, _) => by simp; rfl

/-- The places where something is defined. -/
structure DefinitionResult where
  locations : List Location
deriving DecidableEq

namespace DefinitionResult

/-- The form of `DefinitionResult`. -/
def schema : Schema := .anyNumber "DefinitionResult" Location.schema

/-- Nothing is defined anywhere. -/
def isEmpty (d : DefinitionResult) : Bool := d.locations.isEmpty

end DefinitionResult

instance : Content DefinitionResult where
  schema := DefinitionResult.schema
  pack x := packMany x.locations
  unpack v := ⟨unpackMany v⟩
  unpack_pack _ := by simp
  pack_unpack _ := packMany_unpackMany _

end LanguageServer
