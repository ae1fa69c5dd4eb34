import LanguageServer.Schema

/-! Schemas that a reader can follow. A reader has to tell the forms of a union apart by the JSON type of
    the value, an item from an array of items, and a field that is null from one that is left out. A schema
    is well-formed when it leaves no such doubt and no two fields of a record share a key. Every `Content`
    type has a well-formed schema. -/

namespace LanguageServer

/-- The JSON types of the values of an interface. -/
def Schema.kinds : Schema → List Json.Kind
  | .any => [.null, .boolean, .number, .string, .array, .object]
  | .text => [.string]
  | .enumeration _ _ => [.number]
  | .requestId => [.number, .string]
  | .record _ _ => [.object]
  | .union _ _ first _ second => first.kinds ++ second.kinds
  | .list _ _ => [.array]
  | .oneOrMany item => .array :: item.kinds
  | .anyNumber _ item => .null :: .array :: item.kinds
  | .nullable item => .null :: item.kinds

/-- Null is a value of the slot. -/
def Slot.takesNull : Slot → Bool
  | .plain kind => kind.accepts .null
  | .free => true
  | .nested schema => schema.kinds.contains .null
  | .many _ => false
  | .table _ => false

/-- The slot can stand in a field of the presence: if null stands for no value, null is a value, and if a
    value can be left out, null is none, unless the slot drops it. -/
def Presence.suits : Presence → Slot → Bool
  | .required, _ => true
  | .optional, .free => true
  | .optional, slot => !slot.takesNull
  | .nullIfAbsent, .plain kind => kind.accepts .null
  | .nullIfAbsent, _ => false

/-- The keys that the fields speak of. -/
def Fields.keys : Fields → List String
  | .nil => []
  | .cons key _ _ _ rest => key :: rest.keys
  | .version rest => versionKey :: rest.keys
  | .outcome result error _ rest => result :: error :: rest.keys
  | .without key rest => key :: rest.keys

mutual

/-- The schema leaves no doubt how a value is to be read. -/
def Schema.isWellFormed : Schema → Bool
  | .any => true
  | .text => true
  | .enumeration _ values => values.all fun x => (Json.Number.int x.2).signed?.isSome
  | .requestId => true
  | .record _ fields => decide fields.keys.Nodup && fields.isWellFormed
  | .union _ firstKind first secondKind second =>
    decide (first.kinds = [firstKind] ∧ second.kinds = [secondKind] ∧ firstKind ≠ secondKind) &&
      first.isWellFormed && second.isWellFormed
  | .list _ item => item.isWellFormed
  | .oneOrMany item => !item.kinds.contains .array && item.isWellFormed
  | .anyNumber _ item => decide (item.kinds = [.object]) && item.isWellFormed
  | .nullable item => item.isWellFormed

/-- The interfaces in the slot are well-formed. -/
def Slot.isWellFormed : Slot → Bool
  | .plain _ => true
  | .free => true
  | .nested schema => schema.isWellFormed
  | .many item => item.isWellFormed
  | .table item => item.isWellFormed

/-- The interfaces in the fields are well-formed, and every slot suits the presence of its field. -/
def Fields.isWellFormed : Fields → Bool
  | .nil => true
  | .cons _ _ presence slot rest => presence.suits slot && slot.isWellFormed && rest.isWellFormed
  | .version rest => rest.isWellFormed
  | .outcome _ _ form rest => form.isWellFormed && rest.isWellFormed
  | .without _ rest => rest.isWellFormed

end

end LanguageServer
