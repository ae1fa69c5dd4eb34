import LanguageServer.Fault
import LanguageServer.Json.Writer
import LanguageServer.PropertyKind
import LanguageServer.RequestId

/-! Schemas of interfaces, and holding a value against one. A schema is data: the name an interface has in
    messages, and for a record its fields in the order they are written. `Schema.fault?` tells what is wrong
    with a value; it is the only check there is. Every field is looked at, and of several faults the
    earliest in the order of the checks is told. A field that is `late` is checked after all that are
    not. -/

namespace LanguageServer

/-- Whether a field has to be there. -/
inductive Presence where
  | required
  /-- The field may be left out, and is not written then. -/
  | optional
  /-- The field may be left out, which means null, and is always written. -/
  | nullIfAbsent
deriving DecidableEq

mutual

/-- The form of an interface. -/
inductive Schema where
  /-- Any JSON value. -/
  | any
  /-- A string. -/
  | text
  /-- One of some whole numbers, each with a name. -/
  | enumeration (name : String) (values : List (String × Int))
  | requestId
  /-- An object with fields. -/
  | record (name : String) (fields : Fields)
  /-- One form for values of one JSON type, and another form for those of a second type. -/
  | union (name : String) (firstKind : Json.Kind) (first : Schema) (secondKind : Json.Kind)
      (second : Schema)
  /-- An array; without a name of its own it goes by the name of its items. -/
  | list (name : Option String) (item : Schema)
  /-- An item, or an array of items. -/
  | oneOrMany (item : Schema)
  /-- Null, an object that is an item, or an array of items. -/
  | anyNumber (name : String) (item : Schema)
  | nullable (item : Schema)

/-- What a field holds. -/
inductive Slot where
  /-- A plain property. -/
  | plain (kind : PropertyKind)
  /-- Any JSON value. In an optional field, null is the same as no value. -/
  | free
  /-- An interface. -/
  | nested (schema : Schema)
  /-- An array of an interface. -/
  | many (item : Schema)
  /-- An object whose keys are URIs, each with an array of an interface. -/
  | table (item : Schema)

/-- The fields of a record, in the order they are written. -/
inductive Fields where
  | nil
  | cons (key : String) (late : Bool) (presence : Presence) (slot : Slot) (rest : Fields)
  /-- The version of the protocol. -/
  | version (rest : Fields)
  /-- Either a result, which is an object, an array or null, or an error, or neither. -/
  | outcome (result error : String) (form : Schema) (rest : Fields)
  /-- A key that must not be there. -/
  | without (key : String) (rest : Fields)

end

namespace Fields

/-- A field that has to be there. -/
abbrev required (key : String) (slot : Slot) (rest : Fields) : Fields :=
  cons key false .required slot rest

/-- A field that may be left out. -/
abbrev optional (key : String) (slot : Slot) (rest : Fields) : Fields :=
  cons key false .optional slot rest

/-- A field that has to be there, and is checked late. -/
abbrev requiredLate (key : String) (slot : Slot) (rest : Fields) : Fields :=
  cons key true .required slot rest

/-- A field that may be left out, and is checked late. -/
abbrev optionalLate (key : String) (slot : Slot) (rest : Fields) : Fields :=
  cons key true .optional slot rest

end Fields

/-- The key of the protocol version. -/
def versionKey : String := "jsonrpc"

/-- The version of the protocol. -/
def versionText : String := "2.0"

/-- What is wrong with the protocol version among the members of a message. -/
def versionFault? (members : Json.Members) : Option Fault :=
  match members.get? versionKey with
  | some (.str found) => if found = versionText then none else some (.unsupportedVersion found)
  | some other => some (.unsupportedVersion (String.ofList (Json.compactChars other)))
  | none => some (.unsupportedVersion "<missing>")

/-- The whole number in a value, if it fits 64 bits with a sign. -/
def Json.signed? : Json → Option Int
  | .num n => n.signed?
  | _ => none

/-- Of several faults, each marked when it is late, the first that is not late, or else the first. -/
def earliest (faults : List (Bool × Fault)) : Option Fault :=
  match faults.find? (fun f => !f.1) with
  | some f => some f.2
  | none => faults.head?.map (·.2)

/-- The name that an interface has in messages. -/
def Schema.name : Schema → String
  | .any => "LSPAny"
  | .text => "string"
  | .enumeration name _ => name
  | .requestId => "RequestId"
  | .record name _ => name
  | .union name _ _ _ _ => name
  | .list name item => name.getD item.name
  | .oneOrMany item => item.name
  | .anyNumber name _ => name
  | .nullable item => item.name

mutual

/-- What is wrong with a value that should have the form of an interface. -/
def Schema.fault? : Schema → Json → Option Fault
  | .any, _ => none
  | .text, v =>
    match v with
    | .str _ => none
    | _ => some (.invalid "string" (.wrongType ["string"]))
  | .enumeration name values, v =>
    match v.signed? with
    | some n =>
      if values.any (·.2 = n) then none else some (.invalid name (.notOneOf (values.map (·.1))))
    | none => some (.invalid name (.notOneOf (values.map (·.1))))
  | .requestId, v =>
    if (RequestId.ofJson? v).isSome then none
    else some (.invalid "RequestId" (.wrongType ["string", "integer"]))
  | .record name fields, v =>
    match v with
    | .obj members => earliest (fields.faults name members)
    | _ => some (.invalid name (.wrongType ["object"]))
  | .union name firstKind first secondKind second, v =>
    if v.kind = firstKind then first.fault? v
    else if v.kind = secondKind then second.fault? v
    else some (.invalid name (.wrongType [firstKind.name, secondKind.name]))
  | .list name item, v =>
    match v with
    | .arr items => items.findSome? item.fault?
    | _ => some (.invalid (name.getD item.name) (.wrongType ["array"]))
  | .oneOrMany item, v =>
    match v with
    | .arr items => items.findSome? item.fault?
    | v => item.fault? v
  | .anyNumber name item, v =>
    match v with
    | .null => none
    | .arr items => items.findSome? item.fault?
    | .obj members => item.fault? (.obj members)
    | _ => some (.invalid name (.wrongType ["object", "array", "null"]))
  | .nullable item, v =>
    match v with
    | .null => none
    | v => item.fault? v

/-- What is wrong with the value of a field, and whether that is found late. `owner` is the name of the
    record. -/
def Slot.fault? (owner key : String) : Slot → Json → Option (Bool × Fault)
  | .plain kind, v =>
    if kind.accepts v then none
    else some (false, .invalid owner (.wrongProperty key [kind.text]))
  | .free, _ => none
  | .nested schema, v => (schema.fault? v).map (false, ·)
  | .many item, v =>
    match v with
    | .arr items => (items.findSome? item.fault?).map (false, ·)
    | _ => some (false, .invalid owner (.wrongProperty key ["array of " ++ item.name]))
  | .table item, v =>
    match v with
    | .obj members =>
      (members.findSome? fun m =>
        if Uri.isUri m.1 then
          match m.2 with
          | .arr items => items.findSome? item.fault?
          | _ => some (.invalid owner (.wrongType ["array"]))
        else some (.invalid owner (.badUri m.1 key))).map (true, ·)
    | _ => some (false, .invalid owner (.wrongProperty key [PropertyKind.object.text]))

/-- What is wrong with the fields of a record, in the order they are written, each fault marked when it is
    found late. -/
def Fields.faults (owner : String) : Fields → Json.Members → List (Bool × Fault)
  | .nil, _ => []
  | .cons key late presence slot rest, members =>
    (match members.get? key with
      | some v => ((slot.fault? owner key v).map fun f => (late || f.1, f.2)).toList
      | none =>
        if presence = .required then [(late, .invalid owner (.missing key))] else []) ++
      rest.faults owner members
  | .version rest, members =>
    ((versionFault? members).map (false, ·)).toList ++ rest.faults owner members
  | .outcome result error form rest, members =>
    (((members.get? error).bind form.fault?).map (false, ·)).toList ++
      (match members.get? result with
        | none | some .null | some (.arr _) | some (.obj _) => []
        | some _ => [(true, .invalid owner (.wrongProperty result ["object", "array", "null"]))]) ++
      (if members.has result && members.has error then
        [(true, .invalid owner (.exclusive result error))] else []) ++
      rest.faults owner members
  | .without key rest, members =>
    (if members.has key then [(false, .invalid owner (.unexpected key))] else []) ++
      rest.faults owner members

end

/-- The value has the form of the interface. -/
def Schema.accepts (s : Schema) (v : Json) : Bool := (s.fault? v).isNone

end LanguageServer
