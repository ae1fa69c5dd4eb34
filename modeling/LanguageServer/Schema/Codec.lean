import LanguageServer.Schema

/-! The values of an interface, read off its schema, and going between them and JSON. A record's value is
    the tuple of its fields. `Schema.decode?` looks at the types alone and tells no fault; `Schema.read`
    holds a value against the schema first, so the fault it tells is the one that `Schema.fault?` tells.
    `Schema.encode` writes the fields of a record in the order of the schema. -/

namespace LanguageServer

mutual

/-- The values of an interface. -/
@[reducible]
def Schema.Value : Schema → Type
  | .any => Json
  | .text => String
  | .enumeration _ values => Fin values.length
  | .requestId => RequestId
  | .record _ fields => fields.Value
  | .union _ _ first _ second => first.Value ⊕ second.Value
  | .list _ item => List item.Value
  | .oneOrMany item => List item.Value
  | .anyNumber _ item => List item.Value
  | .nullable item => Option item.Value

/-- The values of a slot. -/
@[reducible]
def Slot.Value : Slot → Type
  | .plain kind => kind.Value
  | .free => Json
  | .nested schema => schema.Value
  | .many item => List item.Value
  | .table item => List (String × List item.Value)

/-- The values of a record's fields. -/
@[reducible]
def Fields.Value : Fields → Type
  | .nil => Unit
  | .cons _ _ .required slot rest => slot.Value × rest.Value
  | .cons _ _ .optional slot rest => Option slot.Value × rest.Value
  | .cons _ _ .nullIfAbsent slot rest => slot.Value × rest.Value
  | .version rest => rest.Value
  | .outcome _ _ form rest => Option (Json ⊕ form.Value) × rest.Value
  | .without _ rest => rest.Value

end

/-- Null in an optional field that holds any JSON value means that there is no value. -/
def Slot.dropsNull : Slot → Json → Bool
  | .free, .null => true
  | _, _ => false

mutual

/-- Reads a value of the interface. -/
def Schema.decode? : (s : Schema) → Json → Option s.Value
  | .any, v => some v
  | .text, v =>
    match v with
    | .str s => some s
    | _ => none
  | .enumeration _ values, v =>
    v.signed?.bind fun n => values.findFinIdx? (·.2 = n)
  | .requestId, v => RequestId.ofJson? v
  | .record _ fields, v =>
    match v with
    | .obj members => fields.decode? members
    | _ => none
  | .union _ firstKind first secondKind second, v =>
    if v.kind = firstKind then (first.decode? v).map .inl
    else if v.kind = secondKind then (second.decode? v).map .inr
    else none
  | .list _ item, v =>
    match v with
    | .arr items => items.mapM item.decode?
    | _ => none
  | .oneOrMany item, v =>
    match v with
    | .arr items => items.mapM item.decode?
    | v => (item.decode? v).map ([·])
  | .anyNumber _ item, v =>
    match v with
    | .null => some []
    | .arr items => items.mapM item.decode?
    | v => (item.decode? v).map ([·])
  | .nullable item, v =>
    match v with
    | .null => some none
    | v => (item.decode? v).map some

/-- Reads the value of a slot. -/
def Slot.decode? : (s : Slot) → Json → Option s.Value
  | .plain kind, v => kind.decode? v
  | .free, v => some v
  | .nested schema, v => schema.decode? v
  | .many item, v =>
    match v with
    | .arr items => items.mapM item.decode?
    | _ => none
  | .table item, v =>
    match v with
    | .obj members =>
      members.mapM fun m =>
        match m.2 with
        | .arr items => (items.mapM item.decode?).map (m.1, ·)
        | _ => none
    | _ => none

/-- Reads the values of a record's fields. -/
def Fields.decode? : (fs : Fields) → Json.Members → Option fs.Value
  | .nil, _ => some ()
  | .cons key _ .required slot rest, members => do
    let v ← members.get? key
    return (← slot.decode? v, ← rest.decode? members)
  | .cons key _ .optional slot rest, members => do
    let first ←
      match members.get? key with
      | none => some none
      | some v => if slot.dropsNull v then some none else (slot.decode? v).map some
    return (first, ← rest.decode? members)
  | .cons key _ .nullIfAbsent slot rest, members => do
    let v := (members.get? key).getD .null
    return (← slot.decode? v, ← rest.decode? members)
  | .version rest, members => rest.decode? members
  | .outcome result error form rest, members => do
    let first ←
      match members.get? result, members.get? error with
      | none, none => some none
      | some v, _ => some (some (.inl v))
      | none, some v => (form.decode? v).map fun e => some (.inr e)
    return (first, ← rest.decode? members)
  | .without _ rest, members => rest.decode? members

end

mutual

/-- Writes a value of the interface, the fields of records in the order of the schema. -/
def Schema.encode : (s : Schema) → s.Value → Json
  | .any, v => v
  | .text, s => .str s
  | .enumeration _ values, i => .int (values.get i).2
  | .requestId, id => id.toJson
  | .record _ fields, x => .obj (fields.encode x)
  | .union _ _ first _ second, x =>
    match x with
    | .inl x => first.encode x
    | .inr x => second.encode x
  | .list _ item, xs => .arr (List.map item.encode xs)
  | .oneOrMany item, xs => .arr (List.map item.encode xs)
  | .anyNumber _ item, xs => .arr (List.map item.encode xs)
  | .nullable item, x =>
    match x with
    | none => .null
    | some x => item.encode x

/-- Writes the value of a slot. -/
def Slot.encode : (s : Slot) → s.Value → Json
  | .plain kind, x => kind.encode x
  | .free, v => v
  | .nested schema, x => schema.encode x
  | .many item, xs => .arr (List.map item.encode xs)
  | .table item, rows =>
    .obj (List.map (fun row => (row.1, .arr (List.map item.encode row.2))) rows)

/-- Writes the values of a record's fields as members. -/
def Fields.encode : (fs : Fields) → fs.Value → Json.Members
  | .nil, _ => []
  | .cons key _ .required slot rest, x => (key, slot.encode x.1) :: rest.encode x.2
  | .cons key _ .optional slot rest, x =>
    (match x.1 with
      | none => []
      | some v => [(key, slot.encode v)]) ++ rest.encode x.2
  | .cons key _ .nullIfAbsent slot rest, x => (key, slot.encode x.1) :: rest.encode x.2
  | .version rest, x => (versionKey, .str versionText) :: rest.encode x
  | .outcome result error form rest, x =>
    (match x.1 with
      | none => []
      | some (.inl v) => [(result, v)]
      | some (.inr e) => [(error, form.encode e)]) ++ rest.encode x.2
  | .without _ rest, x => rest.encode x

end

/-- Reads a value after it was held against the schema. -/
def Schema.read (s : Schema) (v : Json) : Except Fault s.Value :=
  match s.fault? v, s.decode? v with
  | some fault, _ => .error fault
  | none, some x => .ok x
  | none, none => .error (.invalid s.name (.wrongType []))

end LanguageServer
