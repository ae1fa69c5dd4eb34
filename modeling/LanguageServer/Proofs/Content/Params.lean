import LanguageServer.Content.Cancellation
import LanguageServer.Content.TextDocument
import LanguageServer.Message
import LanguageServer.Proofs.Schema.NormalForm

/-! What the params of document notifications hold, said of the JSON value that they are read from: the text
    of a URI is the string that was sent, and so is the text of a document. -/

namespace LanguageServer

/-! ### What a record that was read has -/

section Inversion

variable {name key : String} {late : Bool} {slot : Slot} {rest fields : Fields} {members : Json.Members}
  {v : Json}

theorem Schema.decode?_record_inv {x : fields.Value} (h : (Schema.record name fields).decode? v = some x) :
    ∃ members, v = .obj members ∧ fields.decode? members = some x := by
  cases v with
  | obj members => exact ⟨members, rfl, h⟩
  | _ => cases h

theorem Slot.decode?_many_inv {item : Schema} {xs : List item.Value}
    (h : (Slot.many item).decode? v = some xs) :
    ∃ items, v = .arr items ∧ items.mapM item.decode? = some xs := by
  cases v with
  | arr items => exact ⟨items, rfl, h⟩
  | _ => cases h

theorem Fields.decode?_required_inv {x : slot.Value} {y : rest.Value}
    (h : (Fields.cons key late .required slot rest).decode? members = some (x, y)) :
    ∃ v, members.get? key = some v ∧ slot.decode? v = some x ∧ rest.decode? members = some y := by
  obtain ⟨v, hv, h⟩ := Option.bind_eq_some_iff.mp h
  obtain ⟨x', hx, h⟩ := Option.bind_eq_some_iff.mp h
  obtain ⟨y', hy, h⟩ := Option.bind_eq_some_iff.mp h
  cases h
  exact ⟨v, hv, hx, hy⟩

/-- Where null does not stand for no value, there is a value just when the key is there. -/
theorem Fields.decode?_optional_inv {x : Option slot.Value} {y : rest.Value}
    (h : (Fields.cons key late .optional slot rest).decode? members = some (x, y))
    (hslot : ∀ v, slot.dropsNull v = false) :
    (members.get? key).isSome = x.isSome ∧ rest.decode? members = some y := by
  cases hv : members.get? key with
  | none =>
    rw [Fields.decode?_optional_of_absent (Or.inl hv)] at h
    obtain ⟨y', hy, h⟩ := Option.map_eq_some_iff.mp h
    cases h
    exact ⟨rfl, hy⟩
  | some v =>
    rw [Fields.decode?_optional hv (hslot v)] at h
    obtain ⟨x', -, h⟩ := Option.bind_eq_some_iff.mp h
    obtain ⟨y', hy, h⟩ := Option.map_eq_some_iff.mp h
    cases h
    exact ⟨rfl, hy⟩

end Inversion

/-! ### The strings of a value -/

/-- The string that is reached in a value by some keys. -/
def Json.textAt? : List String → Json → Option String
  | [], v => PropertyKind.string? v
  | key :: keys, v => (v.get? key).bind (textAt? keys)

theorem Json.textAt?_cons {key : String} {keys : List String} {members : Json.Members} {v : Json}
    (h : members.get? key = some v) : (Json.obj members).textAt? (key :: keys) = v.textAt? keys := by
  rw [textAt?, get?, h]
  rfl

/-- A string that is read as a URI is the text of the URI. -/
theorem Json.textAt?_of_uri {v : Json} {u : Uri} (h : PropertyKind.uri.decode? v = some u) :
    v.textAt? [] = some u.text := by
  have hv : PropertyKind.uri.encode u = v := PropertyKind.encode_of_decode? h
  rw [← hv]
  rfl

theorem Json.textAt?_of_string {v : Json} {s : String} (h : PropertyKind.string.decode? v = some s) :
    v.textAt? [] = some s := by
  have hv : PropertyKind.string.encode s = v := PropertyKind.encode_of_decode? h
  rw [← hv]
  rfl

/-- What is read under a key as a record that starts with a URI has the text of the URI there. -/
theorem Json.textAt?_of_document {name key : String} {rest : Fields} {members : Json.Members} {item : Json}
    {u : Uri} {y : rest.Value} (hitem : members.get? key = some item)
    (h : (Schema.record name (.required "uri" (.plain .uri) rest)).decode? item = some (u, y)) :
    (Json.obj members).textAt? [key, "uri"] = some u.text := by
  obtain ⟨itemMembers, rfl, hfields⟩ := Schema.decode?_record_inv h
  obtain ⟨uri, huri, hdu, -⟩ := Fields.decode?_required_inv hfields
  rw [textAt?_cons hitem, textAt?_cons huri]
  exact textAt?_of_uri hdu

/-- The texts of the changes up to the first that has a range. -/
def Json.fullTexts (changes : List Json) : List String :=
  (changes.takeWhile fun change => (change.get? "range").isNone).filterMap (Json.textAt? ["text"])

/-! ### The params of the notifications -/

section Params

open Content

variable {v : Json}

theorem CancelParams.id_of_read {p : CancelParams} (h : read CancelParams v = .ok p) :
    (v.get? "id").bind RequestId.ofJson? = some p.id := by
  obtain ⟨-, hv⟩ := read_eq_ok_iff.mp h
  obtain ⟨members, rfl, hfields⟩ := Schema.decode?_record_inv hv
  obtain ⟨id, hid, hdecoded, -⟩ := Fields.decode?_required_inv hfields
  exact Option.bind_eq_some_iff.mpr ⟨id, hid, hdecoded⟩

theorem DidOpenTextDocumentParams.texts_of_read {p : DidOpenTextDocumentParams}
    (h : read DidOpenTextDocumentParams v = .ok p) :
    v.textAt? ["textDocument", "uri"] = some p.textDocument.uri.text ∧
      v.textAt? ["textDocument", "text"] = some p.textDocument.text := by
  obtain ⟨-, hv⟩ := read_eq_ok_iff.mp h
  obtain ⟨members, rfl, hfields⟩ := Schema.decode?_record_inv hv
  obtain ⟨item, hitem, hd, -⟩ := Fields.decode?_required_inv hfields
  refine ⟨Json.textAt?_of_document hitem hd, ?_⟩
  obtain ⟨itemMembers, rfl, hitemFields⟩ := Schema.decode?_record_inv hd
  obtain ⟨-, -, -, hrest⟩ := Fields.decode?_required_inv hitemFields
  obtain ⟨-, -, -, hrest⟩ := Fields.decode?_required_inv hrest
  obtain ⟨-, -, -, hrest⟩ := Fields.decode?_required_inv hrest
  obtain ⟨text, htext, hdt, -⟩ := Fields.decode?_required_inv hrest
  rw [Json.textAt?_cons hitem, Json.textAt?_cons htext]
  exact Json.textAt?_of_string hdt

theorem DidCloseTextDocumentParams.uri_of_read {p : DidCloseTextDocumentParams}
    (h : read DidCloseTextDocumentParams v = .ok p) :
    v.textAt? ["textDocument", "uri"] = some p.textDocument.uri.text := by
  obtain ⟨-, hv⟩ := read_eq_ok_iff.mp h
  obtain ⟨members, rfl, hfields⟩ := Schema.decode?_record_inv hv
  obtain ⟨item, hitem, hd, -⟩ := Fields.decode?_required_inv hfields
  exact Json.textAt?_of_document hitem hd

/-- A change that was read is full just when it has no range. -/
theorem TextDocumentContentChangeEvent.text_of_decode? {e : TextDocumentContentChangeEvent}
    (h : (Content.schema TextDocumentContentChangeEvent).decode? v = some (pack e)) :
    v.textAt? ["text"] = some e.text ∧ (v.get? "range").isNone = e.isFull := by
  obtain ⟨members, rfl, hfields⟩ := Schema.decode?_record_inv h
  obtain ⟨hrange, hrest⟩ := Fields.decode?_optional_inv hfields fun _ => rfl
  obtain ⟨-, hrest⟩ := Fields.decode?_optional_inv hrest fun _ => rfl
  obtain ⟨text, htext, hdt, -⟩ := Fields.decode?_required_inv hrest
  refine ⟨?_, ?_⟩
  · rw [Json.textAt?_cons htext]
    exact Json.textAt?_of_string hdt
  · have hrange : (Json.Members.get? "range" members).isSome = e.range.isSome := hrange.trans Option.isSome_map
    rw [isFull, ← Option.not_isSome, ← Option.not_isSome, ← hrange]
    rfl

/-- The full changes before the first that is not are those before the first with a range. -/
theorem TextDocumentContentChangeEvent.fullTexts_of_mapM {changes : List Json}
    {events : List TextDocumentContentChangeEvent}
    (h : changes.mapM (Content.schema TextDocumentContentChangeEvent).decode? = some (packMany events)) :
    Json.fullTexts changes = (events.takeWhile isFull).map text := by
  induction changes generalizing events with
  | nil =>
    have hevents : packMany events = [] := (Option.some.inj h).symm
    rw [List.map_eq_nil_iff.mp hevents]
    rfl
  | cons change changes ih =>
    obtain ⟨x, xs, hx, hxs, heq⟩ := Many.mapM_cons_eq_some_iff.mp h
    obtain ⟨e, events, rfl, rfl, rfl⟩ := List.map_eq_cons_iff.mp heq
    obtain ⟨htext, hfull⟩ := text_of_decode? hx
    have ih := ih hxs
    rw [Json.fullTexts] at ih ⊢
    rw [List.takeWhile_cons, List.takeWhile_cons, hfull]
    cases e.isFull with
    | true =>
      rw [if_pos rfl, if_pos rfl, List.filterMap_cons, htext, ih]
      rfl
    -- A change with a range ends both lists.
    | false => rfl

example : Json.fullTexts [.obj [("text", .str "x")], .obj [("range", .null), ("text", .str "y")],
    .obj [("text", .str "z")]] = ["x"] := by decide

theorem DidChangeTextDocumentParams.changes_of_read {p : DidChangeTextDocumentParams}
    (h : read DidChangeTextDocumentParams v = .ok p) :
    ∃ changes, v.get? "contentChanges" = some (.arr changes) ∧
      changes.mapM (Content.schema TextDocumentContentChangeEvent).decode? =
        some (packMany p.contentChanges) := by
  obtain ⟨-, hv⟩ := read_eq_ok_iff.mp h
  obtain ⟨members, rfl, hfields⟩ := Schema.decode?_record_inv hv
  obtain ⟨-, -, -, hrest⟩ := Fields.decode?_required_inv hfields
  obtain ⟨changes, hchanges, hdc, -⟩ := Fields.decode?_required_inv hrest
  obtain ⟨changes, rfl, hm⟩ := Slot.decode?_many_inv hdc
  exact ⟨changes, hchanges, hm⟩

theorem DidChangeTextDocumentParams.texts_of_read {p : DidChangeTextDocumentParams}
    (h : read DidChangeTextDocumentParams v = .ok p) :
    v.textAt? ["textDocument", "uri"] = some p.textDocument.uri.text ∧
      ∃ changes, v.get? "contentChanges" = some (.arr changes) ∧
        Json.fullTexts changes = (p.contentChanges.takeWhile (·.isFull)).map (·.text) := by
  obtain ⟨changes, hchanges, hm⟩ := changes_of_read h
  refine ⟨?_, changes, hchanges, TextDocumentContentChangeEvent.fullTexts_of_mapM hm⟩
  obtain ⟨-, hv⟩ := read_eq_ok_iff.mp h
  obtain ⟨members, rfl, hfields⟩ := Schema.decode?_record_inv hv
  obtain ⟨item, hitem, hd, -⟩ := Fields.decode?_required_inv hfields
  exact Json.textAt?_of_document hitem hd

end Params

end LanguageServer
