import LanguageServer.Proofs.Message.Kinds
import LanguageServer.Proofs.Server.Session

/-! Changes of a document that are refused. A notification that changes a document is refused if its params
    are not of the form of the method, if the method is to fail, or if one of its changes has a range. In
    the first two cases no document changes. In the third the changes before the first with a range were
    made already, and they stay: the document is left with the text of the last of them
    (`Server.Recorder.refused_change`). -/

namespace LanguageServer

open Content

variable {ρ : Type} {r : Record} {v : Json}

/-! ### What the params ask for -/

/-- The changes in the params of a change of a document. -/
def Json.changes (params : Json) : List Json :=
  match params.get? "contentChanges" with
  | some (.arr changes) => changes
  | _ => []

theorem Call.texts_didChange (params : Json) :
    (Call.notification .didChange params).texts = (Json.fullTexts params.changes).map some := by
  rw [Call.texts, Json.changes]
  cases params.get? "contentChanges" with
  | none => rfl
  | some changes => cases changes <;> rfl

/-- Changes that were read are full just when they have no range. -/
theorem TextDocumentContentChangeEvent.all_isFull_of_mapM {changes : List Json}
    {events : List TextDocumentContentChangeEvent}
    (h : changes.mapM (Content.schema TextDocumentContentChangeEvent).decode? = some (packMany events)) :
    events.all isFull = changes.all fun change => (change.get? "range").isNone := by
  induction changes generalizing events with
  | nil =>
    have hevents : packMany events = [] := (Option.some.inj h).symm
    rw [List.map_eq_nil_iff.mp hevents]
    rfl
  | cons change changes ih =>
    obtain ⟨x, xs, hx, hxs, heq⟩ := Many.mapM_cons_eq_some_iff.mp h
    obtain ⟨e, events, rfl, rfl, rfl⟩ := List.map_eq_cons_iff.mp heq
    rw [List.all_cons, List.all_cons, (text_of_decode? hx).2, ih hxs]

theorem DidChangeTextDocumentParams.all_isFull_of_read {p : DidChangeTextDocumentParams}
    (h : read DidChangeTextDocumentParams v = .ok p) :
    p.contentChanges.all (·.isFull) = v.changes.all fun change => (change.get? "range").isNone := by
  obtain ⟨changes, hchanges, hm⟩ := changes_of_read h
  rw [Json.changes, hchanges]
  exact TextDocumentContentChangeEvent.all_isFull_of_mapM hm

/-! ### Texts that a document is given -/

/-- The open documents after one of them was given texts one after the other: the last is left. -/
def Record.given (documents : String → Option String) (uri : String) (texts : List String) :
    String → Option String :=
  match texts.getLast? with
  | some text => Function.update documents uri (some text)
  | none => documents

theorem Record.given_concat (documents : String → Option String) (uri : String) (texts : List String)
    (text : String) :
    given documents uri (texts ++ [text]) = Function.update (given documents uri texts) uri (some text) := by
  unfold given
  rw [List.getLast?_concat]
  cases texts.getLast? with
  | none => rfl
  | some other => exact (Function.update_idem _ _ documents).symm

theorem Record.given_eq_self_iff {documents : String → Option String} {uri : String} {texts : List String} :
    given documents uri texts = documents ↔
      ∀ text, texts.getLast? = some text → documents uri = some text := by
  unfold given
  cases texts.getLast? with
  | none => simp
  | some text => simp [eq_comm]

theorem Call.edit_of_texts {m : NotificationMethod} {params : Json} {uri : String} {texts : List String}
    (huri : params.textAt? ["textDocument", "uri"] = some uri)
    (htexts : (notification m params).texts = texts.map some) (documents : String → Option String) :
    (notification m params).edit documents = Record.given documents uri texts := by
  rw [edit, edits_of_uri huri, htexts, List.map_map]
  clear htexts
  induction texts using List.reverseRecOn with
  | nil => rfl
  | append_singleton texts text ih =>
    rw [List.map_append, List.foldl_append, ih, Record.given_concat]
    rfl

theorem Record.document?_hear (r : Record) (c : Call) :
    (r.hear c).document? = if (r.failure? c.name).isSome then r.document? else c.edit r.document? := by
  unfold hear
  split
  · rfl
  · exact (foldl_edited c.edits _).1

/-! ### How a change of a document goes -/

namespace Server.Recorder

open Handler

/-- Why a change with a range is refused. -/
def notIncremental : Exception := .invalidParams "incremental sync not supported"

theorem start_change (uri : String) (events : List TextDocumentContentChangeEvent) (j : Journal Record) :
    ((change uri events).start j).1 = if events.all (·.isFull) then .ok () else .error notIncremental := by
  induction events generalizing j with
  | nil => rfl
  | cons e events ih =>
    rw [change, List.all_cons]
    cases e.isFull with
    | true =>
      rw [if_pos rfl, start_bind_of_ok (start_update _), ih, Bool.true_and]
    | false => rfl

/-- What a change of a document is refused for, if it is refused. -/
def refusal? (r : Record) (params : Json) : Option Exception :=
  match NotificationMethod.didChange.form.fault? params with
  | some fault => some (.ofFault fault)
  | none =>
    (r.failure? NotificationMethod.didChange.name).or
      (if params.changes.any fun change => (change.get? "range").isSome then some notIncremental else none)

theorem start_didChange (n : Notification) (j : Journal Record) :
    ((Server.recorder.notice n .didChange).start j).1 =
      match refusal? j.memory (n.params.getD .null) with
      | some e => .error e
      | none => .ok () := by
  unfold refusal?
  change ((withParams (read DidChangeTextDocumentParams (n.params.getD .null)) _).start j).1 = _
  cases hread : read DidChangeTextDocumentParams (n.params.getD .null) with
  | error fault =>
    have hfault : NotificationMethod.didChange.form.fault? (n.params.getD .null) = some fault :=
      read_eq_error_iff.mp hread
    rw [hfault]
    rfl
  | ok p =>
    have hnone : NotificationMethod.didChange.form.fault? (n.params.getD .null) = none :=
      fault?_eq_none_iff.mpr (read_eq_ok_iff.mp hread).1
    have hall := DidChangeTextDocumentParams.all_isFull_of_read hread
    have hany : ((n.params.getD .null).changes.any fun change => (change.get? "range").isSome) =
        !p.contentChanges.all (·.isFull) := by
      rw [hall, List.not_all_eq_any_not]
      simp
    rw [hnone, hany]
    change ((record NotificationMethod.didChange.name >>= fun _ =>
      change p.textDocument.uri.text p.contentChanges).start j).1 = _
    rw [start_bind, start_record]
    cases j.memory.failure? NotificationMethod.didChange.name with
    | some e => rfl
    | none =>
      change ((change p.textDocument.uri.text p.contentChanges).start _).1 = _
      rw [start_change]
      cases p.contentChanges.all (·.isFull) <;> rfl

/-! ### What a change of a document leaves -/

variable {raw : String} {n : Notification} {p : Peer Record ρ}

theorem parse_didChange (hparse : Message.parse raw = .ok (.notification n))
    (hmethod : n.method = NotificationMethod.didChange.name) :
    Call.ofText? raw = (some (.notification .didChange (n.params.getD .null))).filter Call.isValid := by
  rw [Call.ofText?, hparse]
  change ((NotificationMethod.ofName? n.method).map _).filter _ = _
  rw [hmethod]
  rfl

theorem outbox_didChange (hparse : Message.parse raw = .ok (.notification n))
    (hmethod : n.method = NotificationMethod.didChange.name) :
    (dispatch raw .recorder p).2.peer.outbox =
      match refusal? p.memory (n.params.getD .null) with
      | some e => p.outbox.pushResponse (.failure none (.ofException e))
      | none => p.outbox := by
  have hhandler : Server.recorder.notificationHandler n = Server.recorder.notice n .didChange := by
    rw [Server.notificationHandler, hmethod]
    rfl
  have hstart := start_didChange n ⟨p.memory, [.incoming n.method]⟩
  rw [← hhandler] at hstart
  rw [dispatch_of_ok hparse, Message.process]
  cases hr : refusal? p.memory (n.params.getD .null) with
  | some e =>
    rw [hr] at hstart
    exact Notification.process_of_error hstart
  | none =>
    rw [hr] at hstart
    exact Notification.process_of_ok hstart

/-- A call that changes a document is heard: its params have the form, and the method is not to fail. -/
def Heard (r : Record) (params : Json) : Prop :=
  NotificationMethod.didChange.form.accepts params ∧ r.failure? NotificationMethod.didChange.name = none

theorem refusal?_isSome_iff {params : Json} :
    (refusal? r params).isSome ↔
      (Heard r params → ∃ change ∈ params.changes, (change.get? "range").isSome) := by
  unfold refusal? Heard Schema.accepts
  cases NotificationMethod.didChange.form.fault? params with
  | some fault => simp
  | none =>
    cases r.failure? NotificationMethod.didChange.name with
    | some e => simp
    | none =>
      by_cases hrange : ∃ change ∈ params.changes, (change.get? "range").isSome = true
      · simp [hrange]
      · simp [hrange]

theorem document?_of_unheard (hparse : Message.parse raw = .ok (.notification n))
    (hmethod : n.method = NotificationMethod.didChange.name) (h : ¬ Heard p.memory (n.params.getD .null)) :
    (dispatch raw .recorder p).2.peer.memory.document? = p.memory.document? := by
  rw [memory_dispatch, parse_didChange hparse hmethod, after_filter]
  split
  · rename_i hvalid
    rw [Record.document?_hear, if_pos]
    exact Option.isSome_iff_ne_none.mpr fun hnone => h ⟨hvalid, hnone⟩
  · rfl

theorem document?_of_heard (hparse : Message.parse raw = .ok (.notification n))
    (hmethod : n.method = NotificationMethod.didChange.name) (h : Heard p.memory (n.params.getD .null)) :
    ∃ uri, (n.params.getD .null).textAt? ["textDocument", "uri"] = some uri ∧
      (dispatch raw .recorder p).2.peer.memory.document? =
        Record.given p.memory.document? uri (Json.fullTexts (n.params.getD .null).changes) := by
  obtain ⟨hvalid, hnone⟩ := h
  obtain ⟨x, hread⟩ : ∃ x, read DidChangeTextDocumentParams (n.params.getD .null) = .ok x :=
    fault?_isNone_iff.mp hvalid
  obtain ⟨huri, -⟩ := DidChangeTextDocumentParams.texts_of_read hread
  have hvalid : (Call.notification .didChange (n.params.getD .null)).isValid = true := hvalid
  refine ⟨_, huri, ?_⟩
  rw [memory_dispatch, parse_didChange hparse hmethod, after_filter, if_pos hvalid, Record.document?_hear,
    if_neg, Call.edit_of_texts huri (Call.texts_didChange _)]
  exact Option.not_isSome_iff_eq_none.mpr hnone

/-- Of every state of the server and every change of a document. It is refused unless it is heard and all of
    its changes are full. One that is not heard changes no document, and one that is heard gives its
    document the texts of the changes before the first with a range. So a refused change leaves all
    documents as they were just when it is not heard, has no such texts, or the document had the last of
    them before. -/
theorem refused_change (p : Peer Record ρ) (hparse : Message.parse raw = .ok (.notification n))
    (hmethod : n.method = NotificationMethod.didChange.name) :
    let params := n.params.getD .null
    let texts := Json.fullTexts params.changes
    let after := (dispatch raw .recorder p).2.peer
    ((∃ e, after.outbox = p.outbox.pushResponse (.failure none e)) ↔
      (Heard p.memory params → ∃ change ∈ params.changes, (change.get? "range").isSome)) ∧
    (¬ Heard p.memory params → after.memory.document? = p.memory.document?) ∧
    (Heard p.memory params → ∃ uri, params.textAt? ["textDocument", "uri"] = some uri ∧
      after.memory.document? = Record.given p.memory.document? uri texts ∧
      (after.memory.document? = p.memory.document? ↔
        ∀ text, texts.getLast? = some text → p.memory.document? uri = some text)) := by
  intro params texts after
  have houtbox : after.outbox = _ := outbox_didChange (p := p) hparse hmethod
  refine ⟨?_, document?_of_unheard hparse hmethod, fun h => ?_⟩
  · rw [← refusal?_isSome_iff]
    constructor
    · rintro ⟨e, he⟩
      cases hr : refusal? p.memory params with
      | some _ => rfl
      | none =>
        -- Nothing is queued unless there is a refusal.
        rw [hr] at houtbox
        have hlength := congrArg (·.responses.length) (houtbox.symm.trans he)
        simp [Outbox.pushResponse] at hlength
    · intro hsome
      obtain ⟨e, hr⟩ := Option.isSome_iff_exists.mp hsome
      rw [hr] at houtbox
      exact ⟨_, houtbox⟩
  · obtain ⟨uri, huri, hdocuments⟩ := document?_of_heard (p := p) hparse hmethod h
    refine ⟨uri, huri, hdocuments, ?_⟩
    rw [show after.memory.document? = _ from hdocuments, Record.given_eq_self_iff]

/-- The only change of a document has a range. It is refused, and the document stays as it was. -/
theorem refused_change_ranged :
    let point : Json := .obj [("character", .int 0), ("line", .int 0)]
    let ranged : Json := .obj [("range", .obj [("end", point), ("start", point)]), ("text", .str "x")]
    let document : Json := .obj [("uri", .str "file:///a"), ("version", .int 2)]
    let n : Notification :=
      { method := "textDocument/didChange"
        params := some (.obj [("contentChanges", .arr [ranged]), ("textDocument", document)]) }
    let p : Peer Record Empty := ⟨Record.empty.putDocument "file:///a" "old", .empty⟩
    (∃ e, (dispatch (Message.notification n).text .recorder p).2.peer.outbox =
        p.outbox.pushResponse (.failure none e)) ∧
      (dispatch (Message.notification n).text .recorder p).2.peer.memory.document? = p.memory.document? := by
  intro point ranged document n p
  have hparse := Message.parse_text_of_reread (m := .notification n) (by decide +kernel)
  have hheard : Heard p.memory (n.params.getD .null) := ⟨by decide +kernel, rfl⟩
  have hchanges : (n.params.getD .null).changes = [ranged] := by decide +kernel
  have hlast : (Json.fullTexts (n.params.getD .null).changes).getLast? = none := by decide +kernel
  obtain ⟨hrefused, -, hleft⟩ := refused_change p hparse rfl
  obtain ⟨uri, -, -, hintact⟩ := hleft hheard
  refine ⟨hrefused.mpr fun _ => ⟨ranged, ?_, rfl⟩, hintact.mpr fun text htext => ?_⟩
  · rw [hchanges]
    exact List.mem_singleton_self ranged
  · cases hlast.symm.trans htext

/-- A document is opened and then changed as a whole, and in the same notification in a range of it. The
    change is refused, and yet the document has its new text. -/
theorem refused_change_full :
    let opened : Json := .obj [("languageId", .str "x"), ("text", .str "old"), ("uri", .str "file:///a"),
      ("version", .int 1)]
    let opening : Notification :=
      { method := "textDocument/didOpen", params := some (.obj [("textDocument", opened)]) }
    let point : Json := .obj [("character", .int 0), ("line", .int 0)]
    let full : Json := .obj [("text", .str "new")]
    let ranged : Json := .obj [("range", .obj [("end", point), ("start", point)]), ("text", .str "x")]
    let document : Json := .obj [("uri", .str "file:///a"), ("version", .int 2)]
    let n : Notification :=
      { method := "textDocument/didChange"
        params := some (.obj [("contentChanges", .arr [full, ranged]), ("textDocument", document)]) }
    ∃ p : Peer Record Empty, p = session ⟨.empty, .empty⟩ [(Message.notification opening).text] ∧
      p.memory.document? "file:///a" = some "old" ∧
      (dispatch (Message.notification n).text .recorder p).2.peer.outbox =
        p.outbox.pushResponse (.failure none (.ofException notIncremental)) ∧
      (dispatch (Message.notification n).text .recorder p).2.peer.memory.document? "file:///a" = some "new" := by
  intro opened opening point full ranged document n
  have hopen := Message.parse_text_of_reread (m := .notification opening) (by decide +kernel)
  have hparse := Message.parse_text_of_reread (m := .notification n) (by decide +kernel)
  obtain ⟨p, hp⟩ : ∃ p : Peer Record Empty,
      p = session ⟨.empty, .empty⟩ [(Message.notification opening).text] := ⟨_, rfl⟩
  have hmemory : p.memory = Server.Recorder.after .empty (Call.ofMessage? (.notification opening)) := by
    rw [hp, ← List.nil_append [_], session_concat, memory_dispatch, Call.ofText?, hopen]
    rfl
  have hheard : Heard p.memory (n.params.getD .null) := by
    rw [hmemory]
    exact ⟨by decide +kernel, by decide +kernel⟩
  have hrefusal : refusal? p.memory (n.params.getD .null) = some notIncremental := by
    rw [hmemory]
    decide +kernel
  have houtbox := outbox_didChange (p := p) hparse rfl
  rw [hrefusal] at houtbox
  obtain ⟨uri, huri, hdocuments⟩ := document?_of_heard (p := p) hparse rfl hheard
  have htexts : Json.fullTexts (n.params.getD .null).changes = ["new"] := by decide +kernel
  have hname : uri = "file:///a" := Option.some.inj (huri.symm.trans (by decide +kernel))
  rw [htexts, hname] at hdocuments
  refine ⟨p, hp, ?_, houtbox, ?_⟩
  · rw [hmemory]
    decide +kernel
  · rw [hdocuments]
    rfl

end Server.Recorder

end LanguageServer
