import LanguageServer.Proofs.Server.Call
import LanguageServer.Proofs.Server.Handler
import LanguageServer.Server.Recorder

/-! What the recording server does with a call. A call is recorded, and then it changes the record as it
    asks for, unless its method is to fail (`Record.hear`). Every handler leaves the record just so
    (`Server.Recorder.Hears`): the handlers of requests change nothing more, and those of notifications make
    the edits that are read off the params (`Call.edits`). Params that do not have the form of the method
    call no handler. -/

namespace LanguageServer

namespace Record

/-- The call of a method is recorded. -/
def called (r : Record) (method : String) : Record := { r with calls := r.calls ++ [method] }

/-- A document has a text now, or is not open any more. -/
def edited (r : Record) (e : String × Option String) : Record :=
  match e.2 with
  | some text => r.putDocument e.1 text
  | none => r.dropDocument e.1

/-- What a call that does not fail changes. -/
def obey (r : Record) (c : Call) : Record :=
  c.edits.foldl edited { r with cancelled := r.cancelled ++ c.cancelled?.toList }

/-- The record after a call. -/
def hear (r : Record) (c : Call) : Record :=
  if (r.failure? c.name).isSome then r.called c.name else (r.called c.name).obey c

variable {r : Record} {c : Call}

/-! ### Open documents -/

theorem document?_dropDocument (r : Record) (uri : String) :
    (r.dropDocument uri).document? = Function.update r.document? uri none := by
  funext other
  rw [document?, dropDocument, List.find?_filter]
  by_cases h : other = uri
  · subst h
    simp
  · rw [Function.update_of_ne h, document?]
    refine congrArg (fun p => (r.documents.find? p).map (·.2)) (funext fun d => ?_)
    by_cases hd : d.1 = other
    · simp [hd, h]
    · simp [hd]

theorem document?_putDocument (r : Record) (uri text : String) :
    (r.putDocument uri text).document? = Function.update r.document? uri (some text) := by
  funext other
  by_cases h : uri = other
  · subst h
    simp [document?, putDocument]
  · have hrest : (r.putDocument uri text).document? other = (r.dropDocument uri).document? other := by
      simp [document?, putDocument, dropDocument, h]
    rw [hrest, document?_dropDocument, Function.update_of_ne (Ne.symm h), Function.update_of_ne (Ne.symm h)]

theorem document?_edited (e : String × Option String) :
    (r.edited e).document? = Function.update r.document? e.1 e.2 := by
  obtain ⟨uri, text⟩ := e
  cases text with
  | some text => exact document?_putDocument r uri text
  | none => exact document?_dropDocument r uri

/-- Edits change the open documents, and nothing else. -/
theorem foldl_edited (es : List (String × Option String)) (r : Record) :
    (es.foldl edited r).document? =
        es.foldl (fun documents e => Function.update documents e.1 e.2) r.document? ∧
      (es.foldl edited r).calls = r.calls ∧ (es.foldl edited r).cancelled = r.cancelled ∧
      (es.foldl edited r).failures = r.failures := by
  induction es generalizing r with
  | nil => exact ⟨rfl, rfl, rfl, rfl⟩
  | cons e es ih =>
    obtain ⟨hdocuments, hcalls, hcancelled, hfailures⟩ := ih (r.edited e)
    rw [document?_edited] at hdocuments
    have hkept : (r.edited e).calls = r.calls ∧ (r.edited e).cancelled = r.cancelled ∧
        (r.edited e).failures = r.failures := by
      unfold edited
      split <;> exact ⟨rfl, rfl, rfl⟩
    exact ⟨hdocuments, hcalls.trans hkept.1, hcancelled.trans hkept.2.1, hfailures.trans hkept.2.2⟩

theorem obey_of_edits (hcancelled : c.cancelled? = none) (r : Record) :
    r.obey c = c.edits.foldl edited r := by
  rw [obey, hcancelled, Option.toList_none, List.append_nil]

theorem obey_of_plain (hcancelled : c.cancelled? = none) (htexts : c.texts = []) (r : Record) :
    r.obey c = r := by
  rw [obey_of_edits hcancelled, Call.edits_of_plain htexts, List.foldl_nil]

/-- No request changes more than the calls. -/
theorem obey_request (m : RequestMethod) (params : Json) (r : Record) : r.obey (.request m params) = r :=
  obey_of_plain rfl rfl r

theorem obey_cancel {params : Json} {id : String}
    (hid : (Call.notification .cancelRequest params).cancelled? = some id) (r : Record) :
    r.obey (.notification .cancelRequest params) = { r with cancelled := r.cancelled ++ [id] } := by
  rw [obey, hid, Call.edits_of_plain rfl]
  rfl

end Record

/-! ### What the handlers do -/

namespace Server.Recorder

open Handler

variable {α β : Type} {h : Handler Record α} {c : Call}

/-- The handler leaves the record as a call does. -/
def Hears (h : Handler Record α) (c : Call) : Prop := ∀ j, (h.start j).2.memory = j.memory.hear c

theorem start_record (method : String) (j : Journal Record) :
    (record method).start j =
      (match j.memory.failure? method with
        | some failure => .error failure
        | none => .ok (),
        { j with memory := j.memory.called method }) := by
  have hfailure : (j.memory.called method).failure? method = j.memory.failure? method := rfl
  rw [record, start_bind_of_ok (start_update _), start_bind_of_ok start_memory]
  change (match (j.memory.called method).failure? method with
    | some failure => throw failure
    | none => pure () : Handler Record Unit).start _ = _
  rw [hfailure]
  cases j.memory.failure? method with
  | some failure => exact start_throw failure
  | none => exact start_pure ()

/-- A handler that records the call and, if the call does not fail, changes the record as it asks for. -/
theorem hears_of_record {method : String} {f : Unit → Handler Record α} (hname : c.name = method)
    (hf : ∀ j, ((f ()).start j).2.memory = j.memory.obey c) : Hears (record method >>= f) c := by
  subst hname
  intro j
  rw [start_bind, start_record, Record.hear]
  cases j.memory.failure? c.name with
  | some failure => rfl
  | none => exact hf _

theorem hears_record {method : String} (hname : c.name = method) (hc : ∀ r : Record, r.obey c = r) :
    Hears (record method) c := by
  subst hname
  intro j
  rw [start_record, Record.hear, hc, ite_self]

theorem Hears.map {g : α → β} (hh : Hears h c) : Hears (g <$> h) c := by
  intro j
  rw [start_map]
  exact hh j

/-- The changes of a document are made up to the first that is not full. -/
theorem memory_change (uri : String) (events : List TextDocumentContentChangeEvent) (j : Journal Record) :
    ((change uri events).start j).2.memory =
      ((events.takeWhile (·.isFull)).map fun e => (uri, some e.text)).foldl Record.edited j.memory := by
  induction events generalizing j with
  | nil => rfl
  | cons e events ih =>
    rw [change, List.takeWhile_cons]
    cases e.isFull with
    | true =>
      rw [if_pos rfl, if_pos rfl, start_bind_of_ok (start_update _), ih]
      rfl
    | false => rfl

/-- A handler runs on params that have the form, and on no others. -/
theorem memory_withParams (α : Type) [Content α] {v : Json} {h : α → Handler Record β}
    (hvalid : c.isValid = (Content.schema α).accepts v)
    (hh : ∀ p, Content.read α v = .ok p → Hears (h p) c) (j : Journal Record) :
    ((withParams (Content.read α v) h).start j).2.memory =
      if c.isValid then j.memory.hear c else j.memory := by
  cases hv : Content.read α v with
  | ok p =>
    have haccepts : (Content.schema α).accepts v = true :=
      Option.isNone_iff_eq_none.mpr (Content.fault?_eq_none_iff.mpr (Content.read_eq_ok_iff.mp hv).1)
    rw [hvalid, haccepts, if_pos rfl]
    exact hh p hv j
  | error fault =>
    have hfault : (Content.schema α).fault? v = some fault := Content.read_eq_error_iff.mp hv
    rw [hvalid, Schema.accepts, hfault]
    rfl

/-! ### Requests -/

/-- Past the recording of its call, the handler of a request leaves the record as it is. -/
theorem hears_request {m : RequestMethod} {v : Json} {f : Unit → Handler Record α}
    (hf : ∀ j, ((f ()).start j).2.memory = j.memory) : Hears (record m.name >>= f) (.request m v) := by
  refine hears_of_record rfl fun j => ?_
  rw [Record.obey_request]
  exact hf j

theorem hears_startUp (p : InitializeParams) (v : Json) :
    Hears (Server.recorder.startUp p) (.request .startUp v) := hears_request fun _ => rfl

theorem hears_shutdown (v : Json) : Hears Server.recorder.shutdown (.request .shutdown v) :=
  hears_record rfl (Record.obey_request _ _)

theorem hears_executeCommand (p : ExecuteCommandParams) (v : Json) :
    Hears (Server.recorder.executeCommand p) (.request .executeCommand v) := hears_request fun _ => rfl

theorem hears_hover (p : TextDocumentPositionParams) (v : Json) :
    Hears (Server.recorder.hover p) (.request .hover v) := by
  refine hears_request fun j => ?_
  -- The answer depends on the line, the record does not.
  by_cases hline : p.position.line = 0
  · rw [if_pos hline]
    rfl
  · rw [if_neg hline]
    rfl

theorem hears_definition (p : TextDocumentPositionParams) (v : Json) :
    Hears (Server.recorder.definition p) (.request .definition v) := hears_request fun _ => rfl

theorem hears_codeAction (p : CodeActionParams) (v : Json) :
    Hears (Server.recorder.codeAction p) (.request .codeAction v) := hears_request fun _ => rfl

theorem hears_codeLens (p : CodeLensParams) (v : Json) :
    Hears (Server.recorder.codeLens p) (.request .codeLens v) := hears_request fun _ => rfl

theorem memory_answer (r : Request) (m : RequestMethod) (j : Journal Record) :
    let c := Call.request m (r.params.getD .null)
    ((Server.recorder.answer r m).start j).2.memory = if c.isValid then j.memory.hear c else j.memory := by
  intro c
  cases m with
  | startUp => exact memory_withParams InitializeParams rfl (fun p _ => (hears_startUp p _).map) j
  | shutdown => exact (hears_shutdown _).map j
  | executeCommand => exact memory_withParams ExecuteCommandParams rfl (fun p _ => hears_executeCommand p _) j
  | hover => exact memory_withParams TextDocumentPositionParams rfl (fun p _ => (hears_hover p _).map) j
  | definition =>
    exact memory_withParams TextDocumentPositionParams rfl (fun p _ => (hears_definition p _).map) j
  | codeAction => exact memory_withParams CodeActionParams rfl (fun p _ => (hears_codeAction p _).map) j
  | codeLens => exact memory_withParams CodeLensParams rfl (fun p _ => (hears_codeLens p _).map) j

/-! ### Notifications -/

theorem hears_startedUp (v : Json) : Hears Server.recorder.startedUp (.notification .startedUp v) :=
  hears_record rfl (Record.obey_of_plain rfl rfl)

theorem hears_exit (v : Json) : Hears Server.recorder.exit (.notification .exit v) :=
  hears_record rfl (Record.obey_of_plain rfl rfl)

theorem hears_didChangeConfiguration (p : DidChangeConfigurationParams) (v : Json) :
    Hears (Server.recorder.didChangeConfiguration p) (.notification .didChangeConfiguration v) :=
  hears_record rfl (Record.obey_of_plain rfl rfl)

theorem hears_didSave (p : DidSaveTextDocumentParams) (v : Json) :
    Hears (Server.recorder.didSave p) (.notification .didSave v) :=
  hears_record rfl (Record.obey_of_plain rfl rfl)

theorem hears_cancelRequest {v : Json} {p : CancelParams} (hp : Content.read CancelParams v = .ok p) :
    Hears (Server.recorder.cancelRequest p) (.notification .cancelRequest v) := by
  refine hears_of_record rfl fun j => ?_
  have hid : (Call.notification .cancelRequest v).cancelled? = some p.id.text :=
    Option.map_eq_some_iff.mpr ⟨p.id, CancelParams.id_of_read hp, rfl⟩
  rw [Record.obey_cancel hid]
  rfl

theorem hears_didOpen {v : Json} {p : DidOpenTextDocumentParams}
    (hp : Content.read DidOpenTextDocumentParams v = .ok p) :
    Hears (Server.recorder.didOpen p) (.notification .didOpen v) := by
  refine hears_of_record rfl fun j => ?_
  obtain ⟨huri, htext⟩ := DidOpenTextDocumentParams.texts_of_read hp
  rw [Record.obey_of_edits rfl, Call.edits_of_uri huri, Call.texts, htext]
  rfl

theorem hears_didChange {v : Json} {p : DidChangeTextDocumentParams}
    (hp : Content.read DidChangeTextDocumentParams v = .ok p) :
    Hears (Server.recorder.didChange p) (.notification .didChange v) := by
  refine hears_of_record rfl fun j => ?_
  obtain ⟨huri, changes, hchanges, htexts⟩ := DidChangeTextDocumentParams.texts_of_read hp
  have hall : (Call.notification .didChange v).texts = (Json.fullTexts changes).map some := by
    rw [Call.texts, hchanges]
  rw [Record.obey_of_edits rfl, Call.edits_of_uri huri, hall, htexts, List.map_map, List.map_map]
  exact memory_change _ _ j

theorem hears_didClose {v : Json} {p : DidCloseTextDocumentParams}
    (hp : Content.read DidCloseTextDocumentParams v = .ok p) :
    Hears (Server.recorder.didClose p) (.notification .didClose v) := by
  refine hears_of_record rfl fun j => ?_
  have huri := DidCloseTextDocumentParams.uri_of_read hp
  rw [Record.obey_of_edits rfl, Call.edits_of_uri huri]
  rfl

theorem memory_notice (n : Notification) (m : NotificationMethod) (j : Journal Record) :
    let c := Call.notification m (n.params.getD .null)
    ((Server.recorder.notice n m).start j).2.memory = if c.isValid then j.memory.hear c else j.memory := by
  intro c
  cases m with
  | startedUp => exact hears_startedUp _ j
  | exit => exact hears_exit _ j
  | cancelRequest => exact memory_withParams CancelParams rfl (fun p hp => hears_cancelRequest hp) j
  | didChangeConfiguration =>
    exact memory_withParams DidChangeConfigurationParams rfl
      (fun p _ => hears_didChangeConfiguration p _) j
  | didOpen => exact memory_withParams DidOpenTextDocumentParams rfl (fun p hp => hears_didOpen hp) j
  | didChange => exact memory_withParams DidChangeTextDocumentParams rfl (fun p hp => hears_didChange hp) j
  | didSave => exact memory_withParams DidSaveTextDocumentParams rfl (fun p _ => hears_didSave p _) j
  | didClose => exact memory_withParams DidCloseTextDocumentParams rfl (fun p hp => hears_didClose hp) j

end Server.Recorder

end LanguageServer
