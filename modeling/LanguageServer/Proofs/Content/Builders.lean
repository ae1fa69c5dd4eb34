import LanguageServer.Content.Cancellation
import LanguageServer.Content.CodeAction
import LanguageServer.Content.Configuration
import LanguageServer.Content.DocumentFilter
import LanguageServer.Content.Registration
import LanguageServer.Content.UserMessage
import LanguageServer.Proofs.Content.WorkspaceEdit

/-! Values that were built. Every value that the constructors and builders make from fitting arguments is
    found in order by the check of its interface, and it reads back (`Content.read_toJson_of_built`). A
    builder takes any JSON and looks at none of it, so the arguments have to fit: options, params and
    experimental capabilities are objects, and a result is an object, an array or null. Null as the data of
    a lens or of an error passes the check; nothing is said of whether it reads back. -/

namespace LanguageServer

open Content

/-- The value is made by a chain of constructors and builders from arguments that fit; `nulls` tells whether
    null may be given as data. JSON that is given lies as all JSON of a program does, with rising keys. -/
inductive Built (nulls : Bool) : {α : Type} → [Content α] → α → Prop where
  /-- All values of an interface without free JSON are built, such as those of `Diagnostic`, `HoverResult`,
      `DefinitionResult`, `DocumentSelector` and `TextDocumentContentChangeEvent`. -/
  | closed {α : Type} [Content α] (h : (schema α).isClosed = true) (x : α) : Built nulls x
  | json {v : Json} (h : v.Ordered) : Built nulls v
  | list {α : Type} [Content α] {xs : List α} (h : ∀ x ∈ xs, Built nulls x) : Built nulls xs
  | none {α : Type} [Content α] : Built nulls (none : Option α)
  | some {α : Type} [Content α] {x : α} (hnull : (schema α).kinds.contains .null = false)
      (h : Built nulls x) : Built nulls (some x)
  | number (n : Int64) : Built nulls (RequestId.number n)
  | name (s : String) : Built nulls (RequestId.name s)
  | clientCapabilities (c : ClientCapabilities) (h : ∀ v, c.experimental = some v → v.IsObject) :
      Built nulls c
  | serverCapabilities (c : ServerCapabilities) (h : ∀ v, c.experimental = some v → v.IsObject) :
      Built nulls c
  | initializeParams (rootUri : Option Uri) {c : ClientCapabilities} (h : Built nulls c) :
      Built nulls (InitializeParams.new rootUri c)
  | withProcessId {p : InitializeParams} (h : Built nulls p) (id : UInt32) : Built nulls (p.withProcessId id)
  | withInitializationOptions {p : InitializeParams} (h : Built nulls p) {v : Json} (hv : v.IsObject) :
      Built nulls (p.withOptions v)
  | withTrace {p : InitializeParams} (h : Built nulls p) (trace : String) : Built nulls (p.withTrace trace)
  | initializeResult {c : ServerCapabilities} (h : Built nulls c) :
      Built nulls ({ capabilities := c } : InitializeResult)
  | command (title command : String) : Built nulls (Command.new title command)
  | withArguments {c : Command} (h : Built nulls c) {vs : List Json} (hv : ∀ v ∈ vs, v.Ordered) :
      Built nulls (c.withArguments vs)
  | executeCommand (command : String) : Built nulls (ExecuteCommandParams.new command)
  | withCommandArguments {p : ExecuteCommandParams} (h : Built nulls p) {vs : List Json}
      (hv : ∀ v ∈ vs, v.Ordered) : Built nulls (p.withArguments vs)
  | ofCommand {c : Command} (h : Built nulls c) : Built nulls (ExecuteCommandParams.ofCommand c)
  | codeLens (range : Range) : Built nulls (CodeLens.new range)
  | withCommand {l : CodeLens} (h : Built nulls l) {c : Command} (hc : Built nulls c) :
      Built nulls (l.withCommand c)
  | withLensData {l : CodeLens} (h : Built nulls l) {v : Json} (hv : v.IsData nulls) :
      Built nulls (l.withData v)
  | registration (id method : String) : Built nulls (Registration.new id method)
  | withRegisterOptions {r : Registration} (h : Built nulls r) {v : Json} (hv : v.IsObject) :
      Built nulls (r.withOptions v)
  | registrations {rs : List Registration} (h : Built nulls rs) :
      Built nulls ({ registrations := rs } : RegistrationParams)
  | configuration {v : Json} (h : v.Ordered) : Built nulls ({ settings := v } : DidChangeConfigurationParams)
  | workspaceEdit : Built nulls ({} : WorkspaceEdit)
  | ofDocumentChanges (edits : List TextDocumentEdit) : Built nulls (WorkspaceEdit.ofDocumentChanges edits)
  | addChanges {e : WorkspaceEdit} (h : Built nulls e) (uri : Uri) (edits : List TextEdit) :
      Built nulls (e.addChanges uri edits)
  | applyEdit {e : WorkspaceEdit} (h : Built nulls e) : Built nulls (ApplyWorkspaceEditParams.new e)
  | withLabel {p : ApplyWorkspaceEditParams} (h : Built nulls p) (label : String) :
      Built nulls (p.withLabel label)
  | cancel {id : RequestId} (h : Built nulls id) : Built nulls ({ id } : CancelParams)
  | request {id : RequestId} (h : Built nulls id) (method : String) : Built nulls ({ id, method } : Request)
  | withRequestParams {r : Request} (h : Built nulls r) {v : Json} (hv : v.IsObject) :
      Built nulls { r with params := some v }
  | notification (method : String) : Built nulls ({ method } : Notification)
  | withNotificationParams {n : Notification} (h : Built nulls n) {v : Json} (hv : v.IsObject) :
      Built nulls { n with params := some v }
  | error (code : ErrorCode) (message : String) : Built nulls (ResponseError.new code message)
  | withErrorData {e : ResponseError} (h : Built nulls e) {v : Json} (hv : v.IsData nulls) :
      Built nulls (e.withData v)
  | ofException {e : Exception} (h : ∀ v, e.data = some v → v.IsData nulls) :
      Built nulls (ResponseError.ofException e)
  | response {id : Option RequestId} (h : Built nulls id) : Built nulls ({ id } : Response)
  | success {id : Option RequestId} (h : Built nulls id) {v : Json} (hv : (Outcome.result v).IsReadable) :
      Built nulls (Response.success id v)
  | failure {id : Option RequestId} (h : Built nulls id) {e : ResponseError} (he : Built nulls e) :
      Built nulls (Response.failure id e)
  | setResult {r : Response} (h : Built nulls r) {v : Json} (hv : (Outcome.result v).IsReadable) :
      Built nulls (r.setResult v)
  | setError {r : Response} (h : Built nulls r) {e : ResponseError} (he : Built nulls e) :
      Built nulls (r.setError e)

/-! ### Answers -/

namespace Response

variable {nulls : Bool} {id : Option RequestId}

theorem sound_id (h : Sound nulls id) : (Schema.nullable .requestId).Sound nulls id := by
  cases id <;> exact h

theorem sound_success {v : Json} (hid : (Schema.nullable .requestId).Sound nulls id)
    (hv : (Outcome.result v).IsReadable) : Sound nulls (success id v) := by
  refine ⟨hid, ?_, nofun, trivial⟩
  rintro _ ⟨⟩
  exact hv

theorem sound_failure {e : ResponseError} (hid : (Schema.nullable .requestId).Sound nulls id)
    (he : Sound nulls e) : Sound nulls (failure id e) := by
  refine ⟨hid, nofun, ?_, trivial⟩
  rintro _ ⟨⟩
  exact he

end Response

/-! ### What is built is sound -/

namespace Built

variable {nulls : Bool}

theorem sound {α : Type} [Content α] {x : α} (h : Built nulls x) : Sound nulls x := by
  -- A builder puts one field in place, and the others are sound as they were.
  induction h with
  | closed h x => exact Schema.sound_of_isClosed _ h _
  | json h => exact h
  | list h ih =>
    intro y hy
    obtain ⟨x, hx, rfl⟩ := List.mem_map.mp hy
    exact ih x hx
  | none => nofun
  | some hnull h ih =>
    rintro _ ⟨⟩
    exact ⟨ih, Schema.encode_ne_null hnull _⟩
  | number n => nofun
  | name s => nofun
  | clientCapabilities c h =>
    iterate 2 refine ⟨Slot.sound_given_of_isClosed (by decide), ?_⟩
    exact ⟨fun v hv => ⟨h v hv, nofun⟩, trivial⟩
  | serverCapabilities c h =>
    iterate 17 refine ⟨Slot.sound_given_of_isClosed (by decide), ?_⟩
    exact ⟨fun v hv => ⟨h v hv, nofun⟩, trivial⟩
  | initializeParams rootUri h ih => exact ⟨trivial, trivial, ih, nofun, nofun, trivial⟩
  | withProcessId h id ih =>
    obtain ⟨-, hroot, hcapabilities, hoptions, htrace, -⟩ := ih
    exact ⟨trivial, hroot, hcapabilities, hoptions, htrace, trivial⟩
  | withInitializationOptions h hv ih =>
    obtain ⟨hprocess, hroot, hcapabilities, -, htrace, -⟩ := ih
    exact ⟨hprocess, hroot, hcapabilities, Slot.sound_given hv nofun, htrace, trivial⟩
  | withTrace h trace ih =>
    obtain ⟨hprocess, hroot, hcapabilities, hoptions, -⟩ := ih
    exact ⟨hprocess, hroot, hcapabilities, hoptions, Slot.sound_given trivial nofun, trivial⟩
  | initializeResult h ih => exact ⟨ih, trivial⟩
  | command title command => exact ⟨trivial, trivial, nofun, trivial⟩
  | withArguments h hv ih => exact ⟨trivial, trivial, Slot.sound_given hv nofun, trivial⟩
  | executeCommand command => exact ⟨trivial, nofun, trivial⟩
  | withCommandArguments h hv ih => exact ⟨trivial, Slot.sound_given hv nofun, trivial⟩
  | ofCommand h ih =>
    obtain ⟨-, -, harguments⟩ := ih
    exact ⟨trivial, harguments⟩
  | codeLens range => exact ⟨Schema.sound_of_isClosed _ (by decide) _, nofun, nofun, trivial⟩
  | withCommand h hc ih ihc =>
    obtain ⟨hrange, -, hdata⟩ := ih
    exact ⟨hrange, Slot.sound_given ihc nofun, hdata⟩
  | withLensData h hv ih =>
    obtain ⟨hrange, hcommand, -⟩ := ih
    obtain ⟨hdata, hnull⟩ := Slot.sound_free_of_isData hv
    exact ⟨hrange, hcommand, Slot.sound_given hdata hnull, trivial⟩
  | registration id method => exact ⟨trivial, trivial, nofun, trivial⟩
  | withRegisterOptions h hv ih =>
    obtain ⟨hid, hmethod, -⟩ := ih
    exact ⟨hid, hmethod, Slot.sound_given hv nofun, trivial⟩
  | registrations h ih => exact ⟨ih, trivial⟩
  | configuration h => exact ⟨h, trivial⟩
  | workspaceEdit => exact WorkspaceEdit.sound_iff.mpr nofun
  | ofDocumentChanges edits => exact WorkspaceEdit.sound_iff.mpr nofun
  | addChanges h uri edits ih => exact WorkspaceEdit.sound_addChanges ih uri edits
  | applyEdit h ih => exact ⟨nofun, ih, trivial⟩
  | withLabel h label ih =>
    obtain ⟨-, hedit, -⟩ := ih
    exact ⟨Slot.sound_given trivial nofun, hedit, trivial⟩
  | cancel h ih => exact ⟨ih, trivial⟩
  | request h method ih => exact ⟨ih, trivial, nofun, trivial⟩
  | withRequestParams h hv ih =>
    obtain ⟨hid, hmethod, -⟩ := ih
    exact ⟨hid, hmethod, Slot.sound_given hv nofun, trivial⟩
  | notification method => exact ⟨trivial, nofun, trivial⟩
  | withNotificationParams h hv ih => exact ⟨trivial, Slot.sound_given hv nofun, trivial⟩
  | error code message => exact ⟨trivial, trivial, nofun, trivial⟩
  | withErrorData h hv ih =>
    obtain ⟨hdata, hnull⟩ := Slot.sound_free_of_isData hv
    exact ⟨trivial, trivial, Slot.sound_given hdata hnull, trivial⟩
  | ofException h => exact ⟨trivial, trivial, fun v hv => Slot.sound_free_of_isData (h v hv), trivial⟩
  | response h ih => exact ⟨Response.sound_id ih, nofun, nofun, trivial⟩
  | success h hv ih => exact Response.sound_success (Response.sound_id ih) hv
  | failure h he ih ihe => exact Response.sound_failure (Response.sound_id ih) ihe
  | setResult h hv ih => exact Response.sound_success ih.1 hv
  | setError h he ih ihe => exact Response.sound_failure ih.1 ihe

end Built

namespace Content

/-- The check finds nothing in what is built, and it reads back, unless null was given as data. -/
theorem read_toJson_of_built {nulls : Bool} {α : Type} [Content α] {x : α} (h : Built nulls x) :
    fault? α (toJson x) = none ∧ (nulls = false → read α (toJson x) = .ok x) :=
  read_toJson_of_sound h.sound

/-- A lens with a command and data. -/
theorem read_toJson_of_built_lens :
    let command := (Command.new "Run" "run").withArguments [.int 1, .null]
    let lens := ((CodeLens.new (.point ⟨0, 4⟩)).withCommand command).withData (.obj [("id", .int 7)])
    Built false lens ∧ fault? CodeLens (toJson lens) = none ∧ read CodeLens (toJson lens) = .ok lens := by
  intro command lens
  have hdata : (Json.obj [("id", .int 7)]).IsData false := by
    refine ⟨⟨List.pairwise_singleton _ _, trivial, trivial⟩, fun h => ?_⟩
    cases h
  have hcommand : Built false command := .withArguments (.command _ _) (by simp [Json.int])
  have hlens : Built false lens := .withLensData (.withCommand (.codeLens _) hcommand) hdata
  obtain ⟨hfault, hread⟩ := read_toJson_of_built hlens
  exact ⟨hlens, hfault, hread rfl⟩

/-- Options that are no object are taken by the builder and refused by the check. -/
theorem fault?_withOptions_number :
    let r := (Registration.new "a" "m").withOptions (.int 5)
    fault? Registration (toJson r) =
      some (.invalid "Registration" (.wrongProperty "registerOptions" ["object"])) :=
  rfl

end Content

end LanguageServer
