import LanguageServer.Proofs.Dispatch.Answers
import LanguageServer.Proofs.Json.Writer
import LanguageServer.Proofs.Message.Parts

/-! Kinds of messages by their forms. The kind of a message shows in the keys of the value (`classify`), and
    the form of each kind can be held against a value on its own. The forms of requests and of notifications
    take just the values that are read as messages of these kinds. The form of responses does not look at
    the method: it takes every response, and besides objects with a method, which no response has
    (`Message.forms_agree`). -/

namespace LanguageServer

open Content

variable {v : Json} {raw : String} {r : Request} {n : Notification} {answer : Response}

/-- The form of the kind takes the value, whatever kind its keys show. -/
def MessageKind.takes (v : Json) : MessageKind → Bool
  | .request => (fault? Request v).isNone
  | .notification => (fault? Notification v).isNone
  | .response => (fault? Response v).isNone
  | .unknown => false

/-! ### What is read as a form, and as a message -/

namespace Message

theorem ofJson_request_iff : ofJson v = .ok (.request r) ↔ read Request v = .ok r := by
  refine ⟨fun h => ?_, ofJson_request⟩
  obtain ⟨-, -, -, -, hr⟩ := ofJson_inv h
  exact hr

theorem ofJson_notification_iff : ofJson v = .ok (.notification n) ↔ read Notification v = .ok n := by
  refine ⟨fun h => ?_, ofJson_notification⟩
  obtain ⟨-, -, -, -, hn⟩ := ofJson_inv h
  exact hn

theorem method_of_response (h : classify v = .response) : v.get? "method" = none := by
  unfold classify at h
  cases hm : v.get? "method" with
  | none => rfl
  | some method => cases hid : v.get? "id" <;> simp [hm, hid] at h

theorem ofJson_response_iff :
    ofJson v = .ok (.response answer) ↔ read Response v = .ok answer ∧ v.get? "method" = none := by
  constructor
  · intro h
    obtain ⟨-, -, -, hc, hr⟩ := ofJson_inv h
    exact ⟨hr, method_of_response hc⟩
  · rintro ⟨hr, hm⟩
    exact ofJson_response hr hm

theorem classify_of_ofJson {m : Message} (h : ofJson v = .ok m) : classify v = m.kind := by
  obtain ⟨-, -, -, hm⟩ := ofJson_inv h
  cases m <;> exact hm.1

end Message

/-! ### The kind that the keys show -/

/-- A form that takes a value is the form of the kind that its keys show, but for a response with a method. -/
theorem MessageKind.eq_classify_of_takes {k : MessageKind} (h : k.takes v)
    (hm : k = .response → v.get? "method" = none) : k = classify v := by
  cases k with
  | request =>
    obtain ⟨r, hr⟩ := fault?_isNone_iff.mp h
    exact (Message.classify_of_ofJson (Message.ofJson_request hr)).symm
  | notification =>
    obtain ⟨n, hn⟩ := fault?_isNone_iff.mp h
    exact (Message.classify_of_ofJson (Message.ofJson_notification hn)).symm
  | response =>
    obtain ⟨answer, hr⟩ := fault?_isNone_iff.mp h
    exact (Message.classify_of_ofJson (Message.ofJson_response hr (hm rfl))).symm
  | unknown => cases h

theorem MessageKind.takes_agree_iff :
    (∀ k : MessageKind, k.takes v → k = classify v) ↔
      (MessageKind.response.takes v → v.get? "method" = none) := by
  constructor
  · intro h hr
    exact Message.method_of_response (h _ hr).symm
  · intro h k hk
    refine eq_classify_of_takes hk ?_
    rintro rfl
    exact h hk

/-! ### Texts -/

theorem Content.readText_eq_ok_iff {α : Type} [Content α] {x : α} :
    readText α raw = .ok x ↔ ∃ v, Json.read raw = .ok v ∧ read α v = .ok x := by
  unfold readText
  cases Json.read raw <;> simp

theorem Message.parse_eq_ok_iff {m : Message} :
    parse raw = .ok m ↔ ∃ v, Json.read raw = .ok v ∧ ofJson v = .ok m := by
  refine ⟨read_of_parse, ?_⟩
  rintro ⟨v, hv, hm⟩
  exact (parse_of_read hv).trans hm

/-- A message is read back from its text if it is read from the value of the text. -/
theorem Message.parse_text_of_reread {m : Message}
    (h : (Json.reread 0 m.write).bind (fun v => (ofJson v).toOption) = some m) : parse m.text = .ok m := by
  obtain ⟨v, hv, hm⟩ := Option.bind_eq_some_iff.mp h
  exact parse_eq_ok_iff.mpr ⟨v, Json.read_compact_of_reread hv, Except.eq_ok_of_toOption hm⟩

/-- Of every value: the forms of requests and of notifications take just the messages of their kinds, the
    form of responses takes just those and objects with a method, and so a form takes no value of another
    kind unless the value has a method and is taken as a response. The same is told of every text. -/
theorem Message.forms_agree (v : Json) (raw : String) :
    ((∀ r, read Request v = .ok r ↔ ofJson v = .ok (.request r)) ∧
      (∀ n, read Notification v = .ok n ↔ ofJson v = .ok (.notification n)) ∧
      (∀ r, read Response v = .ok r ∧ v.get? "method" = none ↔ ofJson v = .ok (.response r)) ∧
      ((∀ k : MessageKind, k.takes v → k = classify v) ↔
        (MessageKind.response.takes v → v.get? "method" = none))) ∧
    (∀ r, readText Request raw = .ok r ↔ parse raw = .ok (.request r)) ∧
    (∀ n, readText Notification raw = .ok n ↔ parse raw = .ok (.notification n)) ∧
    ∀ r, (readText Response raw = .ok r ∧ ∀ v, Json.read raw = .ok v → v.get? "method" = none) ↔
      parse raw = .ok (.response r) := by
  refine ⟨?_, ?_⟩
  · exact ⟨fun _ => ofJson_request_iff.symm, fun _ => ofJson_notification_iff.symm,
      fun _ => ofJson_response_iff.symm, MessageKind.takes_agree_iff⟩
  · simp only [readText_eq_ok_iff, parse_eq_ok_iff, ofJson_request_iff, ofJson_notification_iff,
      ofJson_response_iff, implies_true, true_and]
    intro r
    constructor
    · rintro ⟨⟨v, hv, hr⟩, hm⟩
      exact ⟨v, hv, hr, hm v hv⟩
    · rintro ⟨v, hv, hr, hm⟩
      refine ⟨⟨v, hv, hr⟩, fun w hw => ?_⟩
      cases hv.symm.trans hw
      exact hm

/-- A request without params is taken as a response as well. With a number as its method it is taken as a
    response alone, and no message is read from it. -/
theorem Message.response_of_method :
    let call : Json := .obj [("id", .int 1), ("jsonrpc", .str "2.0"), ("method", .str "shutdown")]
    let raw := "\x7b\"jsonrpc\":\"2.0\",\"id\":1,\"method\":5\x7d"
    classify call = .request ∧ MessageKind.request.takes call ∧ MessageKind.response.takes call ∧
      readText Response raw = .ok { id := some (.number 1) } ∧
      parse raw = .error (.invalid "RequestMessage" (.wrongProperty "method" ["string"])) := by
  intro call raw
  refine ⟨rfl, by decide +kernel, by decide +kernel, Except.eq_ok_of_toOption (by decide +kernel), ?_⟩
  decide +kernel

end LanguageServer
