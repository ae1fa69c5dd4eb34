import LanguageServer.Outbox
import Mathlib.Data.List.Nodup

/-! What the operations of an outbox do to it. Answering appends responses to their queue and leaves the
    other queues and the count of requests as they are, and no callback begins to wait by it. Delivering
    gives everything that is queued to the sink in one order, empties the queues and touches nothing else. A
    response is taken by the callback that waits under its text, and by no other. -/

namespace LanguageServer.Outbox

variable {ρ : Type} {o : Outbox ρ} {r : Response}

/-- The second outbox is the first with some responses appended. A callback may have been called, so fewer
    may wait, and nothing else differs. -/
structure Answers (o o' : Outbox ρ) (answers : List Response) : Prop where
  responses : o'.responses = o.responses ++ answers
  notifications : o'.notifications = o.notifications
  requests : o'.requests = o.requests
  next : o'.next = o.next
  pending : o'.pending.Sublist o.pending

theorem Answers.refl : o.Answers o [] :=
  ⟨(List.append_nil _).symm, rfl, rfl, rfl, List.Sublist.refl _⟩

theorem Answers.trans {o' o'' : Outbox ρ} {answers answers' : List Response} (h : o.Answers o' answers)
    (h' : o'.Answers o'' answers') : o.Answers o'' (answers ++ answers') where
  responses := by rw [h'.responses, h.responses, List.append_assoc]
  notifications := h'.notifications.trans h.notifications
  requests := h'.requests.trans h.requests
  next := h'.next.trans h.next
  pending := h'.pending.trans h.pending

theorem answers_pushResponse : o.Answers (o.pushResponse r) [r] :=
  ⟨rfl, rfl, rfl, rfl, List.Sublist.refl _⟩

/-- A response that is taken adds nothing. -/
theorem answers_handle : o.Answers (o.handle r).2 [] := by
  unfold handle
  split
  · exact Answers.refl
  · split
    · exact Answers.refl
    · exact ⟨(List.append_nil _).symm, rfl, rfl, rfl, List.filter_sublist⟩

/-! ### Delivering -/

theorem length_queued : o.queued.length = o.size := by
  simp [queued, size, Nat.add_assoc]

theorem isEmpty_queued : o.queued.isEmpty = o.isEmpty := by
  obtain ⟨responses, notifications, requests, next, pending⟩ := o
  cases responses <;> cases notifications <;> cases requests <;> rfl

/-- A sink takes what is queued, message by message. -/
theorem deliver_eq {κ : Type} {sink : κ → Message → κ} {k : κ} :
    o.deliver sink k =
      (o.queued.length, o.queued.foldl sink k,
        { o with responses := [], notifications := [], requests := [] }) := by
  rw [length_queued, queued, List.foldl_append, List.foldl_append, List.foldl_map, List.foldl_map,
    List.foldl_map]
  rfl

theorem flush_eq :
    o.flush = (o.queued, { o with responses := [], notifications := [], requests := [] }) := by
  have happend : ∀ messages : List Message,
      o.queued.foldl (fun ms m => ms ++ [m]) messages = messages ++ o.queued := by
    induction o.queued with
    | nil => simp
    | cons m rest ih => simp [ih]
  rw [flush, deliver_eq, happend, List.nil_append]

/-! ### Waiting callbacks -/

/-- The texts of the ids under which callbacks wait. -/
def keys (o : Outbox ρ) : List String := o.pending.map (·.1)

theorem waiting?_eq_none_iff {key : String} : o.waiting? key = none ↔ key ∉ o.keys := by
  rw [keys, waiting?, Option.map_eq_none_iff, List.find?_eq_none]
  simp only [decide_eq_true_eq, List.mem_map, not_exists, not_and]

theorem waiting?_eq_some_iff (h : o.keys.Nodup) {key : String} {callback : Callback ρ} :
    o.waiting? key = some callback ↔ (key, callback) ∈ o.pending := by
  rw [waiting?, Option.map_eq_some_iff]
  constructor
  · rintro ⟨w, hw, rfl⟩
    have hkey : w.1 = key := by simpa using List.find?_some hw
    exact hkey ▸ List.mem_of_find?_eq_some hw
  · intro hmem
    have hfound : (o.pending.find? (·.1 = key)).isSome = true :=
      List.find?_isSome.mpr ⟨_, hmem, decide_eq_true rfl⟩
    obtain ⟨w, hw⟩ := Option.isSome_iff_exists.mp hfound
    have hkey : w.1 = key := by simpa using List.find?_some hw
    have heq : w = (key, callback) :=
      List.inj_on_of_nodup_map h (List.mem_of_find?_eq_some hw) hmem hkey
    exact ⟨w, hw, congrArg Prod.snd heq⟩

/-- A response without an id, or with an id under which no callback waits, is not taken. -/
theorem handle_of_unknown (h : ∀ key, r.idText? = some key → key ∉ o.keys) :
    o.handle r = (none, o) := by
  unfold handle
  split
  · rfl
  · rename_i key hkey
    rw [waiting?_eq_none_iff.mpr (h key hkey)]

theorem handle_of_waiting {key : String} {callback : Callback ρ} (hkey : r.idText? = some key)
    (h : o.waiting? key = some callback) :
    o.handle r =
      (some (callback r), { o with pending := o.pending.filter (fun w => w.1 ≠ key) }) := by
  rw [handle, hkey]
  simp only [h]

theorem exists_waiting {key : String} (h : key ∈ o.keys) : ∃ callback, o.waiting? key = some callback :=
  Option.ne_none_iff_exists'.mp fun hnone => waiting?_eq_none_iff.mp hnone h

theorem isSome_handle_iff :
    (o.handle r).1.isSome = true ↔ ∃ key ∈ o.keys, r.idText? = some key := by
  constructor
  · intro h
    by_contra hnone
    rw [handle_of_unknown fun key hid hmem => hnone ⟨key, hmem, hid⟩] at h
    cases h
  · rintro ⟨key, hmem, hid⟩
    obtain ⟨callback, hw⟩ := exists_waiting hmem
    rw [handle_of_waiting hid hw]
    rfl

theorem handle_eq_of_none (h : (o.handle r).1 = none) : o.handle r = (none, o) := by
  refine handle_of_unknown fun key hid hmem => ?_
  have htaken : (o.handle r).1.isSome = true := isSome_handle_iff.mpr ⟨key, hmem, hid⟩
  rw [h] at htaken
  cases htaken

/-! ### Responses under one id -/

theorem handle_answer : (o.handle r).1 = (r.idText?.bind o.waiting?).map (· r) := by
  unfold handle
  split
  · rename_i hid
    rw [hid]
    rfl
  · rename_i key hid
    rw [hid, Option.bind_some]
    split
    · rename_i hw
      rw [hw]
      rfl
    · rename_i hw
      rw [hw]
      rfl

/-- Responses whose ids have one text are given to one callback, if one waits, and they leave one outbox
    behind. -/
theorem handle_alike {r' : Response} (h : r.idText? = r'.idText?) :
    (o.handle r).2 = (o.handle r').2 ∧
      ∃ callback? : Option (Callback ρ),
        (o.handle r).1 = callback?.map (· r) ∧ (o.handle r').1 = callback?.map (· r') := by
  refine ⟨?_, r.idText?.bind o.waiting?, handle_answer, h ▸ handle_answer⟩
  unfold handle
  rw [← h]
  split
  · rfl
  · split
    · rfl
    · rfl

theorem handleEvents_alike {r' : Response} (h : r.idText? = r'.idText?) (he : r.error? = r'.error?) :
    o.handleEvents r = o.handleEvents r' := by
  rw [handleEvents, handleEvents, h, he]

end LanguageServer.Outbox
