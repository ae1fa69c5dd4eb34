import LanguageServer.Proofs.Outbox.Operation
import LanguageServer.Proofs.RequestId
import Mathlib.Data.List.Basic

/-! Requests and the responses to them. How an outbox stands to the requests that it sent and the responses
    that it took since it was empty. The ids are counted out from zero, and the callbacks that wait are
    those of the requests without a response, each under the text of its id (`Correlated`). An operation
    keeps this as long as the count of requests fits a word of 64 bits (`Correlated.apply`): until then a
    new id never has the text of an older one, so no callback takes the place of another. -/

namespace LanguageServer.Outbox

variable {ρ : Type} {o : Outbox ρ} {asked : List (RequestId × Callback ρ)} {taken : List (Response × ρ)}

/-- The texts of the ids of the responses that were taken. -/
def answered (taken : List (Response × ρ)) : List (Option String) := taken.map (·.1.idText?)

/-- The outbox sent the requests and took the responses, the first first in both lists. -/
structure Correlated (o : Outbox ρ) (asked : List (RequestId × Callback ρ))
    (taken : List (Response × ρ)) : Prop where
  /-- The count of requests, in a word of 64 bits. -/
  next : o.next = UInt64.ofNat asked.length
  ids : asked.map (·.1) = (List.range asked.length).map .counted
  /-- The callbacks of the requests that are not answered wait in the order of the requests. -/
  pending : o.pending = (asked.map fun a => (a.1.text, a.2)).filter fun w => some w.1 ∉ answered taken
  /-- A response that was taken answers a request, and its callback gave what was given for it. -/
  own : ∀ t ∈ taken, ∃ a ∈ asked, t.1.idText? = some a.1.text ∧ t.2 = a.2 t.1
  /-- No request was answered twice. -/
  once : (answered taken).Nodup

theorem correlated_empty : Correlated (.empty : Outbox ρ) [] [] :=
  ⟨rfl, rfl, rfl, nofun, List.nodup_nil⟩

namespace Correlated

theorem nextId (h : Correlated o asked taken) : o.nextId = .counted asked.length := by
  rw [Outbox.nextId, h.next, RequestId.counted]

theorem texts (h : Correlated o asked taken) :
    asked.map (·.1.text) = (List.range asked.length).map fun k => (RequestId.counted k).text := by
  have hmap := congrArg (List.map RequestId.text) h.ids
  simpa only [List.map_map, Function.comp_def] using hmap

theorem nodup_texts (h : Correlated o asked taken) (hroom : asked.length ≤ UInt64.size) :
    (asked.map (·.1.text)).Nodup := by
  rw [h.texts]
  refine List.Nodup.map_on (fun j hj k hk heq => ?_) List.nodup_range
  rw [List.mem_range] at hj hk
  exact RequestId.eq_of_text_counted (by omega) (by omega) heq

/-- The next request is given an id whose text no request had before. -/
theorem nextId_notMem (h : Correlated o asked taken) (hroom : asked.length < UInt64.size) :
    o.nextId.text ∉ asked.map (·.1.text) := by
  rw [h.texts, h.nextId]
  intro hmem
  obtain ⟨k, hk, heq⟩ := List.mem_map.mp hmem
  rw [List.mem_range] at hk
  have hlast := RequestId.eq_of_text_counted (by omega) hroom heq
  omega

/-! ### The callbacks that wait -/

theorem mem_pending_iff (h : Correlated o asked taken) {key : String} {callback : Callback ρ} :
    (key, callback) ∈ o.pending ↔
      ∃ a ∈ asked, a.1.text = key ∧ a.2 = callback ∧ some key ∉ answered taken := by
  rw [h.pending, List.mem_filter, List.mem_map, decide_eq_true_eq]
  constructor
  · rintro ⟨⟨a, ha, heq⟩, hopen⟩
    exact ⟨a, ha, congrArg Prod.fst heq, congrArg Prod.snd heq, hopen⟩
  · rintro ⟨a, ha, rfl, rfl, hopen⟩
    exact ⟨⟨a, ha, rfl⟩, hopen⟩

/-- Callbacks wait under the texts of the requests that are not answered. -/
theorem keys_eq (h : Correlated o asked taken) :
    o.keys = (asked.map (·.1.text)).filter (some · ∉ answered taken) := by
  rw [keys, h.pending, List.filter_map, List.map_map, List.filter_map]
  rfl

theorem mem_keys_iff (h : Correlated o asked taken) {key : String} :
    key ∈ o.keys ↔ key ∈ asked.map (·.1.text) ∧ some key ∉ answered taken := by
  rw [h.keys_eq, List.mem_filter, decide_eq_true_eq]

/-- A text under which no request was sent has no callback. -/
theorem filter_pending (h : Correlated o asked taken) {key : String} (hkey : key ∉ asked.map (·.1.text)) :
    o.pending.filter (fun w => w.1 ≠ key) = o.pending := by
  refine List.filter_eq_self.mpr fun w hw => decide_eq_true fun heq => hkey ?_
  have hmem : w.1 ∈ o.keys := List.mem_map.mpr ⟨w, hw, rfl⟩
  exact heq ▸ (h.mem_keys_iff.mp hmem).1

theorem nodup_keys (h : Correlated o asked taken) (hroom : asked.length ≤ UInt64.size) : o.keys.Nodup := by
  rw [h.keys_eq]
  exact (h.nodup_texts hroom).filter _

theorem exists_of_mem_answered (h : Correlated o asked taken) {id : Option String}
    (hid : id ∈ answered taken) : ∃ key ∈ asked.map (·.1.text), some key = id := by
  obtain ⟨t, ht, rfl⟩ := List.mem_map.mp hid
  obtain ⟨a, ha, hown, -⟩ := h.own t ht
  exact ⟨a.1.text, List.mem_map.mpr ⟨a, ha, rfl⟩, hown.symm⟩

/-- Every request either waits for its response or took one. -/
theorem length_pending (h : Correlated o asked taken) (hroom : asked.length ≤ UInt64.size) :
    o.pending.length + taken.length = asked.length := by
  have htexts := h.nodup_texts hroom
  have hdone :
      (((asked.map (·.1.text)).filter (some · ∈ answered taken)).map some).Perm (answered taken) := by
    refine (List.perm_ext_iff_of_nodup ((htexts.filter _).map fun _ _ => Option.some.inj) h.once).mpr ?_
    intro id
    simp only [List.mem_map, List.mem_filter, decide_eq_true_eq]
    constructor
    · rintro ⟨key, ⟨-, hkey⟩, rfl⟩
      exact hkey
    · intro hid
      obtain ⟨key, hkey, rfl⟩ := h.exists_of_mem_answered hid
      exact ⟨key, ⟨List.mem_map.mp hkey, hid⟩, rfl⟩
  have hopen := congrArg List.length h.keys_eq
  have hclosed := hdone.length_eq
  have hsplit :=
    List.length_eq_length_filter_add (l := asked.map (·.1.text)) (some · ∉ answered taken)
  simp only [decide_not, Bool.not_not] at hsplit hopen
  rw [keys, List.length_map] at hopen
  rw [List.length_map, answered, List.length_map, ← answered] at hclosed
  rw [List.length_map] at hsplit
  omega

/-! ### What an operation keeps -/

/-- A response either finds the callback of a request that is not answered, or no callback. -/
theorem handle_cases (h : Correlated o asked taken) (hroom : asked.length ≤ UInt64.size) (r : Response) :
    o.handle r = (none, o) ∨
      ∃ a ∈ asked, r.idText? = some a.1.text ∧ some a.1.text ∉ answered taken ∧
        o.handle r =
          (some (a.2 r), { o with pending := o.pending.filter (fun w => w.1 ≠ a.1.text) }) := by
  by_cases hkey : ∃ key, r.idText? = some key ∧ key ∈ o.keys
  · obtain ⟨key, hid, hmem⟩ := hkey
    obtain ⟨w, hw, rfl⟩ := List.mem_map.mp hmem
    obtain ⟨a, ha, hkey, hcallback, hopen⟩ := h.mem_pending_iff.mp hw
    have hwaits := (waiting?_eq_some_iff (h.nodup_keys hroom)).mpr hw
    rw [← hkey] at hid hwaits hopen
    refine Or.inr ⟨a, ha, hid, hopen, ?_⟩
    rw [handle_of_waiting hid hwaits, hcallback]
  · refine Or.inl (handle_of_unknown fun key hid hmem => hkey ⟨key, hid, hmem⟩)

theorem pushRequest (h : Correlated o asked taken) (hroom : asked.length < UInt64.size) (method : String)
    (params : Option Json) (callback : Callback ρ) :
    Correlated (o.pushRequest method params callback).2 (asked ++ [(o.nextId, callback)]) taken where
  next := by
    show o.next + 1 = UInt64.ofNat (asked ++ [(o.nextId, callback)]).length
    rw [h.next, List.length_append, UInt64.ofNat_add]
    rfl
  ids := by
    rw [List.map_append, h.ids, List.length_append, List.length_singleton, List.range_succ,
      List.map_append, List.map_singleton, List.map_singleton, h.nextId]
  pending := by
    have hnew := h.nextId_notMem hroom
    have hopen : some o.nextId.text ∉ answered taken := fun hmem => by
      obtain ⟨key, hkey, heq⟩ := h.exists_of_mem_answered hmem
      exact hnew (Option.some.inj heq ▸ hkey)
    rw [List.map_append, List.filter_append, ← h.pending, List.map_singleton,
      List.filter_singleton, decide_eq_true hopen]
    exact congrArg (· ++ [(o.nextId.text, callback)]) (h.filter_pending hnew)
  own t ht := by
    obtain ⟨a, ha, hown⟩ := h.own t ht
    exact ⟨a, List.mem_append_left _ ha, hown⟩
  once := h.once

theorem handle (h : Correlated o asked taken) (hroom : asked.length ≤ UInt64.size) (r : Response) :
    Correlated (o.handle r).2 asked (taken ++ ((o.handle r).1.map (r, ·)).toList) := by
  rcases h.handle_cases hroom r with hr | ⟨a, ha, hid, hopen, hr⟩
  · rw [hr]
    simpa using h
  · have hanswered : answered (taken ++ [(r, a.2 r)]) = answered taken ++ [some a.1.text] := by
      simp [answered, hid]
    rw [hr]
    refine ⟨h.next, h.ids, ?_, fun t ht => ?_, ?_⟩
    · show o.pending.filter _ = _
      rw [h.pending, List.filter_filter, Option.map_some, Option.toList_some, hanswered]
      refine List.filter_congr fun w _ => ?_
      simp [Bool.and_comm]
    · rcases List.mem_append.mp ht with ht | ht
      · exact h.own t ht
      · rw [List.mem_singleton.mp ht]
        exact ⟨a, ha, hid, rfl⟩
    · rw [Option.map_some, Option.toList_some, hanswered]
      exact List.nodup_append.mpr ⟨h.once, List.nodup_singleton _, fun x hx y hy heq => by
        rw [List.mem_singleton.mp hy] at heq
        exact hopen (heq ▸ hx)⟩

/-- An operation keeps the correlation, with what it asks and what it takes. -/
theorem apply (h : Correlated o asked taken) (op : Operation ρ)
    (hroom : (asked ++ op.asks o).length ≤ UInt64.size) :
    Correlated (op.apply o) (asked ++ op.asks o) (taken ++ op.takes o) := by
  cases op with
  | pushRequest method params callback =>
    have hroom : asked.length < UInt64.size := by
      rw [Operation.asks, List.length_append, List.length_singleton] at hroom
      exact hroom
    simp only [Operation.takes, List.append_nil]
    exact h.pushRequest hroom method params callback
  | handle r =>
    have hroom : asked.length ≤ UInt64.size := by simpa using hroom
    simpa using h.handle hroom r
  | flush =>
    simp only [Operation.apply, Operation.asks, Operation.takes, flush_eq, List.append_nil]
    exact ⟨h.next, h.ids, h.pending, h.own, h.once⟩
  | pushResponse r | pushNotification n =>
    simp only [Operation.apply, Operation.asks, Operation.takes, List.append_nil]
    exact ⟨h.next, h.ids, h.pending, h.own, h.once⟩

end Correlated

/-! ### What the correlation says -/

/-- How the requests that were sent and the responses that come are matched. -/
structure Matched (o : Outbox ρ) (asked : List (RequestId × Callback ρ)) (taken : List (Response × ρ)) :
    Prop where
  /-- The id of a request is the number of those before it, as a word of 64 bits read with a sign. -/
  ids : ∀ k (h : k < asked.length), asked[k].1 = .number (UInt64.ofNat k).toInt64
  distinct : (asked.map (·.1)).Nodup
  /-- Callbacks wait under the texts of the ids that were sent and that no response that was taken had. -/
  waiting : ∀ key, key ∈ o.keys ↔ key ∈ asked.map (·.1.text) ∧ ∀ t ∈ taken, t.1.idText? ≠ some key
  keys : o.keys.Nodup
  /-- The callback of the next request takes the place of none that waits. -/
  next : ∀ method params callback,
    (o.pushRequest method params callback).2.pending = o.pending ++ [(o.nextId.text, callback)]
  count : o.pending.length = asked.length - taken.length ∧ taken.length ≤ asked.length
  /-- A response is taken just when a callback waits under the text of its id. -/
  taken_iff : ∀ r, (o.handle r).1.isSome = true ↔ ∃ key ∈ o.keys, r.idText? = some key
  /-- It is then given to the callback of the request with this id, which waits no more. -/
  given : ∀ a ∈ asked, a.1.text ∈ o.keys → ∀ r, r.idText? = some a.1.text →
    o.handle r = (some (a.2 r), { o with pending := o.pending.filter (fun w => w.1 ≠ a.1.text) })
  /-- A response that is not taken changes nothing; one without an id never is. -/
  refused : ∀ r, (o.handle r).1 = none ∨ r.id = none → o.handle r = (none, o)
  /-- Every response that was taken went to the callback of the request that it answers. -/
  own : ∀ t ∈ taken, ∃ a ∈ asked, t.1.idText? = some a.1.text ∧ t.2 = a.2 t.1
  /-- No callback was called twice. -/
  once : (taken.map (·.1.idText?)).Nodup
  /-- A number and the string of its decimal digits are one id. -/
  alike : ∀ (n : Int64) (outcome : Option Outcome),
    let r : Response := { id := some (.number n), outcome }
    let r' : Response := { id := some (.name (toString n.toInt)), outcome }
    (o.handle r).2 = (o.handle r').2 ∧ o.handleEvents r = o.handleEvents r' ∧
      ∃ callback? : Option (Callback ρ),
        (o.handle r).1 = callback?.map (· r) ∧ (o.handle r').1 = callback?.map (· r')

theorem Correlated.matched (h : Correlated o asked taken) (hroom : asked.length < UInt64.size) :
    Matched o asked taken where
  ids k hk := by
    have hget := congrArg (·[k]?) h.ids
    simpa [hk, RequestId.counted] using hget
  distinct := by
    have htexts := h.nodup_texts (Nat.le_of_lt hroom)
    rw [← Function.comp_def RequestId.text, ← List.map_map] at htexts
    exact htexts.of_map
  waiting key := by
    rw [h.mem_keys_iff, answered, List.mem_map]
    simp
  keys := h.nodup_keys (Nat.le_of_lt hroom)
  next method params callback :=
    congrArg (· ++ [(o.nextId.text, callback)]) (h.filter_pending (h.nextId_notMem hroom))
  count := by
    have hlength := h.length_pending (Nat.le_of_lt hroom)
    omega
  taken_iff r := isSome_handle_iff
  given a ha hkey r hid := by
    rcases h.handle_cases (Nat.le_of_lt hroom) r with hr | ⟨b, hb, hid', -, hr⟩
    · have htaken : (o.handle r).1.isSome = true := isSome_handle_iff.mpr ⟨_, hkey, hid⟩
      rw [hr] at htaken
      cases htaken
    · have htext : a.1.text = b.1.text := Option.some.inj (hid.symm.trans hid')
      have hsame : a = b :=
        List.inj_on_of_nodup_map (h.nodup_texts (Nat.le_of_lt hroom)) ha hb htext
      rw [hr, hsame]
  refused r hr := by
    rcases hr with hr | hr
    · exact handle_eq_of_none hr
    · refine handle_of_unknown fun key hid => ?_
      rw [Response.idText?, hr] at hid
      cases hid
  own := h.own
  once := h.once
  alike n outcome := by
    intro r r'
    have hid : r.idText? = r'.idText? := congrArg some (RequestId.text_number n)
    obtain ⟨hout, hanswer⟩ := handle_alike (o := o) hid
    exact ⟨hout, handleEvents_alike hid rfl, hanswer⟩

end LanguageServer.Outbox
