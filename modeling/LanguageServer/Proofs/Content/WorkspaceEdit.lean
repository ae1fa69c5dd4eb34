import LanguageServer.Content.WorkspaceEdit
import LanguageServer.Proofs.Schema.Construction
import Mathlib.Data.List.Induction

/-! Edits gathered for a workspace. A workspace edit is filled by calls, each with a document and some edits
    of it. What a history of calls leaves is told by the calls of each document alone: there are the texts
    of the documents as keys, each once, and under a key there are the edits of its document in the order of
    the calls (`Changes.Gathers`). One call keeps this, and the rest is an induction on the calls. So
    nothing is lost, calls for different documents can change places, and what is written is found in order
    by the check and reads back (`WorkspaceEdit.gather_lossless`). -/

namespace LanguageServer

open Content

/-! ### Changes by their keys -/

namespace Changes

/-- The changes come in the order of their keys, which are texts of URIs. -/
def InOrder (changes : Changes) : Prop :=
  changes.Pairwise (fun a b => a.1 < b.1) ∧ ∀ row ∈ changes, ∃ u, Uri.parse row.1 = .ok u

variable {key other : String} {edits others : List TextEdit} {changes : Changes}

theorem get?_of_lt (h : ∀ row ∈ changes, key < row.1) : get? key changes = none := by
  induction changes with
  | nil => rfl
  | cons row rest ih =>
    obtain ⟨hlt, hr⟩ := List.forall_mem_cons.mp h
    rw [get?, if_neg (String.ne_of_lt hlt).symm]
    exact ih hr

theorem get?_eq_some_iff (h : changes.Pairwise fun a b => a.1 < b.1) :
    get? key changes = some edits ↔ (key, edits) ∈ changes := by
  induction changes with
  | nil => simp [get?]
  | cons row rest ih =>
    obtain ⟨k, before⟩ := row
    obtain ⟨hk, hr⟩ := List.pairwise_cons.mp h
    rw [get?, List.mem_cons]
    split
    · rename_i he
      subst he
      constructor
      · rintro ⟨⟩
        exact Or.inl rfl
      · rintro (he | hm)
        · cases he
          rfl
        · exact absurd (hk _ hm) (String.lt_irrefl _)
    · rename_i hne
      rw [ih hr]
      exact ⟨Or.inr, fun hm => hm.resolve_left fun he => hne (congrArg Prod.fst he).symm⟩

theorem sound_pack_iff {nulls : Bool} :
    (Slot.table TextEdit.schema).Sound nulls changes.pack ↔ changes.InOrder := by
  refine and_congr List.pairwise_map ⟨fun h row hrow => ?_, fun h row hrow => ?_⟩
  · exact (h _ (List.mem_map_of_mem hrow)).1
  · obtain ⟨old, hold, rfl⟩ := List.mem_map.mp hrow
    exact ⟨h old hold, fun x _ => Schema.sound_of_isClosed _ (by decide) x⟩

/-- Changes with rising keys are written row by row. -/
theorem sorted_encode_pack (h : changes.Pairwise fun a b => a.1 < b.1) :
    (Slot.encode (.table TextEdit.schema) changes.pack).sorted =
      .obj (changes.map fun row => (row.1, .arr (row.2.map toJson))) := by
  have hrows : changes.pack.Pairwise fun a b => a.1 < b.1 := List.pairwise_map.mpr h
  rw [Slot.sorted_encode_table hrows, pack, List.map_map]
  refine congrArg Json.obj (List.map_congr_left fun row _ => ?_)
  exact congrArg (Prod.mk row.1) (sorted_arr_encode (α := TextEdit))

/-! ### One call -/

theorem keys_add {row : String × List TextEdit} (h : row ∈ add key edits changes) :
    row.1 = key ∨ ∃ old ∈ changes, old.1 = row.1 := by
  induction changes with
  | nil =>
    cases List.mem_singleton.mp h
    exact Or.inl rfl
  | cons first rest ih =>
    obtain ⟨k, before⟩ := first
    rw [add] at h
    split at h
    · rcases List.mem_cons.mp h with rfl | h
      · exact Or.inl rfl
      · exact Or.inr ⟨row, h, rfl⟩
    · split at h
      · rcases List.mem_cons.mp h with rfl | h
        · exact Or.inr ⟨_, List.mem_cons_self, rfl⟩
        · exact Or.inr ⟨row, List.mem_cons_of_mem _ h, rfl⟩
      · rcases List.mem_cons.mp h with rfl | h
        · exact Or.inr ⟨_, List.mem_cons_self, rfl⟩
        · exact (ih h).imp id fun ⟨old, ho, he⟩ => ⟨old, List.mem_cons_of_mem _ ho, he⟩

theorem rising_add (h : changes.Pairwise fun a b => a.1 < b.1) :
    (add key edits changes).Pairwise fun a b => a.1 < b.1 := by
  induction changes with
  | nil => exact List.pairwise_singleton _ _
  | cons first rest ih =>
    obtain ⟨k, before⟩ := first
    obtain ⟨hk, hr⟩ := List.pairwise_cons.mp h
    rw [add]
    split
    · rename_i hlt
      refine List.pairwise_cons.mpr ⟨fun row hrow => ?_, h⟩
      rcases List.mem_cons.mp hrow with rfl | hrow
      · exact hlt
      · exact String.lt_trans hlt (hk row hrow)
    · rename_i hge
      split
      · exact List.pairwise_cons.mpr ⟨hk, hr⟩
      · rename_i hne
        have hlt : k < key := Std.lt_of_le_of_ne (String.not_lt.mp hge) hne
        refine List.pairwise_cons.mpr ⟨fun row hrow => ?_, ih hr⟩
        rcases keys_add hrow with he | ⟨old, ho, he⟩
        · exact he ▸ hlt
        · exact he ▸ hk old ho

theorem InOrder.add (h : changes.InOrder) (u : Uri) (edits : List TextEdit) :
    (Changes.add u.text edits changes).InOrder := by
  obtain ⟨hr, hu⟩ := h
  refine ⟨rising_add hr, fun row hrow => ?_⟩
  rcases keys_add hrow with he | ⟨old, ho, he⟩
  · exact ⟨u, he ▸ u.parse_text⟩
  · exact he ▸ hu old ho

/-- Under its key the edits stand behind those there were, and under the other keys nothing is changed. -/
theorem get?_add (h : changes.Pairwise fun a b => a.1 < b.1) :
    get? other (add key edits changes) =
      if key = other then some ((get? key changes).getD [] ++ edits) else get? other changes := by
  induction changes with
  | nil => rfl
  | cons row rest ih =>
    obtain ⟨k, before⟩ := row
    obtain ⟨hk, hr⟩ := List.pairwise_cons.mp h
    rw [add]
    split
    · rename_i hlt
      have hnone : get? key ((k, before) :: rest) = none :=
        get?_of_lt (List.forall_mem_cons.mpr ⟨hlt, fun row hrow => String.lt_trans hlt (hk row hrow)⟩)
      rw [get?, hnone]
      rfl
    · split
      · rename_i he
        subst he
        rw [get?, get?, get?, if_pos rfl]
        split <;> rfl
      · rename_i hne
        rw [get?, ih hr, get?, get?, if_neg hne]
        by_cases ho : k = other
        · have hkey : key ≠ other := fun e => hne (ho.trans e.symm)
          rw [if_pos ho, if_neg hkey, if_pos ho]
        · rw [if_neg ho, if_neg ho]

theorem add_comm (h : key ≠ other) :
    add key edits (add other others changes) = add other others (add key edits changes) := by
  -- Where a call stops depends on its own key alone, so the order of the two keys and of `k` decides.
  induction changes with
  | nil =>
    simp only [add]
    grind
  | cons row rest ih =>
    obtain ⟨k, before⟩ := row
    simp only [add]
    grind [add]

end Changes

/-! ### A history of calls -/

/-- Calls that add edits, each with a document and edits of it. -/
abbrev WorkspaceEdit.Calls := List (Uri × List TextEdit)

namespace WorkspaceEdit.Calls

/-- The texts of the documents of the calls. -/
def keys (calls : Calls) : List String := calls.map (·.1.text)

/-- The edits of the document with the text, in the order of the calls. -/
def edits (calls : Calls) (key : String) : List TextEdit :=
  (calls.filter fun call => call.1.text = key).flatMap (·.2)

variable {calls others : Calls} {key : String}

theorem mem_keys_iff : key ∈ calls.keys ↔ ∃ call ∈ calls, call.1.text = key := List.mem_map

theorem filter_eq_nil_iff : calls.filter (fun call => call.1.text = key) = [] ↔ key ∉ calls.keys := by
  rw [List.filter_eq_nil_iff, mem_keys_iff]
  simp

theorem edits_of_notMem (h : key ∉ calls.keys) : calls.edits key = [] := by
  rw [edits, filter_eq_nil_iff.mpr h, List.flatMap_nil]

theorem mem_keys_concat_iff {u : Uri} {es : List TextEdit} :
    key ∈ keys (calls ++ [(u, es)]) ↔ u.text = key ∨ key ∈ calls.keys := by
  rw [keys, List.map_append, List.mem_append, or_comm]
  exact or_congr_left (List.mem_singleton.trans eq_comm)

theorem edits_concat {u : Uri} {es : List TextEdit} :
    edits (calls ++ [(u, es)]) key = calls.edits key ++ if u.text = key then es else [] := by
  rw [edits, List.filter_append, List.flatMap_append]
  by_cases hu : u.text = key <;> simp [edits, hu]

section Alike

-- For each document there are the same calls in the same order.
variable (h : ∀ u, calls.filter (fun call => call.1 = u) = others.filter fun call => call.1 = u)
include h

theorem filter_text_congr (key : String) :
    calls.filter (fun call => call.1.text = key) = others.filter fun call => call.1.text = key := by
  by_cases hkey : ∃ u : Uri, u.text = key
  · obtain ⟨u, rfl⟩ := hkey
    simp only [Uri.text_injective.eq_iff, h]
  · have hnone : ∀ c : Calls, c.filter (fun call => call.1.text = key) = [] := fun c =>
      List.filter_eq_nil_iff.mpr fun call _ he => hkey ⟨call.1, of_decide_eq_true he⟩
    rw [hnone, hnone]

theorem mem_keys_congr : key ∈ calls.keys ↔ key ∈ others.keys := by
  rw [← not_iff_not, ← filter_eq_nil_iff, filter_text_congr h, filter_eq_nil_iff]

theorem edits_congr : calls.edits key = others.edits key := by
  rw [edits, filter_text_congr h]
  rfl

theorem eq_nil_congr : calls = [] ↔ others = [] := by
  have hkeys : ∀ c : Calls, c = [] ↔ ∀ key, key ∉ c.keys := fun c => by
    rw [← List.eq_nil_iff_forall_not_mem, keys, List.map_eq_nil_iff]
  rw [hkeys, hkeys]
  exact forall_congr' fun key => not_congr (mem_keys_congr h)

end Alike

end WorkspaceEdit.Calls

/-- The changes hold what the calls gave: a row for each key, with the edits of the calls for it. -/
structure Changes.Gathers (changes : Changes) (calls : WorkspaceEdit.Calls) : Prop where
  rising : changes.Pairwise fun a b => a.1 < b.1
  get? : ∀ key, changes.get? key = if key ∈ calls.keys then some (calls.edits key) else none

namespace Changes.Gathers

variable {changes : Changes} {calls : WorkspaceEdit.Calls} {key : String} {edits : List TextEdit}

theorem nil : Gathers [] [] := ⟨List.Pairwise.nil, fun _ => rfl⟩

theorem getD_get? (h : changes.Gathers calls) (key : String) : (changes.get? key).getD [] = calls.edits key := by
  rw [h.get?]
  split
  · rfl
  · rename_i hk
    exact (WorkspaceEdit.Calls.edits_of_notMem hk).symm

theorem add (h : changes.Gathers calls) (u : Uri) (edits : List TextEdit) :
    (Changes.add u.text edits changes).Gathers (calls ++ [(u, edits)]) := by
  refine ⟨rising_add h.rising, fun key => ?_⟩
  rw [get?_add h.rising, h.getD_get?, h.get?, WorkspaceEdit.Calls.edits_concat]
  by_cases hu : u.text = key
  · subst hu
    rw [if_pos rfl, if_pos rfl, if_pos (WorkspaceEdit.Calls.mem_keys_concat_iff.mpr (Or.inl rfl))]
  · rw [if_neg hu, if_neg hu, List.append_nil]
    simp only [WorkspaceEdit.Calls.mem_keys_concat_iff, hu, false_or]

theorem mem_iff (h : changes.Gathers calls) :
    (key, edits) ∈ changes ↔ key ∈ calls.keys ∧ edits = calls.edits key := by
  rw [← get?_eq_some_iff h.rising, h.get?]
  split
  · rename_i hk
    rw [Option.some.injEq, eq_comm]
    exact (and_iff_right hk).symm
  · rename_i hk
    exact iff_of_false nofun fun hm => hk hm.1

theorem mem_keys_iff (h : changes.Gathers calls) : key ∈ changes.map (·.1) ↔ key ∈ calls.keys := by
  rw [List.mem_map]
  constructor
  · rintro ⟨row, hrow, rfl⟩
    exact (h.mem_iff.mp hrow).1
  · intro hk
    exact ⟨(key, calls.edits key), h.mem_iff.mpr ⟨hk, rfl⟩, rfl⟩

/-- What the calls gave is told by the calls for each document. -/
theorem eq_of_alike {a b : Changes} {others : WorkspaceEdit.Calls} (ha : a.Gathers calls) (hb : b.Gathers others)
    (h : ∀ u, calls.filter (fun call => call.1 = u) = others.filter fun call => call.1 = u) : a = b := by
  refine Json.Members.eq_of_rising ha.rising hb.rising ?_
  rintro ⟨key, edits⟩
  rw [ha.mem_iff, hb.mem_iff, WorkspaceEdit.Calls.mem_keys_congr h, WorkspaceEdit.Calls.edits_congr h]

theorem inOrder (h : changes.Gathers calls) : changes.InOrder := by
  refine ⟨h.rising, fun row hrow => ?_⟩
  obtain ⟨call, -, htext⟩ := WorkspaceEdit.Calls.mem_keys_iff.mp (h.mem_iff.mp hrow).1
  exact ⟨call.1, htext ▸ call.1.parse_text⟩

end Changes.Gathers

namespace WorkspaceEdit

/-- The edit after calls, one after the other. -/
def gather (calls : Calls) : WorkspaceEdit := calls.foldl (fun e call => e.addChanges call.1 call.2) {}

variable {nulls : Bool} {e : WorkspaceEdit} {calls others : Calls}

theorem gather_concat (calls : Calls) (u : Uri) (edits : List TextEdit) :
    gather (calls ++ [(u, edits)]) = (gather calls).addChanges u edits := by
  rw [gather, List.foldl_append]
  rfl

/-- Without calls there are no changes, and behind a call there are. -/
theorem changes_gather_eq_none_iff : (gather calls).changes = none ↔ calls = [] := by
  cases calls using List.reverseRecOn with
  | nil => exact iff_of_true rfl rfl
  | append_singleton calls call =>
    rw [gather_concat]
    exact iff_of_false nofun (List.append_ne_nil_of_right_ne_nil _ (List.cons_ne_nil _ _))

theorem documentChanges_gather (calls : Calls) : (gather calls).documentChanges = none := by
  induction calls using List.reverseRecOn with
  | nil => rfl
  | append_singleton calls call ih => exact gather_concat calls call.1 call.2 ▸ ih

theorem gather_eq (calls : Calls) : gather calls = { changes := (gather calls).changes } := by
  rw [← documentChanges_gather calls]

theorem gathers_getD (calls : Calls) : ((gather calls).changes.getD []).Gathers calls := by
  induction calls using List.reverseRecOn with
  | nil => exact .nil
  | append_singleton calls call ih =>
    rw [gather_concat]
    exact ih.add call.1 call.2

theorem gathers_gather {changes : Changes} (h : (gather calls).changes = some changes) :
    changes.Gathers calls := by
  have hgathers := gathers_getD calls
  rw [h] at hgathers
  exact hgathers

/-- Only the calls of each document count, not how those of different documents lie among each other. -/
theorem gather_congr
    (h : ∀ u, calls.filter (fun call => call.1 = u) = others.filter fun call => call.1 = u) :
    gather calls = gather others := by
  have hnone : (gather calls).changes = none ↔ (gather others).changes = none := by
    rw [changes_gather_eq_none_iff, changes_gather_eq_none_iff, Calls.eq_nil_congr h]
  have hchanges : (gather calls).changes = (gather others).changes := by
    cases hc : (gather calls).changes with
    | none => exact (hnone.mp hc).symm
    | some a =>
      cases ho : (gather others).changes with
      | none => cases hc.symm.trans (hnone.mpr ho)
      | some b => exact congrArg some ((gathers_gather hc).eq_of_alike (gathers_gather ho) h)
  rw [gather_eq calls, gather_eq others, hchanges]

theorem addChanges_comm (e : WorkspaceEdit) {u v : Uri} (es fs : List TextEdit) (h : u ≠ v) :
    (e.addChanges u es).addChanges v fs = (e.addChanges v fs).addChanges u es := by
  have htext : v.text ≠ u.text := Uri.text_injective.ne h.symm
  simp only [addChanges, Option.getD_some, Changes.add_comm htext]

/-! ### What is written -/

theorem sound_iff : Sound nulls e ↔ ∀ changes, e.changes = some changes → changes.InOrder := by
  constructor
  · rintro ⟨hchanges, -⟩ changes hc
    exact Changes.sound_pack_iff.mp (hchanges _ (congrArg (Option.map Changes.pack) hc)).1
  · intro h
    refine ⟨fun rows hrows => ?_, Slot.sound_given_of_isClosed (by decide), trivial⟩
    obtain ⟨changes, hc, rfl⟩ := Option.map_eq_some_iff.mp hrows
    exact ⟨Changes.sound_pack_iff.mpr (h changes hc), nofun⟩

theorem sound_addChanges (h : Sound nulls e) (u : Uri) (edits : List TextEdit) :
    Sound nulls (e.addChanges u edits) := by
  have hchanges := sound_iff.mp h
  refine sound_iff.mpr ?_
  rintro _ ⟨⟩
  cases hc : e.changes with
  | none => exact Changes.InOrder.add ⟨List.Pairwise.nil, nofun⟩ u edits
  | some changes => exact (hchanges changes hc).add u edits

theorem sound_gather : Sound nulls (gather calls) :=
  sound_iff.mpr fun _ h => (gathers_gather h).inOrder

theorem toJson_gather (calls : Calls) :
    toJson (gather calls) = .obj ((gather calls).changes.toList.map fun changes =>
      ("changes", .obj (changes.map fun row => (row.1, .arr (row.2.map toJson))))) := by
  cases hc : (gather calls).changes with
  | none =>
    rw [gather_eq, hc]
    rfl
  | some changes =>
    rw [gather_eq, hc, Option.toList_some, List.map_singleton,
      ← Changes.sorted_encode_pack (gathers_gather hc).rising]
    rfl

/-- Of every history of calls on an empty edit: there are changes just if there was a call; their keys are
    the texts of the documents of the calls, each once and in order, and under each key the edits are those
    of the calls for it, one behind the other in the order of the calls. There are no document changes, and
    nothing else is written. The check finds nothing in what is written, and it reads back. Calls for
    different documents commute on every edit, and in a history only the order of the calls for each
    document counts. -/
theorem gather_lossless (calls : Calls) :
    ((gather calls).changes = none ↔ calls = []) ∧
      (∀ changes, (gather calls).changes = some changes →
        changes.Pairwise (fun a b => a.1 < b.1) ∧
        (∀ key, key ∈ changes.map (·.1) ↔ ∃ call ∈ calls, call.1.text = key) ∧
        ∀ key edits, (key, edits) ∈ changes →
          edits = (calls.filter fun call => call.1.text = key).flatMap (·.2)) ∧
      (gather calls).documentChanges = none ∧
      toJson (gather calls) = .obj ((gather calls).changes.toList.map fun changes =>
        ("changes", .obj (changes.map fun row => (row.1, .arr (row.2.map toJson))))) ∧
      fault? WorkspaceEdit (toJson (gather calls)) = none ∧
      read WorkspaceEdit (toJson (gather calls)) = .ok (gather calls) ∧
      (∀ (e : WorkspaceEdit) u v es fs, u ≠ v →
        (e.addChanges u es).addChanges v fs = (e.addChanges v fs).addChanges u es) ∧
      ∀ others : Calls,
        (∀ u, calls.filter (fun call => call.1 = u) = others.filter fun call => call.1 = u) →
          gather calls = gather others := by
  have hsound : Sound false (gather calls) := sound_gather
  obtain ⟨hfault, hread⟩ := read_toJson_of_sound hsound
  refine ⟨changes_gather_eq_none_iff, fun changes hc => ?_, documentChanges_gather calls, toJson_gather calls,
    hfault, hread rfl, fun e u v es fs => addChanges_comm e es fs, fun others => gather_congr⟩
  · have hgathers := gathers_gather hc
    refine ⟨hgathers.rising, fun key => ?_, fun key edits hrow => (hgathers.mem_iff.mp hrow).2⟩
    rw [hgathers.mem_keys_iff, Calls.mem_keys_iff]

/-- Two calls for one document, and one without edits for another between them. -/
theorem gather_lossless_between :
    let a : Uri := ⟨⟨"file", some "", "/a", none, none⟩, by decide +kernel, by decide +kernel⟩
    let b : Uri := ⟨⟨"file", some "", "/b", none, none⟩, by decide +kernel, by decide +kernel⟩
    let x : TextEdit := ⟨.point ⟨0, 0⟩, "x"⟩
    let y : TextEdit := ⟨.point ⟨1, 0⟩, "y"⟩
    let e := gather [(b, [x]), (a, []), (b, [y])]
    e.changes = some [("file:///a", []), ("file:///b", [x, y])] ∧
      [x, y] = ([(b, [x]), (a, []), (b, [y])].filter fun call => call.1.text = "file:///b").flatMap (·.2) ∧
      read WorkspaceEdit (toJson e) = .ok e ∧ a ≠ b ∧
      (e.addChanges a [x]).addChanges b [] = (e.addChanges b []).addChanges a [x] ∧
      e = gather [(a, []), (b, [x]), (b, [y])] := by
  intro a b x y e
  have hchanges : e.changes = some [("file:///a", []), ("file:///b", [x, y])] := by decide +kernel
  have hne : a ≠ b := by decide +kernel
  obtain ⟨-, hgathered, -, -, -, hread, hcomm, hothers⟩ := gather_lossless [(b, [x]), (a, []), (b, [y])]
  obtain ⟨-, -, hedits⟩ := hgathered _ hchanges
  have hrow : ("file:///b", [x, y]) ∈ [("file:///a", []), ("file:///b", [x, y])] := by simp
  have hlast := hothers [(a, []), (b, [x]), (b, [y])]
  refine ⟨hchanges, hedits _ _ hrow, hread, hne, hcomm e a b [x] [] hne, hlast fun u => ?_⟩
  by_cases ha : a = u
  · have hb : b ≠ u := ha ▸ hne.symm
    simp [ha, hb]
  · simp [List.filter_cons, ha]

end WorkspaceEdit

end LanguageServer
