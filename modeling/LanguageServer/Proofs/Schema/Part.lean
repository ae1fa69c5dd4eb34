import LanguageServer.Content.Hover
import LanguageServer.Content.WorkspaceEdit
import LanguageServer.Proofs.Json.Place
import LanguageServer.Proofs.Schema.Blame
import LanguageServer.Proofs.Schema.Reading

/-! Parts of a value. The places in a value that a schema declares an interface for, at any depth: the
    fields that hold an interface, the items of arrays, the items of the arrays in a table of URIs, the
    error of a response. If nothing is found in a value and one part of it is then broken, the check of the
    whole value tells what the check of the part tells (`Content.fault?_put`). The other checks before and
    after it find nothing, since they look at other keys and other items. A part has parts of its own, and
    these are parts of the whole value (`Schema.nests_part`): what a part needs to have in it is looked at
    however deep it stands. -/

namespace LanguageServer

open Json (Step)

/-- An interface that is declared for a place in a value. -/
structure Part where
  schema : Schema
  /-- The place holds one item where an array of items could stand as well. -/
  single : Bool

/-- What is declared for a whole value. -/
def Schema.whole (s : Schema) (v : Json) : Part :=
  match s, v with
  | .oneOrMany item, .arr _ => ⟨.oneOrMany item, false⟩
  | .oneOrMany item, _ => ⟨item, true⟩
  | s, _ => ⟨s, false⟩

/-- What is declared for a place, from what is declared for the whole value and for the places inside. -/
def Part.along (whole : Part) (inner? : List Step → Option Part) : List Step → Option Part
  | [] => some whole
  | step :: place => inner? (step :: place)

/-- What is declared for a place in an object, from what is declared for the places in the value of a key. -/
def Json.keyPart? (part? : String → Json → List Step → Option Part) (v : Json) : List Step → Option Part
  | .key k :: place => (v.step? (.key k)).bind (part? k · place)
  | _ => none

/-- What is declared for a place in an array, from what is declared for the places in an item. -/
def Json.itemPart? (part? : Json → List Step → Option Part) (v : Json) : List Step → Option Part
  | .item i :: place => (v.step? (.item i)).bind (part? · place)
  | _ => none

mutual

/-- The interface that the schema declares for a place inside a value. -/
def Schema.inner? : Schema → Json → List Step → Option Part
  | .any, _, _ => none
  | .text, _, _ => none
  | .enumeration _ _, _, _ => none
  | .requestId, _, _ => none
  | .record _ fields, v, place => v.keyPart? fields.inner? place
  | .union _ firstKind first secondKind second, v, place =>
    if v.kind = firstKind then first.inner? v place
    else if v.kind = secondKind then second.inner? v place
    else none
  | .list _ item, v, place => v.itemPart? (fun x => (item.whole x).along (item.inner? x)) place
  | .oneOrMany item, v, place =>
    match v with
    | .arr items => (Json.arr items).itemPart? (fun x => (item.whole x).along (item.inner? x)) place
    | v => item.inner? v place
  | .anyNumber _ item, v, place =>
    match v with
    | .null => none
    | .arr items => (Json.arr items).itemPart? (fun x => (item.whole x).along (item.inner? x)) place
    | v => item.inner? v place
  | .nullable item, v, place =>
    match v with
    | .null => none
    | v => item.inner? v place

/-- The interface that the slot declares for a place in a value. -/
def Slot.part? : Slot → Json → List Step → Option Part
  | .plain _, _, _ => none
  | .free, _, _ => none
  | .nested schema, v, place => (schema.whole v).along (schema.inner? v) place
  | .many item, v, place => v.itemPart? (fun x => (item.whole x).along (item.inner? x)) place
  | .table item, v, place =>
    v.keyPart? (fun _ x => x.itemPart? fun x => (item.whole x).along (item.inner? x)) place

/-- The interface that the fields declare for a place in the value of a key. -/
def Fields.inner? : Fields → String → Json → List Step → Option Part
  | .nil, _, _, _ => none
  | .cons key _ _ slot rest, k, v, place => if key = k then slot.part? v place else rest.inner? k v place
  | .version rest, k, v, place => rest.inner? k v place
  | .outcome _ error form rest, k, v, place =>
    if error = k then (form.whole v).along (form.inner? v) place else rest.inner? k v place
  | .without _ rest, k, v, place => rest.inner? k v place

end

/-- The interface that the schema declares for a place in a value. -/
def Schema.part? (s : Schema) (v : Json) : List Step → Option Part := (s.whole v).along (s.inner? v)

example : HoverResult.schema.part? (.obj [("contents", .str "x")]) [.key "contents"] =
    some ⟨MarkedString.schema, true⟩ := rfl
example : HoverResult.schema.part? (.obj [("contents", .arr [.str "x"])]) [.key "contents", .item 0] =
    some ⟨MarkedString.schema, false⟩ := rfl

/-! ### What a broken part does -/

variable {p : Part} {s : Schema} {v w x : Json} {step : Step} {place : List Step} {items : List Json}
  {members : Json.Members} {fault : Fault} {owner k : String}

namespace Part

/-- The value may stand in the place of the part, and its check finds a fault in it. -/
def Breaks (p : Part) (w : Json) (fault : Fault) : Prop :=
  p.schema.fault? w = some fault ∧ (p.single = true → w.kind ≠ .array)

/-- The part stands in a value and nothing is found in it, and if another value breaks it then of the whole
    value with that one in its place the fault is told. -/
structure Exposed (p : Part) (v : Json) (place : List Step) (tells : Json → Fault → Prop) : Prop where
  stands : ∃ x, v.at? place = some x ∧ p.schema.fault? x = none
  breaks : ∀ w fault, p.Breaks w fault → tells (v.put place w) fault

variable {tells tells' : Json → Fault → Prop} {inner? : List Step → Option Part} {whole : Part}

theorem Exposed.imp (h : p.Exposed v place tells) (himp : ∀ w fault, tells w fault → tells' w fault) :
    p.Exposed v place tells' :=
  ⟨h.stands, fun w fault hw => himp _ fault (h.breaks w fault hw)⟩

/-- What a value one step inside exposes, the value itself exposes. -/
theorem Exposed.outward (hx : v.step? step = some x) (h : p.Exposed x place tells) :
    p.Exposed v (step :: place) fun w fault => ∃ y, w = v.putStep step y ∧ tells y fault := by
  refine ⟨?_, fun w fault hw => ⟨x.put place w, Json.put_cons hx, h.breaks w fault hw⟩⟩
  rw [Json.at?_cons hx]
  exact h.stands

theorem exposed_along (hp : whole.along inner? place = some p) (hwhole : whole.Exposed v [] tells)
    (hinner : inner? place = some p → p.Exposed v place tells) : p.Exposed v place tells := by
  cases place with
  | nil =>
    cases hp
    exact hwhole
  | cons step place => exact hinner hp

end Part

/-! ### Arrays and objects -/

theorem Json.exists_of_keyPart? {part? : String → Json → List Step → Option Part}
    (hp : v.keyPart? part? place = some p) :
    ∃ k rest, place = .key k :: rest ∧ ∃ x, v.step? (.key k) = some x ∧ part? k x rest = some p := by
  unfold keyPart? at hp
  split at hp
  · exact ⟨_, _, rfl, Option.bind_eq_some_iff.mp hp⟩
  · cases hp

theorem Json.exists_of_itemPart? {part? : Json → List Step → Option Part}
    (hp : v.itemPart? part? place = some p) :
    ∃ i rest, place = .item i :: rest ∧ ∃ x, v.step? (.item i) = some x ∧ part? x rest = some p := by
  unfold itemPart? at hp
  split at hp
  · exact ⟨_, _, rfl, Option.bind_eq_some_iff.mp hp⟩
  · cases hp

/-! ### Parts of parts -/

theorem Json.keyPart?_cons {part? : String → Json → List Step → Option Part}
    (hx : v.step? (.key k) = some x) : v.keyPart? part? (.key k :: place) = part? k x place := by
  rw [keyPart?, hx, Option.bind_some]

theorem Json.itemPart?_cons {part? : Json → List Step → Option Part} {i : Nat}
    (hx : v.step? (.item i) = some x) : v.itemPart? part? (.item i :: place) = part? x place := by
  rw [itemPart?, hx, Option.bind_some]

theorem Schema.inner?_whole : (s.whole v).schema.inner? v place = s.inner? v place := by
  cases s with
  | oneOrMany item => cases v <;> rfl
  | _ => rfl

/-- Inside of a part, what is declared is what the schema of the part declares. -/
def Json.Nests (part? : Json → List Step → Option Part) : Prop :=
  ∀ v place p x step rest, part? v place = some p → v.at? place = some x →
    part? v (place ++ step :: rest) = p.schema.inner? x (step :: rest)

theorem Schema.nests_part (hs : Json.Nests s.inner?) : Json.Nests s.part? := by
  intro v place p x step rest hp hx
  cases place with
  | nil =>
    cases hp
    cases hx
    exact inner?_whole.symm
  | cons step' place => exact hs v _ p x step rest hp hx

theorem Json.nests_item {part? : Json → List Step → Option Part} (h : Nests part?) :
    Nests fun v => v.itemPart? part? := by
  intro v place p x step rest hp hx
  obtain ⟨i, place, rfl, y, hy, hp⟩ := exists_of_itemPart? hp
  rw [at?_cons hy] at hx
  exact (itemPart?_cons hy).trans (h y place p x step rest hp hx)

theorem Json.nests_key {part? : String → Json → List Step → Option Part} (h : ∀ k, Nests (part? k)) :
    Nests fun v => v.keyPart? part? := by
  intro v place p x step rest hp hx
  obtain ⟨k, place, rfl, y, hy, hp⟩ := exists_of_keyPart? hp
  rw [at?_cons hy] at hx
  exact (keyPart?_cons hy).trans (h k y place p x step rest hp hx)

mutual

/-- A schema looks inside of a part as the schema of the part does. -/
theorem Schema.nests_inner : (s : Schema) → Json.Nests s.inner?
  | .any, _, _, _, _, _, _, hp, _ => nomatch hp
  | .text, _, _, _, _, _, _, hp, _ => nomatch hp
  | .enumeration _ _, _, _, _, _, _, _, hp, _ => nomatch hp
  | .requestId, _, _, _, _, _, _, hp, _ => nomatch hp
  | .record _ fields, v, place, p, x, step, rest, hp, hx =>
    Json.nests_key fields.nests_inner v place p x step rest hp hx
  | .union _ firstKind first secondKind second, v, place, p, x, step, rest, hp, hx => by
    rw [Schema.inner?] at hp ⊢
    split at hp
    · rename_i hv
      rw [if_pos hv]
      exact first.nests_inner v place p x step rest hp hx
    · rename_i hv
      rw [if_neg hv]
      split at hp
      · rename_i hv'
        rw [if_pos hv']
        exact second.nests_inner v place p x step rest hp hx
      · cases hp
  | .list _ item, v, place, p, x, step, rest, hp, hx =>
    Json.nests_item (Schema.nests_part item.nests_inner) v place p x step rest hp hx
  | .oneOrMany item, v, place, p, x, step, rest, hp, hx => by
    cases v with
    | arr items => exact Json.nests_item (Schema.nests_part item.nests_inner) _ place p x step rest hp hx
    | _ => exact item.nests_inner _ place p x step rest hp hx
  | .anyNumber _ item, v, place, p, x, step, rest, hp, hx => by
    cases v with
    | null => cases hp
    | arr items => exact Json.nests_item (Schema.nests_part item.nests_inner) _ place p x step rest hp hx
    | _ => exact item.nests_inner _ place p x step rest hp hx
  | .nullable item, v, place, p, x, step, rest, hp, hx => by
    cases v with
    | null => cases hp
    | _ => exact item.nests_inner _ place p x step rest hp hx

theorem Slot.nests_part : (s : Slot) → Json.Nests s.part?
  | .plain _, _, _, _, _, _, _, hp, _ => nomatch hp
  | .free, _, _, _, _, _, _, hp, _ => nomatch hp
  | .nested schema, v, place, p, x, step, rest, hp, hx =>
    Schema.nests_part schema.nests_inner v place p x step rest hp hx
  | .many item, v, place, p, x, step, rest, hp, hx =>
    Json.nests_item (Schema.nests_part item.nests_inner) v place p x step rest hp hx
  | .table item, v, place, p, x, step, rest, hp, hx =>
    Json.nests_key (fun _ => Json.nests_item (Schema.nests_part item.nests_inner)) v place p x step rest hp hx

theorem Fields.nests_inner : (fs : Fields) → ∀ k, Json.Nests (fs.inner? k)
  | .nil, _, _, _, _, _, _, _, hp, _ => nomatch hp
  | .cons key _ _ slot rest, k, v, place, p, x, step, rest', hp, hx => by
    rw [Fields.inner?] at hp ⊢
    split
    · rename_i hk
      rw [if_pos hk] at hp
      exact slot.nests_part v place p x step rest' hp hx
    · rename_i hk
      rw [if_neg hk] at hp
      exact rest.nests_inner k v place p x step rest' hp hx
  | .version rest, k, v, place, p, x, step, rest', hp, hx => rest.nests_inner k v place p x step rest' hp hx
  | .outcome _ error form rest, k, v, place, p, x, step, rest', hp, hx => by
    rw [Fields.inner?] at hp ⊢
    split
    · rename_i hk
      rw [if_pos hk] at hp
      exact Schema.nests_part form.nests_inner v place p x step rest' hp hx
    · rename_i hk
      rw [if_neg hk] at hp
      exact rest.nests_inner k v place p x step rest' hp hx
  | .without _ rest, k, v, place, p, x, step, rest', hp, hx => rest.nests_inner k v place p x step rest' hp hx

end

/-! ### What the fields look at -/

namespace Fields

/-- The checks of the fields look at the values of their keys alone. -/
theorem faults_congr {members' : Json.Members} :
    (fs : Fields) → (∀ k ∈ fs.keys, members.get? k = members'.get? k) →
      fs.faults owner members = fs.faults owner members'
  | .nil, _ => rfl
  | .cons key _ _ _ rest, h => by
    obtain ⟨hk, h⟩ := List.forall_mem_cons.mp h
    rw [faults, faults, hk, rest.faults_congr h]
  | .version rest, h => by
    obtain ⟨hk, h⟩ := List.forall_mem_cons.mp h
    rw [faults, faults, versionFault?, versionFault?, hk, rest.faults_congr h]
  | .outcome _ _ _ rest, h => by
    obtain ⟨hr, h⟩ := List.forall_mem_cons.mp h
    obtain ⟨he, h⟩ := List.forall_mem_cons.mp h
    rw [faults, faults, Json.Members.has, Json.Members.has, Json.Members.has, Json.Members.has, hr, he,
      rest.faults_congr h]
  | .without _ rest, h => by
    obtain ⟨hk, h⟩ := List.forall_mem_cons.mp h
    rw [faults, faults, Json.Members.has, Json.Members.has, hk, rest.faults_congr h]

theorem faults_set_of_not_mem {fs : Fields} (h : k ∉ fs.keys) :
    fs.faults owner (members.set k w) = fs.faults owner members :=
  fs.faults_congr fun _ hk => Json.Members.get?_set_of_ne fun e => h (e ▸ hk)

theorem mem_keys_of_inner? : (fs : Fields) → fs.inner? k v place = some p → k ∈ fs.keys
  | .cons key _ _ _ rest, h => by
    rw [inner?] at h
    split at h
    · rename_i hk
      exact hk ▸ List.mem_cons_self
    · exact List.mem_cons_of_mem _ (rest.mem_keys_of_inner? h)
  | .version rest, h => List.mem_cons_of_mem _ (rest.mem_keys_of_inner? h)
  | .outcome _ _ _ rest, h => by
    rw [inner?] at h
    split at h
    · rename_i hk
      exact hk ▸ List.mem_cons_of_mem _ List.mem_cons_self
    · exact List.mem_cons_of_mem _ (List.mem_cons_of_mem _ (rest.mem_keys_of_inner? h))
  | .without _ rest, h => List.mem_cons_of_mem _ (rest.mem_keys_of_inner? h)

end Fields

theorem earliest_singleton {late : Bool} : earliest [(late, fault)] = some fault := by
  cases late <;> rfl

/-! ### A broken part is told, and nothing else -/

namespace Schema

/-- What the values inside of an accepted value expose. -/
def ExposesInner (s : Schema) (p : Part) : Prop :=
  ∀ v, s.fault? v = none → ∀ place, s.inner? v place = some p →
    p.Exposed v place fun w fault => w.kind = v.kind ∧ s.fault? w = some fault

theorem exposed_whole (h : s.fault? v = none) :
    (s.whole v).Exposed v [] fun w fault => s.fault? w = some fault := by
  cases s with
  | oneOrMany item =>
    cases v with
    | arr items => exact ⟨⟨_, rfl, h⟩, fun _ _ hw => hw.1⟩
    | _ =>
      refine ⟨⟨_, rfl, h⟩, fun w fault ⟨hf, hw⟩ => ?_⟩
      cases w with
      | arr items => exact absurd rfl (hw rfl)
      | _ => exact hf
  | _ => exact ⟨⟨_, rfl, h⟩, fun _ _ hw => hw.1⟩

theorem ExposesInner.exposed (hs : s.ExposesInner p) (h : s.fault? v = none) (hp : s.part? v place = some p) :
    p.Exposed v place fun w fault => s.fault? w = some fault :=
  Part.exposed_along hp (exposed_whole h) fun hp => (hs v h place hp).imp fun _ _ => And.right

/-- A schema that tells what another tells of values of the same JSON type exposes what it exposes. -/
theorem ExposesInner.of_kind {s' : Schema} (hs : s.ExposesInner p) (h : s.fault? v = none)
    (hp : s.inner? v place = some p) (hk : ∀ w : Json, w.kind = v.kind → s'.fault? w = s.fault? w) :
    p.Exposed v place fun w fault => w.kind = v.kind ∧ s'.fault? w = some fault :=
  (hs v h place hp).imp fun w _ ⟨hw, hf⟩ => ⟨hw, (hk w hw).trans hf⟩

/-- A broken item of an array is told, if nothing was found in any item. -/
theorem ExposesInner.exposed_item (hs : s.ExposesInner p) (h : items.findSome? s.fault? = none)
    (hp : (Json.arr items).itemPart? s.part? place = some p) :
    p.Exposed (.arr items) place fun w fault =>
      ∃ items', w = .arr items' ∧ items'.findSome? s.fault? = some fault := by
  obtain ⟨i, place, rfl, x, hx, hp⟩ := Json.exists_of_itemPart? hp
  have hok : s.fault? x = none := List.findSome?_eq_none_iff.mp h x (List.mem_of_getElem? hx)
  refine ((hs.exposed hok hp).outward hx).imp ?_
  rintro _ fault ⟨y, rfl, hy⟩
  exact ⟨items.set i y, rfl, Many.findSome?_set h hx hy⟩

/-- A schema that looks for the first broken item of an array exposes the items. -/
theorem ExposesInner.exposed_arr {s' : Schema} (hs : s.ExposesInner p)
    (hk : ∀ items, s'.fault? (.arr items) = items.findSome? s.fault?) (h : s'.fault? (.arr items) = none)
    (hp : (Json.arr items).itemPart? s.part? place = some p) :
    p.Exposed (.arr items) place fun w fault => w.kind = .array ∧ s'.fault? w = some fault := by
  refine (hs.exposed_item ((hk items).symm.trans h) hp).imp ?_
  rintro _ fault ⟨items', rfl, hf⟩
  exact ⟨rfl, (hk items').trans hf⟩

end Schema

mutual

/-- Of a value that is accepted, a part inside it that breaks is what its schema tells. -/
theorem Schema.exposesInner : (s : Schema) → s.isWellFormed = true → s.ExposesInner p
  | .any, _, _, _, _, hp => nomatch hp
  | .text, _, _, _, _, hp => nomatch hp
  | .enumeration _ _, _, _, _, _, hp => nomatch hp
  | .requestId, _, _, _, _, hp => nomatch hp
  | .record name fields, wf, v, h, place, hp => by
    simp only [Schema.isWellFormed, Bool.and_eq_true, decide_eq_true_eq] at wf
    cases v with
    | obj members =>
      obtain ⟨k, rest, rfl, x, hx, hp⟩ := Json.exists_of_keyPart? hp
      have hfaults := earliest_eq_none_iff.mp h
      refine ((fields.exposed_inner wf.2 wf.1 hfaults k x hx rest hp).outward hx).imp ?_
      rintro _ fault ⟨y, rfl, late, hy⟩
      have htold : earliest (fields.faults name (Json.Members.set k y members)) = some fault := by
        rw [hy, earliest_singleton]
      exact ⟨rfl, htold⟩
    | _ => cases h
  | .union name firstKind first secondKind second, wf, v, h, place, hp => by
    simp only [Schema.isWellFormed, Bool.and_eq_true] at wf
    rw [Schema.fault?] at h
    rw [Schema.inner?] at hp
    split at hp
    · rename_i hv
      rw [if_pos hv] at h
      refine (first.exposesInner wf.1.2).of_kind h hp fun w hw => ?_
      rw [Schema.fault?, if_pos (hw.trans hv)]
    · rename_i hv
      rw [if_neg hv] at h
      split at hp
      · rename_i hv'
        rw [if_pos hv'] at h
        refine (second.exposesInner wf.2).of_kind h hp fun w hw => ?_
        rw [Schema.fault?, if_neg (hw ▸ hv), if_pos (hw.trans hv')]
      · cases hp
  | .list name item, wf, v, h, place, hp => by
    cases v with
    | arr items => exact (item.exposesInner wf).exposed_arr (fun _ => rfl) h hp
    | _ => cases h
  | .oneOrMany item, wf, v, h, place, hp => by
    simp only [Schema.isWellFormed, Bool.and_eq_true] at wf
    cases v with
    | arr items => exact (item.exposesInner wf.2).exposed_arr (fun _ => rfl) h hp
    | _ =>
      refine (item.exposesInner wf.2).of_kind h hp fun w hw => ?_
      cases w <;> first | rfl | cases hw
  | .anyNumber name item, wf, v, h, place, hp => by
    simp only [Schema.isWellFormed, Bool.and_eq_true] at wf
    cases v with
    | null => cases hp
    | arr items => exact (item.exposesInner wf.2).exposed_arr (fun _ => rfl) h hp
    | obj members =>
      refine (item.exposesInner wf.2).of_kind h hp fun w hw => ?_
      cases w <;> first | rfl | cases hw
    | _ => cases h
  | .nullable item, wf, v, h, place, hp => by
    cases v with
    | null => cases hp
    | _ =>
      refine (item.exposesInner wf).of_kind h hp fun w hw => ?_
      cases w <;> first | rfl | cases hw

/-- Of a value that a slot accepts, a part of it that breaks is what the slot tells. -/
theorem Slot.exposed {owner key : String} :
    (s : Slot) → s.isWellFormed = true → ∀ v, s.fault? owner key v = none →
      ∀ place, s.part? v place = some p →
      p.Exposed v place fun w fault => ∃ late, s.fault? owner key w = some (late, fault)
  | .plain _, _, _, _, _, hp => nomatch hp
  | .free, _, _, _, _, hp => nomatch hp
  | .nested schema, wf, v, h, place, hp => by
    refine ((schema.exposesInner wf).exposed (Option.map_eq_none_iff.mp h) hp).imp fun w fault hw => ?_
    exact ⟨false, Option.map_eq_some_iff.mpr ⟨fault, hw, rfl⟩⟩
  | .many item, wf, v, h, place, hp => by
    cases v with
    | arr items =>
      refine ((item.exposesInner wf).exposed_item (Option.map_eq_none_iff.mp h) hp).imp ?_
      rintro _ fault ⟨items', rfl, hf⟩
      exact ⟨false, Option.map_eq_some_iff.mpr ⟨fault, hf, rfl⟩⟩
    | _ => cases h
  | .table item, wf, v, h, place, hp => by
    cases v with
    | obj members =>
      obtain ⟨k, rest, rfl, x, hx, hp⟩ := Json.exists_of_keyPart? hp
      have hmembers := Option.map_eq_none_iff.mp h
      have hmember := List.findSome?_eq_none_iff.mp hmembers (k, x) (Json.Members.mem_of_get? hx)
      obtain ⟨huri, items, rfl, hitems⟩ :
          Uri.isUri k = true ∧ ∃ items, x = .arr items ∧ items.findSome? item.fault? = none := by
        split at hmember
        · rename_i huri
          split at hmember
          · rename_i items hitems
            exact ⟨huri, items, hitems, hmember⟩
          · cases hmember
        · cases hmember
      refine (((item.exposesInner wf).exposed_item hitems hp).outward hx).imp ?_
      rintro _ fault ⟨_, rfl, items', rfl, hf⟩
      refine ⟨true, Option.map_eq_some_iff.mpr ⟨fault, Json.Members.findSome?_set hmembers hx ?_, rfl⟩⟩
      rw [if_pos huri]
      exact hf
    | _ => cases h

/-- Of members that the fields accept, a part under a key that breaks is the one thing that is told. -/
theorem Fields.exposed_inner {owner : String} {members : Json.Members} :
    (fs : Fields) → fs.isWellFormed = true → fs.keys.Nodup → fs.faults owner members = [] →
      ∀ k v, members.get? k = some v → ∀ place, fs.inner? k v place = some p →
      p.Exposed v place fun w fault => ∃ late, fs.faults owner (members.set k w) = [(late, fault)]
  | .nil, _, _, _, _, _, _, _, hp => nomatch hp
  | .cons key late presence slot rest, wf, hn, h, k, v, hv, place, hp => by
    simp only [Fields.isWellFormed, Bool.and_eq_true] at wf
    obtain ⟨hkey, hn⟩ := List.nodup_cons.mp hn
    rw [Fields.faults, List.append_eq_nil_iff] at h
    rw [Fields.inner?] at hp
    split at hp
    · rename_i hk
      subst hk
      have hslot : slot.fault? owner key v = none := by simpa [hv] using h.1
      refine (slot.exposed wf.1.2 v hslot place hp).imp ?_
      rintro w fault ⟨late', hw⟩
      rw [Fields.faults, Json.Members.get?_set_self hv, Fields.faults_set_of_not_mem hkey, h.2]
      simp [hw]
    · rename_i hk
      refine (rest.exposed_inner wf.2 hn h.2 k v hv place hp).imp fun w fault hw => ?_
      rw [Fields.faults, Json.Members.get?_set_of_ne hk, h.1]
      exact hw
  | .version rest, wf, hn, h, k, v, hv, place, hp => by
    obtain ⟨hkey, hn⟩ := List.nodup_cons.mp hn
    rw [Fields.faults, List.append_eq_nil_iff] at h
    have hk : versionKey ≠ k := fun e => hkey (e ▸ rest.mem_keys_of_inner? hp)
    refine (rest.exposed_inner wf hn h.2 k v hv place hp).imp fun w fault hw => ?_
    have hversion : versionFault? (members.set k w) = versionFault? members := by
      rw [versionFault?, versionFault?, Json.Members.get?_set_of_ne hk]
    rw [Fields.faults, hversion, h.1]
    exact hw
  | .outcome result error form rest, wf, hn, h, k, v, hv, place, hp => by
    simp only [Fields.isWellFormed, Bool.and_eq_true] at wf
    obtain ⟨hresult, hn⟩ := List.nodup_cons.mp hn
    obtain ⟨herror, hn⟩ := List.nodup_cons.mp hn
    rw [Fields.faults, List.append_eq_nil_iff, List.append_eq_nil_iff, List.append_eq_nil_iff] at h
    obtain ⟨⟨⟨he, hr⟩, hx⟩, hrest⟩ := h
    rw [Fields.inner?] at hp
    split at hp
    · rename_i hk
      subst hk
      have hform : form.fault? v = none := by simpa [hv] using he
      refine ((form.exposesInner wf.1).exposed hform hp).imp fun w fault hw => ⟨false, ?_⟩
      have hne : result ≠ error := fun e => hresult (e ▸ List.mem_cons_self)
      have hhas : (members.set error w).has error = members.has error := by
        rw [Json.Members.has, Json.Members.has, Json.Members.get?_set_self hv, hv]
        rfl
      rw [Fields.faults, hhas, Json.Members.has, Json.Members.get?_set_self hv,
        Json.Members.get?_set_of_ne hne, ← Json.Members.has, hr, hx,
        Fields.faults_set_of_not_mem herror, hrest, Option.bind_some, hw]
      rfl
    · rename_i hk
      have hmem : k ∈ rest.keys := rest.mem_keys_of_inner? hp
      have hne : result ≠ k := fun e => hresult (e ▸ List.mem_cons_of_mem _ hmem)
      refine (rest.exposed_inner wf.2 hn hrest k v hv place hp).imp fun w fault hw => ?_
      rw [Fields.faults, Json.Members.has, Json.Members.has, Json.Members.get?_set_of_ne hk,
        Json.Members.get?_set_of_ne hne, ← Json.Members.has, ← Json.Members.has, he, hr, hx]
      exact hw
  | .without key rest, wf, hn, h, k, v, hv, place, hp => by
    obtain ⟨hkey, hn⟩ := List.nodup_cons.mp hn
    rw [Fields.faults, List.append_eq_nil_iff] at h
    have hk : key ≠ k := fun e => hkey (e ▸ rest.mem_keys_of_inner? hp)
    refine (rest.exposed_inner wf hn h.2 k v hv place hp).imp fun w fault hw => ?_
    rw [Fields.faults, Json.Members.has, Json.Members.get?_set_of_ne hk, ← Json.Members.has, h.1]
    exact hw

end

/-! ### Parts that have to be there -/

/-- The interface that a required field holds under a key. -/
def Fields.requires? : Fields → String → Option Schema
  | .nil, _ => none
  | .cons key _ presence slot rest, k =>
    if key = k then
      match presence, slot with
      | .required, .nested schema => some schema
      | _, _ => none
    else rest.requires? k
  | .version rest, k => rest.requires? k
  | .outcome _ error _ rest, k => if error = k then none else rest.requires? k
  | .without _ rest, k => rest.requires? k

/-- The interface that a record has to have under a key. -/
def Schema.requires? : Schema → String → Option Schema
  | .record _ fields, k => fields.requires? k
  | _, _ => none

example : Range.schema.requires? "start" = some Position.schema := rfl

/-- What a required field holds is there, nothing is found in it, and it is a part. -/
theorem Fields.exists_of_requires? {owner : String} {t : Schema} :
    (fs : Fields) → fs.faults owner members = [] → fs.requires? k = some t →
      ∃ x, members.get? k = some x ∧ t.fault? x = none ∧ fs.inner? k x [] = some (t.whole x)
  | .cons key late presence slot rest, h, ht => by
    rw [faults, List.append_eq_nil_iff] at h
    rw [requires?.eq_def] at ht
    dsimp only at ht
    split at ht
    · rename_i hk
      subst hk
      split at ht
      · cases ht
        cases hv : members.get? key with
        | none => simp [hv] at h
        | some x =>
          refine ⟨x, rfl, by simpa [hv, Slot.fault?] using h.1, ?_⟩
          rw [inner?, if_pos rfl]
          rfl
      · cases ht
    · rename_i hk
      obtain ⟨x, hx, hok, hp⟩ := rest.exists_of_requires? h.2 ht
      exact ⟨x, hx, hok, by rw [inner?, if_neg hk, hp]⟩
  | .version rest, h, ht => rest.exists_of_requires? (List.append_eq_nil_iff.mp h).2 ht
  | .outcome _ error form rest, h, ht => by
    rw [requires?] at ht
    split at ht
    · cases ht
    · rename_i hk
      obtain ⟨x, hx, hok, hp⟩ := rest.exists_of_requires? (List.append_eq_nil_iff.mp h).2 ht
      exact ⟨x, hx, hok, by rw [inner?, if_neg hk, hp]⟩
  | .without _ rest, h, ht => rest.exists_of_requires? (List.append_eq_nil_iff.mp h).2 ht

theorem Schema.exists_of_requires? {t : Schema} (h : s.fault? v = none) (ht : s.requires? k = some t) :
    ∃ x, v.step? (.key k) = some x ∧ t.fault? x = none ∧ s.inner? v [.key k] = some (t.whole x) := by
  cases s with
  | record name fields =>
    cases v with
    | obj members =>
      obtain ⟨x, hx, hok, hp⟩ := fields.exists_of_requires? (earliest_eq_none_iff.mp h) ht
      have hstep : (Json.obj members).step? (.key k) = some x := hx
      exact ⟨x, hx, hok, (Json.keyPart?_cons hstep).trans hp⟩
    | _ => cases h
  | _ => cases ht

namespace Content

variable {α : Type} [Content α]

/-- Of every interface, every value it accepts and every part in it: nothing is found in the part, and what
    the part has to have in it is there and is a part as well. With a value in its place that breaks the
    part, whatever else the whole value holds, the fault of the part is told, and it names an interface that
    the part is made of. -/
theorem fault?_put (hv : fault? α v = none) (hp : (schema α).part? v place = some p) :
    ∃ x, v.at? place = some x ∧ p.schema.fault? x = none ∧
      (∀ k t, p.schema.requires? k = some t → ∃ y, v.at? (place ++ [.key k]) = some y ∧
        t.fault? y = none ∧ (schema α).part? v (place ++ [.key k]) = some (t.whole y)) ∧
      ∀ w fault, p.Breaks w fault →
        fault? α (v.put place w) = some fault ∧ (v.put place w).at? place = some w ∧
          fault.interface? ∈ p.schema.blamed := by
  have hexposed := ((schema α).exposesInner wellFormed).exposed hv hp
  obtain ⟨x, hx, hok⟩ := hexposed.stands
  refine ⟨x, hx, hok, fun k t ht => ?_, fun w fault hw => ?_⟩
  · obtain ⟨y, hy, hok', hp'⟩ := Schema.exists_of_requires? hok ht
    refine ⟨y, ?_, hok', ?_⟩
    · rw [Json.at?_append hx, Json.at?_cons hy, Json.at?]
    · rw [Schema.nests_part (schema α).nests_inner v place p x (.key k) [] hp hx, hp']
  · exact ⟨hexposed.breaks w fault hw, Json.at?_put hx, p.schema.interface?_of_fault? w fault hw.1⟩

/-- An edit of one document in which a position lacks its character. -/
theorem fault?_put_position :
    let position := Json.obj [("character", .int 0), ("line", .int 1)]
    let range := Json.obj [("end", position), ("start", position)]
    let v := Json.obj [("changes", .obj [("file:///a", .arr [.obj [("newText", .str "x"), ("range", range)]])])]
    let place : List Step := [.key "changes", .key "file:///a", .item 0, .key "range", .key "start"]
    fault? WorkspaceEdit v = none ∧ (schema WorkspaceEdit).part? v place = some ⟨Position.schema, false⟩ ∧
      fault? WorkspaceEdit (v.put place (.obj [("line", .int 1)])) =
        some (.invalid "Position" (.missing "character")) := by
  intro position range v place
  have hv : fault? WorkspaceEdit v = none := by decide +kernel
  have hp : (schema WorkspaceEdit).part? v place = some ⟨Position.schema, false⟩ := rfl
  obtain ⟨-, -, -, -, hbreaks⟩ := fault?_put hv hp
  exact ⟨hv, hp, (hbreaks _ _ ⟨rfl, nofun⟩).1⟩

end Content

end LanguageServer
