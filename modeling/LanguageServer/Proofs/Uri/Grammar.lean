import LanguageServer.Proofs.Uri.Pattern

/-! The grammar of URIs. Which texts are URIs, and where each part of one stands, said without an order in
    which the parts are taken. A text is a URI if it is a scheme, a colon and the rest, with no blank in it.
    What stands in the rest is told by its marks alone (`Parts.Splits`), and this leaves no choice: the
    parts of a URI are the only ones that are written as its text and stand where the marks say
    (`Uri.parse_grammar`). -/

namespace LanguageServer.Uri

variable {cs rest scheme : List Char}

/-- A letter, and then letters, digits, plus signs, dots and dashes. -/
def IsScheme (scheme : List Char) : Prop :=
  ∃ c tail, scheme = c :: tail ∧ c.isAlpha = true ∧
    ∀ d ∈ tail, d.isAlphanum = true ∨ d = '+' ∨ d = '.' ∨ d = '-'

/-- The text is a scheme, a colon and the rest. -/
def Schemed (cs scheme rest : List Char) : Prop := cs = scheme ++ ':' :: rest ∧ IsScheme scheme

/-- The parts stand in the rest of a text, behind the colon, where its marks say. -/
structure Parts.Splits (p : Parts) (rest : List Char) : Prop where
  authority_isSome : p.authority.isSome = true ↔ ['/', '/'] <+: rest
  /-- The authority is what follows the slashes, up to the next slash or mark. -/
  authority : ∀ a, p.authority = some a → ∃ back, rest = '/' :: '/' :: (a.toList ++ back) ∧
    (∀ c ∈ a.toList, c ≠ '/' ∧ c ≠ '?' ∧ c ≠ '#') ∧ ∀ c, back.head? = some c → c = '/' ∨ c = '?' ∨ c = '#'
  path_head : p.authority.isSome = true → ∀ c, p.path.toList.head? = some c → c = '/'
  path : ∀ c ∈ p.path.toList, c ≠ '?' ∧ c ≠ '#'
  query_isSome : p.query.isSome = true ↔ ∃ before after, rest = before ++ '?' :: after ∧ '#' ∉ before
  /-- The query is what follows the first question mark, up to the first hash. -/
  query : ∀ q, p.query = some q ↔ ∃ before after, rest = before ++ '?' :: (q.toList ++ after) ∧
    ('?' ∉ before ∧ '#' ∉ before) ∧ '#' ∉ q.toList ∧ ∀ c, after.head? = some c → c = '#'
  fragment_isSome : p.fragment.isSome = true ↔ '#' ∈ rest
  /-- The fragment is what follows the first hash. -/
  fragment : ∀ f, p.fragment = some f ↔ ∃ before, rest = before ++ '#' :: f.toList ∧ '#' ∉ before

/-- The parts are written as the text, and each of them stands where it says. -/
def Parts.Split (p : Parts) (s : String) : Prop :=
  p.text = s ∧ ∃ rest, Schemed s.toList p.scheme.toList rest ∧ p.Splits rest

/-! ### The scheme -/

theorem isSchemeChar_iff {c : Char} :
    isSchemeChar c = true ↔ c.isAlphanum = true ∨ c = '+' ∨ c = '.' ∨ c = '-' := by
  simp [isSchemeChar, or_assoc]

theorem IsScheme.all (h : IsScheme scheme) : ∀ c ∈ scheme, isSchemeChar c = true := by
  obtain ⟨c, tail, rfl, hc, ht⟩ := h
  exact List.forall_mem_cons.mpr ⟨isSchemeChar_of_start hc, fun d hd => isSchemeChar_iff.mpr (ht d hd)⟩

/-- Where the first character out of a class stands, a text is cut in only one way. -/
theorem takeWhile_append_of_head {inClass : Char → Bool} {front : List Char} (back : List Char)
    (hf : ∀ c ∈ front, inClass c = true) (hb : ∀ c, back.head? = some c → inClass c = false) :
    (front ++ back).takeWhile inClass = front ∧ (front ++ back).dropWhile inClass = back := by
  rw [List.takeWhile_append_of_pos hf, List.dropWhile_append_of_pos hf]
  cases back with
  | nil => exact ⟨List.append_nil front, rfl⟩
  | cons c back =>
    have hc : ¬ inClass c = true := by simp [hb c rfl]
    rw [List.takeWhile_cons_of_neg hc, List.dropWhile_cons_of_neg hc, List.append_nil]
    exact ⟨rfl, rfl⟩

/-- What is taken off as the scheme is a scheme, and it can be told in no other way. -/
theorem splitScheme?_eq_some_iff : splitScheme? cs = some (scheme, rest) ↔ Schemed cs scheme rest := by
  constructor
  · intro h
    refine ⟨Parts.eq_of_splitScheme? h, ?_⟩
    unfold splitScheme? at h
    split at h
    · cases h
    · rename_i c tail
      split at h
      · rename_i hc
        split at h
        · cases h
          refine ⟨c, tail.takeWhile isSchemeChar, ?_, hc, fun d hd => ?_⟩
          · rw [List.takeWhile_cons_of_pos (isSchemeChar_of_start hc)]
          · exact isSchemeChar_iff.mp (List.mem_takeWhile_imp hd)
        · cases h
      · cases h
  · rintro ⟨rfl, hs⟩
    obtain ⟨htake, hdrop⟩ := takeWhile_append_of_head (':' :: rest) hs.all (by rintro _ ⟨⟩; rfl)
    obtain ⟨c, tail, rfl, hc, -⟩ := hs
    have hc : isSchemeStart c = true := hc
    simp only [List.cons_append] at htake hdrop ⊢
    simp [splitScheme?, hc, htake, hdrop]

/-! ### What stands behind the colon -/

theorem isAuthorityChar_iff {c : Char} : isAuthorityChar c = true ↔ c ≠ '/' ∧ c ≠ '?' ∧ c ≠ '#' := by
  simp [isAuthorityChar, and_assoc]

theorem isAuthorityChar_eq_false_iff {c : Char} :
    isAuthorityChar c = false ↔ c = '/' ∨ c = '?' ∨ c = '#' := by
  simp only [isAuthorityChar, Bool.not_eq_false', Bool.or_eq_true, beq_iff_eq, or_assoc]

theorem isPathChar_iff {c : Char} : isPathChar c = true ↔ c ≠ '?' ∧ c ≠ '#' := by
  simp [isPathChar]

theorem isPathChar_eq_false_iff {c : Char} : isPathChar c = false ↔ c = '?' ∨ c = '#' := by
  simp only [isPathChar, Bool.not_eq_false', Bool.or_eq_true, beq_iff_eq]

theorem isQueryChar_iff {c : Char} : isQueryChar c = true ↔ c ≠ '#' := by
  simp [isQueryChar]

theorem isPathChar_of_isAuthorityChar {c : Char} (h : isAuthorityChar c = true) : isPathChar c = true :=
  isPathChar_iff.mpr (isAuthorityChar_iff.mp h).2

theorem isQueryChar_of_isPathChar {c : Char} (h : isPathChar c = true) : isQueryChar c = true :=
  isQueryChar_iff.mpr (isPathChar_iff.mp h).2

/-- What is left of a text without its first characters of a class starts with a certain character just if
    this is the first character out of the class. -/
theorem dropWhile_eq_cons_iff {inClass : Char → Bool} {c : Char} {back : List Char} :
    cs.dropWhile inClass = c :: back ↔
      ∃ before, cs = before ++ c :: back ∧ (∀ d ∈ before, inClass d = true) ∧ inClass c = false := by
  constructor
  · intro h
    refine ⟨cs.takeWhile inClass, ?_, fun d => List.mem_takeWhile_imp, ?_⟩
    · rw [← h, List.takeWhile_append_dropWhile]
    · exact Parts.head?_dropWhile_of_some (congrArg List.head? h)
  · rintro ⟨before, rfl, hb, hc⟩
    exact (takeWhile_append_of_head _ hb (by rintro _ ⟨⟩; exact hc)).2

theorem isSome_splitAuthority_iff :
    (splitAuthority rest).1.isSome = true ↔ ∃ back, rest = '/' :: '/' :: back := by
  unfold splitAuthority
  split
  · rename_i back
    exact iff_of_true rfl ⟨back, rfl⟩
  · rename_i hne
    exact iff_of_false Bool.false_ne_true fun ⟨back, h⟩ => hne back h

/-- To leave out a class, and then a class around it, is to leave out the one around it. -/
theorem dropWhile_dropWhile {inClass part : Char → Bool}
    (h : ∀ c ∈ cs.takeWhile part, inClass c = true) :
    (cs.dropWhile part).dropWhile inClass = cs.dropWhile inClass := by
  have hcs : (cs.takeWhile part ++ cs.dropWhile part).dropWhile inClass = (cs.dropWhile part).dropWhile inClass :=
    List.dropWhile_append_of_pos h
  rw [← hcs, List.takeWhile_append_dropWhile]

/-- There is neither mark in the authority, so the path ends where the first of them stands. -/
theorem dropWhile_splitAuthority (rest : List Char) :
    (splitAuthority rest).2.dropWhile isPathChar = rest.dropWhile isPathChar := by
  unfold splitAuthority
  split
  · rename_i back
    have hall : ∀ c ∈ back.takeWhile isAuthorityChar, isPathChar c = true := fun c hc =>
      isPathChar_of_isAuthorityChar (List.mem_takeWhile_imp hc)
    rw [List.dropWhile_cons_of_pos rfl, List.dropWhile_cons_of_pos rfl]
    exact dropWhile_dropWhile hall
  · rfl

/-- The query ends where the first hash stands. -/
theorem splitQuery_dropWhile (rest : List Char) :
    (splitQuery (rest.dropWhile isPathChar)).2 = rest.dropWhile isQueryChar := by
  have hall : ∀ c ∈ rest.takeWhile isPathChar, isQueryChar c = true := fun c hc =>
    isQueryChar_of_isPathChar (List.mem_takeWhile_imp hc)
  rw [← dropWhile_dropWhile hall]
  cases hd : rest.dropWhile isPathChar with
  | nil => rfl
  | cons c back =>
    have hc : isPathChar c = false := Parts.head?_dropWhile_of_some (congrArg List.head? hd)
    rcases isPathChar_eq_false_iff.mp hc with rfl | rfl
    · exact (List.dropWhile_cons_of_pos rfl).symm
    · rfl

theorem splitQuery_eq_some_iff {query : List Char} :
    (splitQuery (rest.dropWhile isPathChar)).1 = some query ↔
      ∃ before after, rest = before ++ '?' :: (query ++ after) ∧ ('?' ∉ before ∧ '#' ∉ before) ∧
        '#' ∉ query ∧ ∀ c, after.head? = some c → c = '#' := by
  have hmarks : ∀ before : List Char,
      (∀ c ∈ before, isPathChar c = true) ↔ '?' ∉ before ∧ '#' ∉ before := fun before => by
    simp only [isPathChar_iff]
    exact ⟨fun h => ⟨fun hm => (h _ hm).1 rfl, fun hm => (h _ hm).2 rfl⟩,
      fun h c hc => ⟨fun e => h.1 (e ▸ hc), fun e => h.2 (e ▸ hc)⟩⟩
  constructor
  · intro h
    unfold splitQuery at h
    split at h
    · rename_i back hd
      cases h
      obtain ⟨before, hrest, hb, -⟩ := dropWhile_eq_cons_iff.mp hd
      refine ⟨before, back.dropWhile isQueryChar, ?_, (hmarks before).mp hb, fun hm => ?_, fun c hc => ?_⟩
      · rw [List.takeWhile_append_dropWhile, hrest]
      · exact isQueryChar_iff.mp (List.mem_takeWhile_imp hm) rfl
      · simpa [isQueryChar] using Parts.head?_dropWhile_of_some hc
    · cases h
  · rintro ⟨before, after, hrest, hb, hq, ha⟩
    have hd := dropWhile_eq_cons_iff.mpr ⟨before, hrest, (hmarks before).mpr hb, rfl⟩
    have htake := (takeWhile_append_of_head after
      (fun c hc => isQueryChar_iff.mpr fun e => hq (e ▸ hc)) (fun c hc => by rw [ha c hc]; rfl)).1
    rw [hd, splitQuery, htake]

theorem splitFragment_eq_some_iff {fragment : List Char} :
    splitFragment (rest.dropWhile isQueryChar) = some fragment ↔
      ∃ before, rest = before ++ '#' :: fragment ∧ '#' ∉ before := by
  have hmark : ∀ before : List Char, (∀ c ∈ before, isQueryChar c = true) ↔ '#' ∉ before :=
    fun before => by
      simp only [isQueryChar_iff]
      exact ⟨fun h hm => h _ hm rfl, fun h c hc e => h (e ▸ hc)⟩
  constructor
  · intro h
    unfold splitFragment at h
    split at h
    · rename_i hd
      cases h
      obtain ⟨before, hrest, hb, -⟩ := dropWhile_eq_cons_iff.mp hd
      exact ⟨before, hrest, (hmark before).mp hb⟩
    · cases h
  · rintro ⟨before, hrest, hb⟩
    rw [dropWhile_eq_cons_iff.mpr ⟨before, hrest, (hmark before).mpr hb, rfl⟩]
    rfl

/-- If a question mark stands before every hash, the first mark of all is a question mark. -/
theorem exists_dropWhile_mark {before after : List Char} (h : '#' ∉ before) :
    ∃ back, (before ++ '?' :: after).dropWhile isPathChar = '?' :: back := by
  induction before with
  | nil => exact ⟨after, rfl⟩
  | cons c before ih =>
    obtain ⟨hc, hb⟩ := not_or.mp (mt List.mem_cons.mpr h)
    by_cases hq : c = '?'
    · subst hq
      exact ⟨_, rfl⟩
    · rw [List.cons_append, List.dropWhile_cons_of_pos (isPathChar_iff.mpr ⟨hq, Ne.symm hc⟩)]
      exact ih hb

namespace Parts

variable {p q : Parts}

theorem map_ofList_eq_some_iff {part : Option (List Char)} {text : String} :
    part.map String.ofList = some text ↔ part = some text.toList := by
  rw [Option.map_eq_some_iff]
  constructor
  · rintro ⟨cs, rfl, rfl⟩
    rw [String.toList_ofList]
  · rintro rfl
    exact ⟨_, rfl, String.ofList_toList⟩

/-- What is taken apart stands where its marks say. -/
theorem splits_ofScheme (scheme rest : List Char) : (ofScheme scheme rest).Splits rest := by
  have hquery : (ofScheme scheme rest).query =
      (splitQuery (rest.dropWhile isPathChar)).1.map String.ofList := by
    rw [← dropWhile_splitAuthority]
    rfl
  have hfragment : (ofScheme scheme rest).fragment =
      (splitFragment (rest.dropWhile isQueryChar)).map String.ofList := by
    rw [← splitQuery_dropWhile, ← dropWhile_splitAuthority]
    rfl
  have hauthority : (ofScheme scheme rest).authority = (splitAuthority rest).1.map String.ofList := rfl
  have hpath : (ofScheme scheme rest).path.toList = (splitAuthority rest).2.takeWhile isPathChar :=
    String.toList_ofList
  constructor
  case authority_isSome =>
    rw [hauthority, Option.isSome_map, isSome_splitAuthority_iff]
    exact exists_congr fun _ => eq_comm
  case authority =>
    intro a ha
    rw [hauthority, map_ofList_eq_some_iff] at ha
    obtain ⟨back, rfl⟩ := isSome_splitAuthority_iff.mp (Option.isSome_iff_exists.mpr ⟨_, ha⟩)
    have ha : back.takeWhile isAuthorityChar = a.toList := Option.some.inj ha
    refine ⟨back.dropWhile isAuthorityChar, ?_, fun c hc => ?_, fun c hc => ?_⟩
    · rw [← ha, List.takeWhile_append_dropWhile]
    · rw [← ha] at hc
      exact isAuthorityChar_iff.mp (List.mem_takeWhile_imp hc)
    · exact isAuthorityChar_eq_false_iff.mp (head?_dropWhile_of_some hc)
  case path_head =>
    intro ha c hc
    rw [hauthority, Option.isSome_map] at ha
    obtain ⟨back, rfl⟩ := isSome_splitAuthority_iff.mp ha
    have hc : ((back.dropWhile isAuthorityChar).takeWhile isPathChar).head? = some c := hpath ▸ hc
    cases hd : back.dropWhile isAuthorityChar with
    | nil =>
      rw [hd] at hc
      cases hc
    | cons d tail =>
      -- The path starts where the authority ends, and not with a mark.
      have hend := isAuthorityChar_eq_false_iff.mp (head?_dropWhile_of_some (congrArg List.head? hd))
      rw [hd] at hc
      rcases hend with rfl | rfl | rfl
      · exact (Option.some.inj hc).symm
      · cases hc
      · cases hc
  case path =>
    intro c hc
    rw [hpath] at hc
    exact isPathChar_iff.mp (List.mem_takeWhile_imp hc)
  case query_isSome =>
    rw [hquery, Option.isSome_map]
    constructor
    · intro h
      obtain ⟨query, h⟩ := Option.isSome_iff_exists.mp h
      obtain ⟨before, after, hrest, hb, -⟩ := splitQuery_eq_some_iff.mp h
      exact ⟨before, query ++ after, hrest, hb.2⟩
    · rintro ⟨before, after, rfl, hb⟩
      obtain ⟨back, hback⟩ := exists_dropWhile_mark hb
      rw [hback]
      rfl
  case query =>
    intro query
    rw [hquery, map_ofList_eq_some_iff, splitQuery_eq_some_iff]
  case fragment_isSome =>
    rw [hfragment, Option.isSome_map, Option.isSome_iff_exists]
    simp only [splitFragment_eq_some_iff]
    constructor
    · rintro ⟨fragment, before, rfl, -⟩
      simp
    · intro h
      obtain ⟨before, fragment, hrest, hb⟩ := List.eq_append_cons_of_mem h
      exact ⟨fragment, before, hrest, hb⟩
  case fragment =>
    intro fragment
    rw [hfragment, map_ofList_eq_some_iff, splitFragment_eq_some_iff]

theorem split_of_split? {s : String} (h : split? s = some p) : p.Split s := by
  refine ⟨text_of_split? h, ?_⟩
  obtain ⟨⟨scheme, rest⟩, hs, rfl⟩ := Option.map_eq_some_iff.mp h
  refine ⟨rest, ?_, splits_ofScheme scheme rest⟩
  have hscheme : (ofScheme scheme rest).scheme.toList = scheme := String.toList_ofList
  rw [hscheme]
  exact splitScheme?_eq_some_iff.mp hs

/-- The authority can end at one place only. -/
theorem Splits.toList_authority {a : String} (h : p.Splits rest) (ha : p.authority = some a) :
    a.toList = (rest.drop 2).takeWhile isAuthorityChar := by
  obtain ⟨back, rfl, hall, hback⟩ := h.authority a ha
  exact (takeWhile_append_of_head _ (fun c hc => isAuthorityChar_iff.mpr (hall c hc))
    fun c hc => isAuthorityChar_eq_false_iff.mpr (hback c hc)).1.symm

/-- Parts that are written alike and stand in the same rest where their marks say are the same. -/
theorem Splits.eq (hp : p.Splits rest) (hq : q.Splits rest) (hs : p.scheme = q.scheme)
    (ht : p.text = q.text) : p = q := by
  have hquery : p.query = q.query := Option.ext fun x => (hp.query x).trans (hq.query x).symm
  have hfragment : p.fragment = q.fragment := Option.ext fun x => (hp.fragment x).trans (hq.fragment x).symm
  have hauthority : p.authority = q.authority := by
    have hsome := hp.authority_isSome.trans hq.authority_isSome.symm
    cases ha : p.authority with
    | none =>
      rw [ha] at hsome
      exact (Option.not_isSome_iff_eq_none.mp fun h => nomatch hsome.mpr h).symm
    | some a =>
      rw [ha] at hsome
      obtain ⟨b, hb⟩ := Option.isSome_iff_exists.mp (hsome.mp rfl)
      rw [hb, String.toList_injective ((hp.toList_authority ha).trans (hq.toList_authority hb).symm)]
  obtain ⟨scheme, authority, path, query, fragment⟩ := p
  cases hs
  cases hquery
  cases hfragment
  cases hauthority
  have hpath : path = q.path := by
    simpa [text] using ht
  cases hpath
  rfl

/-- The parts of a text are the only ones that are written as the text and stand where the marks say. -/
theorem Split.eq {s : String} (hp : p.Split s) (hq : q.Split s) : p = q := by
  obtain ⟨hpt, rest, hps, hpr⟩ := hp
  obtain ⟨hqt, rest', hqs, hqr⟩ := hq
  obtain ⟨hscheme, rfl⟩ := Prod.mk.inj (Option.some.inj
    ((splitScheme?_eq_some_iff.mpr hps).symm.trans (splitScheme?_eq_some_iff.mpr hqs)))
  exact hpr.eq hqr (String.toList_injective hscheme) (hpt.trans hqt.symm)

end Parts

/-! ### Reading -/

theorem isSome_split?_iff {s : String} :
    (Parts.split? s).isSome = true ↔ ∃ scheme rest, Schemed s.toList scheme rest := by
  rw [Parts.split?, Option.isSome_map, Option.isSome_iff_exists, Prod.exists]
  simp only [splitScheme?_eq_some_iff]

theorem parse_eq_empty_iff {s : String} : parse s = .error .empty ↔ s = "" := by
  rcases parse_cases s with ⟨hs, h⟩ | ⟨hs, ⟨-, h⟩ | ⟨-, ⟨-, h⟩ | ⟨u, -, h⟩⟩⟩
  · exact iff_of_true h hs
  all_goals exact iff_of_false (by simp [h]) hs

theorem parse_eq_blank_iff {s : String} :
    parse s = .error (.blank s) ↔ s ≠ "" ∧ ∃ c ∈ s.toList, Text.isBlank c = true := by
  rcases parse_cases s with ⟨hs, h⟩ | ⟨hs, ⟨hb, h⟩ | ⟨hb, hread⟩⟩
  · exact iff_of_false (by simp [h]) fun hb => hb.1 hs
  · exact iff_of_true h ⟨hs, hb⟩
  · have hne : parse s ≠ .error (.blank s) := by
      rcases hread with ⟨-, h⟩ | ⟨u, -, h⟩ <;> simp [h]
    refine iff_of_false hne ?_
    rintro ⟨-, c, hc, hblank⟩
    exact Bool.false_ne_true ((hb c hc).symm.trans hblank)

theorem parse_eq_malformed_iff {s : String} :
    parse s = .error (.malformed s) ↔ s ≠ "" ∧ (∀ c ∈ s.toList, Text.isBlank c = false) ∧
      ¬ ∃ scheme rest, Schemed s.toList scheme rest := by
  rw [← isSome_split?_iff]
  rcases parse_cases s with ⟨hs, h⟩ | ⟨hs, ⟨⟨c, hc, hblank⟩, h⟩ | ⟨hb, ⟨hn, h⟩ | ⟨u, hu, h⟩⟩⟩
  · exact iff_of_false (by simp [h]) fun hb => hb.1 hs
  · refine iff_of_false (by simp [h]) ?_
    rintro ⟨-, hb, -⟩
    exact Bool.false_ne_true ((hb c hc).symm.trans hblank)
  · exact iff_of_true h ⟨hs, hb, by simp [hn]⟩
  · exact iff_of_false (by simp [h]) fun hm => hm.2.2 (by simp [hu])

theorem exists_parse_iff {s : String} :
    (∃ u, parse s = .ok u) ↔
      (∀ c ∈ s.toList, Text.isBlank c = false) ∧ ∃ scheme rest, Schemed s.toList scheme rest := by
  rw [← isSome_split?_iff]
  rcases parse_cases s with ⟨rfl, h⟩ | ⟨hs, ⟨⟨c, hc, hblank⟩, h⟩ | ⟨hb, ⟨hn, h⟩ | ⟨u, hu, h⟩⟩⟩
  · refine iff_of_false (by simp [h]) ?_
    rintro ⟨-, hsplit⟩
    cases hsplit
  · refine iff_of_false (by simp [h]) ?_
    rintro ⟨hb, -⟩
    exact Bool.false_ne_true ((hb c hc).symm.trans hblank)
  · exact iff_of_false (by simp [h]) fun hm => by simp [hn] at hm
  · exact iff_of_true ⟨u, h⟩ ⟨hb, by simp [hu]⟩

theorem split_of_parse {s : String} {u : Uri} (h : parse s = .ok u) : u.toParts.Split s := by
  rcases parse_cases s with ⟨-, he⟩ | ⟨-, ⟨-, he⟩ | ⟨-, ⟨-, he⟩ | ⟨w, hw, he⟩⟩⟩
  · cases h.symm.trans he
  · cases h.symm.trans he
  · cases h.symm.trans he
  · cases h.symm.trans he
    exact Parts.split_of_split? hw

/-- Of every text: reading fails on no text at all, on a text with a blank in it, and on any other text that
    is not a scheme, a colon and the rest, each time with its own fault, and on no other. The parts of the
    URI that is read are written as the text and stand in it where their marks say, and no other parts do. A
    URI is read from its own text and from no other, and matching the pattern comes to the same. -/
theorem parse_grammar (s : String) :
    (parse s = .error .empty ↔ s = "") ∧
    (parse s = .error (.blank s) ↔ s ≠ "" ∧ ∃ c ∈ s.toList, Text.isBlank c = true) ∧
    ((∃ u, parse s = .ok u) ↔
      (∀ c ∈ s.toList, Text.isBlank c = false) ∧ ∃ scheme rest, Schemed s.toList scheme rest) ∧
    (parse s = .error (.malformed s) ↔ s ≠ "" ∧ (∀ c ∈ s.toList, Text.isBlank c = false) ∧
      ¬ ∃ scheme rest, Schemed s.toList scheme rest) ∧
    (∀ u, parse s = .ok u → u.text = s ∧ u.toParts.Split s ∧ ∀ p : Parts, p.Split s → p = u.toParts) ∧
    (∀ u, parse u.text = .ok u) ∧
    (∀ t u, parse s = .ok u → parse t = .ok u → s = t) ∧
    (parse s).map (·.toParts) = parts s := by
  refine ⟨parse_eq_empty_iff, parse_eq_blank_iff, exists_parse_iff, parse_eq_malformed_iff, fun u h => ?_,
    parse_text, fun t u hs ht => ?_, map_parse s⟩
  · have hsplit := split_of_parse h
    exact ⟨text_of_parse h, hsplit, fun p hp => hp.eq hsplit⟩
  · rw [← text_of_parse hs, text_of_parse ht]

end LanguageServer.Uri
