import LanguageServer.Uri
import LanguageServer.Proofs.Text.Pattern
import Mathlib.Data.List.TakeWhile

/-! The pattern of URIs. As a pattern, a URI is a scheme, a colon, an optional authority behind two slashes,
    a path, an optional query behind its mark and an optional fragment behind its mark. Matching tries many
    ways to cut a text into these parts, and the first way that goes through is the one of `Parts.split?`
    (`Parts.match?_eq_split?`): the colon is the first, for no other character of a scheme is a colon, and
    whatever follows it can be cut, so that each part is as long as it can be. -/

namespace LanguageServer.Uri

open Text (Captures Pattern)
open Text.Pattern

/-- A character that a dot stands for. -/
def isDotChar (c : Char) : Bool := c != '\n'

/-- A scheme. -/
def schemePattern : Pattern := .group 1 (.seq (.one isSchemeStart) (.many isSchemeChar))

/-- An authority behind its slashes, or none. -/
def authorityPattern : Pattern :=
  .optional (.seq (.one (· == '/')) (.seq (.one (· == '/')) (.group 2 (.many isAuthorityChar))))

/-- A path. -/
def pathPattern : Pattern := .group 3 (.many isPathChar)

/-- A query behind its mark, or none. -/
def queryPattern : Pattern := .optional (.seq (.one (· == '?')) (.group 4 (.many isQueryChar)))

/-- A fragment behind its mark, or none. -/
def fragmentPattern : Pattern := .optional (.seq (.one (· == '#')) (.group 5 (.many isDotChar)))

/-- What follows the colon. -/
def restPattern : Pattern :=
  .seq authorityPattern <|
  .seq pathPattern <|
  .seq queryPattern fragmentPattern

/-- A URI. -/
def pattern : Pattern := .seq schemePattern (.seq (.one (· == ':')) restPattern)

namespace Parts

/-- The parts that the groups cover. A scheme or a path without a group would be empty. -/
def ofCaptures (captures : Captures) : Parts where
  scheme := (captures.lookup 1).elim "" String.ofList
  authority := (captures.lookup 2).map String.ofList
  path := (captures.lookup 3).elim "" String.ofList
  query := (captures.lookup 4).map String.ofList
  fragment := (captures.lookup 5).map String.ofList

/-- Takes a text apart by the pattern. -/
def match? (text : String) : Option Parts := (pattern.match? text.toList).map ofCaptures

end Parts

/-! ### Cutting what follows the colon -/

-- From the last part to the first: whatever stands before a part is kept, and behind it all goes through.

section Cut

variable {captures : Captures} {cs : List Char}

/-- A part as what its group covers, if it is there. -/
def kept (index : Nat) (part : Option (List Char)) : Captures := (part.map (index, ·)).toList

theorem forall_dropWhile {P : Char → Prop} (inClass : Char → Bool) (h : ∀ c ∈ cs, P c) :
    ∀ c ∈ cs.dropWhile inClass, P c :=
  fun c hc => h c ((List.dropWhile_suffix inClass).subset hc)

theorem run_fragment (captures : Captures) (hd : ∀ c ∈ cs, isDotChar c = true) (hf : ∀ c, cs.head? = some c → c = '#') :
    fragmentPattern.run finish captures cs = some (kept 5 (splitFragment cs) ++ captures) := by
  cases cs with
  | nil => rfl
  | cons c rest =>
    cases hf c rfl
    obtain ⟨-, hd⟩ := List.forall_mem_cons.mp hd
    have hrest : rest.dropWhile isDotChar = [] := List.dropWhile_eq_nil_iff.mpr hd
    have hall : rest.takeWhile isDotChar = rest := List.takeWhile_eq_self_iff.mpr hd
    rw [fragmentPattern, run_optional_of_mark, hrest, hall]
    · rfl
    · rw [hrest]
      rfl

theorem run_query (captures : Captures) (hd : ∀ c ∈ cs, isDotChar c = true)
    (hq : ∀ c, cs.head? = some c → isPathChar c = false) :
    (Pattern.seq queryPattern fragmentPattern).run finish captures cs =
      some (kept 5 (splitFragment (splitQuery cs).2) ++ (kept 4 (splitQuery cs).1 ++ captures)) := by
  have hf := Parts.head?_splitQuery hq
  rw [run_seq]
  by_cases hm : cs.head? = some '?'
  · obtain ⟨rest, rfl⟩ := List.head?_eq_some_iff.mp hm
    have hrest := forall_dropWhile isQueryChar fun c hc => hd c (List.mem_cons_of_mem _ hc)
    have hrun := run_fragment ((4, rest.takeWhile isQueryChar) :: captures) hrest hf
    rw [queryPattern, run_optional_of_mark (hrun ▸ rfl), hrun]
    rfl
  · have hnone : splitQuery cs = (none, cs) := by
      unfold splitQuery
      split
      · exact absurd rfl hm
      · rfl
    rw [hnone] at hf ⊢
    rw [queryPattern, run_optional_of_ne hm, run_fragment captures hd hf]
    rfl

theorem run_path (captures : Captures) (hd : ∀ c ∈ cs, isDotChar c = true) :
    (Pattern.seq pathPattern (.seq queryPattern fragmentPattern)).run finish captures cs =
      some (kept 5 (splitFragment (splitQuery (cs.dropWhile isPathChar)).2) ++
        (kept 4 (splitQuery (cs.dropWhile isPathChar)).1 ++
          (3, cs.takeWhile isPathChar) :: captures)) := by
  have hrun := run_query ((3, cs.takeWhile isPathChar) :: captures) (forall_dropWhile isPathChar hd)
    fun _ => Parts.head?_dropWhile_of_some (p := isPathChar)
  rw [run_seq, pathPattern, run_group_many (hrun ▸ rfl), hrun]

/-- What is kept of what follows the colon. -/
def cut (cs : List Char) : Captures :=
  let back := (splitAuthority cs).2
  let last := back.dropWhile isPathChar
  kept 5 (splitFragment (splitQuery last).2) ++
    (kept 4 (splitQuery last).1 ++ (3, back.takeWhile isPathChar) :: kept 2 (splitAuthority cs).1)

theorem run_rest (captures : Captures) (hd : ∀ c ∈ cs, isDotChar c = true) :
    restPattern.run finish captures cs = some (cut cs ++ captures) := by
  rw [restPattern, run_seq]
  by_cases hm : ∃ back, cs = '/' :: '/' :: back
  · obtain ⟨back, rfl⟩ := hm
    obtain ⟨-, hd⟩ := List.forall_mem_cons.mp hd
    obtain ⟨-, hd⟩ := List.forall_mem_cons.mp hd
    have hrun := run_path ((2, back.takeWhile isAuthorityChar) :: captures)
      (forall_dropWhile isAuthorityChar hd)
    rw [authorityPattern, run_optional, run_seq, run_one_self, run_seq, run_one_self,
      run_group_many (hrun ▸ rfl), hrun, Option.some_or]
    simp [cut, splitAuthority, kept]
  · have hnone : splitAuthority cs = (none, cs) := by
      unfold splitAuthority
      split
      · exact absurd ⟨_, rfl⟩ hm
      · rfl
    have hrun := run_path captures hd
    have hout : authorityPattern.run (run (.seq pathPattern (.seq queryPattern fragmentPattern)) finish)
        captures cs = run (.seq pathPattern (.seq queryPattern fragmentPattern)) finish captures cs := by
      by_cases hs : cs.head? = some '/'
      · -- One slash alone starts the path.
        obtain ⟨back, rfl⟩ := List.head?_eq_some_iff.mp hs
        have hb : back.head? ≠ some '/' := fun h => hm <| by
          obtain ⟨rest, rfl⟩ := List.head?_eq_some_iff.mp h
          exact ⟨rest, rfl⟩
        rw [authorityPattern, run_optional, run_seq, run_one_self, run_seq, run_one_of_ne hb, Option.none_or]
      · exact run_optional_of_ne hs
    rw [hout, hrun, cut, hnone]
    simp [kept]

end Cut

/-! ### The whole pattern -/

theorem isSchemeChar_of_start {c : Char} (h : isSchemeStart c = true) : isSchemeChar c = true := by
  have h : c.isAlpha = true := h
  simp [isSchemeChar, Char.isAlphanum, h]

theorem ne_colon_of_isSchemeChar {c : Char} (h : isSchemeChar c = true) : c ≠ ':' := by
  rintro rfl
  cases h

/-- The scheme ends at the first colon, for there is none in it. -/
theorem run_scheme {back : Pattern} (cs : List Char) :
    (Pattern.seq schemePattern (.seq (.one (· == ':')) back)).run finish [] cs =
      (splitScheme? cs).bind fun (scheme, rest) => back.run finish [(1, scheme)] rest := by
  cases cs with
  | nil => rfl
  | cons c tail =>
    show (if isSchemeStart c then Text.greedy isSchemeChar (fun rest => (Pattern.one (· == ':')).run
      (back.run finish) [(1, (c :: tail).take ((c :: tail).length - rest.length))] rest) tail else none) = _
    rw [splitScheme?]
    cases hc : isSchemeStart c with
    | false => rfl
    | true =>
      have htail : tail.dropWhile isSchemeChar = (c :: tail).dropWhile isSchemeChar :=
        (List.dropWhile_cons_of_pos (isSchemeChar_of_start hc)).symm
      have hstops : ∀ d rest, isSchemeChar d = true → (Pattern.one (· == ':')).run (back.run finish)
          [(1, (c :: tail).take ((c :: tail).length - (d :: rest).length))] (d :: rest) = none :=
        fun d rest hd => run_one_of_ne fun h => ne_colon_of_isSchemeChar hd (Option.some.inj h)
      rw [if_pos rfl, if_pos rfl, Text.greedy_of_stops hstops, htail, Text.take_sub_dropWhile]
      by_cases hcolon : ((c :: tail).dropWhile isSchemeChar).head? = some ':'
      · obtain ⟨rest, hrest⟩ := List.head?_eq_some_iff.mp hcolon
        rw [hrest, run_one_self]
        rfl
      · rw [run_one_of_ne hcolon]
        split
        · rename_i h
          rw [h] at hcolon
          exact absurd rfl hcolon
        · rfl

namespace Parts

theorem ofCaptures_kept (scheme path : List Char) (authority query fragment : Option (List Char)) :
    ofCaptures (kept 5 fragment ++ (kept 4 query ++ (3, path) :: kept 2 authority) ++ [(1, scheme)]) =
      ⟨String.ofList scheme, authority.map String.ofList, String.ofList path, query.map String.ofList,
        fragment.map String.ofList⟩ := by
  cases authority <;> cases query <;> cases fragment <;> rfl

theorem ofCaptures_cut (scheme cs : List Char) :
    ofCaptures (cut cs ++ [(1, scheme)]) = ofScheme scheme cs :=
  ofCaptures_kept _ _ _ _ _

/-- On a text without a line break, matching the pattern gives the parts that the text is split into. -/
theorem match?_eq_split? {text : String} (hd : ∀ c ∈ text.toList, isDotChar c = true) :
    match? text = split? text := by
  rw [match?, Pattern.match?, pattern, run_scheme, split?]
  cases hs : splitScheme? text.toList with
  | none => rfl
  | some found =>
    obtain ⟨scheme, rest⟩ := found
    have hrest : ∀ c ∈ rest, isDotChar c = true := fun c hc => by
      rw [eq_of_splitScheme? hs] at hd
      exact hd c (List.mem_append_right _ (List.mem_cons_of_mem _ hc))
    have hrun := run_rest [(1, scheme)] hrest
    exact (congrArg (Option.map ofCaptures) hrun).trans (congrArg some (ofCaptures_cut scheme rest))

end Parts

/-! ### Reading by the pattern -/

/-- Reads the parts of a URI by the pattern. -/
def parts (text : String) : Except Fault Parts :=
  if text.isEmpty then .error .empty
  else if text.toList.any Text.isBlank then .error (.blank text)
  else
    match Parts.match? text with
    | some p => .ok p
    | none => .error (.malformed text)

/-- Everything that reading a text can come to. -/
theorem parse_cases (s : String) :
    (s = "" ∧ parse s = .error .empty) ∨
    s ≠ "" ∧
      (((∃ c ∈ s.toList, Text.isBlank c = true) ∧ parse s = .error (.blank s)) ∨
      (∀ c ∈ s.toList, Text.isBlank c = false) ∧
        ((Parts.split? s = none ∧ parse s = .error (.malformed s)) ∨
        ∃ u : Uri, Parts.split? s = some u.toParts ∧ parse s = .ok u)) := by
  unfold parse
  split
  · rename_i h
    exact Or.inl ⟨by simpa using h, rfl⟩
  · rename_i h
    refine Or.inr ⟨by simpa using h, ?_⟩
    split
    · rename_i hb
      exact Or.inl ⟨List.any_eq_true.mp hb, rfl⟩
    · rename_i hb
      refine Or.inr ⟨by simpa using hb, ?_⟩
      split
      · rename_i p hp
        exact Or.inr ⟨_, hp, rfl⟩
      · rename_i hp
        exact Or.inl ⟨hp, rfl⟩

/-- Reading a URI gives the parts that the pattern gives, and fails as it fails. -/
theorem map_parse (s : String) : (parse s).map (·.toParts) = parts s := by
  rcases parse_cases s with ⟨rfl, h⟩ | ⟨hs, ⟨hb, h⟩ | ⟨hb, hsplit⟩⟩
  · rfl
  · rw [h, parts, if_neg (by simpa using hs), if_pos (List.any_eq_true.mpr hb)]
    rfl
  · have hd : ∀ c ∈ s.toList, isDotChar c = true := fun c hc => bne_iff_ne.mpr <| by
      rintro rfl
      exact absurd (hb _ hc) (by decide)
    rw [parts, if_neg (by simpa using hs), if_neg (by simpa using hb), Parts.match?_eq_split? hd]
    rcases hsplit with ⟨hn, h⟩ | ⟨u, hu, h⟩
    · rw [h, hn]
      rfl
    · rw [h, hu]
      rfl

end LanguageServer.Uri
