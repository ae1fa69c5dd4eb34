/-! Patterns of text. A pattern is matched against a text from its first character to its last, by trying
    the ways to go on in order: a run of characters takes as many as it can before it takes fewer, and an
    optional part is there before it is left out. The first way that reaches the end of the text is taken,
    with what its groups cover. Only runs of single characters are repeated, so no more than that has to be
    told of repetition: a run is as long as it can be if the rest goes through there (`greedy_of_isSome`),
    or if it goes through nowhere before (`greedy_of_stops`). -/

namespace LanguageServer.Text

/-- A pattern of text. -/
inductive Pattern where
  /-- One character of a class. -/
  | one (inClass : Char → Bool)
  /-- Any number of characters of a class, rather more than fewer. -/
  | many (inClass : Char → Bool)
  | seq (first second : Pattern)
  /-- The pattern, or nothing, rather the pattern. -/
  | optional (pattern : Pattern)
  /-- The pattern, and what it covers is kept under a number. -/
  | group (index : Nat) (pattern : Pattern)

/-- What the groups cover, by their numbers. A group that took no part is not among them. -/
abbrev Captures := List (Nat × List Char)

variable {α : Type} {inClass : Char → Bool} {next : List Char → Option α} {cs : List Char}

/-- Takes characters of a class off a text and goes on: first behind as many as there are, then, as long as
    this leads nowhere, behind one fewer. -/
def greedy (inClass : Char → Bool) (next : List Char → Option α) : List Char → Option α
  | [] => next []
  | c :: rest =>
    if inClass c then (greedy inClass next rest).or (next (c :: rest)) else next (c :: rest)

namespace Pattern

/-- Matches a pattern at the start of a text and goes on with what is left. -/
def run : Pattern → (Captures → List Char → Option α) → Captures → List Char → Option α
  | one _, _, _, [] => none
  | one inClass, next, captures, c :: rest => if inClass c then next captures rest else none
  | many inClass, next, captures, cs => greedy inClass (next captures) cs
  | seq first second, next, captures, cs => first.run (second.run next) captures cs
  | optional pattern, next, captures, cs => (pattern.run next captures cs).or (next captures cs)
  | group index pattern, next, captures, cs =>
    pattern.run (fun captures rest => next ((index, cs.take (cs.length - rest.length)) :: captures) rest)
      captures cs

/-- Goes on with nothing, which is right at the end of a text alone. -/
def finish (captures : Captures) (cs : List Char) : Option Captures :=
  if cs.isEmpty then some captures else none

/-- What the groups cover in the first way to match the whole text. -/
def match? (pattern : Pattern) (cs : List Char) : Option Captures := pattern.run finish [] cs

section Run

variable {next : Captures → List Char → Option α} {captures : Captures} {index : Nat} {mark : Char}
  {first second pattern : Pattern}

theorem run_seq : (seq first second).run next captures cs = first.run (second.run next) captures cs := rfl

theorem run_optional :
    (optional pattern).run next captures cs = (pattern.run next captures cs).or (next captures cs) := rfl

theorem run_one_of_ne (h : cs.head? ≠ some mark) : (one (· == mark)).run next captures cs = none := by
  cases cs with
  | nil => rfl
  | cons c rest =>
    have hc : (c == mark) = false := beq_eq_false_iff_ne.mpr fun e => h (congrArg some e)
    rw [run, hc, if_neg (by simp)]

theorem run_one_self : (one (· == mark)).run next captures (mark :: cs) = next captures cs := by
  rw [run, beq_self_eq_true, if_pos rfl]

end Run

end Pattern

/-! ### Runs of characters -/

/-- A run is as long as it can be if the rest goes through behind it. -/
theorem greedy_of_isSome (h : (next (cs.dropWhile inClass)).isSome) :
    greedy inClass next cs = next (cs.dropWhile inClass) := by
  induction cs with
  | nil => rfl
  | cons c rest ih =>
    rw [greedy]
    cases hc : inClass c with
    | false => rw [List.dropWhile_cons_of_neg (by simp [hc]), if_neg (by simp)]
    | true =>
      rw [List.dropWhile_cons_of_pos hc] at h ⊢
      obtain ⟨a, ha⟩ := Option.isSome_iff_exists.mp h
      rw [if_pos rfl, ih h, ha, Option.some_or]

/-- A run is as long as it can be if the rest goes through nowhere within it. -/
theorem greedy_of_stops (h : ∀ c rest, inClass c = true → next (c :: rest) = none) :
    greedy inClass next cs = next (cs.dropWhile inClass) := by
  induction cs with
  | nil => rfl
  | cons c rest ih =>
    rw [greedy]
    cases hc : inClass c with
    | false => rw [List.dropWhile_cons_of_neg (by simp [hc]), if_neg (by simp)]
    | true => rw [List.dropWhile_cons_of_pos hc, if_pos rfl, ih, h c rest hc, Option.or_none]

/-- What stands before the rest of a text, read off the lengths. -/
theorem take_length_sub (front back : List Char) :
    (front ++ back).take ((front ++ back).length - back.length) = front := by
  rw [List.length_append, Nat.add_sub_cancel, List.take_left]

/-- What a run covers that is as long as it can be. -/
theorem take_sub_dropWhile : cs.take (cs.length - (cs.dropWhile inClass).length) = cs.takeWhile inClass := by
  have h := take_length_sub (cs.takeWhile inClass) (cs.dropWhile inClass)
  rwa [List.takeWhile_append_dropWhile] at h

namespace Pattern

variable {next : Captures → List Char → Option α} {captures : Captures} {index : Nat} {mark : Char}

/-- A group is as long as it can be if the rest goes through behind it. -/
theorem run_group_many
    (h : (next ((index, cs.takeWhile inClass) :: captures) (cs.dropWhile inClass)).isSome) :
    (group index (many inClass)).run next captures cs =
      next ((index, cs.takeWhile inClass) :: captures) (cs.dropWhile inClass) := by
  rw [← take_sub_dropWhile] at h ⊢
  exact greedy_of_isSome h

/-- A part is left out where its mark is not. -/
theorem run_optional_of_ne {pattern : Pattern} (h : cs.head? ≠ some mark) :
    (optional (seq (one (· == mark)) pattern)).run next captures cs = next captures cs := by
  rw [run_optional, run_seq, run_one_of_ne h, Option.none_or]

/-- A part behind its mark is there, and as long as it can be, if the rest goes through behind it. -/
theorem run_optional_of_mark
    (h : (next ((index, cs.takeWhile inClass) :: captures) (cs.dropWhile inClass)).isSome) :
    (optional (seq (one (· == mark)) (group index (many inClass)))).run next captures (mark :: cs) =
      next ((index, cs.takeWhile inClass) :: captures) (cs.dropWhile inClass) := by
  obtain ⟨a, ha⟩ := Option.isSome_iff_exists.mp h
  rw [run_optional, run_seq, run_one_self, run_group_many h, ha, Option.some_or]

end Pattern

end LanguageServer.Text
