import LanguageServer.Json.Numeral
import LanguageServer.Proofs.Json.Bounded

/-! The text of a number, as it is read. All its characters are such as belong to a number, so the reader
    takes it whole or refuses it (`Number.reread`). A whole number that fits a word of 64 bits is read as
    itself. That the text of a double is not refused is another matter, for it depends on how far the
    operations on doubles round. -/

namespace LanguageServer.Json

namespace Number

/-! ### The characters of a number -/

/-- The character may stand in the text of a number. -/
def IsPart (c : Char) : Prop := c.isDigit = true ∨ c = '-' ∨ c = '+' ∨ c = '.' ∨ c = 'e'

instance : DecidablePred IsPart := fun c =>
  inferInstanceAs (Decidable (c.isDigit = true ∨ c = '-' ∨ c = '+' ∨ c = '.' ∨ c = 'e'))

variable {c d : Char}

theorem IsPart.ne (hc : IsPart c) (hd : ¬ IsPart d) : c ≠ d := fun h => hd (h ▸ hc)

theorem isDigit_toDigits (k : Nat) : ∀ c ∈ Nat.toDigits 10 k, c.isDigit = true := fun _ h =>
  Nat.isDigit_of_mem_toDigits (by decide) (by decide) h

theorem isPart_toDigits (k : Nat) : ∀ c ∈ Nat.toDigits 10 k, IsPart c := fun c h =>
  Or.inl (isDigit_toDigits k c h)

theorem isPart_significant (k : Nat) : ∀ c ∈ Decimal.significant k, IsPart c := by
  intro c h
  have hdropped := (List.dropWhile_sublist _).subset (List.mem_reverse.mp h)
  exact isPart_toDigits k c (List.mem_reverse.mp hdropped)

theorem isPart_zeros (k : Nat) : ∀ c ∈ List.replicate k '0', IsPart c := by
  intro c h
  rw [List.eq_of_mem_replicate h]
  decide

theorem isPart_intText (i : Int) : ∀ c ∈ intText i, IsPart c := by
  cases i with
  | ofNat k => exact isPart_toDigits k
  | negSucc k => exact List.forall_mem_cons.mpr ⟨by decide, isPart_toDigits (k + 1)⟩

theorem isPart_ite {p : Prop} [Decidable p] {a b : List Char} (ha : ∀ c ∈ a, IsPart c)
    (hb : ∀ c ∈ b, IsPart c) : ∀ c ∈ (if p then a else b), IsPart c := by
  split
  · exact ha
  · exact hb

theorem isPart_append {a b : List Char} (ha : ∀ c ∈ a, IsPart c) (hb : ∀ c ∈ b, IsPart c) :
    ∀ c ∈ a ++ b, IsPart c :=
  List.forall_mem_append.mpr ⟨ha, hb⟩

theorem isPart_cons {d : Char} {b : List Char} (hd : IsPart d) (hb : ∀ c ∈ b, IsPart c) :
    ∀ c ∈ d :: b, IsPart c :=
  List.forall_mem_cons.mpr ⟨hd, hb⟩

theorem isPart_singleton {d : Char} (hd : IsPart d) : ∀ c ∈ [d], IsPart c :=
  List.forall_mem_singleton.mpr hd

theorem isPart_render (l : Decimal.Layout) (d : Decimal.Scaled) : ∀ c ∈ l.render d, IsPart c := by
  have htake : ∀ k, ∀ c ∈ (Decimal.significant d.digits).take k, IsPart c := fun k c h =>
    isPart_significant _ c (List.mem_of_mem_take h)
  have hdrop : ∀ k, ∀ c ∈ (Decimal.significant d.digits).drop k, IsPart c := fun k c h =>
    isPart_significant _ c (List.mem_of_mem_drop h)
  unfold Decimal.Layout.render
  refine isPart_ite (isPart_ite ?small ?great) ?exponent
  case small =>
    exact isPart_cons (by decide) (isPart_cons (by decide)
      (isPart_append (isPart_zeros _) (isPart_significant _)))
  case great =>
    refine isPart_append (isPart_append (htake _) (isPart_zeros _)) ?_
    refine isPart_ite (isPart_cons (by decide) (hdrop _)) (isPart_ite ?_ nofun)
    exact isPart_cons (by decide) (isPart_singleton (by decide))
  case exponent =>
    refine isPart_append (isPart_append (isPart_append (isPart_append (htake _) ?point) ?letter) ?sign)
      (isPart_toDigits _)
    case point => exact isPart_ite nofun (isPart_cons (by decide) (hdrop _))
    case letter => exact isPart_singleton (by decide)
    case sign =>
      exact isPart_ite (isPart_singleton (by decide)) (isPart_ite (isPart_singleton (by decide)) nofun)

theorem exists_mem_render (d : Decimal.Scaled) : '.' ∈ layout.render d ∨ 'e' ∈ layout.render d := by
  unfold Decimal.Layout.render
  refine iteInduction (motive := fun cs => '.' ∈ cs ∨ 'e' ∈ cs) (fun _ => Or.inl ?_) (fun _ => Or.inr ?_)
  · refine iteInduction (motive := fun cs => '.' ∈ cs) (fun _ => ?small) (fun _ => ?great)
    case small => exact List.mem_cons_of_mem _ List.mem_cons_self
    case great =>
      refine List.mem_append_right _ ?_
      refine iteInduction (motive := fun cs => '.' ∈ cs) (fun _ => ?_) (fun _ => ?_)
      · exact List.mem_cons_self
      · exact List.mem_cons_self
  · refine List.mem_append_left _ (List.mem_append_left _ (List.mem_append_right _ ?_))
    exact List.mem_cons_self

/-- The text of a double: its digits, behind a sign if it is negative. -/
theorem text_float (bits : UInt64) : ∃ digits : List Char,
    (digits = ['0', '.', '0'] ∨ ∃ d, digits = layout.render d) ∧
      ((float bits).text = '-' :: digits ∨ (float bits).text = digits) := by
  refine ⟨if (Decimal.Binary.ofBits bits).mantissa = 0 then ['0', '.', '0']
    else layout.render (Decimal.shortest (.ofBits bits)), ?_, ?_⟩
  · split
    · exact Or.inl rfl
    · exact Or.inr ⟨_, rfl⟩
  · by_cases h : Decimal.Binary.isNegative bits = true
    · exact Or.inl (if_pos h)
    · exact Or.inr (if_neg h)

theorem isPart_text (n : Number) : ∀ c ∈ n.text, IsPart c := by
  cases n with
  | int i => exact isPart_intText i
  | float bits =>
    obtain ⟨digits, hdigits, htext⟩ := text_float bits
    have hparts : ∀ c ∈ digits, IsPart c := by
      rcases hdigits with rfl | ⟨d, rfl⟩
      · exact isPart_cons (by decide) (isPart_cons (by decide) (isPart_singleton (by decide)))
      · exact isPart_render _ _
    rcases htext with h | h
    · exact h ▸ isPart_cons (by decide) hparts
    · exact h ▸ hparts

theorem exists_mem_text_float (bits : UInt64) : '.' ∈ (float bits).text ∨ 'e' ∈ (float bits).text := by
  obtain ⟨digits, hdigits, htext⟩ := text_float bits
  have hmem : '.' ∈ digits ∨ 'e' ∈ digits := by
    rcases hdigits with rfl | ⟨d, rfl⟩
    · exact Or.inl (by decide)
    · exact exists_mem_render d
  rcases htext with h | h
  · rw [h]
    exact hmem.imp (List.mem_cons_of_mem _) (List.mem_cons_of_mem _)
  · rw [h]
    exact hmem

theorem text_ne_nil (n : Number) : n.text ≠ [] := by
  cases n with
  | int i =>
    cases i with
    | ofNat k => exact Nat.toDigits_ne_nil
    | negSucc k => exact List.cons_ne_nil _ _
  | float bits =>
    rcases exists_mem_text_float bits with h | h
    · exact List.ne_nil_of_mem h
    · exact List.ne_nil_of_mem h

end Number

/-! ### Reading the characters of a number -/

namespace Numeral

/-- The number with a character more, if the character belongs to it. -/
def more? (n : Numeral) (c : Char) : Option Numeral :=
  match n.next c with
  | .more n => some n
  | _ => none

/-- The number that starts with the first of the characters and goes on with all others. -/
def ofChars? : List Char → Option Numeral
  | [] => none
  | c :: cs => (start? c).bind fun n => cs.foldlM more? n

/-- The number that was read, if it may end here. -/
def ended? (n : Numeral) : Option Number := if n.isWhole then n.value? else none

end Numeral

/-- What the text of a number is read as. -/
def Number.reread (n : Number) : Option Number := (Numeral.ofChars? n.text).bind Numeral.ended?

/-! ### Whole numbers -/

namespace Numeral

variable {n : Numeral} {c : Char} {ds : List Char} {k : Nat}

theorem digit?_of_isDigit (h : c.isDigit = true) : digit? c = some (c.toNat - '0'.toNat) := by
  have hbounds : '0' ≤ c ∧ c ≤ '9' := Char.isDigit_iff_toNat.mp h
  rw [digit?, if_pos hbounds]

theorem le_ofDigitChars (ds : List Char) (k : Nat) : k ≤ Nat.ofDigitChars 10 ds k := by
  induction ds generalizing k with
  | nil => exact Nat.le_refl k
  | cons d ds ih =>
    rw [Nat.ofDigitChars_cons]
    have hrest := ih (10 * k + (d.toNat - '0'.toNat))
    omega

/-- A digit of the whole part goes into the significand if it fits. -/
theorem more?_of_isDigit (hpart : n.part = .whole) (hfull : n.full = false) (hc : c.isDigit = true)
    (hfits : 10 * n.significand + (c.toNat - '0'.toNat) ≤ Number.maxUnsigned) :
    more? n c = some { n with significand := 10 * n.significand + (c.toNat - '0'.toNat) } := by
  obtain ⟨part, negative, significand, shift, full, isReal, powerNegative, power⟩ := n
  cases hpart
  cases hfull
  rw [Nat.mul_comm] at hfits ⊢
  have hstep : next ⟨.whole, negative, significand, shift, false, isReal, powerNegative, power⟩ c =
      .more (wholeDigit ⟨.whole, negative, significand, shift, false, isReal, powerNegative, power⟩
        (c.toNat - '0'.toNat)) := by
    simp only [next, digit?_of_isDigit hc]
  rw [more?, hstep, wholeDigit, if_neg]
  simpa using hfits

theorem foldlM_more?_digits (hpart : n.part = .whole) (hfull : n.full = false)
    (hds : ∀ c ∈ ds, c.isDigit = true) (hk : Nat.ofDigitChars 10 ds n.significand ≤ Number.maxUnsigned) :
    ds.foldlM more? n = some { n with significand := Nat.ofDigitChars 10 ds n.significand } := by
  induction ds generalizing n with
  | nil => rfl
  | cons d ds ih =>
    obtain ⟨hd, hds⟩ := List.forall_mem_cons.mp hds
    rw [Nat.ofDigitChars_cons] at hk
    -- The significand only grows, so it fits after every digit if it fits after the last.
    have hstep := more?_of_isDigit hpart hfull hd (Nat.le_trans (le_ofDigitChars ds _) hk)
    rw [List.foldlM_cons, hstep, Option.bind_eq_bind, Option.bind_some, Nat.ofDigitChars_cons]
    exact ih (n := { n with significand := _ }) hpart hfull hds hk

theorem toDigits_head (hk : 0 < k) :
    ∃ c cs, Nat.toDigits 10 k = c :: cs ∧ c.toNat - '0'.toNat ≠ 0 := by
  induction k using Nat.strongRecOn with
  | ind k ih =>
    by_cases hlt : k < 10
    · refine ⟨Nat.digitChar k, [], Nat.toDigits_of_lt_base hlt, ?_⟩
      have hvalue : (Nat.digitChar k).toNat - '0'.toNat = k := Nat.toNat_digitChar_sub_48_of_lt_ten hlt
      omega
    · -- The last digit is put behind those of the tenth part, which begin as the number does.
      obtain ⟨c, cs, h, hc⟩ := ih (k / 10) (by omega) (by omega)
      rw [Nat.toDigits_of_base_le (by omega) (by omega), h]
      exact ⟨c, cs ++ [Nat.digitChar (k % 10)], rfl, hc⟩

/-- The digits of a positive number, behind a minus sign or not, are read into the significand. -/
theorem ofChars?_digits (hk : 0 < k) (hfits : k ≤ Number.maxUnsigned) :
    ofChars? (Nat.toDigits 10 k) = some { blank with part := .whole, significand := k } ∧
      ofChars? ('-' :: Nat.toDigits 10 k) =
        some { blank with part := .whole, negative := true, significand := k } := by
  obtain ⟨c, cs, hdigits, hc⟩ := toDigits_head hk
  obtain ⟨hdigit, hrest⟩ := List.forall_mem_cons.mp (hdigits ▸ Number.isDigit_toDigits k)
  have hvalue : Nat.ofDigitChars 10 cs (c.toNat - '0'.toNat) = k := by
    have h := Nat.ofDigitChars_ten_toDigits (n := k)
    rwa [hdigits, Nat.ofDigitChars_cons, Nat.mul_zero, Nat.zero_add] at h
  have hmore : ∀ n : Numeral, n.part = .whole → n.full = false → n.significand = c.toNat - '0'.toNat →
      cs.foldlM more? n = some { n with significand := k } := by
    intro n hpart hfull hn
    rw [foldlM_more?_digits hpart hfull hrest (by rw [hn, hvalue]; exact hfits), hn, hvalue]
  have hminus : c ≠ '-' := by
    intro h
    rw [h] at hdigit
    exact absurd hdigit (by decide)
  rw [hdigits]
  constructor
  · have hstart : start? c = some { blank with part := .whole, significand := c.toNat - '0'.toNat } := by
      rw [start?, if_neg hminus, digit?_of_isDigit hdigit, Option.map_some, if_neg hc]
    rw [ofChars?, hstart, Option.bind_some, hmore _ rfl rfl rfl]
  · have hstart : start? '-' = some { blank with negative := true } := rfl
    have hfirst : more? { blank with negative := true } c =
        some { blank with part := .whole, negative := true, significand := c.toNat - '0'.toNat } := by
      obtain ⟨d, hd⟩ := Nat.exists_eq_succ_of_ne_zero hc
      simp only [more?, next, blank, digit?_of_isDigit hdigit, hd]
    rw [ofChars?, hstart, Option.bind_some, List.foldlM_cons, hfirst, Option.bind_eq_bind,
      Option.bind_some, hmore _ rfl rfl rfl]

end Numeral

/-- A whole number that fits a word of 64 bits is read as itself. -/
theorem Number.reread_int {i : Int} (h : (int i).Fits) : (int i).reread = some (int i) := by
  obtain ⟨hlow, hhigh⟩ := h
  cases i with
  | ofNat k =>
    rcases Nat.eq_zero_or_pos k with rfl | hk
    · rfl
    · have hchars := (Numeral.ofChars?_digits hk (Int.ofNat_le.mp hhigh)).1
      rw [reread, text, intText, hchars]
      rfl
  | negSucc k =>
    -- The digits would have room for more, but a negative number is refused below the least signed word.
    have hk : k + 1 ≤ 0x8000000000000000 := by
      simp only [minSigned] at hlow
      omega
    have hfits : k + 1 ≤ maxUnsigned := Nat.le_trans hk (by decide)
    have hchars := (Numeral.ofChars?_digits (Nat.succ_pos k) hfits).2
    have hroom : ¬ (k + 1 = 0 ∨ 0x8000000000000000 < k + 1) := by omega
    rw [reread, text, intText, hchars]
    exact if_neg hroom

end LanguageServer.Json
