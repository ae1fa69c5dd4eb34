import LanguageServer.RequestId

/-! The texts by which ids are compared. The text of a number is the number in decimal, so a number and the
    string of its digits are the same id and two numbers never are. The ids that are counted out to requests
    have different texts as long as their count fits a word of 64 bits. -/

namespace LanguageServer

namespace Json.Number

theorem eq_of_toDigits {m n : Nat} (h : Nat.toDigits 10 m = Nat.toDigits 10 n) : m = n := by
  have hread := congrArg (Nat.ofDigitChars 10 · 0) h
  simpa only [Nat.ofDigitChars_ten_toDigits] using hread

theorem dash_notMem_toDigits (n : Nat) : '-' ∉ Nat.toDigits 10 n := by
  intro h
  have hdigit : Char.isDigit '-' = true := Nat.isDigit_of_mem_toDigits (b := 10) (by decide) (by decide) h
  cases hdigit

/-- A number with a sign in front of its digits is none without. -/
theorem toDigits_ne_dash {m n : Nat} : Nat.toDigits 10 m ≠ '-' :: Nat.toDigits 10 n := by
  intro h
  have hdash : '-' ∈ Nat.toDigits 10 m := by
    rw [h]
    exact List.mem_cons_self
  exact dash_notMem_toDigits m hdash

theorem eq_of_intText {m n : Int} (h : intText m = intText n) : m = n := by
  cases m with
  | ofNat m =>
    cases n with
    | ofNat n => exact congrArg Int.ofNat (eq_of_toDigits h)
    | negSucc n => exact absurd h toDigits_ne_dash
  | negSucc m =>
    cases n with
    | ofNat n => exact absurd h.symm toDigits_ne_dash
    | negSucc n =>
      have hsucc := eq_of_toDigits (List.cons.inj h).2
      exact congrArg Int.negSucc (Nat.succ.inj hsucc)

end Json.Number

namespace RequestId

theorem text_number (n : Int64) : (number n).text = toString n.toInt := by
  rw [text]
  cases n.toInt with
  | ofNat m => exact Nat.repr_eq_ofList_toDigits.symm
  | negSucc m =>
    show String.ofList ('-' :: Nat.toDigits 10 (m + 1)) = "-" ++ Nat.repr (m + 1)
    simp [Nat.repr_eq_ofList_toDigits]

theorem eq_of_text_number {m n : Int64} (h : (number m).text = (number n).text) : m = n :=
  Int64.toInt_inj.mp (Json.Number.eq_of_intText (String.ofList_inj.mp h))

/-- The id that is counted out after so many others: their count as a word of 64 bits, read with a sign. -/
def counted (k : Nat) : RequestId := .number (UInt64.ofNat k).toInt64

theorem eq_of_text_counted {j k : Nat} (hj : j < UInt64.size) (hk : k < UInt64.size)
    (h : (counted j).text = (counted k).text) : j = k := by
  have hword : UInt64.ofNat j = UInt64.ofNat k := by
    rw [← UInt64.toUInt64_toInt64 (UInt64.ofNat j), eq_of_text_number h, UInt64.toUInt64_toInt64]
  have hnat := congrArg UInt64.toNat hword
  rwa [UInt64.toNat_ofNat_of_lt' hj, UInt64.toNat_ofNat_of_lt' hk] at hnat

end RequestId

end LanguageServer
