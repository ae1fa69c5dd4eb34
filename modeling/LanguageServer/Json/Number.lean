import LanguageServer.Decimal.Shortest

/-! The numbers of a JSON text. A number is a whole number, kept exactly, or a double, kept as its 64 bits;
    `1`, `1.0` and `1e0` differ, and so do `0` and `-0`. A whole number that a text can hold lies between
    `-2^63` and `2^64 - 1`; any other number is read as a double (`Number.Canonical`). -/

namespace LanguageServer.Json

/-- A number, with its kind as it was spelled. -/
inductive Number where
  /-- A whole number. -/
  | int (value : Int)
  /-- A double, by its bits. -/
  | float (bits : UInt64)
deriving DecidableEq

namespace Number

/-- The least number that a signed word of 64 bits holds. -/
def minSigned : Int := -0x8000000000000000

/-- The greatest number that a signed word of 64 bits holds. -/
def maxSigned : Int := 0x7FFFFFFFFFFFFFFF

/-- The greatest number that an unsigned word of 64 bits holds. -/
def maxUnsigned : Nat := 0xFFFFFFFFFFFFFFFF

/-- The bits stand for neither an infinity nor a NaN: the bits of the exponent are not all set. -/
def isFinite (bits : UInt64) : Bool := Decimal.Binary.biasedExponent bits != 0x7FF

/-- A number that a text can hold: whole numbers in the range of 64 bits, signed or unsigned, and finite
    doubles. -/
def Canonical : Number → Prop
  | int n => minSigned ≤ n ∧ n ≤ maxUnsigned
  | float bits => isFinite bits = true

instance : (n : Number) → Decidable n.Canonical
  | int n => inferInstanceAs (Decidable (minSigned ≤ n ∧ n ≤ maxUnsigned))
  | float bits => inferInstanceAs (Decidable (isFinite bits = true))

/-- The whole number, if it fits a signed word of 64 bits. -/
def signed? : Number → Option Int
  | int n => if minSigned ≤ n ∧ n ≤ maxSigned then some n else none
  | float _ => none

/-- The whole number, if it is not negative. -/
def unsigned? : Number → Option Nat
  | int (.ofNat n) => some n
  | int (.negSucc _) => none
  | float _ => none

/-- Doubles have a point from `0.00001` up to below `10^16`, and a signed exponent beyond. -/
def layout : Decimal.Layout where
  plainFrom := -5
  plainTo := 15
  pointZero := true
  plusSign := true

/-- The text of a whole number. -/
def intText : Int → List Char
  | .ofNat n => Nat.toDigits 10 n
  | .negSucc n => '-' :: Nat.toDigits 10 (n + 1)

/-- The text of a number. A double has the fewest digits that read back. -/
def text : Number → List Char
  | int n => intText n
  | float bits =>
    let size := Decimal.Binary.ofBits bits
    let digits :=
      if size.mantissa = 0 then ['0', '.', '0'] else layout.render (Decimal.shortest size)
    if Decimal.Binary.isNegative bits then '-' :: digits else digits

example : (float (0.1 : Float).toBits).text = ['0', '.', '1'] := by decide +kernel
example : (float (-0.0 : Float).toBits).text = ['-', '0', '.', '0'] := by decide +kernel
example : (float (1e15 : Float).toBits).text = "1000000000000000.0".toList := by decide +kernel
example : (float (1e16 : Float).toBits).text = "1e+16".toList := by decide +kernel
example : (float (1e-5 : Float).toBits).text = "0.00001".toList := by decide +kernel
example : (float (1.5e-6 : Float).toBits).text = "1.5e-6".toList := by decide +kernel
example : (int (-120)).text = "-120".toList := by decide +kernel

end Number

end LanguageServer.Json
