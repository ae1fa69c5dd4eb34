import LanguageServer.Json.Number

/-! Reading a number, one character at a time. The digits of a number go into a significand that holds 64
    bits; what does not fit moves the decimal point instead (whole digits) or is passed over (digits of the
    fraction). The double is then made by one multiplication or division by a power of ten, so it is not
    always the nearest one. A number without point and exponent whose digits fit stays whole. -/

namespace LanguageServer.Json

/-- Which part of a number was read last. -/
inductive Numeral.Part where
  /-- The minus sign: a digit has to follow. -/
  | minus
  /-- A leading zero: no digit may follow. -/
  | zero
  /-- A digit of the whole part. -/
  | whole
  /-- The point: a digit has to follow. -/
  | point
  /-- A digit of the fraction. -/
  | fraction
  /-- The letter of the exponent: a sign or a digit has to follow. -/
  | letter
  /-- The sign of the exponent: a digit has to follow. -/
  | sign
  /-- A digit of the exponent. -/
  | power
deriving DecidableEq

/-- A number as far as it was read. -/
structure Numeral where
  part : Numeral.Part
  negative : Bool
  /-- The digits that were kept. -/
  significand : Nat
  /-- The power of ten that the significand is to be multiplied with, the written one apart. -/
  shift : Int
  /-- A digit of this part did not fit, so the significand takes no more of them. -/
  full : Bool
  /-- The number is a double: it has a point or an exponent, or its digits did not fit. -/
  isReal : Bool
  powerNegative : Bool
  /-- The written power of ten. -/
  power : Nat
deriving DecidableEq

namespace Numeral

/-- The digit that a character stands for. -/
def digit? (c : Char) : Option Nat :=
  if '0' ≤ c ∧ c ≤ '9' then some (c.toNat - '0'.toNat) else none

/-- A number of which nothing is read yet. -/
def blank : Numeral where
  part := .minus
  negative := false
  significand := 0
  shift := 0
  full := false
  isReal := false
  powerNegative := false
  power := 0

/-- The number that starts with a character, if one can. -/
def start? (c : Char) : Option Numeral :=
  if c = '-' then some { blank with negative := true }
  else (digit? c).map fun d =>
    { blank with part := if d = 0 then .zero else .whole, significand := d }

/-- One more digit of the whole part. -/
def wholeDigit (n : Numeral) (d : Nat) : Numeral :=
  if n.full || Number.maxUnsigned < n.significand * 10 + d then
    { n with part := .whole, full := true, isReal := true, shift := n.shift + 1 }
  else { n with part := .whole, significand := n.significand * 10 + d }

/-- One more digit of the fraction. -/
def fractionDigit (n : Numeral) (d : Nat) : Numeral :=
  if n.full || Number.maxUnsigned < n.significand * 10 + d then
    { n with part := .fraction, full := true }
  else { n with part := .fraction, significand := n.significand * 10 + d, shift := n.shift - 1 }

/-- One more digit of the exponent. -/
def powerDigit (n : Numeral) (d : Nat) : Numeral :=
  { n with part := .power, power := n.power * 10 + d }

/-- The number with a point behind it. -/
def withPoint (n : Numeral) : Numeral := { n with part := .point, full := false, isReal := true }

/-- The number with the letter of an exponent behind it. -/
def withLetter (n : Numeral) : Numeral := { n with part := .letter, isReal := true }

/-- How a character goes on with the number. -/
inductive Next where
  /-- It belongs to the number. -/
  | more (n : Numeral)
  /-- It comes after the number. -/
  | over
  /-- No number goes on like this. -/
  | wrong

/-- Reads one character. -/
def next (n : Numeral) (c : Char) : Next :=
  match n.part, digit? c with
  | .minus, some 0 => .more { n with part := .zero }
  | .minus, some d => .more { n with part := .whole, significand := d }
  | .minus, none => .wrong
  | .zero, some _ => .wrong
  | .zero, none =>
    if c = '.' then .more n.withPoint
    else if c = 'e' ∨ c = 'E' then .more n.withLetter else .over
  | .whole, some d => .more (n.wholeDigit d)
  | .whole, none =>
    if c = '.' then .more n.withPoint
    else if c = 'e' ∨ c = 'E' then .more n.withLetter else .over
  | .point, some d => .more (n.fractionDigit d)
  | .point, none => .wrong
  | .fraction, some d => .more (n.fractionDigit d)
  | .fraction, none => if c = 'e' ∨ c = 'E' then .more n.withLetter else .over
  | .letter, some d => .more (n.powerDigit d)
  | .letter, none =>
    if c = '+' then .more { n with part := .sign }
    else if c = '-' then .more { n with part := .sign, powerNegative := true } else .wrong
  | .sign, some d => .more (n.powerDigit d)
  | .sign, none => .wrong
  | .power, some d => .more (n.powerDigit d)
  | .power, none => .over

/-- The number may end here. -/
def isWhole (n : Numeral) : Bool :=
  match n.part with
  | .zero | .whole | .fraction | .power => true
  | .minus | .point | .letter | .sign => false

/-- A power of ten, up to `10^308`. -/
def tenTo (n : Nat) : Float := Float.ofScientific 1 false n

/-- The double `f · 10^exponent`, by one operation where the power of ten is a double, after a first
    division by `10^308` where it is a little smaller. There is none above the range of doubles. -/
def scale? (f : Float) (exponent : Int) : Option Float :=
  if 0 ≤ exponent then
    if exponent ≤ 308 then
      let r := f * tenTo exponent.toNat
      if r.isInf then none else some r
    else if f == 0 then some f else none
  else if -308 ≤ exponent then some (f / tenTo (-exponent).toNat)
  else if -616 ≤ exponent then some (f / tenTo 308 / tenTo (-exponent - 308).toNat)
  else some 0

/-- The double that the digits stand for. -/
def real? (n : Numeral) : Option Number :=
  let exponent := if n.powerNegative then n.shift - n.power else n.shift + n.power
  (scale? (UInt64.ofNat n.significand).toFloat exponent).map fun f =>
    .float (if n.negative then -f else f).toBits

/-- The number that was read; none if it is too great. The negative zero is a double, and so is a whole
    number below the signed range. -/
def value? (n : Numeral) : Option Number :=
  if n.isReal then n.real?
  else if !n.negative then some (.int n.significand)
  else if n.significand = 0 ∨ 0x8000000000000000 < n.significand then n.real?
  else some (.int (-n.significand))

end Numeral

end LanguageServer.Json
