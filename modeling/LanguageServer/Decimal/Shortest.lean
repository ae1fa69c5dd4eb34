/-! The shortest decimal that reads back as a given binary fraction. A positive finite double is `m · 2^q`.
    The reals that round to it form an interval around it, which holds its ends exactly when `m` is even. A
    decimal `d · 10^g` reads back as the double when it lies in that interval. The module looks for the
    coarsest grid of multiples of `10^g` that meets the interval, and takes the multiple nearest to the
    double; of two equally near ones, the even one. A coarser grid has fewer digits, so the decimal found is
    a shortest one. -/

namespace LanguageServer.Decimal

/-- The number `mantissa · 2^exponent`. -/
structure Binary where
  mantissa : Nat
  exponent : Int
deriving DecidableEq

/-- The number `digits · 10^exponent`. -/
structure Scaled where
  digits : Nat
  exponent : Int
deriving DecidableEq

namespace Binary

/-- The leading bit of the mantissa, which is not stored: `2^52`. -/
def leadingBit : Nat := 0x10000000000000

/-- The eleven bits of the exponent among the 64 bits of a double. -/
def biasedExponent (bits : UInt64) : Nat := bits.toNat / leadingBit % 0x800

/-- The bit of the sign is set. -/
def isNegative (bits : UInt64) : Bool := 0x8000000000000000 ≤ bits.toNat

/-- The absolute value of a finite double, from its 64 bits. -/
def ofBits (bits : UInt64) : Binary :=
  let fraction : Nat := bits.toNat % leadingBit
  let biased := biasedExponent bits
  if biased = 0 then ⟨fraction, -1074⟩ else ⟨leadingBit + fraction, (biased : Int) - 1075⟩

/-- The left half of the interval is half as wide below a power of two, where the doubles come closer. -/
def narrowBelow (b : Binary) : Bool := b.mantissa == leadingBit && b.exponent != -1074

end Binary

/-- A quarter unit of the double and one unit of the grid `10^g`, over a common denominator. -/
def gridUnits (b : Binary) (g : Int) : Nat × Nat :=
  let q := b.exponent - 2
  (Nat.pow 2 q.toNat * Nat.pow 10 (-g).toNat, Nat.pow 2 (-q).toNat * Nat.pow 10 g.toNat)

/-- The point of the grid `10^g` nearest to the double, if the grid meets the interval of the reals that
    round to the double. Quarter units keep the ends of the interval whole. -/
def onGrid? (b : Binary) (g : Int) : Option Scaled :=
  let (quarter, unit) := gridUnits b g
  let value := 4 * b.mantissa * quarter
  let low := (4 * b.mantissa - if b.narrowBelow then 1 else 2) * quarter
  let high := (4 * b.mantissa + 2) * quarter
  let closed := b.mantissa % 2 == 0
  let inside (d : Nat) : Bool :=
    if closed then low ≤ d * unit && d * unit ≤ high else low < d * unit && d * unit < high
  let below := value / unit
  let rest := value % unit
  let nearer :=
    if 2 * rest < unit then below
    else if unit < 2 * rest then below + 1
    else if below % 2 = 0 then below else below + 1
  let other := if nearer = below then below + 1 else below
  if nearer ≠ 0 && inside nearer then some ⟨nearer, g⟩
  else if other ≠ 0 && inside other then some ⟨other, g⟩
  else none

/-- The first grid that meets the interval, from `10^g` downwards over `steps` grids. -/
def coarsest (b : Binary) : (steps : Nat) → (g : Int) → Option Scaled
  | 0, _ => none
  | steps + 1, g =>
    match onGrid? b g with
    | some d => some d
    | none => coarsest b steps (g - 1)

/-- The shortest decimal that reads back as `b`. No double lies above `10^309`, and the grid `10^-324` has a
    point in every interval, so the search ends; the exact value stands where it would not. -/
def shortest (b : Binary) : Scaled :=
  (coarsest b 650 310).getD
    ⟨b.mantissa * Nat.pow 2 b.exponent.toNat * Nat.pow 5 (-b.exponent).toNat, min b.exponent 0⟩

example : shortest (.ofBits 0x3FB999999999999A) = ⟨1, -1⟩ := by decide +kernel
example : shortest (.ofBits 1) = ⟨5, -324⟩ := by decide +kernel
example : shortest (.ofBits 0x3FD3333333333334) = ⟨30000000000000004, -17⟩ := by decide +kernel
example : shortest (.ofBits 0x3E60000000000000) = ⟨29802322387695312, -24⟩ := by decide +kernel
example : shortest (.ofBits 0x7FEFFFFFFFFFFFFF) = ⟨17976931348623157, 292⟩ := by decide +kernel

/-- How a decimal is laid out: which exponents of the leading digit are written positionally, whether a
    whole number keeps a zero after the point, and whether a positive exponent has a sign. -/
structure Layout where
  plainFrom : Int
  plainTo : Int
  pointZero : Bool
  plusSign : Bool

/-- The decimal digits of a number, without its trailing zeros. -/
def significant (n : Nat) : List Char :=
  ((Nat.toDigits 10 n).reverse.dropWhile (· == '0')).reverse

/-- The text of a positive decimal. -/
def Layout.render (l : Layout) (d : Scaled) : List Char :=
  let written := Nat.toDigits 10 d.digits
  let kept := significant d.digits
  let lead : Int := d.exponent + (written.length - 1 : Nat)
  let zeros (n : Int) : List Char := List.replicate n.toNat '0'
  if l.plainFrom ≤ lead && lead ≤ l.plainTo then
    if lead < 0 then '0' :: '.' :: zeros (-lead - 1) ++ kept
    else
      let whole := kept.take (lead.toNat + 1)
      let part := kept.drop (lead.toNat + 1)
      whole ++ zeros (lead + 1 - kept.length) ++
        (if !part.isEmpty then '.' :: part else if l.pointZero then ['.', '0'] else [])
  else
    let tail := kept.drop 1
    kept.take 1 ++ (if tail.isEmpty then [] else '.' :: tail) ++ ['e'] ++
      (if lead < 0 then ['-'] else if l.plusSign then ['+'] else []) ++ Nat.toDigits 10 lead.natAbs

end LanguageServer.Decimal
