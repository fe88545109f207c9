import DenseDmg.Decimal.Basic

/-!
# Doubles as exact numbers

A finite double is a sign, a whole significand and a power of two.  `BinaryValue.ofFloat?` reads
them off the bits, `nearestBits` finds the double nearest to a positive rational, and
`BinaryValue.shortest` finds the decimal number of fewest digits that lies in the interval of
numbers rounding to a given double.
-/

namespace DenseDmg

/-- The number `± significand * 2 ^ exponent`. -/
structure BinaryValue where
  negative : Bool
  significand : Nat
  exponent : Int
deriving DecidableEq, Inhabited

/-- The bit above the fraction of a double: a significand without leading zeros has it. -/
def hiddenBit : Nat := 0x10000000000000

/-- The bit of a double that holds its sign. -/
def signBit : Nat := 0x8000000000000000

/-- The exact number that a double's bits denote; `none` for the infinities and for NaN. -/
def BinaryValue.ofBits? (bits : UInt64) : Option BinaryValue :=
  let w : Nat := bits.toNat
  let field : Nat := w / hiddenBit % 2048
  let fraction : Nat := w % hiddenBit
  let negative := decide (signBit ≤ w)
  if field = 2047 then none
  else if field = 0 then some ⟨negative, fraction, -1074⟩
  else some ⟨negative, hiddenBit + fraction, (field : Int) - 1075⟩

/-- The exact number that a finite double denotes. -/
def BinaryValue.ofFloat? (x : Float) : Option BinaryValue := BinaryValue.ofBits? x.toBits

/-- The magnitude as numerator and denominator. -/
def BinaryValue.ratio (v : BinaryValue) : Nat × Nat :=
  if 0 ≤ v.exponent then (v.significand <<< v.exponent.toNat, 1)
  else (v.significand, 1 <<< (-v.exponent).toNat)

/-! ## The nearest double -/

/-- The bits of positive infinity. -/
def infinityBits : Nat := 0x7FF0000000000000

/--
The bits of the double nearest to the positive rational `num / den`, a tie going to the even
significand.  The exponent is the least one for which the significand fits into 53 bits.  The
hidden bit of a significand adds one to the exponent field, so that one sum serves numbers with
and without it, and a carry out of 53 bits as well; past the largest double lies infinity.
-/
def nearestBits (num den : Nat) : Nat :=
  let guess : Int := max ((num.log2 : Int) - den.log2 - 53) (-1074)
  let shift (q : Int) : Nat × Nat :=
    if 0 ≤ q then (num, den <<< q.toNat) else (num <<< (-q).toNat, den)
  let (a, b) := shift guess
  let q := if 2 * hiddenBit * b ≤ a then guess + 1 else guess
  let (a, b) := shift q
  min infinityBits ((q + 1074).toNat * hiddenBit + divNearest a b)

/-- The double nearest to `± num / den`; a zero numerator gives the zero of that sign. -/
def nearestFloat (negative : Bool) (num den : Nat) : Float :=
  let magnitude := if num = 0 then 0 else nearestBits num den
  Float.ofBits (UInt64.ofNat (if negative then signBit + magnitude else magnitude))

/-! ## The shortest decimal number that reads back -/

/-- Whether `x` lies between `lo` and `hi`, the ends counting when `closed`. -/
def within (closed : Bool) (lo hi x : Nat) : Bool :=
  if closed then decide (lo ≤ x ∧ x ≤ hi) else decide (lo < x ∧ x < hi)

/--
The decimal number on the grid of step `10 ^ k` that rounds to the double `4 * quarter`-quarters,
if there is one: all is measured in quarters of a unit in the last place, `lo` and `hi` are the
ends of the interval that rounds to it, `q` is the power of two of a quarter.  Of two such
numbers the nearer is taken.
-/
def onGrid? (tie : Tie) (closed : Bool) (lo mid hi : Nat) (q k : Int) : Option Nat :=
  let a := (if 0 ≤ k then Nat.pow 10 k.toNat else 1) * (if 0 ≤ q then 1 else 1 <<< (-q).toNat)
  let b := (if 0 ≤ k then 1 else Nat.pow 10 (-k).toNat) * (if 0 ≤ q then 1 <<< q.toNat else 1)
  let below := mid * b / a
  let above := below + 1
  let down := within closed (lo * b) (hi * b) (below * a)
  let up := within closed (lo * b) (hi * b) (above * a)
  if down && up then some (divRounded tie (mid * b) a)
  else if down then some below
  else if up then some above
  else none

/-- The first grid that holds a number rounding to the double, from `n` digits on. -/
def shortestAux (tie : Tie) (closed : Bool) (lo mid hi : Nat) (q e : Int) : Nat → Nat → Decimal
  | 0, n => ⟨mid <<< q.toNat, (n : Int) - n⟩
  | fuel + 1, n =>
    match onGrid? tie closed lo mid hi q (e - n) with
    | some d => ⟨d, e - n⟩
    | none => shortestAux tie closed lo mid hi q e fuel (n + 1)

/--
The decimal number of fewest digits among those that round to the given magnitude, and of these
the nearest to it.  Seventeen digits always suffice for a double.
-/
def BinaryValue.shortest (tie : Tie) (v : BinaryValue) : Decimal :=
  if v.significand = 0 then ⟨0, 0⟩
  else
    let (num, den) := v.ratio
    let m := v.significand
    let lo := if m = hiddenBit ∧ -1074 < v.exponent then 4 * m - 1 else 4 * m - 2
    let d := shortestAux tie (m % 2 == 0) lo (4 * m) (4 * m + 2) (v.exponent - 2)
      (leadingExponent num den) 17 0
    d.trimZeros 18

end DenseDmg
