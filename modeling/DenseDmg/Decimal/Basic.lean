/-!
# Decimal numbers and exact rounding

A positive rational is a pair of a numerator and a denominator.  This module rounds such
rationals to whole numbers, to a fixed number of places and to a fixed number of significant
digits, always to the nearest candidate, and spells digit strings with and without a decimal
point.  Everything is exact arithmetic on `Nat`.
-/

namespace DenseDmg

/-- The number `digits * 10 ^ scale`. -/
structure Decimal where
  digits : Nat
  scale : Int
deriving DecidableEq, Inhabited

/-! ## Rounding -/

/-- Which of two equally near candidates is taken: the even one, or the one farther from zero. -/
inductive Tie
  | even
  | upper
deriving DecidableEq, Inhabited

/-- The whole number nearest to `num / den`. -/
def divRounded (tie : Tie) (num den : Nat) : Nat :=
  let q := num / den
  let twice := 2 * (num % den)
  if twice < den then q
  else if den < twice then q + 1
  else
    match tie with
    | .even => if q % 2 = 0 then q else q + 1
    | .upper => q + 1

/-- The whole number nearest to `num / den`; halfway between two, the even one. -/
def divNearest (num den : Nat) : Nat := divRounded .even num den

/-- The number of decimal digits of a whole number; zero has one. -/
def digitCount (n : Nat) : Nat := (Nat.toDigits 10 n).length

/-- The least `k ≤ fuel` with `den ≤ num * 10 ^ k`, counted on from `k`. -/
def firstPlaceAux (den : Nat) : Nat → Nat → Nat → Nat
  | 0, _, k => k
  | fuel + 1, num, k => if den ≤ num then k else firstPlaceAux den fuel (num * 10) (k + 1)

/-- The place of the first nonzero decimal of `num / den`, for `0 < num < den`. -/
def firstPlace (num den : Nat) : Nat := firstPlaceAux den (digitCount den) num 0

/-- The exponent `e` with `10 ^ e ≤ num / den < 10 ^ (e + 1)`, for a positive rational. -/
def leadingExponent (num den : Nat) : Int :=
  if den ≤ num then (digitCount (num / den) : Int) - 1 else -(firstPlace num den : Int)

/-- The rational `num / den * 10 ^ k` as numerator and denominator. -/
def scaleByTen (num den : Nat) (k : Int) : Nat × Nat :=
  if 0 ≤ k then (num * Nat.pow 10 k.toNat, den) else (num, den * Nat.pow 10 (-k).toNat)

/--
A positive rational rounded to `n` significant digits: the digits as one number of exactly `n`
digits, and the exponent of the first of them.  A carry into a new place keeps the digit count.
-/
def roundSignificant (n num den : Nat) : Nat × Int :=
  let e := leadingExponent num den
  let (a, b) := scaleByTen num den ((n : Int) - 1 - e)
  let q := divNearest a b
  if q = Nat.pow 10 n then (Nat.pow 10 (n - 1), e + 1) else (q, e)

/-! ## Spelling -/

/-- The digits of `n` with a point before the last `places` of them and at least one digit
before the point; no point at all when there are no places. -/
def withPoint (n places : Nat) : List Char :=
  let ds := Nat.toDigits 10 n
  if places = 0 then ds
  else
    let padded := List.replicate (places + 1 - ds.length) '0' ++ ds
    let whole := padded.length - places
    padded.take whole ++ '.' :: padded.drop whole

/-- A whole number in decimal digits, with its sign. -/
def intText (plus : List Char) (e : Int) : List Char :=
  (if e < 0 then ['-'] else plus) ++ Nat.toDigits 10 e.natAbs

/-- Digits in scientific notation: one digit, the others behind a point, and the exponent of
the first digit, with `plus` as the sign of exponents that are not negative. -/
def scientific (plus : List Char) (ds : List Char) (e : Int) : List Char :=
  ds.take 1 ++ (if ds.length ≤ 1 then [] else '.' :: ds.drop 1) ++ 'e' :: intText plus e

/-- The exponent of a decimal number's first digit. -/
def Decimal.leading (d : Decimal) : Int := d.scale + digitCount d.digits - 1

/-- Zeros in pieces of at most 64. -/
def zeroPieces (n : Nat) : List (List Char) :=
  List.replicate (n / 64) (List.replicate 64 '0') ++
    (if n % 64 = 0 then [] else [List.replicate (n % 64) '0'])

/-- The pieces in which a number is spelt out without an exponent: its digits, with the point
before them, inside them or nowhere, and the zeros between point and digits or behind them. -/
def Decimal.pieces (d : Decimal) : List (List Char) :=
  let ds := Nat.toDigits 10 d.digits
  let point := d.leading + 1
  if point ≤ 0 then ['0', '.'] :: zeroPieces (-point).toNat ++ [ds]
  else if point < ds.length then [ds.take point.toNat, ['.'], ds.drop point.toNat]
  else ds :: zeroPieces (point.toNat - ds.length)

/-- A number spelt out without an exponent; `whole` follows a number without decimals. -/
def Decimal.plain (whole : List Char) (d : Decimal) : List Char :=
  d.pieces.flatten ++ (if 0 ≤ d.scale then whole else [])

/-- The number without the zeros that its digits end in. -/
def Decimal.trimZeros : Nat → Decimal → Decimal
  | 0, d => d
  | fuel + 1, d =>
    if d.digits % 10 = 0 ∧ d.digits ≠ 0 then Decimal.trimZeros fuel ⟨d.digits / 10, d.scale + 1⟩
    else d

end DenseDmg
