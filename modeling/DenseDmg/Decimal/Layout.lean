import DenseDmg.Decimal.Binary

/-!
# How doubles are written

Every output of the program that shows a double has its layout here: the plain text of log lines
and messages, the numbers of documents, fixed places for times, and six significant digits for
throughput figures.  A layout decides notation only; the digits come from the exact value.
-/

namespace DenseDmg

/-- The digits of a double that is no number, or of one that has no end. -/
def nonfiniteText (x : Float) : List Char :=
  if x.isNaN then ['N', 'a', 'N'] else if x < 0 then ['-', 'i', 'n', 'f'] else ['i', 'n', 'f']

/-- A minus sign for the values that carry one, zero included. -/
def BinaryValue.sign (v : BinaryValue) : List Char := if v.negative then ['-'] else []

/-- The pieces of the plain text of a double: the fewest digits that read back, never with an
exponent, whole numbers without a point.  Of two equally near texts the upper one is taken. -/
def plainPieces (x : Float) : List (List Char) :=
  match BinaryValue.ofFloat? x with
  | none => if x < 0 then [['-'], ['i', 'n', 'f']] else [nonfiniteText x]
  | some v => (if v.negative then [['-']] else []) ++ (v.shortest .upper).pieces

/-- The plain text of a double. -/
def plainFloat (x : Float) : List Char := (plainPieces x).flatten

/-- The fewest digits that read back, as documents write them: from `10 ^ 16` on and below
`10 ^ -5` with an exponent, a positive one with its sign; otherwise plainly, whole numbers with
one zero behind the point.  Of two equally near texts the one with an even last digit is taken.
What is no finite number is written as an absent value. -/
def documentFloat (x : Float) : List Char :=
  match BinaryValue.ofFloat? x with
  | none => ['n', 'u', 'l', 'l']
  | some v =>
    let d := v.shortest .even
    v.sign ++
      if d.digits ≠ 0 ∧ (d.leading < -5 ∨ 16 ≤ d.leading) then
        scientific ['+'] (Nat.toDigits 10 d.digits) d.leading
      else d.plain ['.', '0']

/-- The value rounded to a fixed number of places. -/
def fixedFloat (places : Nat) (x : Float) : List Char :=
  match BinaryValue.ofFloat? x with
  | none => nonfiniteText x
  | some v =>
    let (num, den) := v.ratio
    v.sign ++ withPoint (divNearest (num * Nat.pow 10 places) den) places

/-- The significant digits of a throughput figure. -/
def significantDigits : Nat := 6

/-- Text without the zeros it ends in, nor a point that then ends it. -/
def trimFraction (cs : List Char) : List Char :=
  let kept := cs.reverse.dropWhile (· == '0')
  (if kept.head? == some '.' then kept.drop 1 else kept).reverse

/--
Six significant digits: plainly while the rounded value's leading exponent lies in `-4 ..= 5`,
without zeros at the end of the fraction; otherwise with an exponent and all six digits.  The
exponent comes from a first rounding; plain notation rounds the value again, to as many places as
that exponent leaves.
-/
def throughputText (x : Float) : List Char :=
  match BinaryValue.ofFloat? x with
  | none => nonfiniteText x
  | some v =>
    if v.significand = 0 then ['0']
    else
      let (num, den) := v.ratio
      let (q, e) := roundSignificant significantDigits num den
      if e < -4 ∨ (significantDigits : Int) ≤ e then
        v.sign ++ scientific [] (Nat.toDigits 10 q) e
      else
        let fixed := fixedFloat ((significantDigits : Int) - 1 - e).toNat x
        if fixed.contains '.' then trimFraction fixed else fixed

end DenseDmg
