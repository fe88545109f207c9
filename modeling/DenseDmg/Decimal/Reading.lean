import DenseDmg.Decimal.Binary

/-!
# Reading decimal numbers

`readFloat?` reads the decimal notation of rates and command-line options: a sign, digits with an
optional point, an optional exponent, or one of the words for infinity and NaN.  The result is
the double nearest to the number written.  `readWord?` reads whole numbers up to a bound.
-/

namespace DenseDmg

/-- The value of a decimal digit. -/
def digitValue? (c : Char) : Option Nat :=
  if '0' ≤ c ∧ c ≤ '9' then some (c.toNat - '0'.toNat) else none

/-- The whole number that a string of decimal digits denotes; `none` for no digits at all. -/
def digitsValue? (cs : List Char) : Option Nat :=
  if cs.isEmpty then none
  else cs.foldl (fun acc c => acc.bind fun n => (digitValue? c).map (n * 10 + ·)) (some 0)

/-- A sign, if there is one, and what follows it. -/
def readSign : List Char → Bool × List Char
  | '-' :: cs => (true, cs)
  | '+' :: cs => (false, cs)
  | cs => (false, cs)

/-- A whole number from zero to `limit`; a plus sign may stand in front. -/
def readWord? (limit : Nat) (cs : List Char) : Option Nat :=
  let body := match cs with
    | '+' :: r => r
    | _ => cs
  (digitsValue? body).filter (· ≤ limit)

/-- Whether a character is a decimal digit. -/
def isDecimalDigit (c : Char) : Bool := (digitValue? c).isSome

/-- The number that a string of digits denotes, as far as it consists of digits. -/
def digitsValue (cs : List Char) : Nat := (digitsValue? cs).getD 0

/-- The exponent part of a decimal number: nothing, or the letter and at least one digit. -/
def readExponent? : List Char → Option Int
  | [] => some 0
  | c :: cs =>
    if c = 'e' ∨ c = 'E' then
      let (negative, ds) := readSign cs
      (digitsValue? ds).map fun n => if negative then -(n : Int) else n
    else none

/--
The double nearest to `± mantissa * 10 ^ exponent`.  Exponents that lead past every double or
below every one are settled by the number of digits alone.
-/
def floatOfDecimal (negative : Bool) (mantissa : Nat) (exponent : Int) : Float :=
  let top := exponent + digitCount mantissa
  if mantissa = 0 ∨ top < -400 then nearestFloat negative 0 1
  else if 400 < top then
    Float.ofBits (UInt64.ofNat (if negative then signBit + infinityBits else infinityBits))
  else
    let (num, den) := scaleByTen mantissa 1 exponent
    nearestFloat negative num den

/-- The unsigned part of a decimal number: digits, perhaps a point, at least one digit in all,
and perhaps an exponent. -/
def readMagnitude? (negative : Bool) (cs : List Char) : Option Float :=
  let whole := cs.takeWhile isDecimalDigit
  let rest := cs.dropWhile isDecimalDigit
  let (fraction, rest) := match rest with
    | '.' :: r => (r.takeWhile isDecimalDigit, r.dropWhile isDecimalDigit)
    | _ => ([], rest)
  if whole.isEmpty && fraction.isEmpty then none
  else (readExponent? rest).map fun e =>
    floatOfDecimal negative (digitsValue (whole ++ fraction)) (e - fraction.length)

/-- The words that stand for numbers without digits, in any mixture of cases. -/
def readNumberWord? (negative : Bool) (cs : List Char) : Option Float :=
  let word := cs.map Char.toLower
  if word = ['n', 'a', 'n'] then some (0.0 / 0.0)
  else if word = ['i', 'n', 'f'] ∨ word = ['i', 'n', 'f', 'i', 'n', 'i', 't', 'y'] then
    some (if negative then -1.0 / 0.0 else 1.0 / 0.0)
  else none

/-- The double that a decimal text denotes; `none` if the text is no such number. -/
def readFloat? (cs : List Char) : Option Float :=
  let (negative, body) := readSign cs
  match readNumberWord? negative body with
  | some x => some x
  | none => readMagnitude? negative body

end DenseDmg
