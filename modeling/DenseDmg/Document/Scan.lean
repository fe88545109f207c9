import DenseDmg.Decimal.Binary
import DenseDmg.Decimal.Reading
import DenseDmg.Fault
import DenseDmg.Text.Hex
import DenseDmg.Word

/-!
# Scanning documents

The parts of a document: white space, words, texts and numbers.  A scanner takes its part off the
front of the characters and leaves the rest, or tells whether the document is malformed there or
ends too early.
-/

namespace DenseDmg

namespace Document

/-- What has been read and what is left, or the first fault. -/
abbrev Scanned (α : Type) := Except DocumentFault (α × List Char)

/-- White space inside documents. -/
def isSpace (c : Char) : Bool := c == ' ' || c == '\n' || c == '\t' || c == '\r'

def skipSpace (cs : List Char) : List Char := cs.dropWhile isSpace

/-- Take a given word off the front. -/
def expectWord : List Char → List Char → Except DocumentFault (List Char)
  | [], cs => .ok cs
  | _ :: _, [] => .error .truncated
  | w :: ws, c :: cs => if c = w then expectWord ws cs else .error .malformed

/-! ## Texts -/

/-- The character that a one-letter escape stands for. -/
def escape? (c : Char) : Option Char :=
  if c = '"' ∨ c = '\\' ∨ c = '/' then some c
  else if c = 'b' then some '\x08'
  else if c = 'f' then some '\x0c'
  else if c = 'n' then some '\n'
  else if c = 'r' then some '\r'
  else if c = 't' then some '\t'
  else none

/-- The fault of an escape by code point that has no four digits: whether the document still
holds the four bytes that they would take. -/
def shortEscape (cs : List Char) : DocumentFault :=
  if 4 ≤ (String.ofList cs).utf8ByteSize then .malformed else .truncated

/-- Whether a 16-bit unit is the first half of a pair that stands for one character. -/
def isHighHalf (n : Nat) : Bool := 0xD800 ≤ n && n ≤ 0xDBFF

/-- Whether a 16-bit unit is the second half of such a pair. -/
def isLowHalf (n : Nat) : Bool := 0xDC00 ≤ n && n ≤ 0xDFFF

/-- The character that a pair of halves stands for. -/
def joinHalves (high low : Nat) : Char :=
  Char.ofNat (0x10000 + (high - 0xD800) * 0x400 + (low - 0xDC00))

def consChar (c : Char) : Scanned (List Char) → Scanned (List Char)
  | .ok (s, r) => .ok (c :: s, r)
  | .error f => .error f

/-- The rest of a text behind its opening quote. -/
def scanText : List Char → Scanned (List Char)
  | [] => .error .truncated
  | '"' :: r => .ok ([], r)
  | '\\' :: [] => .error .truncated
  | '\\' :: 'u' :: a :: b :: c :: d :: r =>
    match hexNumber? [a, b, c, d] with
    | none => .error .malformed
    | some n =>
      if isLowHalf n then .error .malformed
      else if isHighHalf n then
        match r with
        | [] => .error .truncated
        | '\\' :: [] => .error .truncated
        | '\\' :: 'u' :: e :: f :: g :: h :: r =>
          match hexNumber? [e, f, g, h] with
          | none => .error .malformed
          | some m =>
            if isLowHalf m then consChar (joinHalves n m) (scanText r) else .error .malformed
        | '\\' :: 'u' :: r => .error (shortEscape r)
        | _ => .error .malformed
      else consChar (Char.ofNat n) (scanText r)
  | '\\' :: 'u' :: r => .error (shortEscape r)
  | '\\' :: c :: r =>
    match escape? c with
    | none => .error .malformed
    | some e => consChar e (scanText r)
  | c :: r => if c < ' ' then .error .malformed else consChar c (scanText r)
termination_by structural cs => cs

/-- The rest of a text that nobody reads: its escapes must have their form, but halves of pairs
may stand alone. -/
def skipText : List Char → Except DocumentFault (List Char)
  | [] => .error .truncated
  | '"' :: r => .ok r
  | '\\' :: [] => .error .truncated
  | '\\' :: 'u' :: a :: b :: c :: d :: r =>
    if (hexNumber? [a, b, c, d]).isSome then skipText r else .error .malformed
  | '\\' :: 'u' :: r => .error (shortEscape r)
  | '\\' :: c :: r => if (escape? c).isSome then skipText r else .error .malformed
  | c :: r => if c < ' ' then .error .malformed else skipText r
termination_by structural cs => cs

/-! ## Numbers -/

/-- A number as it is read: a whole number of either sign while it fits into 64 bits, otherwise a
double. -/
inductive Number
  | natural (n : Nat)
  /-- The number `-n`. -/
  | negative (n : Nat)
  | real (x : Float)

/-- Take digits into a significand as long as it stays a 64-bit word; the second part counts the
digits taken. -/
def takeDigits (significand taken : Nat) : List Char → Nat × Nat
  | [] => (significand, taken)
  | c :: cs =>
    let next := significand * 10 + (digitValue? c).getD 0
    if lastWord < next then (significand, taken) else takeDigits next (taken + 1) cs

/-- The double `10 ^ k`. -/
def powerOfTen (k : Nat) : Float := nearestFloat false (Nat.pow 10 k) 1

/--
The double `x * 10 ^ e`, by one multiplication or one division where the power is a double, and
below that by further divisions first.  `none` if the result is no longer finite.
-/
def timesPower? (x : Float) (e : Int) : Option Float :=
  if h : e < -308 then
    if x == 0.0 then some x else timesPower? (x / powerOfTen 308) (e + 308)
  else if e < 0 then some (x / powerOfTen (-e).toNat)
  else if e ≤ 308 then
    let y := x * powerOfTen e.toNat
    if y.isInf then none else some y
  else if x == 0.0 then some x
  else none
termination_by (-e).toNat

/-- The double `± significand * 10 ^ e`, if it is finite. -/
def scaled (negative : Bool) (significand : Nat) (e : Int) : Except DocumentFault Number :=
  match timesPower? (countFloat significand) e with
  | some x => .ok (.real (if negative then -x else x))
  | none => .error .malformed

/-- Exponents from here on are settled without being computed. -/
def exponentLimit : Nat := 2147483647

/-- The exponent of a number behind its letter, and the number. -/
def scanExponent (negative : Bool) (significand : Nat) (e : Int) (cs : List Char) :
    Scanned Number :=
  let (down, cs) := readSign cs
  let ds := cs.takeWhile isDecimalDigit
  let rest := cs.dropWhile isDecimalDigit
  if ds.isEmpty then .error (if cs.isEmpty then .truncated else .malformed)
  else
    let n := digitsValue ds
    if exponentLimit < n then
      if significand ≠ 0 ∧ ¬down then .error .malformed
      else .ok (.real (if negative then -0.0 else 0.0), rest)
    else
      (scaled negative significand (if down then e - n else e + n)).map fun x => (x, rest)

/-- What follows the fraction of a number, or its whole part. -/
def scanTail (negative : Bool) (significand : Nat) (e : Int) : List Char → Scanned Number
  | 'e' :: cs => scanExponent negative significand e cs
  | 'E' :: cs => scanExponent negative significand e cs
  | cs => (scaled negative significand e).map fun x => (x, cs)

/-- A whole number, if it is in the range of 64-bit words of its sign. -/
def whole? (negative : Bool) (n : Nat) : Number :=
  if !negative then .natural n
  else if n = 0 ∨ 0x8000000000000000 < n then .real (-(countFloat n))
  else .negative n

/--
A number behind its sign.  A significand keeps the leading digits that fit into 64 bits; digits
beyond them count for the magnitude if they stand before the point, and not at all behind it.
-/
def scanNumber (negative : Bool) (cs : List Char) : Scanned Number :=
  let ds := cs.takeWhile isDecimalDigit
  let rest := cs.dropWhile isDecimalDigit
  if ds.isEmpty then .error (if cs.isEmpty then .truncated else .malformed)
  else if ds.head? = some '0' ∧ 1 < ds.length then .error .malformed
  else
    let (significand, taken) := takeDigits 0 0 ds
    let e : Int := (ds.length : Int) - taken
    match rest with
    | '.' :: cs =>
      let fs := cs.takeWhile isDecimalDigit
      if fs.isEmpty then .error (if cs.isEmpty then .truncated else .malformed)
      else
        let (significand, taken) := takeDigits significand 0 fs
        scanTail negative significand (e - taken) (cs.dropWhile isDecimalDigit)
    | 'e' :: _ => scanTail negative significand e rest
    | 'E' :: _ => scanTail negative significand e rest
    | _ =>
      if e = 0 then .ok (whole? negative significand, rest)
      else scanTail negative significand e rest

/-- An exponent that nobody reads, behind its letter. -/
def skipExponent (cs : List Char) : Except DocumentFault (List Char) :=
  let cs := (readSign cs).2
  if (cs.takeWhile isDecimalDigit).isEmpty then .error .malformed
  else .ok (cs.dropWhile isDecimalDigit)

/-- What follows the digits of a number that nobody reads. -/
def skipTail : List Char → Except DocumentFault (List Char)
  | 'e' :: cs => skipExponent cs
  | 'E' :: cs => skipExponent cs
  | cs => .ok cs

/-- A number that nobody reads, behind its sign.  One that breaks off is malformed, also at the
end of the document. -/
def skipNumber (cs : List Char) : Except DocumentFault (List Char) :=
  let ds := cs.takeWhile isDecimalDigit
  if ds.isEmpty ∨ (ds.head? = some '0' ∧ 1 < ds.length) then .error .malformed
  else
    match cs.dropWhile isDecimalDigit with
    | '.' :: cs =>
      if (cs.takeWhile isDecimalDigit).isEmpty then .error .malformed
      else skipTail (cs.dropWhile isDecimalDigit)
    | rest => skipTail rest

end Document

end DenseDmg
