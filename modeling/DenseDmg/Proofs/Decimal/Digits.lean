import DenseDmg.Decimal.Layout
import DenseDmg.Decimal.Reading
import Mathlib.Algebra.Order.Field.Power
import Mathlib.Data.List.TakeWhile
import Mathlib.Data.Rat.Cast.Order
import Mathlib.Tactic.FieldSimp
import Mathlib.Tactic.Linarith

/-!
# Decimal texts and the numbers they denote

A number is written as a sign, digits, perhaps a point and more digits, and perhaps an exponent.
What such a text denotes is read from it by the readers of decimal numbers, without a rounding to a
double at the end.

* `decimalValue?`: the rational that a text denotes; `decimalValue?_decimalLayout` reads a layout.
* `withPoint_eq`: the digits before and behind the point of a number with fixed places.
* `trimFraction_point`: trimming takes zeros off the end of the fraction, and nothing else.
-/

namespace DenseDmg

/-! ## Digits -/

/-- A text of decimal digits only. -/
def AllDigits (cs : List Char) : Prop := ∀ c ∈ cs, isDecimalDigit c = true

variable {cs ds whole fraction : List Char} {c : Char} {n m places : ℕ} {e : ℤ}

theorem isDecimalDigit_iff : isDecimalDigit c = true ↔ c.isDigit = true := by
  unfold isDecimalDigit digitValue?
  have same : ('0' ≤ c ∧ c ≤ '9') ↔ c.isDigit = true := by
    simp [Char.isDigit, Char.le_def]
  split_ifs with digit <;> simp [same.symm, digit]

theorem digitValue?_of_digit (digit : isDecimalDigit c = true) :
    digitValue? c = some (c.toNat - '0'.toNat) := by
  unfold isDecimalDigit digitValue? at *
  split_ifs at digit ⊢ <;> simp_all

/-- A digit is none of the other characters of a number. -/
theorem isDecimalDigit_other :
    isDecimalDigit '.' = false ∧ isDecimalDigit 'e' = false ∧ isDecimalDigit '-' = false ∧
      isDecimalDigit '+' = false := by
  decide

namespace AllDigits

theorem append (left : AllDigits cs) (right : AllDigits ds) : AllDigits (cs ++ ds) := by
  intro c mem
  exact (List.mem_append.mp mem).elim (left c) (right c)

theorem of_append_left (h : AllDigits (cs ++ ds)) : AllDigits cs :=
  fun c mem => h c (List.mem_append_left ds mem)

theorem of_append_right (h : AllDigits (cs ++ ds)) : AllDigits ds :=
  fun c mem => h c (List.mem_append_right cs mem)

theorem toDigits (n : ℕ) : AllDigits (Nat.toDigits 10 n) :=
  fun _ mem => isDecimalDigit_iff.mpr (Nat.isDigit_of_mem_toDigits (by decide) le_rfl mem)

theorem not_mem (h : AllDigits cs) (other : isDecimalDigit c = false) : c ∉ cs := by
  intro mem
  rw [h c mem] at other
  cases other

/-- Digits denote the number that the library reads from them. -/
theorem digitsValue? (h : AllDigits cs) (ne : cs ≠ []) :
    DenseDmg.digitsValue? cs = some (Nat.ofDigitChars 10 cs 0) := by
  have general : ∀ (ds : List Char), AllDigits ds → ∀ start : ℕ,
      ds.foldl (fun acc c => acc.bind fun n => (digitValue? c).map (n * 10 + ·)) (some start) =
        some (Nat.ofDigitChars 10 ds start) := by
    intro ds digits
    induction ds with
    | nil => exact fun _ => rfl
    | cons d ds ih =>
      intro start
      rw [List.foldl_cons, Nat.ofDigitChars_cons, Option.bind_some,
        digitValue?_of_digit (digits d List.mem_cons_self), Option.map_some, Nat.mul_comm]
      exact ih (fun c mem => digits c (List.mem_cons_of_mem d mem)) _
  unfold DenseDmg.digitsValue?
  rw [if_neg (by simpa using ne)]
  exact general cs h 0

theorem digitsValue (h : AllDigits cs) :
    DenseDmg.digitsValue cs = Nat.ofDigitChars 10 cs 0 := by
  unfold DenseDmg.digitsValue
  cases cs with
  | nil => rfl
  | cons c cs => rw [h.digitsValue? (by simp), Option.getD_some]

end AllDigits

/-! ## Fixed places -/

/-- The last `places` decimal digits of a number. -/
def lastDigits : ℕ → ℕ → List Char
  | 0, _ => []
  | places + 1, n => lastDigits places (n / 10) ++ [Nat.digitChar (n % 10)]

theorem length_lastDigits (places n : ℕ) : (lastDigits places n).length = places := by
  induction places generalizing n with
  | zero => rfl
  | succ places ih => rw [lastDigits, List.length_append, ih, List.length_singleton]

/-- A number filled up with zeros is its whole part and then its last digits. -/
theorem padded_eq (places n : ℕ) :
    List.replicate (places + 1 - (Nat.toDigits 10 n).length) '0' ++ Nat.toDigits 10 n =
      Nat.toDigits 10 (n / 10 ^ places) ++ lastDigits places n := by
  induction places generalizing n with
  | zero =>
    have pos : 0 < (Nat.toDigits 10 n).length := Nat.length_toDigits_pos
    have none : 0 + 1 - (Nat.toDigits 10 n).length = 0 := by omega
    rw [none, pow_zero, Nat.div_one, lastDigits]
    simp
  | succ places ih =>
    have shifted : n / 10 ^ (places + 1) = n / 10 / 10 ^ places := by
      rw [Nat.div_div_eq_div_mul, pow_succ']
    rw [lastDigits, ← List.append_assoc, shifted, ← ih]
    rcases Nat.lt_or_ge n 10 with less | more
    · have zero : n / 10 = 0 := Nat.div_eq_of_lt less
      rw [zero, Nat.toDigits_zero, Nat.toDigits_of_lt_base less, Nat.mod_eq_of_lt less]
      simp [List.replicate_succ']
    · rw [Nat.toDigits_of_base_le (by decide) more]
      simp

/-- A number with a point before its last digits. -/
theorem withPoint_eq (pos : 0 < places) (n : ℕ) :
    withPoint n places =
      Nat.toDigits 10 (n / 10 ^ places) ++ '.' :: lastDigits places n := by
  unfold withPoint
  dsimp only
  rw [if_neg pos.ne', padded_eq, List.length_append, length_lastDigits, Nat.add_sub_cancel,
    List.take_left, List.drop_left]

theorem withPoint_zero (n : ℕ) : withPoint n 0 = Nat.toDigits 10 n := rfl

/-- The digits before the point and behind it are those of the number. -/
theorem ofDigitChars_split (places n : ℕ) :
    Nat.ofDigitChars 10 (Nat.toDigits 10 (n / 10 ^ places) ++ lastDigits places n) 0 = n := by
  rw [← padded_eq, Nat.ofDigitChars_append, Nat.ofDigitChars_replicate_zero, Nat.mul_zero,
    Nat.ofDigitChars_ten_toDigits]

theorem AllDigits.lastDigits (places n : ℕ) : AllDigits (lastDigits places n) := by
  have whole : AllDigits (List.replicate (places + 1 - (Nat.toDigits 10 n).length) '0' ++
      Nat.toDigits 10 n) := by
    refine AllDigits.append (fun c mem => ?_) (AllDigits.toDigits n)
    rw [(List.mem_replicate.mp mem).2]
    decide
  rw [padded_eq] at whole
  exact whole.of_append_right

/-! ## Zeros at the end -/

/-- Digits without the zeros they end in. -/
def withoutZeros (ds : List Char) : List Char := (ds.reverse.dropWhile (· == '0')).reverse

/-- Only zeros are taken off. -/
theorem withoutZeros_append (ds : List Char) :
    ∃ k, ds = withoutZeros ds ++ List.replicate k '0' := by
  have zeros : ds.reverse.takeWhile (· == '0') =
      List.replicate (ds.reverse.takeWhile (· == '0')).length '0' := by
    refine List.eq_replicate_iff.mpr ⟨rfl, fun c mem => ?_⟩
    simpa using List.mem_takeWhile_imp mem
  refine ⟨(ds.reverse.takeWhile (· == '0')).length, ?_⟩
  have parts := congrArg List.reverse
    (List.takeWhile_append_dropWhile (p := (· == '0')) (l := ds.reverse))
  rw [List.reverse_append, List.reverse_reverse, zeros, List.reverse_replicate] at parts
  exact parts.symm

/-- No zero is left at the end. -/
theorem getLast?_withoutZeros (ds : List Char) : (withoutZeros ds).getLast? ≠ some '0' := by
  intro last
  rw [withoutZeros, List.getLast?_reverse] at last
  have := List.head?_dropWhile_not (· == '0') ds.reverse
  rw [last] at this
  simp at this

theorem AllDigits.withoutZeros (h : AllDigits ds) : AllDigits (withoutZeros ds) := by
  obtain ⟨k, parts⟩ := withoutZeros_append ds
  rw [parts] at h
  exact h.of_append_left

/-- A fraction behind its point; nothing if there is none. -/
def pointed (fraction : List Char) : List Char :=
  if fraction.isEmpty then [] else '.' :: fraction

/-- Trimming takes the zeros off the end of the fraction, and the point if nothing is left. -/
theorem trimFraction_point (cs : List Char) (h : AllDigits ds) :
    trimFraction (cs ++ '.' :: ds) = cs ++ pointed (withoutZeros ds) := by
  have point : ('.' == '0') = false := by decide
  have turned : (cs ++ '.' :: ds).reverse = ds.reverse ++ '.' :: cs.reverse := by simp
  unfold trimFraction
  dsimp only
  rw [turned, List.dropWhile_append, List.dropWhile_cons, point]
  have kept := h.withoutZeros
  unfold pointed withoutZeros at *
  cases left : ds.reverse.dropWhile (· == '0') with
  | nil => simp
  | cons d rest =>
    rw [left] at kept
    have notPoint : d ≠ '.' := by
      rintro rfl
      have := kept '.' (by simp)
      rw [isDecimalDigit_other.1] at this
      cases this
    simp [notPoint]

/-! ## What a text denotes -/

/-- The digits behind a point, if there is one, and what follows them. -/
def readFraction : List Char → List Char × List Char
  | '.' :: cs => (cs.takeWhile isDecimalDigit, cs.dropWhile isDecimalDigit)
  | cs => ([], cs)

/-- The rational that a decimal text denotes: its digits as one whole number, moved by its places
and by its exponent. -/
def decimalValue? (cs : List Char) : Option ℚ :=
  let (negative, body) := readSign cs
  let whole := body.takeWhile isDecimalDigit
  let (fraction, rest) := readFraction (body.dropWhile isDecimalDigit)
  if whole.isEmpty && fraction.isEmpty then none
  else (readExponent? rest).map fun e : ℤ =>
    (if negative then -1 else 1) * digitsValue (whole ++ fraction) * 10 ^ (e - fraction.length)

/-- A sign, digits, a fraction and what follows it. -/
def decimalLayout (negative : Bool) (whole fraction tail : List Char) : List Char :=
  (if negative then ['-'] else []) ++ whole ++ pointed fraction ++ tail

/-- A text that begins with a digit has no sign. -/
theorem readSign_digits (h : AllDigits cs) (ne : cs ≠ []) (tail : List Char) :
    readSign (cs ++ tail) = (false, cs ++ tail) := by
  obtain ⟨c, rest, rfl⟩ := List.exists_cons_of_ne_nil ne
  have digit := h c List.mem_cons_self
  unfold readSign
  split
  next sign =>
    cases sign
    cases digit
  next sign =>
    cases sign
    cases digit
  next => rfl

/-- The text of an exponent is read as that exponent. -/
theorem readExponent?_intText (e : ℤ) : readExponent? ('e' :: intText [] e) = some e := by
  have digits := AllDigits.toDigits e.natAbs
  have ne : Nat.toDigits 10 e.natAbs ≠ [] := Nat.toDigits_ne_nil
  have value := digits.digitsValue? ne
  have unsigned := readSign_digits digits ne []
  rw [Nat.ofDigitChars_ten_toDigits] at value
  rw [List.append_nil] at unsigned
  rw [readExponent?, if_pos (.inl rfl), intText]
  split_ifs with below
  · simp only [List.singleton_append, readSign, value, if_true]
    exact congrArg some (by dsimp only; omega)
  · simp only [List.nil_append, unsigned, value, Bool.false_eq_true, if_false]
    exact congrArg some (by dsimp only; omega)

/-- What may follow digits and a fraction without being read as a part of them. -/
def EndsNumber (tail : List Char) : Prop :=
  ∀ c ∈ tail.head?, isDecimalDigit c = false ∧ c ≠ '.'

namespace EndsNumber

variable {tail : List Char}

theorem nil : EndsNumber [] := by simp [EndsNumber]

theorem exponent (e : ℤ) : EndsNumber ('e' :: intText [] e) := by
  rintro c ⟨⟩
  decide

theorem takeWhile (ends : EndsNumber tail) : tail.takeWhile isDecimalDigit = [] := by
  cases tail with
  | nil => rfl
  | cons c rest => rw [List.takeWhile_cons_of_neg (by simp [(ends c rfl).1])]

theorem dropWhile (ends : EndsNumber tail) : tail.dropWhile isDecimalDigit = tail := by
  cases tail with
  | nil => rfl
  | cons c rest => rw [List.dropWhile_cons_of_neg (by simp [(ends c rfl).1])]

theorem readFraction (ends : EndsNumber tail) : DenseDmg.readFraction tail = ([], tail) := by
  unfold DenseDmg.readFraction
  split
  next => exact absurd rfl (ends '.' rfl).2
  next => rfl

/-- A fraction behind its point is read up to the end of its digits. -/
theorem readFraction_pointed (ends : EndsNumber tail) (digits : AllDigits fraction) :
    DenseDmg.readFraction (pointed fraction ++ tail) = (fraction, tail) := by
  cases fraction with
  | nil => exact ends.readFraction
  | cons d ds =>
    have text : pointed (d :: ds) ++ tail = '.' :: (d :: ds ++ tail) := rfl
    rw [text, DenseDmg.readFraction, List.takeWhile_append_of_pos digits,
      List.dropWhile_append_of_pos digits, ends.takeWhile, ends.dropWhile, List.append_nil]

/-- No digits stand at the beginning of a fraction with its point. -/
theorem whole_pointed (ends : EndsNumber tail) (fraction : List Char) :
    (pointed fraction ++ tail).takeWhile isDecimalDigit = [] ∧
      (pointed fraction ++ tail).dropWhile isDecimalDigit = pointed fraction ++ tail := by
  cases fraction with
  | nil => exact ⟨ends.takeWhile, ends.dropWhile⟩
  | cons d ds =>
    have point : ¬ isDecimalDigit '.' = true := by decide
    exact ⟨List.takeWhile_cons_of_neg point, List.dropWhile_cons_of_neg point⟩

end EndsNumber

/-- The digits of a layout are those of its whole part and of its fraction. -/
theorem filter_decimalLayout {negative : Bool} (digits : AllDigits (whole ++ fraction)) :
    (decimalLayout negative whole fraction []).filter isDecimalDigit = whole ++ fraction := by
  have sign : (if negative then ['-'] else []).filter isDecimalDigit = [] := by
    cases negative <;> decide
  have part : (pointed fraction).filter isDecimalDigit = fraction := by
    have kept := List.filter_eq_self.mpr digits.of_append_right
    cases fraction with
    | nil => rfl
    | cons d ds => exact (List.filter_cons_of_neg (by decide)).trans kept
  rw [decimalLayout, List.append_nil, List.filter_append, List.filter_append, sign, part,
    List.filter_eq_self.mpr digits.of_append_left, List.nil_append]

/-- A letter in a layout stands behind the digits. -/
theorem mem_decimalLayout {negative : Bool} {tail : List Char}
    (digits : AllDigits (whole ++ fraction)) (other : isDecimalDigit c = false)
    (notSign : c ≠ '-') (notPoint : c ≠ '.') :
    c ∈ decimalLayout negative whole fraction tail ↔ c ∈ tail := by
  have first := digits.of_append_left.not_mem other
  have second := digits.of_append_right.not_mem other
  unfold decimalLayout pointed
  cases negative <;> cases fraction <;> simp_all

/-- A layout denotes its digits, moved by its places and by its exponent. -/
theorem decimalValue?_decimalLayout {negative : Bool} {tail : List Char} (ne : whole ≠ [])
    (digits : AllDigits (whole ++ fraction)) (exponent : readExponent? tail = some e)
    (ends : EndsNumber tail) :
    decimalValue? (decimalLayout negative whole fraction tail) =
      some ((if negative then -1 else 1) * (Nat.ofDigitChars 10 (whole ++ fraction) 0 : ℚ) *
        10 ^ (e - fraction.length)) := by
  have first := digits.of_append_left
  have sign : readSign (decimalLayout negative whole fraction tail) =
      (negative, whole ++ (pointed fraction ++ tail)) := by
    unfold decimalLayout
    rw [List.append_assoc, List.append_assoc]
    cases negative with
    | true => rfl
    | false => exact readSign_digits first ne _
  obtain ⟨none, rest⟩ := ends.whole_pointed fraction
  unfold decimalValue?
  rw [sign]
  dsimp only
  rw [List.takeWhile_append_of_pos first, List.dropWhile_append_of_pos first, none, rest,
    List.append_nil, ends.readFraction_pointed digits.of_append_right]
  dsimp only
  rw [if_neg (by simp [ne]), exponent, Option.map_some, digits.digitsValue]

end DenseDmg
