import DenseDmg.Proofs.Decimal.Digits
import DenseDmg.Proofs.Decimal.Doubles
import DenseDmg.Proofs.Decimal.Rounding
import Mathlib.Algebra.Order.Floor.Semifield
import Mathlib.Data.Rat.Floor

/-!
# Throughput figures

A throughput figure shows the exact value of a double, rounded to six significant digits.  The
digits are rounded twice, once for the exponent and once for the plain notation that the exponent
calls for; the two roundings are of one number to one place, so they agree at every carry.

* `plainNotation_plainFigure`, `decimalValue?_plainFigure`: a figure without an exponent.
* `decimalValue?_exponentFigure`: a figure with one.
* `throughputText_significant`: what is shown of every finite double.
-/

namespace DenseDmg

/-! ## Notation -/

/-- Plain notation: the whole part of the magnitude with all its digits, a fraction only where it
says something, and so many significant digits at most. -/
structure PlainNotation (digits : ℕ) (r : ℚ) (text : List Char) : Prop where
  layout : ∃ fraction, text = decimalLayout (decide (r < 0)) (Nat.toDigits 10 ⌊|r|⌋₊) fraction [] ∧
    AllDigits fraction ∧ fraction.getLast? ≠ some '0'
  few : ((text.filter isDecimalDigit).dropWhile (· == '0')).length ≤ digits

/-- Zeros at the front are not significant. -/
theorem length_dropWhile_append (p : Char → Bool) (cs ds : List Char) :
    (cs.dropWhile p).length ≤ ((cs ++ ds).dropWhile p).length := by
  rw [List.dropWhile_append]
  split_ifs with none
  · rw [List.isEmpty_iff.mp none]
    exact Nat.zero_le _
  · rw [List.length_append]
    exact Nat.le_add_right _ _

/-! ## Plain figures -/

section Plain

variable {negative : Bool} {q places n : ℕ}

/-- The text of `± q / 10 ^ places` without the zeros at its end. -/
def plainFigure (negative : Bool) (q places : ℕ) : List Char :=
  decimalLayout negative (Nat.toDigits 10 (q / 10 ^ places)) (withoutZeros (lastDigits places q)) []

/-- Trimming a number with fixed places, if it has a point, takes the zeros off its end. -/
theorem trim_fixed (negative : Bool) (q places : ℕ) :
    (let fixed := (if negative then ['-'] else []) ++ withPoint q places
      if fixed.contains '.' then trimFraction fixed else fixed) =
      plainFigure negative q places := by
  have whole := (AllDigits.toDigits (q / 10 ^ places)).not_mem isDecimalDigit_other.1
  dsimp only
  rcases Nat.eq_zero_or_pos places with rfl | pos
  · rw [pow_zero, Nat.div_one] at whole
    have none : ((if negative then ['-'] else []) ++ withPoint q 0).contains '.' = false := by
      cases negative <;> simp [withPoint_zero, whole]
    rw [none, plainFigure, pow_zero, Nat.div_one, withPoint_zero, if_neg (by decide)]
    simp [decimalLayout, lastDigits, withoutZeros, pointed]
  · have some : ((if negative then ['-'] else []) ++ withPoint q places).contains '.' = true := by
      simp [withPoint_eq pos]
    rw [some, if_pos rfl, withPoint_eq pos, ← List.append_assoc,
      trimFraction_point _ (AllDigits.lastDigits places q), plainFigure, decimalLayout,
      List.append_nil]

/-- The digits of a plain figure. -/
theorem plainFigure_digits (q places : ℕ) :
    AllDigits (Nat.toDigits 10 (q / 10 ^ places) ++ withoutZeros (lastDigits places q)) :=
  (AllDigits.toDigits _).append (AllDigits.lastDigits places q).withoutZeros

/-- A plain figure denotes its number. -/
theorem decimalValue?_plainFigure (negative : Bool) (q places : ℕ) :
    decimalValue? (plainFigure negative q places) =
      some ((if negative then -1 else 1) * ((q : ℚ) / 10 ^ places)) := by
  obtain ⟨k, zeros⟩ := withoutZeros_append (lastDigits places q)
  have count := congrArg List.length zeros
  rw [length_lastDigits, List.length_append, List.length_replicate] at count
  have digits := ofDigitChars_split places q
  rw [zeros, ← List.append_assoc, Nat.ofDigitChars_append,
    Nat.ofDigitChars_replicate_zero] at digits
  rw [plainFigure, decimalValue?_decimalLayout (e := 0) Nat.toDigits_ne_nil
    (plainFigure_digits q places) rfl EndsNumber.nil]
  generalize Nat.ofDigitChars 10 _ 0 = kept at digits ⊢
  generalize (withoutZeros (lastDigits places q)).length = l at count ⊢
  rw [← digits, count, zero_sub, zpow_neg, zpow_natCast, pow_add]
  push_cast
  congr 1
  field_simp

/-- A plain figure has no letter. -/
theorem not_mem_plainFigure (negative : Bool) (q places : ℕ) :
    'e' ∉ plainFigure negative q places := by
  rw [plainFigure, mem_decimalLayout (plainFigure_digits q places) (by decide) (by decide)
    (by decide)]
  exact List.not_mem_nil

/-- A plain figure of few digits is in plain notation. -/
theorem plainNotation_plainFigure {r : ℚ} (few : q < 10 ^ n) (some : 0 < n)
    (value : |r| = (q : ℚ) / 10 ^ places) (sign : negative = decide (r < 0)) :
    PlainNotation n r (plainFigure negative q places) := by
  have whole : ⌊|r|⌋₊ = q / 10 ^ places := by
    have := Nat.floor_div_eq_div (K := ℚ) q (10 ^ places)
    push_cast at this
    rw [value, this]
  refine ⟨⟨withoutZeros (lastDigits places q), ?_, ?_, getLast?_withoutZeros _⟩, ?_⟩
  · rw [plainFigure, sign, whole]
  · exact (AllDigits.lastDigits places q).withoutZeros
  · -- With its zeros the figure is the number, filled up with zeros at the front.
    obtain ⟨k, zeros⟩ := withoutZeros_append (lastDigits places q)
    have padded := padded_eq places q
    rw [zeros, ← List.append_assoc] at padded
    rw [plainFigure, filter_decimalLayout (plainFigure_digits q places)]
    refine (length_dropWhile_append _ _ (List.replicate k '0')).trans ?_
    have front : ∀ c ∈ List.replicate (places + 1 - (Nat.toDigits 10 q).length) '0',
        (c == '0') = true := by
      intro c mem
      rw [(List.mem_replicate.mp mem).2]
      rfl
    rw [← padded, List.dropWhile_append_of_pos front]
    exact (List.length_dropWhile_le _ _).trans
      ((Nat.length_toDigits_le_iff (by decide) some).mpr few)

end Plain

/-! ## Figures with an exponent -/

/-- The text of `± q` with its first digit at the exponent `e`. -/
def exponentFigure (negative : Bool) (q : ℕ) (e : ℤ) : List Char :=
  (if negative then ['-'] else []) ++ scientific [] (Nat.toDigits 10 q) e

/-- A figure with an exponent has its first digit before the point and the others behind it. -/
theorem exponentFigure_eq (negative : Bool) (q : ℕ) (e : ℤ) :
    exponentFigure negative q e =
      decimalLayout negative ((Nat.toDigits 10 q).take 1) ((Nat.toDigits 10 q).drop 1)
        ('e' :: intText [] e) := by
  have fraction : (if (Nat.toDigits 10 q).length ≤ 1 then []
      else '.' :: (Nat.toDigits 10 q).drop 1) = pointed ((Nat.toDigits 10 q).drop 1) := by
    unfold pointed
    simp only [List.isEmpty_iff, List.drop_eq_nil_iff]
  unfold exponentFigure scientific decimalLayout
  rw [fraction]
  simp only [List.append_assoc]

theorem exponentFigure_digits (q : ℕ) :
    AllDigits ((Nat.toDigits 10 q).take 1 ++ (Nat.toDigits 10 q).drop 1) := by
  rw [List.take_append_drop]
  exact AllDigits.toDigits q

theorem mem_exponentFigure (negative : Bool) (q : ℕ) (e : ℤ) :
    'e' ∈ exponentFigure negative q e := by
  rw [exponentFigure_eq]
  exact List.mem_append_right _ List.mem_cons_self

/-- A figure with an exponent denotes its digits, moved by the exponent. -/
theorem decimalValue?_exponentFigure (negative : Bool) {q n : ℕ} (e : ℤ) (low : 10 ^ n ≤ q)
    (high : q < 10 ^ (n + 1)) :
    decimalValue? (exponentFigure negative q e) =
      some ((if negative then -1 else 1) * ((q : ℚ) * 10 ^ (e - n))) := by
  have count : ((Nat.toDigits 10 q).drop 1).length = n := by
    have most := (Nat.length_toDigits_le_iff (show 1 < 10 by decide) (Nat.succ_pos n)).mpr high
    have least : ¬ (Nat.toDigits 10 q).length ≤ n := by
      intro less
      rcases Nat.eq_zero_or_pos n with rfl | pos
      · exact absurd less (Nat.length_toDigits_pos).not_ge
      · have := (Nat.length_toDigits_le_iff (by decide) pos).mp less
        omega
    rw [List.length_drop]
    omega
  have first : (Nat.toDigits 10 q).take 1 ≠ [] := by
    simp [Nat.toDigits_ne_nil]
  rw [exponentFigure_eq, decimalValue?_decimalLayout first (exponentFigure_digits q)
    (readExponent?_intText e) (EndsNumber.exponent e), List.take_append_drop,
    Nat.ofDigitChars_ten_toDigits, count, mul_assoc]

/-! ## Throughput figures -/

/-- The second rounding brings out the digits of the first, so a throughput figure is one of the two
kinds of figures for them. -/
theorem throughputText_eq {x : Float} {v : BinaryValue} {q : ℕ} {e : ℤ}
    (number : BinaryValue.ofFloat? x = some v) (nonzero : v.significand ≠ 0)
    (rounded : roundSignificant significantDigits v.ratio.1 v.ratio.2 = (q, e)) :
    throughputText x =
      if e < -4 ∨ 5 < e then exponentFigure v.negative q e
      else plainFigure v.negative q (5 - e).toNat := by
  have denPos := v.ratio_eq.1
  obtain ⟨-, -, -, nearest⟩ :=
    roundSignificant_rounds (by decide) (BinaryValue.ratio_pos nonzero) denPos rounded
  unfold throughputText
  rw [number]
  dsimp only
  rw [if_neg nonzero, rounded]
  dsimp only
  have bound : (6 : ℤ) ≤ e ↔ 5 < e := by omega
  have digits : (significantDigits : ℤ) = 6 := rfl
  rw [digits] at nearest ⊢
  simp only [bound]
  by_cases outside : e < -4 ∨ 5 < e
  · rw [if_pos outside, if_pos outside]
    rfl
  · rw [if_neg outside, if_neg outside]
    have places : (6 : ℤ) - 1 - e = ((5 - e).toNat : ℤ) := by omega
    have again : divNearest (v.ratio.1 * Nat.pow 10 (5 - e).toNat) v.ratio.2 = q := by
      have second := nearestEven_divNearest (v.ratio.1 * Nat.pow 10 (5 - e).toNat) denPos
      have same : ((v.ratio.1 * Nat.pow 10 (5 - e).toNat : ℕ) : ℚ) / v.ratio.2 =
          (v.ratio.1 : ℚ) / v.ratio.2 * 10 ^ ((6 : ℤ) - 1 - e) := by
        rw [places, zpow_natCast, Nat.pow_eq]
        push_cast
        ring
      rw [same] at second
      exact_mod_cast second.unique nearest
    have fixed : fixedFloat ((6 : ℤ) - 1 - e).toNat x =
        (if v.negative then ['-'] else []) ++ withPoint q (5 - e).toNat := by
      unfold fixedFloat
      rw [number, places, Int.toNat_natCast]
      dsimp only
      rw [again]
      rfl
    rw [fixed]
    exact trim_fixed v.negative q (5 - e).toNat

/-- What a throughput figure shows of the number `x`: a text that denotes `r`, which is `x` rounded
to six significant digits, with an exponent only where plain notation would not do. -/
structure ShowsSignificant (x r : ℚ) (text : List Char) : Prop where
  rounded : SignificantRounding significantDigits x r
  denotes : decimalValue? text = some r
  zero : x = 0 → text = ['0']
  /-- The exponent of the first digit after the rounding decides the notation. -/
  plain : 'e' ∉ text ↔ r = 0 ∨ ∃ k : ℤ, -4 ≤ k ∧ k ≤ 5 ∧ 10 ^ k ≤ |r| ∧ |r| < 10 ^ (k + 1)
  written : 'e' ∉ text → PlainNotation significantDigits r text

theorem showsSignificant_zero : ShowsSignificant 0 0 ['0'] where
  rounded := .inl ⟨rfl, rfl⟩
  denotes := by
    have value := decimalValue?_plainFigure false 0 0
    have text : plainFigure false 0 0 = ['0'] := by decide
    rw [text] at value
    simpa using value
  zero _ := rfl
  plain := by simp
  written _ := ⟨⟨[], by simp [decimalLayout, pointed], by simp [AllDigits], by simp⟩, by decide⟩

/-- A positive number with a sign. -/
theorem signed_facts (negative : Bool) {y : ℚ} (pos : 0 < y) :
    |(if negative then -1 else 1) * y| = y ∧ (if negative then -1 else 1) * y ≠ 0 ∧
      negative = decide ((if negative then -1 else 1) * y < 0) := by
  cases negative with
  | false => simp [abs_of_pos pos, pos.le, pos.ne']
  | true => simp [abs_of_pos pos, pos, pos.ne']

theorem SignificantRounding.signed {n : ℕ} {x r : ℚ} (negative : Bool)
    (h : SignificantRounding n x r) :
    SignificantRounding n ((if negative then -1 else 1) * x)
      ((if negative then -1 else 1) * r) := by
  cases negative with
  | false => simpa using h
  | true => simpa using h.neg

/-- Six digits lie between two successive powers of ten. -/
theorem digits_leading {q : ℕ} (e : ℤ) (low : 10 ^ 5 ≤ q) (high : q < 10 ^ 6) :
    (10 : ℚ) ^ e ≤ q * 10 ^ (e - 5) ∧ (q : ℚ) * 10 ^ (e - 5) < 10 ^ (e + 1) := by
  have down : (10 : ℚ) ^ e = 10 ^ 5 * 10 ^ (e - 5) := zpow_eq_pow_mul (by omega)
  have up : (10 : ℚ) ^ (e + 1) = 10 ^ 6 * 10 ^ (e - 5) := zpow_eq_pow_mul (by omega)
  have step : (0 : ℚ) < 10 ^ (e - 5) := by positivity
  rw [down, up]
  constructor
  · exact mul_le_mul_of_nonneg_right (by exact_mod_cast low) step.le
  · exact mul_lt_mul_of_pos_right (by exact_mod_cast high) step

/-- What is shown of a number whose magnitude `x` is rounded to the digits `q` with the exponent
`e`. -/
theorem showsSignificant_digits (negative : Bool) {x : ℚ} {q : ℕ} {e : ℤ} (pos : 0 < x)
    (low : 10 ^ 5 ≤ q) (high : q < 10 ^ 6)
    (rounding : SignificantRounding significantDigits x (q * 10 ^ (e - 5))) :
    ShowsSignificant ((if negative then -1 else 1) * x)
      ((if negative then -1 else 1) * (q * 10 ^ (e - 5)))
      (if e < -4 ∨ 5 < e then exponentFigure negative q e
        else plainFigure negative q (5 - e).toNat) := by
  have qPos : (0 : ℚ) < q := by
    have : 0 < q := by omega
    exact_mod_cast this
  have rPos : (0 : ℚ) < q * 10 ^ (e - 5) := by positivity
  obtain ⟨magnitude, nonzero, sign⟩ := signed_facts negative rPos
  obtain ⟨least, less⟩ := digits_leading e low high
  have xNonzero := (signed_facts negative pos).2.1
  have round := rounding.signed negative
  have places : ¬ (e < -4 ∨ 5 < e) → (q : ℚ) * 10 ^ (e - 5) = q / 10 ^ (5 - e).toNat := by
    intro inside
    have exponent : e - 5 = -(((5 - e).toNat : ℕ) : ℤ) := by omega
    rw [exponent, zpow_neg, zpow_natCast, div_eq_mul_inv]
  by_cases outside : e < -4 ∨ 5 < e
  · rw [if_pos outside]
    have letter := mem_exponentFigure negative q e
    refine ⟨round, ?_, fun zero => absurd zero xNonzero, ?_, fun none => absurd letter none⟩
    · have value := decimalValue?_exponentFigure negative e low high
      exact_mod_cast value
    · refine ⟨fun none => absurd letter none, ?_⟩
      rintro (zero | ⟨k, lowK, highK, le, lt⟩)
      · exact absurd zero nonzero
      · rw [magnitude] at le lt
        obtain rfl := exponent_unique least less le lt
        omega
  · rw [if_neg outside]
    refine ⟨round, ?_, fun zero => absurd zero xNonzero, ?_, fun _ => ?_⟩
    · rw [decimalValue?_plainFigure, places outside]
    · refine ⟨fun _ => .inr ⟨e, by omega, by omega, ?_, ?_⟩, fun _ => ?_⟩
      · rwa [magnitude]
      · rwa [magnitude]
      · exact not_mem_plainFigure negative q _
    · refine plainNotation_plainFigure high (by decide) ?_ sign
      rw [magnitude, places outside]

/-- A throughput figure of a finite double shows its exact value, rounded to six significant
digits. -/
theorem throughputText_significant {x : Float} (finite : x.isFinite = true) :
    ∃ v r, BinaryValue.ofFloat? x = some v ∧ ShowsSignificant v.value r (throughputText x) := by
  rw [isFinite_eq] at finite
  obtain ⟨v, number⟩ := Option.isSome_iff_exists.mp finite
  by_cases zero : v.significand = 0
  · refine ⟨v, 0, number, ?_⟩
    have text : throughputText x = ['0'] := by
      unfold throughputText
      rw [number]
      exact if_pos zero
    rw [text, BinaryValue.value_eq_zero_iff.mpr zero]
    exact showsSignificant_zero
  · obtain ⟨⟨q, e⟩, rounded⟩ :
        ∃ p, roundSignificant significantDigits v.ratio.1 v.ratio.2 = p := ⟨_, rfl⟩
    have numPos := BinaryValue.ratio_pos zero
    have denPos := v.ratio_eq.1
    obtain ⟨low, high, rounding, -⟩ :=
      roundSignificant_rounds (by decide) numPos denPos rounded
    have positive : (0 : ℚ) < (v.ratio.1 : ℚ) / v.ratio.2 := by positivity
    refine ⟨v, (if v.negative then -1 else 1) * (q * 10 ^ (e - 5)), number, ?_⟩
    rw [throughputText_eq number zero rounded, v.value_eq_ratio]
    refine showsSignificant_digits v.negative positive low high ?_
    have exponent : e - ((significantDigits : ℕ) - 1 : ℤ) = e - 5 := by
      rw [significantDigits]
      omega
    rwa [exponent] at rounding

/-- Rounded to six digits 999999.5 has a larger exponent, so it is not shown in plain notation. -/
theorem throughputText_significant_carry :
    let x := Float.ofBits 0x412E847F00000000
    x.isFinite = true ∧ BinaryValue.ofFloat? x = some ⟨false, 0x1E847F00000000, -33⟩ ∧
      throughputText x = "1.00000e6".toList ∧
      ∃ v r, BinaryValue.ofFloat? x = some v ∧ ShowsSignificant v.value r (throughputText x) :=
  ⟨by decide +kernel, by decide +kernel, by decide +kernel,
    throughputText_significant (by decide +kernel)⟩

end DenseDmg
