import DenseDmg.Proofs.Decimal.Arithmetic
import DenseDmg.Proofs.Decimal.Significant
import DenseDmg.Text.Blank

/-!
# The widths of figures

How many characters a number takes depends on its exponent: figures of six significant digits grow
when the exponent has three digits or a sign, and figures with fixed places grow with the number.

* `unbroken_throughputText`, `unbroken_fixedFloat`: a figure is one word.
* `length_throughputText_of_full`: a throughput figure that is not too small has at most 11
  characters.
* `length_fixedFloat_one_of_full`: a figure with one place below 99.95 has at most 4.
-/

namespace DenseDmg

open Float.Model Float.Model.UnpackedFloat

/-! ## Words -/

/-- A text that is not empty and has no blank character in it. -/
structure Unbroken (cs : List Char) : Prop where
  ne : cs ≠ []
  solid : ∀ c ∈ cs, isBlank c = false

variable {cs ds whole fraction : List Char} {x : Float} {v : ℚ} {q places : ℕ} {e : ℤ}

theorem isBlank_of_digit {c : Char} (digit : isDecimalDigit c = true) : isBlank c = false := by
  have bounds : 48 ≤ c.toNat ∧ c.toNat ≤ 57 := by
    have := isDecimalDigit_iff.mp digit
    simp only [Char.isDigit, Bool.and_eq_true, decide_eq_true_eq, ge_iff_le,
      UInt32.le_iff_toNat_le] at this
    exact this
  unfold isBlank
  simp only [Bool.or_eq_false_iff, Bool.and_eq_false_iff, decide_eq_false_iff_not,
    beq_eq_false_iff_ne]
  omega

namespace Unbroken

theorem of_all (h : (!cs.isEmpty && cs.all fun c => !isBlank c) = true) : Unbroken cs := by
  simp only [Bool.and_eq_true, Bool.not_eq_true', List.isEmpty_eq_false_iff, List.all_eq_true] at h
  exact ⟨h.1, h.2⟩

theorem of_digits (digits : AllDigits cs) (ne : cs ≠ []) : Unbroken cs :=
  ⟨ne, fun c mem => isBlank_of_digit (digits c mem)⟩

theorem append (left : Unbroken cs) (right : ∀ c ∈ ds, isBlank c = false) :
    Unbroken (cs ++ ds) := by
  refine ⟨List.append_ne_nil_of_left_ne_nil left.ne ds, fun c mem => ?_⟩
  exact (List.mem_append.mp mem).elim (left.solid c) (right c)

theorem signed (negative : Bool) (h : Unbroken cs) :
    Unbroken ((if negative then ['-'] else []) ++ cs) := by
  cases negative with
  | false => exact h
  | true => exact append (of_all (by decide)) h.solid

theorem layout {negative : Bool} {tail : List Char} (ne : whole ≠ [])
    (digits : AllDigits (whole ++ fraction)) (rest : ∀ c ∈ tail, isBlank c = false) :
    Unbroken (decimalLayout negative whole fraction tail) := by
  have part : ∀ c ∈ pointed fraction, isBlank c = false := by
    intro c mem
    cases fraction with
    | nil => cases mem
    | cons d ds =>
      rcases List.mem_cons.mp mem with rfl | mem
      · decide
      · exact isBlank_of_digit (digits.of_append_right c mem)
  unfold decimalLayout
  rw [List.append_assoc, List.append_assoc]
  refine Unbroken.signed negative ((of_digits digits.of_append_left ne).append fun c mem => ?_)
  exact (List.mem_append.mp mem).elim (part c) (rest c)

theorem nonfinite (x : Float) : Unbroken (nonfiniteText x) := by
  unfold nonfiniteText
  split_ifs <;> exact of_all (by decide)

end Unbroken

theorem isBlank_intText {c : Char} (mem : c ∈ intText [] e) : isBlank c = false := by
  have unbroken := (Unbroken.of_digits (AllDigits.toDigits e.natAbs) Nat.toDigits_ne_nil).signed
    (decide (e < 0))
  unfold intText at mem
  refine unbroken.solid c ?_
  simpa using mem

/-- A throughput figure is one word. -/
theorem unbroken_throughputText (x : Float) : Unbroken (throughputText x) := by
  cases number : BinaryValue.ofFloat? x with
  | none =>
    unfold throughputText
    rw [number]
    exact Unbroken.nonfinite x
  | some v =>
    by_cases zero : v.significand = 0
    · unfold throughputText
      rw [number]
      dsimp only
      rw [if_pos zero]
      exact .of_all (by decide)
    · rw [throughputText_eq number zero rfl]
      split_ifs
      · rw [exponentFigure_eq]
        refine Unbroken.layout (by simp [Nat.toDigits_ne_nil]) (exponentFigure_digits _) ?_
        intro c mem
        rcases List.mem_cons.mp mem with rfl | mem
        · decide
        · exact isBlank_intText mem
      · exact Unbroken.layout Nat.toDigits_ne_nil (plainFigure_digits _ _) (by simp)

theorem unbroken_withPoint (q places : ℕ) : Unbroken (withPoint q places) := by
  have digits := AllDigits.toDigits
  rcases Nat.eq_zero_or_pos places with rfl | pos
  · exact Unbroken.of_digits (digits q) Nat.toDigits_ne_nil
  · rw [withPoint_eq pos]
    refine (Unbroken.of_digits (digits _) Nat.toDigits_ne_nil).append ?_
    intro c mem
    rcases List.mem_cons.mp mem with rfl | mem
    · decide
    · exact isBlank_of_digit (AllDigits.lastDigits places q c mem)

/-- A figure with fixed places is one word. -/
theorem unbroken_fixedFloat (places : ℕ) (x : Float) : Unbroken (fixedFloat places x) := by
  unfold fixedFloat
  cases BinaryValue.ofFloat? x with
  | none => exact Unbroken.nonfinite x
  | some v => exact (unbroken_withPoint _ _).signed v.negative

/-! ## Lengths -/

theorem length_nonfiniteText_le (x : Float) : (nonfiniteText x).length ≤ 4 := by
  unfold nonfiniteText
  split_ifs <;> decide

/-- The digits before the point, for a number filled up with zeros. -/
theorem length_whole (places q : ℕ) :
    (Nat.toDigits 10 (q / 10 ^ places)).length + places =
      max (places + 1) (Nat.toDigits 10 q).length := by
  have lengths := congrArg List.length (padded_eq places q)
  rw [List.length_append, List.length_append, List.length_replicate, length_lastDigits] at lengths
  omega

theorem length_pointed_le (fraction : List Char) :
    (pointed fraction).length ≤ fraction.length + 1 := by
  unfold pointed
  split_ifs <;> simp

/-- A plain figure of a positive number with six digits and nine places at most. -/
theorem length_plainFigure_le (high : q < 10 ^ 6) (few : places ≤ 9) :
    (plainFigure false q places).length ≤ 11 := by
  have digits := (Nat.length_toDigits_le_iff (by decide) (by decide)).mpr high
  have whole := length_whole places q
  have fraction : (withoutZeros (lastDigits places q)).length ≤ places := by
    obtain ⟨k, zeros⟩ := withoutZeros_append (lastDigits places q)
    have := congrArg List.length zeros
    rw [length_lastDigits, List.length_append] at this
    omega
  have point := length_pointed_le (withoutZeros (lastDigits places q))
  unfold plainFigure decimalLayout
  simp only [Bool.false_eq_true, if_false, List.nil_append, List.append_nil, List.length_append]
  omega

/-- A figure with an exponent of a positive number with six digits. -/
theorem length_exponentFigure_le (high : q < 10 ^ 6) (least : -99 ≤ e) (most : e ≤ 999) :
    (exponentFigure false q e).length ≤ 11 := by
  have digits := (Nat.length_toDigits_le_iff (by decide) (by decide)).mpr high
  have point := length_pointed_le ((Nat.toDigits 10 q).drop 1)
  have exponent : (intText [] e).length ≤ 3 := by
    unfold intText
    rw [List.length_append]
    split_ifs with below
    · have := (Nat.length_toDigits_le_iff (by decide) (by decide)).mpr
        (show e.natAbs < 10 ^ 2 by omega)
      rw [List.length_singleton]
      omega
    · have := (Nat.length_toDigits_le_iff (by decide) (by decide)).mpr
        (show e.natAbs < 10 ^ 3 by omega)
      rw [List.length_nil]
      omega
  rw [exponentFigure_eq, decimalLayout]
  simp only [Bool.false_eq_true, if_false, List.nil_append, List.length_append, List.length_cons,
    List.length_take]
  rw [List.length_drop] at point
  omega

/-! ## Doubles -/

/-- A positive double in full precision has the value that is read off its bits. -/
theorem FullPrecision.exists_number (h : FullPrecision x.toModel.unpack v) :
    ∃ b, BinaryValue.ofFloat? x = some b ∧ b.negative = false ∧ b.significand ≠ 0 ∧
      (b.ratio.1 : ℚ) / b.ratio.2 = v := by
  obtain ⟨m, e, pos, unpacked, -, -, -, -, rfl⟩ := h
  refine ⟨_, ofFloat?_of_finite unpacked, rfl, pos.ne', ?_⟩
  exact (BinaryValue.ratio_eq ⟨false, m, e⟩).2

/-- The exponent of a rounded number is near that of the number. -/
theorem exponent_bounds {y : ℚ} (low : 10 ^ 5 ≤ q) (high : q < 10 ^ 6)
    (nearest : NearestEven (y * 10 ^ (6 - 1 - e)) (q : ℕ)) :
    (10 : ℚ) ^ (e - 1) ≤ y ∧ y < 10 ^ (e + 1) := by
  have lowQ : (10 : ℚ) ^ 5 ≤ q := by exact_mod_cast low
  have highQ : (q : ℚ) + 1 ≤ 10 ^ 6 := by exact_mod_cast high
  obtain ⟨above, below⟩ := abs_le.mp nearest.near
  rw [Int.cast_natCast] at above below
  have step : (0 : ℚ) < 10 ^ (e - 5) := by positivity
  have back : y = y * 10 ^ (6 - 1 - e) * 10 ^ (e - 5) := by
    rw [mul_assoc, ← zpow_add₀ (by norm_num)]
    have : (6 : ℤ) - 1 - e + (e - 5) = 0 := by ring
    rw [this, zpow_zero, mul_one]
  have down : (10 : ℚ) ^ (e - 1) = 10 ^ 4 * 10 ^ (e - 5) := zpow_eq_pow_mul (by omega)
  have up : (10 : ℚ) ^ (e + 1) = 10 ^ 6 * 10 ^ (e - 5) := zpow_eq_pow_mul (by omega)
  generalize y * 10 ^ (6 - 1 - e) = z at back above below
  rw [back, down, up]
  constructor
  · refine mul_le_mul_of_nonneg_right ?_ step.le
    linarith
  · refine mul_lt_mul_of_pos_right ?_ step
    linarith

/-- A throughput figure of a positive number that is not too small has at most eleven
characters. -/
theorem length_throughputText_of_full (full : FullPrecision x.toModel.unpack v)
    (least : (10 : ℚ) ^ (-98 : ℤ) ≤ v) : (throughputText x).length ≤ 11 := by
  obtain ⟨b, number, positive, nonzero, ratio⟩ := full.exists_number
  obtain ⟨⟨q, e⟩, rounded⟩ :
      ∃ p, roundSignificant significantDigits b.ratio.1 b.ratio.2 = p := ⟨_, rfl⟩
  obtain ⟨low, high, -, nearest⟩ := roundSignificant_rounds (by decide)
    (BinaryValue.ratio_pos nonzero) b.ratio_eq.1 rounded
  rw [ratio] at nearest
  obtain ⟨above, below⟩ := exponent_bounds low high nearest
  have one : (1 : ℚ) < 10 := by norm_num
  have eLow : -98 < e + 1 := (zpow_lt_zpow_iff_right₀ one).mp (least.trans_lt below)
  have eHigh : e - 1 < 309 := by
    have largest : 2 ^ 1024 < 10 ^ 309 := by decide +kernel
    refine (zpow_lt_zpow_iff_right₀ one).mp (above.trans_lt (full.lt.trans ?_))
    exact_mod_cast largest
  rw [throughputText_eq number nonzero rounded, positive]
  split_ifs with outside
  · exact length_exponentFigure_le high (by omega) (by omega)
  · exact length_plainFigure_le high (by omega)

/-- A throughput figure of zero is one digit. -/
theorem throughputText_of_zero {s : Sign} (zero : x.toModel.unpack = .zero s) :
    throughputText x = ['0'] := by
  obtain ⟨b, number, none⟩ := ofFloat?_of_zero zero
  unfold throughputText
  rw [number]
  exact if_pos none

/-- A throughput figure of what is no number, or has no end, is a short word. -/
theorem length_throughputText_of_nonfinite (h : x.toModel.unpack.isFinite = false) :
    (throughputText x).length ≤ 4 := by
  unfold throughputText
  rw [ofFloat?_eq_none h]
  exact length_nonfiniteText_le x

theorem length_fixedFloat_of_nonfinite (h : x.toModel.unpack.isFinite = false) (places : ℕ) :
    (fixedFloat places x).length ≤ 4 := by
  unfold fixedFloat
  rw [ofFloat?_eq_none h]
  exact length_nonfiniteText_le x

/-- A number below a thousand has two digits at most before its one decimal. -/
theorem length_withPoint_one_le {n : ℕ} (small : n < 1000) : (withPoint n 1).length ≤ 4 := by
  have digits := (Nat.length_toDigits_le_iff (by decide) (by decide)).mpr
    (show n < 10 ^ 3 from small)
  have whole := length_whole 1 n
  rw [withPoint_eq (by decide), List.length_append, List.length_cons, length_lastDigits]
  omega

/-- A figure with one place of a positive number below 99.95 has at most four characters. -/
theorem length_fixedFloat_one_of_full (full : FullPrecision x.toModel.unpack v)
    (small : v < 99.95) : (fixedFloat 1 x).length ≤ 4 := by
  obtain ⟨b, number, positive, -, ratio⟩ := full.exists_number
  have nearest := nearestEven_divNearest (b.ratio.1 * Nat.pow 10 1) b.ratio_eq.1
  have tenths : ((b.ratio.1 * Nat.pow 10 1 : ℕ) : ℚ) / b.ratio.2 = v * 10 := by
    rw [← ratio]
    push_cast
    norm_num
    ring
  rw [tenths] at nearest
  have few : divNearest (b.ratio.1 * Nat.pow 10 1) b.ratio.2 < 1000 := by
    have below := (abs_le.mp nearest.near).1
    push_cast at below
    have : (divNearest (b.ratio.1 * Nat.pow 10 1) b.ratio.2 : ℚ) < 1000 := by
      norm_num at small
      linarith
    exact_mod_cast this
  unfold fixedFloat
  rw [number]
  dsimp only
  rw [BinaryValue.sign, positive]
  exact length_withPoint_one_le few

/-- A figure with one place of zero is short, too. -/
theorem length_fixedFloat_one_of_zero {s : Sign} (zero : x.toModel.unpack = .zero s) :
    (fixedFloat 1 x).length ≤ 4 := by
  obtain ⟨b, number, none⟩ := ofFloat?_of_zero zero
  have denPos := b.ratio_eq.1
  have num : b.ratio.1 = 0 := by
    unfold BinaryValue.ratio
    split_ifs <;> simp [none]
  have digits : divNearest (b.ratio.1 * Nat.pow 10 1) b.ratio.2 = 0 := by
    simp [num, divNearest, divRounded, denPos]
  unfold fixedFloat
  rw [number]
  dsimp only
  rw [digits, BinaryValue.sign]
  cases b.negative <;> decide

end DenseDmg
