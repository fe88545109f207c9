import DenseDmg.Decimal.Basic
import Mathlib.Algebra.Order.Field.Power
import Mathlib.Data.Rat.Floor
import Mathlib.Tactic.FieldSimp
import Mathlib.Tactic.Linarith
import Mathlib.Tactic.Positivity
import Mathlib.Tactic.Ring

/-!
# Rounding to significant digits

A positive rational is rounded to significant digits in two steps: its leading exponent is found,
and the rational, moved to the right number of whole places, is rounded to a whole number.  A
carry into a new place changes the exponent, and the digits stay right for the new one.

* `NearestEven`: the nearest whole number, of two equally near ones the even one; there is one.
* `SignificantRounding`: a number rounded to significant digits, in exact arithmetic.
* `roundSignificant_rounds`: `roundSignificant` rounds so, and its digits are also what the number
  rounds to when it is rounded once more, to the places that the exponent after a carry leaves.
-/

namespace DenseDmg

/-! ## Whole numbers -/

/-- The whole number nearest to a rational; of two equally near ones, the even one. -/
structure NearestEven (x : ℚ) (m : ℤ) : Prop where
  near : |x - m| ≤ 1 / 2
  even : |x - m| = 1 / 2 → Even m

namespace NearestEven

variable {x : ℚ} {m n : ℤ}

theorem of_lt (h : |x - m| < 1 / 2) : NearestEven x m :=
  ⟨h.le, fun tie => absurd tie h.ne⟩

theorem neg (h : NearestEven x m) : NearestEven (-x) (-m) := by
  have same : |-x - ((-m : ℤ) : ℚ)| = |x - m| := by
    rw [Int.cast_neg, ← neg_sub', abs_neg]
  refine ⟨same ▸ h.near, fun tie => ?_⟩
  rw [same] at tie
  exact (h.even tie).neg

theorem le_of_nearest (hm : NearestEven x m) (hn : NearestEven x n) : n ≤ m := by
  by_contra! above
  have upper := (abs_le.mp hm.near).2
  have lower := (abs_le.mp hn.near).1
  have close : (n : ℚ) ≤ ((m + 1 : ℤ) : ℚ) := by
    push_cast
    linarith
  have next : n = m + 1 := le_antisymm (by exact_mod_cast close) above
  subst next
  push_cast at lower
  -- Both candidates are half away, so both would be even.
  have half : x - m = 1 / 2 := by linarith
  have mEven := hm.even (by rw [half]; norm_num)
  have nEven := hn.even (by
    have other : x - ((m + 1 : ℤ) : ℚ) = -(1 / 2) := by
      push_cast
      linarith
    rw [other]
    norm_num)
  exact Int.not_even_iff_odd.mpr mEven.add_one nEven

/-- There is one nearest whole number. -/
theorem unique (hm : NearestEven x m) (hn : NearestEven x n) : m = n :=
  le_antisymm (hn.le_of_nearest hm) (hm.le_of_nearest hn)

/-- A whole number below everything that is rounded is no more than what it is rounded to. -/
theorem le_of_le (h : NearestEven x m) (le : (n : ℚ) ≤ x) : n ≤ m := by
  by_contra! below
  have above := (abs_le.mp h.near).2
  have step : ((m + 1 : ℤ) : ℚ) ≤ n := by exact_mod_cast below
  push_cast at step
  linarith

theorem ge_of_ge (h : NearestEven x m) (ge : x ≤ n) : m ≤ n := by
  have := h.neg.le_of_le (n := -n) (by push_cast; linarith)
  omega

end NearestEven

/-- Rounding a quotient gives the nearest whole number. -/
theorem nearestEven_divNearest (num : ℕ) {den : ℕ} (pos : 0 < den) :
    NearestEven ((num : ℚ) / den) (divNearest num den : ℕ) := by
  have posQ : (0 : ℚ) < den := by exact_mod_cast pos
  have rest : num % den < den := Nat.mod_lt num pos
  have whole := Nat.div_add_mod num den
  unfold divNearest divRounded
  dsimp only
  generalize num / den = q at whole ⊢
  generalize num % den = r at whole rest ⊢
  have split : (num : ℚ) / den = q + (r : ℚ) / den := by
    rw [← whole]
    push_cast
    field_simp
  have low : (0 : ℚ) ≤ (r : ℚ) / den := by positivity
  have high : (r : ℚ) / den < 1 := by
    rw [div_lt_one posQ]
    exact_mod_cast rest
  rw [split]
  split_ifs with below above even
  · have less : (r : ℚ) / den < 1 / 2 := by
      have : 2 * (r : ℚ) < den := by exact_mod_cast below
      rw [div_lt_iff₀ posQ]
      linarith
    refine NearestEven.of_lt ?_
    rw [Int.cast_natCast, add_sub_cancel_left, abs_of_nonneg low]
    exact less
  · have more : 1 / 2 < (r : ℚ) / den := by
      have : (den : ℚ) < 2 * (r : ℚ) := by exact_mod_cast above
      rw [lt_div_iff₀ posQ]
      linarith
    refine NearestEven.of_lt ?_
    push_cast
    rw [abs_lt]
    constructor <;> linarith
  all_goals
    have half : (r : ℚ) / den = 1 / 2 := by
      have : 2 * r = den := by omega
      have : 2 * (r : ℚ) = den := by exact_mod_cast this
      rw [div_eq_iff posQ.ne']
      linarith
    rw [half]
  · refine ⟨?_, fun _ => by exact_mod_cast Nat.even_iff.mpr even⟩
    rw [Int.cast_natCast, add_sub_cancel_left]
    norm_num
  · have odd : q % 2 = 1 := by omega
    refine ⟨?_, fun _ => by exact_mod_cast (Nat.odd_iff.mpr odd).add_one⟩
    push_cast
    rw [abs_le]
    constructor <;> linarith

/-! ## The leading exponent -/

/-- A positive number lies between the powers of ten that its count of digits gives. -/
theorem pow_digitCount {n : ℕ} (pos : 0 < n) :
    0 < digitCount n ∧ 10 ^ (digitCount n - 1) ≤ n ∧ n < 10 ^ digitCount n := by
  have some : 0 < digitCount n := Nat.length_toDigits_pos
  refine ⟨some, ?_, (Nat.length_toDigits_le_iff (by decide) some).mp le_rfl⟩
  rcases Nat.eq_zero_or_pos (digitCount n - 1) with one | more
  · rw [one]
    exact pos
  · by_contra! less
    have := (Nat.length_toDigits_le_iff (by decide) more).mpr less
    unfold digitCount at this some
    omega

/-- The place that is found is the first at which the scaled numerator reaches the denominator. -/
theorem firstPlaceAux_spec {den fuel num k : ℕ} (enough : den ≤ num * 10 ^ fuel) :
    ∃ j, firstPlaceAux den fuel num k = k + j ∧ den ≤ num * 10 ^ j ∧
      ∀ i < j, num * 10 ^ i < den := by
  induction fuel generalizing num k with
  | zero => exact ⟨0, rfl, enough, by simp⟩
  | succ fuel ih =>
    unfold firstPlaceAux
    split_ifs with reached
    · exact ⟨0, rfl, by simpa using reached, by simp⟩
    · have enough' : den ≤ num * 10 * 10 ^ fuel := by
        rwa [mul_assoc, ← pow_succ']
      obtain ⟨j, place, reaches, before⟩ := ih (k := k + 1) enough'
      refine ⟨j + 1, by omega, ?_, fun i less => ?_⟩
      · rwa [mul_assoc, ← pow_succ'] at reaches
      · cases i with
        | zero => simpa using Nat.lt_of_not_le reached
        | succ i =>
          have := before i (by omega)
          rwa [mul_assoc, ← pow_succ'] at this

/-- A positive rational lies between the powers of ten that its leading exponent gives. -/
theorem zpow_leadingExponent {num den : ℕ} (numPos : 0 < num) (denPos : 0 < den) :
    (10 : ℚ) ^ leadingExponent num den ≤ (num : ℚ) / den ∧
      (num : ℚ) / den < 10 ^ (leadingExponent num den + 1) := by
  have denQ : (0 : ℚ) < den := by exact_mod_cast denPos
  unfold leadingExponent
  split_ifs with whole
  · have wholePos : 0 < num / den := Nat.div_pos whole denPos
    obtain ⟨some, low, high⟩ := pow_digitCount wholePos
    have exponent : ((digitCount (num / den) : ℕ) : ℤ) - 1 = (digitCount (num / den) - 1 : ℕ) := by
      omega
    rw [sub_add_cancel, exponent, zpow_natCast, zpow_natCast, le_div_iff₀ denQ, div_lt_iff₀ denQ]
    constructor
    · exact_mod_cast (Nat.le_div_iff_mul_le denPos).mp low
    · exact_mod_cast (Nat.div_lt_iff_lt_mul denPos).mp high
  · have enough : den ≤ num * 10 ^ digitCount den :=
      (pow_digitCount denPos).2.2.le.trans (Nat.le_mul_of_pos_left _ numPos)
    obtain ⟨j, place, reaches, before⟩ := firstPlaceAux_spec (k := 0) enough
    have jPos : 0 < j := by
      rcases Nat.eq_zero_or_pos j with rfl | pos
      · simp at reaches
        omega
      · exact pos
    have less := before (j - 1) (by omega)
    have exponent : -((j : ℕ) : ℤ) + 1 = -((j - 1 : ℕ) : ℤ) := by omega
    rw [firstPlace, place, zero_add, exponent, zpow_neg, zpow_neg, zpow_natCast, zpow_natCast]
    constructor
    · rw [inv_le_iff_one_le_mul₀ (by positivity), div_mul_eq_mul_div, le_div_iff₀ denQ, one_mul]
      exact_mod_cast reaches
    · rw [lt_inv_comm₀ (by positivity) (by positivity), inv_div, lt_div_iff₀ (by positivity)]
      rw [mul_comm]
      exact_mod_cast less

/-! ## Significant digits -/

/-- A number rounded to `n` significant decimal digits: the digits are the whole number nearest to
it when it is moved so that `n` digits stand before the point. -/
def SignificantRounding (n : ℕ) (x r : ℚ) : Prop :=
  (x = 0 ∧ r = 0) ∨
    ∃ e m : ℤ, 10 ^ e ≤ |x| ∧ |x| < 10 ^ (e + 1) ∧ NearestEven (x * 10 ^ (n - 1 - e)) m ∧
      r = m * 10 ^ (e - (n - 1))

/-- A power of ten as one with a whole exponent above another power. -/
theorem zpow_eq_pow_mul {n : ℕ} {e k : ℤ} (h : k = n + e) : (10 : ℚ) ^ k = 10 ^ n * 10 ^ e := by
  rw [h, zpow_add₀ (by norm_num), zpow_natCast]

/-- A positive number lies between two successive powers of ten only. -/
theorem exponent_unique {x : ℚ} {e k : ℤ} (low : 10 ^ e ≤ x) (high : x < 10 ^ (e + 1))
    (low' : 10 ^ k ≤ x) (high' : x < 10 ^ (k + 1)) : e = k := by
  have one : (1 : ℚ) < 10 := by norm_num
  have below : e < k + 1 := (zpow_lt_zpow_iff_right₀ one).mp (low.trans_lt high')
  have above : k < e + 1 := (zpow_lt_zpow_iff_right₀ one).mp (low'.trans_lt high)
  omega

namespace SignificantRounding

variable {n : ℕ} {x r s : ℚ}

/-- A number is rounded in one way. -/
theorem unique (hr : SignificantRounding n x r) (hs : SignificantRounding n x s) : r = s := by
  have nonzero : ∀ e : ℤ, (10 : ℚ) ^ e ≤ |x| → x ≠ 0 := by
    rintro e low rfl
    have positive : (0 : ℚ) < 10 ^ e := by positivity
    rw [abs_zero] at low
    exact absurd low positive.not_ge
  rcases hr with ⟨zero, rfl⟩ | ⟨e, m, low, high, nearest, rfl⟩
  · rcases hs with ⟨-, rfl⟩ | ⟨e, m, low, -⟩
    · rfl
    · exact absurd zero (nonzero e low)
  · rcases hs with ⟨zero, -⟩ | ⟨k, l, low', high', nearest', rfl⟩
    · exact absurd zero (nonzero e low)
    · obtain rfl := exponent_unique low high low' high'
      rw [nearest.unique nearest']

theorem neg (h : SignificantRounding n x r) : SignificantRounding n (-x) (-r) := by
  rcases h with ⟨rfl, rfl⟩ | ⟨e, m, low, high, nearest, rfl⟩
  · exact .inl ⟨neg_zero, neg_zero⟩
  · refine .inr ⟨e, -m, by rwa [abs_neg], by rwa [abs_neg], ?_, ?_⟩
    · rw [neg_mul]
      exact nearest.neg
    · rw [Int.cast_neg, neg_mul]

end SignificantRounding

/-! ## Rounding in decimal arithmetic -/

theorem scaleByTen_eq (num : ℕ) {den : ℕ} (pos : 0 < den) (k : ℤ) :
    0 < (scaleByTen num den k).2 ∧
      ((scaleByTen num den k).1 : ℚ) / (scaleByTen num den k).2 = (num : ℚ) / den * 10 ^ k := by
  have denQ : (0 : ℚ) < den := by exact_mod_cast pos
  unfold scaleByTen
  split_ifs with sign
  · obtain ⟨j, rfl⟩ := Int.eq_ofNat_of_zero_le sign
    refine ⟨pos, ?_⟩
    simp only [Int.toNat_natCast, Nat.pow_eq, Nat.cast_mul, Nat.cast_pow, Nat.cast_ofNat,
      zpow_natCast]
    field_simp
  · obtain ⟨j, hj⟩ := Int.eq_ofNat_of_zero_le (show 0 ≤ -k by omega)
    have exponent : k = -(j : ℤ) := by omega
    subst exponent
    refine ⟨by simp [pos], ?_⟩
    simp only [neg_neg, Int.toNat_natCast, Nat.pow_eq, Nat.cast_mul, Nat.cast_pow, Nat.cast_ofNat,
      zpow_neg, zpow_natCast]
    field_simp

/-- Moved so that `n` digits stand before the point, a number lies between the powers of ten. -/
theorem scaled_bounds {n : ℕ} {x : ℚ} {e : ℤ} (some : 0 < n) (low : 10 ^ e ≤ x)
    (high : x < 10 ^ (e + 1)) :
    ((10 ^ (n - 1) : ℕ) : ℚ) ≤ x * 10 ^ ((n : ℤ) - 1 - e) ∧
      x * 10 ^ ((n : ℤ) - 1 - e) < (10 ^ n : ℕ) := by
  have shift : (0 : ℚ) < 10 ^ ((n : ℤ) - 1 - e) := by positivity
  constructor
  · have scaled := mul_le_mul_of_nonneg_right low shift.le
    have exponent : e + ((n : ℤ) - 1 - e) = ((n - 1 : ℕ) : ℤ) := by omega
    rw [← zpow_add₀ (by norm_num), exponent, zpow_natCast] at scaled
    exact_mod_cast scaled
  · have scaled := mul_lt_mul_of_pos_right high shift
    have exponent : e + 1 + ((n : ℤ) - 1 - e) = (n : ℤ) := by omega
    rw [← zpow_add₀ (by norm_num), exponent, zpow_natCast] at scaled
    exact_mod_cast scaled

/-- A carry into a new place: what rounds to `10 ^ n` rounds to a tenth of it when it is moved one
place down. -/
theorem NearestEven.carry {n : ℕ} {y : ℚ} (some : 0 < n) (below : y < 10 ^ n)
    (h : NearestEven y (10 ^ n : ℕ)) : NearestEven (y / 10) (10 ^ (n - 1) : ℕ) := by
  obtain ⟨k, rfl⟩ := Nat.exists_eq_add_of_le' some
  have low := (abs_le.mp h.near).1
  rw [Nat.add_sub_cancel]
  push_cast at low ⊢
  rw [pow_succ] at low below
  refine NearestEven.of_lt ?_
  push_cast
  rw [abs_lt]
  constructor <;> linarith

/-- The digits and the exponent of a positive rational rounded to `n` significant digits.  The
digits are right for the exponent they come with, also after a carry into a new place. -/
theorem roundSignificant_rounds {n num den : ℕ} (some : 0 < n) (numPos : 0 < num)
    (denPos : 0 < den) {q : ℕ} {e : ℤ} (h : roundSignificant n num den = (q, e)) :
    10 ^ (n - 1) ≤ q ∧ q < 10 ^ n ∧
      SignificantRounding n ((num : ℚ) / den) (q * 10 ^ (e - (n - 1))) ∧
      NearestEven ((num : ℚ) / den * 10 ^ (n - 1 - e)) (q : ℕ) := by
  have denQ : (0 : ℚ) < den := by exact_mod_cast denPos
  obtain ⟨low, high⟩ := zpow_leadingExponent numPos denPos
  unfold roundSignificant at h
  dsimp only at h
  generalize leadingExponent num den = first at h low high
  obtain ⟨posB, ratio⟩ := scaleByTen_eq num denPos (n - 1 - first)
  have nearest := nearestEven_divNearest (scaleByTen num den (n - 1 - first)).1 posB
  generalize divNearest (scaleByTen num den (n - 1 - first)).1
    (scaleByTen num den (n - 1 - first)).2 = m at h nearest
  rw [ratio] at nearest
  have positive : (0 : ℚ) < (num : ℚ) / den := by positivity
  generalize (num : ℚ) / den = x at low high nearest positive ⊢
  obtain ⟨atLeast, below⟩ := scaled_bounds some low high
  have mLow : 10 ^ (n - 1) ≤ m := by
    exact_mod_cast nearest.le_of_le (n := ((10 ^ (n - 1) : ℕ) : ℤ)) (by exact_mod_cast atLeast)
  have mHigh : m ≤ 10 ^ n := by
    exact_mod_cast nearest.ge_of_ge (n := ((10 ^ n : ℕ) : ℤ)) (by exact_mod_cast below.le)
  have rounding : SignificantRounding n x (m * 10 ^ (first - (n - 1))) := by
    refine .inr ⟨first, m, ?_, ?_, nearest, by push_cast; rfl⟩
    · rwa [abs_of_pos positive]
    · rwa [abs_of_pos positive]
  have ten : 10 ^ n = 10 * 10 ^ (n - 1) := by
    rw [← pow_succ', Nat.sub_add_cancel some]
  have nonzero : 0 < 10 ^ (n - 1) := by positivity
  split_ifs at h with carry <;> cases h
  · rw [Nat.pow_eq] at carry
    subst carry
    refine ⟨by rw [Nat.pow_eq], by rw [Nat.pow_eq]; omega, ?_, ?_⟩
    · have same : ((10 ^ n : ℕ) : ℚ) * 10 ^ (first - ((n : ℤ) - 1)) =
          ((Nat.pow 10 (n - 1) : ℕ) : ℚ) * 10 ^ (first + 1 - ((n : ℤ) - 1)) := by
        have exponent : first + 1 - ((n : ℤ) - 1) = 1 + (first - ((n : ℤ) - 1)) := by ring
        rw [Nat.pow_eq, ten, exponent, zpow_add₀ (by norm_num)]
        push_cast
        ring
      rwa [same] at rounding
    · have moved : x * 10 ^ ((n : ℤ) - 1 - (first + 1)) = x * 10 ^ ((n : ℤ) - 1 - first) / 10 := by
        have exponent : (n : ℤ) - 1 - (first + 1) = (n : ℤ) - 1 - first - 1 := by ring
        rw [exponent, zpow_sub_one₀ (by norm_num)]
        ring
      rw [moved]
      exact nearest.carry some (by exact_mod_cast below)
  · rw [Nat.pow_eq] at carry
    exact ⟨mLow, lt_of_le_of_ne mHigh carry, rounding, nearest⟩

end DenseDmg
