import DenseDmg.Proofs.Decimal.Doubles

/-!
# Arithmetic of doubles

An operation on doubles takes them apart, calculates with their significands, rounds the result to
53 bits and packs it into a word.  For positive numbers in full precision the result lies near the
exact one, in proportion, or is infinite.

* `roundWithAccuracy_cases`: what rounding does to a significand.
* `unpack_pack_normal`: packing loses nothing, unless the number is too large.
* `unpack_toFloat`, `FullPrecision.mul`, `FullPrecision.div`, `FullPrecision.add`: a word as a
  double, a product, a quotient and a sum.
-/

namespace DenseDmg

open Float.Model Float.Model.UnpackedFloat

/-! ## Rounding -/

variable {m : ℕ} {e : ℤ}

/-- The power of two at which a significand is cut when it is rounded to a double. -/
def cutExponent (m : ℕ) (e : ℤ) : ℤ := max ((m.log2 : ℤ) + e - 52) (-1074)

/-- How many bits are cut off. -/
def cutBits (m : ℕ) (e : ℤ) : ℕ := (cutExponent m e - e).toNat

theorem targetExponent_eq (m : ℕ) (e : ℤ) :
    Format.binary64.targetExponent (totalExponent m e) = cutExponent m e := by
  have bits : Format.binary64.mantissaBits = 53 := rfl
  have least : Format.binary64.minExponent = -1074 := rfl
  rw [Format.targetExponent, totalExponent, bits, least, cutExponent]
  congr 1
  push_cast
  ring

theorem mantissa_shiftRight (em : ExtendedMantissa) (k : ℕ) :
    (em >>> k).mantissa = em.mantissa / 2 ^ k := by
  induction k with
  | zero => exact (Nat.div_one _).symm
  | succ k ih =>
    have step : (em >>> (k + 1)).mantissa = (em >>> k).mantissa / 2 := rfl
    rw [step, ih, Nat.div_div_eq_div_mul, pow_succ]

theorem mantissa_ofMantissaAndAccuracy (m : ℕ) (a : Accuracy) :
    (ExtendedMantissa.ofMantissaAndAccuracy m a).mantissa = m := by
  cases a with
  | exact => rfl
  | inexact o => cases o <;> rfl

/-- Rounding takes what is left of a significand, or one more. -/
theorem roundedMantissa_bounds (em : ExtendedMantissa) :
    em.mantissa ≤ em.roundedMantissa ∧ em.roundedMantissa ≤ em.mantissa + 1 := by
  rcases em with ⟨m, r, s⟩
  cases r <;> cases s <;>
    simp only [ExtendedMantissa.roundedMantissa, ExtendedMantissa.accuracy,
      Accuracy.roundToNearestEven] <;> omega

theorem shiftToTargetExponent_spec (m : ℕ) (e : ℤ) (a : Accuracy) :
    (shiftToTargetExponent Format.binary64 m e a).1.mantissa = m / 2 ^ cutBits m e ∧
      (shiftToTargetExponent Format.binary64 m e a).2 = e + cutBits m e := by
  unfold shiftToTargetExponent shiftToExponent
  dsimp only
  rw [targetExponent_eq, mantissa_shiftRight, mantissa_ofMantissaAndAccuracy]
  exact ⟨rfl, rfl⟩

/-- A significand that fits is not cut again. -/
theorem cutBits_of_lt (small : m < 2 ^ 53) (least : -1074 ≤ e) : cutBits m e = 0 := by
  have log : m.log2 ≤ 52 := by
    by_cases zero : m = 0
    · simp [zero]
    · have := (Nat.log2_lt zero).mpr small
      omega
  unfold cutBits cutExponent
  omega

theorem cutBits_carry (least : -1074 ≤ e) : cutBits (2 ^ 53) e = 1 := by
  unfold cutBits cutExponent
  rw [Nat.log2_two_pow]
  omega

/-- What is left of a significand after the cut fits into 53 bits. -/
theorem cut_lt (m : ℕ) (e : ℤ) : m / 2 ^ cutBits m e < 2 ^ 53 ∧ -1074 ≤ e + cutBits m e := by
  have bits : m.log2 + 1 ≤ 53 + cutBits m e ∧ -1074 ≤ e + cutBits m e := by
    unfold cutBits cutExponent
    omega
  refine ⟨?_, bits.2⟩
  rw [Nat.div_lt_iff_lt_mul (by positivity), ← pow_add]
  exact Nat.lt_log2_self.trans_le (Nat.pow_le_pow_right (by decide) bits.1)

/-- Rounding cuts a significand and takes what is left, or one more; a carry out of 53 bits moves
the significand by one bit. -/
theorem roundWithAccuracy_cases (s : Sign) (m : ℕ) (e : ℤ) (a : Accuracy) :
    ∃ r, m / 2 ^ cutBits m e ≤ r ∧ r ≤ m / 2 ^ cutBits m e + 1 ∧
      ((r = 0 ∧ roundWithAccuracy Format.binary64 s m e a = .zero s) ∨
        (r < 2 ^ 53 ∧ ∃ pos,
          roundWithAccuracy Format.binary64 s m e a = .finite s r (e + cutBits m e) pos) ∨
        (r = 2 ^ 53 ∧ ∃ pos, roundWithAccuracy Format.binary64 s m e a =
          .finite s (2 ^ 52) (e + cutBits m e + 1) pos)) := by
  obtain ⟨floor, exponent⟩ := shiftToTargetExponent_spec m e a
  obtain ⟨low, high⟩ := roundedMantissa_bounds (shiftToTargetExponent Format.binary64 m e a).1
  obtain ⟨fits, least⟩ := cut_lt m e
  rw [floor] at low high
  refine ⟨_, low, high, ?_⟩
  unfold roundWithAccuracy
  generalize shiftToTargetExponent Format.binary64 m e a = first at *
  obtain ⟨em, e₁⟩ := first
  dsimp only at *
  subst exponent
  obtain ⟨mantissa, again⟩ :=
    shiftToTargetExponent_spec em.roundedMantissa (e + cutBits m e) .exact
  generalize shiftToTargetExponent Format.binary64 em.roundedMantissa (e + cutBits m e) .exact =
    second at *
  obtain ⟨em₂, e₂⟩ := second
  dsimp only at *
  subst again
  rcases Nat.lt_or_ge em.roundedMantissa (2 ^ 53) with small | large
  · rw [cutBits_of_lt small least, pow_zero, Nat.div_one] at mantissa
    rw [cutBits_of_lt small least]
    rcases Nat.eq_zero_or_pos em.roundedMantissa with zero | pos
    · refine .inl ⟨zero, dif_pos (mantissa.trans zero)⟩
    · refine .inr (.inl ⟨small, pos, ?_⟩)
      rw [dif_neg (by omega)]
      simp only [mantissa, Nat.cast_zero, add_zero]
  · have carry : em.roundedMantissa = 2 ^ 53 := by omega
    rw [carry, cutBits_carry least] at mantissa
    have half : em₂.mantissa = 2 ^ 52 := mantissa
    refine .inr (.inr ⟨carry, by decide, ?_⟩)
    rw [carry, cutBits_carry least, dif_neg (by omega)]
    simp only [half, Nat.cast_one]

/-! ## Packing -/

/-- The bits of a number in full precision are taken apart into that number. -/
theorem unpack_packComponents (s : Sign) {exponent : BitVec 11} (some : exponent ≠ 0#11)
    (finite : exponent ≠ -1#11) (fraction : BitVec 52) :
    ∃ pos, UnpackedFloat.unpack Format.binary64
        (packComponents Format.binary64 s exponent fraction) =
      .finite s (hiddenBit + fraction.toNat) ((exponent.toNat : ℤ) - 1075) pos := by
  have sign : Sign.ofBitVec (unpackSign (packComponents Format.binary64 s exponent fraction)) =
      s := by
    rw [@unpackSign_packComponents Format.binary64 s exponent fraction, Sign.ofBitVec_toBitVec]
  have field : unpackExponent (packComponents Format.binary64 s exponent fraction) = exponent :=
    unpackExponent_packComponents
  have rest : unpackMantissa (packComponents Format.binary64 s exponent fraction) = fraction :=
    unpackMantissa_packComponents
  rw [← field] at some finite
  have full := unpack_of_full finite some
  rwa [sign, field, rest] at full

/-- The bits of infinity are taken apart into infinity. -/
theorem unpack_packedInfinity (s : Sign) :
    UnpackedFloat.unpack Format.binary64 (packedInfinity Format.binary64 s) = .infinity s := by
  cases s <;> rfl

/-- A number in full precision is packed without loss, unless it is too large. -/
theorem unpack_pack_normal (s : Sign) (pos : 0 < m) (full : 2 ^ 52 ≤ m) (small : m < 2 ^ 53)
    (least : -1074 ≤ e) :
    (Float.Model.pack (.finite s m e pos)).unpack =
      if e ≤ 971 then .finite s m e pos else .infinity s := by
  have log : m.log2 + 1 = Format.binary64.mantissaBits := by
    have := (Nat.log2_eq_iff pos.ne').mpr ⟨full, small⟩
    rw [this]
    rfl
  have bias : (e + (Format.binary64.exponentBias : ℤ) + (52 : ℕ)).toNat = (e + 1075).toNat := by
    have : Format.binary64.exponentBias = 1023 := rfl
    rw [this, add_assoc]
    rfl
  have packed : Float.Model.unpack (Float.Model.pack (.finite s m e pos)) =
      UnpackedFloat.unpack Format.binary64
        (UnpackedFloat.pack Format.binary64 (.finite s m e pos)) := rfl
  rw [packed, UnpackedFloat.pack]
  dsimp only
  rw [bias, if_pos log]
  by_cases fits : e ≤ 971
  · have bound : ¬ 2 ^ 11 ≤ (e + 1075).toNat + 1 := by omega
    have field : (BitVec.ofNat 11 (e + 1075).toNat).toNat = (e + 1075).toNat := by
      rw [BitVec.toNat_ofNat]
      omega
    have fraction : (BitVec.ofNat 52 m).toNat = m - 2 ^ 52 := by
      rw [BitVec.toNat_ofNat]
      omega
    have some : BitVec.ofNat 11 (e + 1075).toNat ≠ 0#11 := by
      intro none
      rw [none] at field
      have : (0#11).toNat = 0 := rfl
      omega
    have finite : BitVec.ofNat 11 (e + 1075).toNat ≠ -1#11 := by
      intro all
      rw [all] at field
      have : (-1#11).toNat = 2047 := rfl
      omega
    obtain ⟨pos', unpacked⟩ := unpack_packComponents s some finite (BitVec.ofNat 52 m)
    have mantissa : hiddenBit + (BitVec.ofNat 52 m).toNat = m := by
      rw [fraction, hiddenBit]
      omega
    have exponent : ((BitVec.ofNat 11 (e + 1075).toNat).toNat : ℤ) - 1075 = e := by
      rw [field]
      omega
    rw [if_neg bound, if_pos fits, unpacked]
    simp only [mantissa, exponent]
  · have bound : 2 ^ 11 ≤ (e + 1075).toNat + 1 := by omega
    rw [if_pos bound, if_neg fits, unpack_packedInfinity]

/-! ## Results in full precision -/

/-- What is taken apart is a positive number in full precision, of the value `v`. -/
def FullPrecision (u : UnpackedFloat) (v : ℚ) : Prop :=
  ∃ (m : ℕ) (e : ℤ) (pos : 0 < m), u = .finite .positive m e pos ∧ 2 ^ 52 ≤ m ∧ m < 2 ^ 53 ∧
    -1074 ≤ e ∧ e ≤ 971 ∧ v = m * 2 ^ e

/-- How far a rounded number may lie from the exact one, in proportion. -/
def precision : ℚ := 1 / 2 ^ 52

/-- What is taken apart is the positive number `x` after a rounding, or infinity in its place. -/
def RoundedTo (u : UnpackedFloat) (x : ℚ) : Prop :=
  u = .infinity .positive ∨
    ∃ v, FullPrecision u v ∧ x * (1 - precision) ≤ v ∧ v ≤ x * (1 + precision)

theorem FullPrecision.pos {u : UnpackedFloat} {v : ℚ} (h : FullPrecision u v) : 0 < v := by
  obtain ⟨m, e, pos, -, -, -, -, -, rfl⟩ := h
  have : (0 : ℚ) < m := by exact_mod_cast pos
  positivity

/-- A number in full precision is below the least power of two that doubles do not reach. -/
theorem FullPrecision.lt {u : UnpackedFloat} {v : ℚ} (h : FullPrecision u v) : v < 2 ^ 1024 := by
  obtain ⟨m, e, pos, -, -, small, -, large, rfl⟩ := h
  have power : (0 : ℚ) < 2 ^ e := by positivity
  have mantissa : (m : ℚ) < 2 ^ 53 := by exact_mod_cast small
  calc (m : ℚ) * 2 ^ e < 2 ^ 53 * 2 ^ e := mul_lt_mul_of_pos_right mantissa power
    _ ≤ 2 ^ 53 * 2 ^ (971 : ℤ) := by
      refine mul_le_mul_of_nonneg_left ?_ (by positivity)
      exact zpow_le_zpow_right₀ (by norm_num) large
    _ = 2 ^ 1024 := by
      rw [← zpow_natCast, ← zpow_natCast, ← zpow_add₀ (by norm_num)]
      rfl

/-- Packing keeps a number in full precision. -/
theorem FullPrecision.repack {u : UnpackedFloat} {v : ℚ} (h : FullPrecision u v) :
    (Float.Model.pack u).unpack = u := by
  obtain ⟨m, e, pos, rfl, full, small, least, large, -⟩ := h
  rw [unpack_pack_normal .positive pos full small least, if_pos large]

/-- What is between the floor of a number and the next whole number lies near it. -/
theorem near_of_floor {f r : ℕ} {p x : ℚ} (power : 0 < p) (full : 2 ^ 52 ≤ f) (low : f ≤ r)
    (high : r ≤ f + 1) (below : f * p ≤ x) (above : x ≤ (f + 1) * p) :
    x * (1 - precision) ≤ r * p ∧ r * p ≤ x * (1 + precision) := by
  have fullQ : (2 : ℚ) ^ 52 ≤ f := by exact_mod_cast full
  have lowQ : (f : ℚ) ≤ r := by exact_mod_cast low
  have highQ : (r : ℚ) ≤ f + 1 := by exact_mod_cast high
  -- One unit in the last place is at most the precision times the number.
  have unit : p ≤ x * precision := by
    have : 2 ^ 52 * p ≤ f * p := mul_le_mul_of_nonneg_right fullQ power.le
    rw [precision, mul_one_div, le_div_iff₀ (by positivity)]
    linarith
  have rLow : f * p ≤ r * p := mul_le_mul_of_nonneg_right lowQ power.le
  have rHigh : r * p ≤ (f + 1) * p := mul_le_mul_of_nonneg_right highQ power.le
  constructor <;> linarith

/-- What is left of a significand of 53 bits and more has 53 bits, and lies near the number. -/
theorem near_of_cut {r : ℕ} {x : ℚ} (wide : 52 ≤ m.log2) (low : m / 2 ^ (m.log2 - 52) ≤ r)
    (high : r ≤ m / 2 ^ (m.log2 - 52) + 1) (below : m * 2 ^ e ≤ x) (above : x ≤ (m + 1) * 2 ^ e) :
    2 ^ 52 ≤ m / 2 ^ (m.log2 - 52) ∧
      x * (1 - precision) ≤ r * 2 ^ (e + ((m.log2 - 52 : ℕ) : ℤ)) ∧
      r * 2 ^ (e + ((m.log2 - 52 : ℕ) : ℤ)) ≤ x * (1 + precision) := by
  have mPos : m ≠ 0 := by
    rintro rfl
    simp at wide
  have full : 2 ^ 52 ≤ m / 2 ^ (m.log2 - 52) := by
    rw [Nat.le_div_iff_mul_le (by positivity), ← pow_add, Nat.add_sub_cancel' wide]
    exact Nat.log2_self_le mPos
  have step : (0 : ℚ) < 2 ^ e := by positivity
  generalize m.log2 - 52 = k at low high full ⊢
  have split : (2 : ℚ) ^ (e + (k : ℤ)) = 2 ^ k * 2 ^ e := by
    rw [zpow_add₀ (by norm_num), zpow_natCast, mul_comm]
  refine ⟨full, near_of_floor (by positivity) full low high ?_ ?_⟩
  · have floor : ((m / 2 ^ k * 2 ^ k : ℕ) : ℚ) ≤ m := by
      exact_mod_cast Nat.div_mul_le_self m _
    push_cast at floor
    rw [split, ← mul_assoc]
    exact (mul_le_mul_of_nonneg_right floor step.le).trans below
  · have next : ((m + 1 : ℕ) : ℚ) ≤ ((m / 2 ^ k + 1) * 2 ^ k : ℕ) := by
      exact_mod_cast Nat.lt_mul_of_div_lt (Nat.lt_succ_self _) (by positivity)
    push_cast at next
    rw [split, ← mul_assoc]
    exact above.trans (mul_le_mul_of_nonneg_right next step.le)

/-- Rounding keeps 53 bits of a positive number, unless the number is too small or too large. -/
theorem roundedTo_roundWithAccuracy {x : ℚ} (a : Accuracy) (wide : 52 ≤ m.log2)
    (tall : -1022 ≤ (m.log2 : ℤ) + e) (below : m * 2 ^ e ≤ x) (above : x ≤ (m + 1) * 2 ^ e) :
    RoundedTo (Float.Model.pack (roundWithAccuracy Format.binary64 .positive m e a)).unpack x := by
  obtain ⟨r, low, high, cases⟩ := roundWithAccuracy_cases .positive m e a
  obtain ⟨-, least⟩ := cut_lt m e
  have bits : cutBits m e = m.log2 - 52 := by
    unfold cutBits cutExponent
    omega
  rw [bits] at low high cases least
  obtain ⟨full, nearLow, nearHigh⟩ := near_of_cut wide low high below above
  rcases cases with ⟨zero, -⟩ | ⟨fits, pos, rounded⟩ | ⟨carry, pos, rounded⟩
  · omega
  · rw [rounded, unpack_pack_normal .positive pos (full.trans low) fits least]
    split_ifs with large
    · exact .inr ⟨_, ⟨r, _, pos, rfl, full.trans low, fits, least, large, rfl⟩, nearLow, nearHigh⟩
    · exact .inl rfl
  · have value : (r : ℚ) * 2 ^ (e + ((m.log2 - 52 : ℕ) : ℤ)) =
        (2 ^ 52 : ℕ) * 2 ^ (e + ((m.log2 - 52 : ℕ) : ℤ) + 1) := by
      rw [carry, zpow_add_one₀ (by norm_num)]
      push_cast
      ring
    rw [value] at nearLow nearHigh
    rw [rounded, unpack_pack_normal .positive pos le_rfl (by decide) (by omega)]
    split_ifs with large
    · exact .inr ⟨_, ⟨2 ^ 52, _, pos, rfl, le_rfl, by decide, by omega, large, rfl⟩, nearLow,
        nearHigh⟩
    · exact .inl rfl

/-! ## Operations -/

/-- A product with a power of two that is at least another one has its highest bit there. -/
theorem le_log2_add {k : ℤ} (h : (2 : ℚ) ^ k ≤ m * 2 ^ e) :
    k ≤ (m.log2 : ℤ) + e := by
  have upper : (m : ℚ) < 2 ^ (m.log2 + 1) := by exact_mod_cast Nat.lt_log2_self (n := m)
  have step : (0 : ℚ) < 2 ^ e := by positivity
  have less : (2 : ℚ) ^ k < 2 ^ (((m.log2 + 1 : ℕ) : ℤ) + e) := by
    rw [zpow_add₀ (by norm_num), zpow_natCast]
    exact h.trans_lt (mul_lt_mul_of_pos_right upper step)
  have := (zpow_lt_zpow_iff_right₀ (by norm_num : (1 : ℚ) < 2)).mp less
  push_cast at this
  omega

/-- A significand that is moved up by some bits, with the exponent moved down. -/
theorem shiftLeft_mul_zpow (m k : ℕ) (e : ℤ) :
    ((m <<< k : ℕ) : ℚ) * 2 ^ (e - k) = m * 2 ^ e := by
  rw [Nat.shiftLeft_eq, zpow_sub₀ (by norm_num), zpow_natCast]
  push_cast
  field_simp

/-- A positive number that is not too small is rounded to 53 bits, however few it has. -/
theorem roundedTo_round (pos : 0 < m) (tall : -1022 ≤ (m.log2 : ℤ) + e) :
    RoundedTo (Float.Model.pack (round Format.binary64 .positive m e)).unpack (m * 2 ^ e) := by
  have shift : (e - cutExponent m e).toNat = 52 - m.log2 := by
    unfold cutExponent
    omega
  have log : (m <<< (52 - m.log2)).log2 = m.log2 + (52 - m.log2) := by
    have lower := Nat.log2_self_le pos.ne'
    have upper := Nat.lt_log2_self (n := m)
    have bits : (0 : ℕ) < 2 ^ (52 - m.log2) := by positivity
    rw [Nat.shiftLeft_eq, Nat.log2_eq_iff (Nat.mul_pos pos bits).ne', Nat.pow_add,
      Nat.add_right_comm, Nat.pow_add]
    exact ⟨Nat.mul_le_mul_right _ lower, Nat.mul_lt_mul_of_pos_right upper bits⟩
  have value := shiftLeft_mul_zpow m (52 - m.log2) e
  unfold UnpackedFloat.round decreaseExponent
  dsimp only
  rw [targetExponent_eq, shift]
  have step : (0 : ℚ) < 2 ^ (e - ((52 - m.log2 : ℕ) : ℤ)) := by positivity
  refine roundedTo_roundWithAccuracy .exact (by omega) (by omega) value.le ?_
  rw [← value]
  linarith

/-- A word as a double: zero, or the word after a rounding. -/
theorem unpack_toFloat (w : UInt64) :
    w.toFloat.toModel.unpack = .zero .positive ∨
      0 < w.toNat ∧ RoundedTo w.toFloat.toModel.unpack w.toNat := by
  have unpacked : w.toFloat.toModel.unpack =
      (Float.Model.pack (normalize Format.binary64 w.toNat 0 .positive)).unpack := rfl
  rcases Nat.eq_zero_or_pos w.toNat with zero | pos
  · rw [unpacked, zero]
    exact .inl rfl
  · have rounded := roundedTo_round (e := 0) pos (by omega)
    rw [zpow_zero, mul_one] at rounded
    rw [unpacked, UnpackedFloat.normalize, Int.compare_eq_gt.mpr (by omega)]
    exact .inr ⟨pos, rounded⟩

/-- The quotient of two significands in full precision has at least 53 bits. -/
theorem divCore_eq {m₁ m₂ : ℕ} {e₁ e₂ : ℤ} (full₁ : 2 ^ 52 ≤ m₁) (small₁ : m₁ < 2 ^ 53)
    (full₂ : 2 ^ 52 ≤ m₂) (small₂ : m₂ < 2 ^ 53) (gap : -1021 ≤ e₁ - e₂) :
    ∃ a, divCore Format.binary64 m₁ e₁ m₂ e₂ = (m₁ * 2 ^ 53 / m₂, e₁ - e₂ - 53, a) := by
  have log₁ : m₁.log2 = 52 := (Nat.log2_eq_iff (by omega)).mpr ⟨full₁, small₁⟩
  have log₂ : m₂.log2 = 52 := (Nat.log2_eq_iff (by omega)).mpr ⟨full₂, small₂⟩
  have bits : Format.binary64.mantissaBits = 53 := rfl
  have least : Format.binary64.minExponent = -1074 := rfl
  have target : min (e₁ - e₂)
      (Format.binary64.targetExponent (totalExponent m₁ e₁ - totalExponent m₂ e₂)) =
      e₁ - e₂ - 53 := by
    rw [Format.targetExponent, totalExponent, totalExponent, log₁, log₂, bits, least]
    push_cast
    omega
  have amount : (e₁ - e₂ - (e₁ - e₂ - 53)).toNat = 53 := by omega
  unfold divCore
  dsimp only
  rw [target, amount, Nat.shiftLeft_eq]
  exact ⟨_, rfl⟩

/-- A quotient that is not too small has exponents that are not too far apart. -/
theorem gap_of_quotient {m₁ m₂ : ℕ} {e₁ e₂ : ℤ} (small₁ : m₁ < 2 ^ 53) (full₂ : 2 ^ 52 ≤ m₂)
    (tall : (2 : ℚ) ^ (-1020 : ℤ) ≤ (m₁ * 2 ^ 53 : ℕ) / m₂ * 2 ^ (e₁ - e₂ - 53)) :
    -1021 ≤ e₁ - e₂ := by
  have posQ : (0 : ℚ) < m₂ := by
    have : 0 < m₂ := by omega
    exact_mod_cast this
  -- The quotient of the significands is below two.
  have ratio : (m₁ * 2 ^ 53 : ℕ) / (m₂ : ℚ) < 2 ^ 54 := by
    rw [div_lt_iff₀ posQ]
    have : m₁ * 2 ^ 53 < 2 ^ 54 * m₂ := by omega
    exact_mod_cast this
  have scale : (0 : ℚ) < 2 ^ (e₁ - e₂ - 53) := by positivity
  have less := tall.trans_lt (mul_lt_mul_of_pos_right ratio scale)
  rw [← zpow_natCast, ← zpow_add₀ (by norm_num)] at less
  have := (zpow_lt_zpow_iff_right₀ (by norm_num : (1 : ℚ) < 2)).mp less
  push_cast at this
  omega

section Operations

theorem unpack_mul (a b : Float) : (a * b).toModel.unpack = (Float.Model.pack
    (UnpackedFloat.mul Format.binary64 a.toModel.unpack b.toModel.unpack)).unpack := rfl

theorem unpack_div (a b : Float) : (a / b).toModel.unpack = (Float.Model.pack
    (UnpackedFloat.div Format.binary64 a.toModel.unpack b.toModel.unpack)).unpack := rfl

theorem unpack_add (a b : Float) : (a + b).toModel.unpack = (Float.Model.pack
    (UnpackedFloat.add Format.binary64 a.toModel.unpack b.toModel.unpack)).unpack := rfl

variable {a b : Float} {va vb : ℚ}

/-- A product of positive numbers. -/
theorem FullPrecision.mul (ha : FullPrecision a.toModel.unpack va)
    (hb : FullPrecision b.toModel.unpack vb) (tall : 2 ^ (-1020 : ℤ) ≤ va * vb) :
    RoundedTo (a * b).toModel.unpack (va * vb) := by
  obtain ⟨m₁, e₁, pos₁, unpacked₁, full₁, -, -, -, rfl⟩ := ha
  obtain ⟨m₂, e₂, pos₂, unpacked₂, full₂, -, -, -, rfl⟩ := hb
  have exact : (m₁ : ℚ) * 2 ^ e₁ * (m₂ * 2 ^ e₂) = (m₁ * m₂ : ℕ) * 2 ^ (e₁ + e₂) := by
    rw [zpow_add₀ (by norm_num)]
    push_cast
    ring
  have pos : 0 < m₁ * m₂ := Nat.mul_pos pos₁ pos₂
  have wide : 52 ≤ (m₁ * m₂).log2 := by
    rw [Nat.le_log2 pos.ne']
    exact full₁.trans (Nat.le_mul_of_pos_right m₁ pos₂)
  rw [exact] at tall ⊢
  rw [unpack_mul, unpacked₁, unpacked₂]
  have step : (0 : ℚ) < 2 ^ (e₁ + e₂) := by positivity
  have log := le_log2_add tall
  exact roundedTo_roundWithAccuracy .exact wide (by omega) le_rfl (by linarith)

/-- A quotient of positive numbers. -/
theorem FullPrecision.div (ha : FullPrecision a.toModel.unpack va)
    (hb : FullPrecision b.toModel.unpack vb) (tall : 2 ^ (-1020 : ℤ) ≤ va / vb) :
    RoundedTo (a / b).toModel.unpack (va / vb) := by
  obtain ⟨m₁, e₁, pos₁, unpacked₁, full₁, small₁, -, -, rfl⟩ := ha
  obtain ⟨m₂, e₂, pos₂, unpacked₂, full₂, small₂, -, -, rfl⟩ := hb
  have exact : (m₁ : ℚ) * 2 ^ e₁ / (m₂ * 2 ^ e₂) = (m₁ * 2 ^ 53 : ℕ) / m₂ * 2 ^ (e₁ - e₂ - 53) := by
    rw [zpow_sub₀ (by norm_num), zpow_sub₀ (by norm_num)]
    have : (m₂ : ℚ) ≠ 0 := by exact_mod_cast pos₂.ne'
    push_cast
    field_simp
  have posQ : (0 : ℚ) < m₂ := by exact_mod_cast pos₂
  have gap := gap_of_quotient small₁ full₂ (exact ▸ tall)
  have step : (0 : ℚ) < 2 ^ (e₁ - e₂ - 53) := by positivity
  have full : 2 ^ 52 ≤ m₁ * 2 ^ 53 / m₂ := by
    rw [Nat.le_div_iff_mul_le pos₂]
    calc 2 ^ 52 * m₂ ≤ 2 ^ 52 * 2 ^ 53 := Nat.mul_le_mul_left _ small₂.le
      _ ≤ m₁ * 2 ^ 53 := Nat.mul_le_mul_right _ full₁
  have wide : 52 ≤ (m₁ * 2 ^ 53 / m₂).log2 := by
    rw [Nat.le_log2 (by omega)]
    exact full
  obtain ⟨acc, core⟩ := divCore_eq full₁ small₁ full₂ small₂ gap
  rw [unpack_div, unpacked₁, unpacked₂, exact]
  unfold UnpackedFloat.div
  dsimp only
  rw [core]
  dsimp only
  refine roundedTo_roundWithAccuracy acc wide (by omega) ?_ ?_
  · refine mul_le_mul_of_nonneg_right ?_ step.le
    rw [le_div_iff₀ posQ]
    exact_mod_cast Nat.div_mul_le_self _ _
  · refine mul_le_mul_of_nonneg_right ?_ step.le
    rw [div_le_iff₀ posQ]
    exact_mod_cast (Nat.lt_mul_of_div_lt (Nat.lt_succ_self _) pos₂).le

/-- A sum of positive numbers. -/
theorem FullPrecision.add (ha : FullPrecision a.toModel.unpack va)
    (hb : FullPrecision b.toModel.unpack vb) (tall : 2 ^ (-1020 : ℤ) ≤ va + vb) :
    RoundedTo (a + b).toModel.unpack (va + vb) := by
  obtain ⟨m₁, e₁, pos₁, unpacked₁, full₁, small₁, -, -, rfl⟩ := ha
  obtain ⟨m₂, e₂, pos₂, unpacked₂, full₂, small₂, -, -, rfl⟩ := hb
  have aligned : ∀ (m : ℕ) (e least : ℤ), least ≤ e →
      ((m <<< (e - least).toNat : ℕ) : ℚ) * 2 ^ least = m * 2 ^ e := by
    intro m e least le
    have moved := shiftLeft_mul_zpow m (e - least).toNat e
    rwa [Int.toNat_of_nonneg (sub_nonneg.mpr le), sub_sub_cancel] at moved
  rw [unpack_add, unpacked₁, unpacked₂]
  unfold UnpackedFloat.add decreaseExponent Sign.apply
  dsimp only
  rw [← aligned m₁ e₁ (min e₁ e₂) (min_le_left _ _), ← aligned m₂ e₂ (min e₁ e₂) (min_le_right _ _),
    ← add_mul] at tall ⊢
  have first : m₁ ≤ m₁ <<< (e₁ - min e₁ e₂).toNat := by
    rw [Nat.shiftLeft_eq]
    exact Nat.le_mul_of_pos_right m₁ (by positivity)
  generalize m₁ <<< (e₁ - min e₁ e₂).toNat = k₁ at first tall ⊢
  generalize m₂ <<< (e₂ - min e₁ e₂).toNat = k₂ at tall ⊢
  have exact : (k₁ : ℚ) + k₂ = (k₁ + k₂ : ℕ) := by push_cast; rfl
  have int : (k₁ : ℤ) + k₂ = (k₁ + k₂ : ℕ) := by push_cast; rfl
  rw [exact] at tall ⊢
  have log := le_log2_add tall
  rw [int, UnpackedFloat.normalize, Int.compare_eq_gt.mpr (by omega)]
  dsimp only
  rw [Int.toNat_natCast]
  exact roundedTo_round (by omega) (by omega)

end Operations

end DenseDmg
