import DenseDmg.Decimal.Binary
import Mathlib

/-!
# Doubles as exact numbers

The bits of a double are taken apart in two ways: here, by arithmetic on the word, and in the
library, by cutting the word into fields.  Both find the same sign, significand and exponent.

* `unpack_ofFloat?`: what the library takes a double apart into.
* `BinaryValue.value`: the rational that a finite double denotes.
-/

namespace DenseDmg

open Float.Model Float.Model.UnpackedFloat

/-! ## The fields of a double -/

theorem toNat_unpackMantissa (b : BitVec 64) :
    (@unpackMantissa Format.binary64 b).toNat = b.toNat % hiddenBit := by
  simp [unpackMantissa, BitVec.extractLsb, hiddenBit]

theorem toNat_unpackExponent (b : BitVec 64) :
    (@unpackExponent Format.binary64 b).toNat = b.toNat / hiddenBit % 2048 := by
  simp [unpackExponent, BitVec.extractLsb, hiddenBit, Nat.shiftRight_eq_div_pow]

theorem toNat_unpackSign (b : BitVec 64) :
    (@unpackSign Format.binary64 b).toNat = b.toNat / signBit := by
  have := b.isLt
  simp [unpackSign, BitVec.extractLsb, signBit, Nat.shiftRight_eq_div_pow]
  omega

/-- The sign of a number, as doubles are taken apart. -/
def BinaryValue.modelSign (v : BinaryValue) : Sign := if v.negative then .negative else .positive

theorem ofBitVec_unpackSign (b : BitVec 64) :
    Sign.ofBitVec (@unpackSign Format.binary64 b) =
      if decide (signBit ≤ b.toNat) then .negative else .positive := by
  have field := toNat_unpackSign b
  have bound := b.isLt
  have bit : (@unpackSign Format.binary64 b).toNat = 0 ↔ b.toNat < signBit := by
    rw [field, Nat.div_eq_zero_iff_lt (by decide)]
  unfold Sign.ofBitVec
  by_cases above : signBit ≤ b.toNat
  · have one : ¬ @unpackSign Format.binary64 b = 0#1 := by
      intro zero
      rw [zero] at bit
      have := bit.mp rfl
      omega
    simp [above, one]
  · have zero : @unpackSign Format.binary64 b = 0#1 := by
      apply BitVec.eq_of_toNat_eq
      exact bit.mpr (by omega)
    simp [above, zero]

/-- The hidden bit before the fraction. -/
theorem toNat_hiddenBit_append (fraction : BitVec 52) :
    (1#1 ++ fraction).toNat = hiddenBit + fraction.toNat := by
  have bound := fraction.isLt
  rw [BitVec.toNat_append, ← Nat.shiftLeft_add_eq_or_of_lt bound]
  rfl

/-- The bits of a number in full precision, with the hidden bit. -/
theorem unpack_of_full {b : BitVec 64} (finite : @unpackExponent Format.binary64 b ≠ -1#11)
    (full : @unpackExponent Format.binary64 b ≠ 0#11) :
    ∃ pos, UnpackedFloat.unpack Format.binary64 b =
      .finite (Sign.ofBitVec (@unpackSign Format.binary64 b))
        (hiddenBit + (@unpackMantissa Format.binary64 b).toNat)
        (((@unpackExponent Format.binary64 b).toNat : ℤ) - 1075) pos := by
  have joined := toNat_hiddenBit_append (@unpackMantissa Format.binary64 b)
  refine ⟨Nat.add_pos_left (by decide) _, ?_⟩
  rw [UnpackedFloat.unpack]
  dsimp only
  rw [if_neg finite, if_neg full]
  simp only [joined]
  rfl

/-- The bits with the greatest exponent are infinity or no number. -/
theorem unpack_of_greatest {b : BitVec 64} (h : @unpackExponent Format.binary64 b = -1#11) :
    UnpackedFloat.unpack Format.binary64 b = .notANumber ∨
      ∃ s, UnpackedFloat.unpack Format.binary64 b = .infinity s := by
  rw [UnpackedFloat.unpack]
  dsimp only
  rw [if_pos h]
  split_ifs
  · exact .inr ⟨_, rfl⟩
  · exact .inl rfl

/-- The bits with the least exponent are zero or a number without the hidden bit. -/
theorem unpack_of_least {b : BitVec 64} (h : @unpackExponent Format.binary64 b = 0#11) :
    ((@unpackMantissa Format.binary64 b).toNat = 0 ∧ UnpackedFloat.unpack Format.binary64 b =
        .zero (Sign.ofBitVec (@unpackSign Format.binary64 b))) ∨
      ∃ pos, UnpackedFloat.unpack Format.binary64 b =
        .finite (Sign.ofBitVec (@unpackSign Format.binary64 b))
          (@unpackMantissa Format.binary64 b).toNat (-1074) pos := by
  have inside : ¬ @unpackExponent Format.binary64 b = -1#11 := by
    rw [h]
    decide
  rw [UnpackedFloat.unpack]
  dsimp only
  rw [if_neg inside, if_pos h, h]
  by_cases zero : @unpackMantissa Format.binary64 b = 0#52
  · refine .inl ⟨by rw [zero]; rfl, ?_⟩
    rw [dif_pos zero]
  · have pos : 0 < (@unpackMantissa Format.binary64 b).toNat := by
      refine Nat.pos_of_ne_zero fun none => zero ?_
      exact BitVec.eq_of_toNat_eq none
    refine .inr ⟨pos, ?_⟩
    rw [dif_neg zero]
    rfl

/-- What a double is taken apart into. -/
theorem unpack_ofFloat? (x : Float) :
    match BinaryValue.ofFloat? x with
    | none => x.toModel.unpack = .notANumber ∨ ∃ s, x.toModel.unpack = .infinity s
    | some v =>
      (v.significand = 0 ∧ x.toModel.unpack = .zero v.modelSign) ∨
      ∃ pos, x.toModel.unpack = .finite v.modelSign v.significand v.exponent pos := by
  have mantissa := toNat_unpackMantissa x.toBits.toBitVec
  have exponent := toNat_unpackExponent x.toBits.toBitVec
  have sign := ofBitVec_unpackSign x.toBits.toBitVec
  have word : x.toBits.toBitVec.toNat = x.toBits.toNat := rfl
  have unpacked : x.toModel.unpack = UnpackedFloat.unpack Format.binary64 x.toBits.toBitVec := rfl
  rw [word] at mantissa exponent sign
  unfold BinaryValue.ofFloat? BinaryValue.ofBits?
  dsimp only
  rw [← mantissa, ← exponent]
  split_ifs with beyond least
  · rw [unpacked]
    exact unpack_of_greatest (BitVec.eq_of_toNat_eq beyond)
  · have cases := unpack_of_least (b := x.toBits.toBitVec) (BitVec.eq_of_toNat_eq least)
    rw [sign] at cases
    rw [unpacked]
    exact cases
  · have inside : ¬ @unpackExponent Format.binary64 x.toBits.toBitVec = -1#11 := by
      intro all
      rw [all] at beyond
      exact beyond rfl
    have normal : ¬ @unpackExponent Format.binary64 x.toBits.toBitVec = 0#11 := by
      intro none
      rw [none] at least
      exact least rfl
    obtain ⟨pos, full⟩ := unpack_of_full inside normal
    rw [sign] at full
    exact .inr ⟨pos, unpacked.trans full⟩

/-- The finite doubles are those that denote a number. -/
theorem isFinite_eq (x : Float) : x.isFinite = (BinaryValue.ofFloat? x).isSome := by
  have cases := unpack_ofFloat? x
  have model : x.isFinite = x.toModel.unpack.isFinite := rfl
  rw [model]
  cases number : BinaryValue.ofFloat? x with
  | none =>
    rw [number] at cases
    rcases cases with unpacked | ⟨s, unpacked⟩ <;> rw [unpacked] <;> rfl
  | some v =>
    rw [number] at cases
    rcases cases with ⟨-, unpacked⟩ | ⟨pos, unpacked⟩ <;> rw [unpacked] <;> rfl

/-- A positive number that is taken apart is read off the bits. -/
theorem ofFloat?_of_finite {x : Float} {m : ℕ} {e : ℤ} {pos : 0 < m}
    (h : x.toModel.unpack = .finite .positive m e pos) :
    BinaryValue.ofFloat? x = some ⟨false, m, e⟩ := by
  have cases := unpack_ofFloat? x
  cases number : BinaryValue.ofFloat? x with
  | none =>
    rw [number, h] at cases
    rcases cases with unpacked | ⟨s, unpacked⟩ <;> cases unpacked
  | some v =>
    rw [number, h] at cases
    rcases cases with ⟨-, unpacked⟩ | ⟨pos', unpacked⟩
    · cases unpacked
    · obtain ⟨negative, significand, exponent⟩ := v
      injection unpacked with sign mantissa power
      cases negative with
      | false => rw [mantissa, power]
      | true => cases sign

/-- A zero that is taken apart is read off the bits. -/
theorem ofFloat?_of_zero {x : Float} {s : Sign} (h : x.toModel.unpack = .zero s) :
    ∃ v, BinaryValue.ofFloat? x = some v ∧ v.significand = 0 := by
  have cases := unpack_ofFloat? x
  cases number : BinaryValue.ofFloat? x with
  | none =>
    rw [number, h] at cases
    rcases cases with unpacked | ⟨s, unpacked⟩ <;> cases unpacked
  | some v =>
    rw [number, h] at cases
    rcases cases with ⟨zero, -⟩ | ⟨pos, unpacked⟩
    · exact ⟨v, rfl, zero⟩
    · cases unpacked

/-- What is taken apart as no finite number denotes none. -/
theorem ofFloat?_eq_none {x : Float} (h : x.toModel.unpack.isFinite = false) :
    BinaryValue.ofFloat? x = none := by
  have finite : x.isFinite = x.toModel.unpack.isFinite := rfl
  rw [h, isFinite_eq] at finite
  simpa using finite

/-! ## The value of a double -/

namespace BinaryValue

/-- The rational that a finite double denotes. -/
def value (v : BinaryValue) : ℚ :=
  (if v.negative then -1 else 1) * v.significand * 2 ^ v.exponent

variable {v : BinaryValue}

theorem value_eq_zero_iff : v.value = 0 ↔ v.significand = 0 := by
  have power : (2 : ℚ) ^ v.exponent ≠ 0 := by positivity
  unfold value
  cases v.negative <;> simp [power]

/-- The ratio of a number is its magnitude. -/
theorem ratio_eq (v : BinaryValue) :
    0 < v.ratio.2 ∧ (v.ratio.1 : ℚ) / v.ratio.2 = v.significand * 2 ^ v.exponent := by
  unfold ratio
  split_ifs with sign
  · obtain ⟨k, exponent⟩ := Int.eq_ofNat_of_zero_le sign
    simp [exponent, Nat.shiftLeft_eq]
  · obtain ⟨k, exponent⟩ := Int.eq_ofNat_of_zero_le (show 0 ≤ -v.exponent by omega)
    have negated : v.exponent = -(k : ℤ) := by omega
    simp [negated, Nat.shiftLeft_eq, div_eq_mul_inv]

theorem value_eq_ratio (v : BinaryValue) :
    v.value = (if v.negative then -1 else 1) * ((v.ratio.1 : ℚ) / v.ratio.2) := by
  rw [v.ratio_eq.2, value, mul_assoc]

theorem ratio_pos (pos : v.significand ≠ 0) : 0 < v.ratio.1 := by
  have denPos := v.ratio_eq.1
  have posQ : (0 : ℚ) < v.significand := by exact_mod_cast Nat.pos_of_ne_zero pos
  have : (0 : ℚ) < (v.ratio.1 : ℚ) / v.ratio.2 := by
    rw [v.ratio_eq.2]
    positivity
  have denQ : (0 : ℚ) < v.ratio.2 := by exact_mod_cast denPos
  have := (div_pos_iff_of_pos_right denQ).mp this
  exact_mod_cast this

end BinaryValue

end DenseDmg
