import DenseDmg.Proofs.Decimal.Arithmetic
import DenseDmg.Word

/-!
# Finite doubles

An operation on finite doubles gives a finite double or an infinity.  It gives no infinity where the
result is known to be small: for a quotient by something large, and for a word.

* `isFinite_roundWithAccuracy`: a rounded number is finite, or its exponent is large.
* `isFinite_mul`, `isFinite_neg`, `isFinite_div`, `isFinite_countFloat`: the operations.
-/

namespace DenseDmg

open Float.Model Float.Model.UnpackedFloat

/-! ## Packing -/

/-- Bits without the greatest exponent are a finite number. -/
theorem isFinite_unpack {exponent : BitVec 11} (other : exponent ≠ -1#11) (s : Sign)
    (fraction : BitVec 52) : (UnpackedFloat.unpack Format.binary64
      (packComponents Format.binary64 s exponent fraction)).isFinite = true := by
  have field : unpackExponent (packComponents Format.binary64 s exponent fraction) = exponent :=
    unpackExponent_packComponents
  rw [← field] at other
  rw [UnpackedFloat.unpack]
  dsimp only
  rw [if_neg other]
  split_ifs <;> rfl

/-- A number is packed as a finite one, or as infinity if its exponent is too large. -/
theorem isFinite_pack (s : Sign) {m : ℕ} {e : ℤ} (pos : 0 < m) :
    (Float.Model.pack (.finite s m e pos)).unpack.isFinite = true ∨
      971 < e ∧ (Float.Model.pack (.finite s m e pos)).unpack = .infinity s := by
  have unpacked : (Float.Model.pack (.finite s m e pos)).unpack =
      UnpackedFloat.unpack Format.binary64
        (UnpackedFloat.pack Format.binary64 (.finite s m e pos)) := rfl
  have bias : (e + (Format.binary64.exponentBias : ℤ) + (52 : ℕ)).toNat = (e + 1075).toNat := by
    have : Format.binary64.exponentBias = 1023 := rfl
    rw [this, add_assoc]
    rfl
  rw [unpacked, UnpackedFloat.pack]
  dsimp only
  rw [bias]
  by_cases large : 2 ^ 11 ≤ (e + 1075).toNat + 1
  · rw [if_pos large]
    exact .inr ⟨by omega, unpack_packedInfinity s⟩
  rw [if_neg large]
  split_ifs
  · refine .inl (isFinite_unpack ?_ s _)
    intro all
    have field := congrArg BitVec.toNat all
    rw [BitVec.toNat_ofNat] at field
    have : (-1#11).toNat = 2047 := rfl
    omega
  · exact .inl (isFinite_unpack (by decide) s _)

theorem isFinite_pack_zero (s : Sign) : (Float.Model.pack (.zero s)).unpack.isFinite = true := by
  cases s <;> rfl

/-- A rounded number is a finite one, or infinity if the exponent is too large. -/
theorem isFinite_roundWithAccuracy (s : Sign) (m : ℕ) (e : ℤ) (a : Accuracy) :
    (Float.Model.pack (roundWithAccuracy Format.binary64 s m e a)).unpack.isFinite = true ∨
      971 ≤ e + cutBits m e ∧
        (Float.Model.pack (roundWithAccuracy Format.binary64 s m e a)).unpack = .infinity s := by
  obtain ⟨r, -, -, cases⟩ := roundWithAccuracy_cases s m e a
  rcases cases with ⟨-, rounded⟩ | ⟨-, pos, rounded⟩ | ⟨-, pos, rounded⟩
  · rw [rounded]
    exact .inl (isFinite_pack_zero s)
  · rw [rounded]
    exact (isFinite_pack s pos).imp_right fun large => ⟨large.1.le, large.2⟩
  · rw [rounded]
    exact (isFinite_pack s pos).imp_right fun large => ⟨by omega, large.2⟩

/-! ## Operations -/

section Operations

variable {x y : Float}

/-- Doubles have 53 bits, and powers of two up to a bound. -/
theorem ofFloat?_bounds {v : BinaryValue} (value : BinaryValue.ofFloat? x = some v) :
    v.significand < 2 ^ 53 ∧ v.exponent ≤ 971 := by
  unfold BinaryValue.ofFloat? BinaryValue.ofBits? at value
  dsimp only at value
  have fraction := Nat.mod_lt x.toBits.toNat (show 0 < hiddenBit by decide)
  have field := Nat.mod_lt (x.toBits.toNat / hiddenBit) (show 0 < 2048 by decide)
  have bit : hiddenBit = 2 ^ 52 := rfl
  split_ifs at value <;> cases value <;> dsimp only <;> omega

/-- A finite double is taken apart into a zero or a number. -/
theorem exists_of_isFinite (finite : x.isFinite = true) : (∃ s, x.toModel.unpack = .zero s) ∨
    ∃ s m e, ∃ pos : 0 < m, x.toModel.unpack = .finite s m e pos ∧ m < 2 ^ 53 ∧ e ≤ 971 := by
  have cases := unpack_ofFloat? x
  rw [isFinite_eq, Option.isSome_iff_exists] at finite
  obtain ⟨v, value⟩ := finite
  rw [value] at cases
  rcases cases with ⟨-, unpacked⟩ | ⟨pos, unpacked⟩
  · exact .inl ⟨_, unpacked⟩
  · exact .inr ⟨_, _, _, pos, unpacked, ofFloat?_bounds value⟩

/-- A product that is not infinite is a number. -/
theorem isFinite_mul (hx : x.isFinite = true) (hy : y.isFinite = true)
    (bounded : (x * y).isInf = false) : (x * y).isFinite = true := by
  have model : (x * y).toModel.unpack.isInf = false := bounded
  show (x * y).toModel.unpack.isFinite = true
  rw [unpack_mul] at model ⊢
  rcases exists_of_isFinite hx with ⟨s, hx⟩ | ⟨s, m, e, pos, hx, -⟩ <;>
    rcases exists_of_isFinite hy with ⟨t, hy⟩ | ⟨t, n, f, pos', hy, -⟩ <;> rw [hx, hy] at model ⊢
  · exact isFinite_pack_zero (s * t)
  · exact isFinite_pack_zero (s * t)
  · exact isFinite_pack_zero (s * t)
  · rcases isFinite_roundWithAccuracy (s * t) (m * n) (e + f) .exact with finite | ⟨-, infinite⟩
    · exact finite
    · rw [UnpackedFloat.mul, infinite] at model
      cases model

theorem isFinite_neg (finite : x.isFinite = true) : (-x).isFinite = true := by
  have unpacked : (-x).toModel.unpack = (Float.Model.pack x.toModel.unpack.neg).unpack := rfl
  show (-x).toModel.unpack.isFinite = true
  rw [unpacked]
  rcases exists_of_isFinite finite with ⟨s, zero⟩ | ⟨s, m, e, pos, number, -, small⟩
  · rw [zero]
    exact isFinite_pack_zero (-s)
  · rw [number]
    exact (isFinite_pack (-s) pos).resolve_right fun large => by omega

/-- A number below a power of two has its highest bit below it. -/
theorem log2_le_of_lt {n k : ℕ} (h : n < 2 ^ (k + 1)) : n.log2 ≤ k := by
  by_cases zero : n = 0
  · rw [zero, Nat.log2_zero]
    exact Nat.zero_le k
  · exact Nat.lt_succ_iff.mp ((Nat.log2_lt zero).mpr h)

/-- A quotient by a divisor in full precision has no higher bit than the divisor was moved by. -/
theorem log2_shiftLeft_div_le {m n : ℕ} (small : m < 2 ^ 53) (full : 2 ^ 52 ≤ n) (k : ℕ) :
    ((m <<< k) / n).log2 ≤ k := by
  apply log2_le_of_lt
  rw [Nat.shiftLeft_eq, Nat.div_lt_iff_lt_mul (by omega)]
  calc m * 2 ^ k < 2 * n * 2 ^ k := Nat.mul_lt_mul_of_pos_right (by omega) (by positivity)
    _ = 2 ^ (k + 1) * n := by ring

/-- A quotient by a divisor that is at least eight is rounded to a finite double. -/
theorem divCore_small {m n : ℕ} {e f : ℤ} (small : m < 2 ^ 53) (low : e ≤ 971) (full : 2 ^ 52 ≤ n)
    (above : -49 ≤ f) {q : ℕ} {d : ℤ} {a : Accuracy}
    (core : divCore Format.binary64 m e n f = (q, d, a)) : d + cutBits q d < 971 := by
  have bits : Format.binary64.mantissaBits = 53 := rfl
  have least : Format.binary64.minExponent = -1074 := rfl
  have high : 52 ≤ n.log2 := (Nat.le_log2 (by omega)).mpr full
  have last : m.log2 ≤ 52 := log2_le_of_lt small
  unfold divCore at core
  dsimp only at core
  rw [Format.targetExponent, totalExponent, totalExponent, bits, least] at core
  cases core
  have moved := log2_shiftLeft_div_le small full (e - f - min (e - f)
    (max ((m.log2 : ℤ) + 1 + e - (n.log2 + 1 + f) - (53 : ℕ)) (-1074))).toNat
  unfold cutBits cutExponent
  omega

theorem isFinite_div {n : ℕ} {f : ℤ} {pos : 0 < n} (hx : x.isFinite = true)
    (hy : y.toModel.unpack = .finite .positive n f pos) (full : 2 ^ 52 ≤ n) (above : -49 ≤ f) :
    (x / y).isFinite = true := by
  show (x / y).toModel.unpack.isFinite = true
  rw [unpack_div, hy]
  rcases exists_of_isFinite hx with ⟨s, zero⟩ | ⟨s, m, e, _, number, small, low⟩
  · rw [zero]
    exact isFinite_pack_zero _
  · rw [number, UnpackedFloat.div]
    cases core : divCore Format.binary64 m e n f with
    | mk q rest =>
      obtain ⟨d, a⟩ := rest
      have := divCore_small small low full above core
      exact (isFinite_roundWithAccuracy _ q d a).resolve_right fun large => by omega

end Operations

/-- A word is a finite double. -/
theorem isFinite_countFloat (n : ℕ) : (countFloat n).isFinite = true := by
  have unpacked : (countFloat n).toModel.unpack = (Float.Model.pack
      (normalize Format.binary64 (UInt64.ofNat n).toNat 0 .positive)).unpack := rfl
  show (countFloat n).toModel.unpack.isFinite = true
  rw [unpacked]
  have word := (UInt64.ofNat n).toNat_lt
  generalize (UInt64.ofNat n).toNat = w at word
  rcases Nat.eq_zero_or_pos w with zero | pos
  · rw [zero]
    exact isFinite_pack_zero .positive
  · rw [UnpackedFloat.normalize, Int.compare_eq_gt.mpr (by omega)]
    dsimp only
    rw [Int.toNat_natCast]
    unfold UnpackedFloat.round decreaseExponent
    dsimp only
    rw [targetExponent_eq]
    refine (isFinite_roundWithAccuracy _ _ _ _).resolve_right fun large => ?_
    generalize moved : (0 - cutExponent w 0).toNat = k at large
    have high : w.log2 ≤ 63 := log2_le_of_lt word
    have shifted : (w <<< k).log2 ≤ w.log2 + k := by
      apply log2_le_of_lt
      rw [Nat.shiftLeft_eq, Nat.add_right_comm, pow_add]
      exact Nat.mul_lt_mul_of_pos_right Nat.lt_log2_self (by positivity)
    unfold cutBits cutExponent at large
    omega

end DenseDmg
