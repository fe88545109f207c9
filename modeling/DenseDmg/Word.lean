/-!
# 64-bit words

Counts, rates and times are whole numbers that fit into 64 bits.  They are kept as natural
numbers; where a sum or a product may leave the word it stops at the last one.
-/

namespace DenseDmg

/-- The largest number that a 64-bit word can hold. -/
abbrev lastWord : Nat := 18446744073709551615

/-- A number, or the last word if the number is larger. -/
def capped (n : Nat) : Nat := min n lastWord

/-- A word as the nearest double. -/
def countFloat (n : Nat) : Float := (UInt64.ofNat n).toFloat

/-- The word nearest to a double, a half going away from zero; the bounds of the word where the
double lies outside, zero for NaN. -/
def roundedWord (x : Float) : Nat :=
  let whole := x.toUInt64.toNat
  if 0.5 ≤ x - countFloat whole then capped (whole + 1) else whole

end DenseDmg
