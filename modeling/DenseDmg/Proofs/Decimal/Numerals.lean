import DenseDmg.Proofs.Decimal.Digits
import Mathlib.Data.List.Induction

/-!
# Numerals

A whole number is written in decimal digits; a reader also takes it with zeros in front of them, and
with a plus sign in front of those.

* `eq_zeros_toDigits`: digits are zeros and then the digits of their number.
* `readWord?_eq_some_iff`: which texts are read as a given number, up to a limit.
-/

namespace DenseDmg

variable {cs ds : List Char} {c : Char} {n : ℕ}

/-- A number as it may be written: perhaps a plus sign, any number of zeros, and its digits. -/
def numeral (plus : Bool) (zeros n : ℕ) : List Char :=
  (if plus then ['+'] else []) ++ List.replicate zeros '0' ++ Nat.toDigits 10 n

/-- A digit is written for its value. -/
theorem toDigits_digit (digit : isDecimalDigit c = true) :
    c.toNat - '0'.toNat < 10 ∧ Nat.toDigits 10 (c.toNat - '0'.toNat) = [c] := by
  have all : ∀ k : Fin 128, isDecimalDigit (Char.ofNat k.val) = true →
      (Char.ofNat k.val).toNat - '0'.toNat < 10 ∧
        Nat.digitChar ((Char.ofNat k.val).toNat - '0'.toNat) = Char.ofNat k.val := by decide
  have small : c.toNat < 128 := by
    have range := isDecimalDigit_iff.mp digit
    simp only [Char.isDigit, Bool.and_eq_true, decide_eq_true_eq] at range
    have : c.toNat ≤ 57 := UInt32.le_iff_toNat_le.mp range.2
    omega
  have value := all ⟨c.toNat, small⟩
  rw [Char.ofNat_toNat] at value
  obtain ⟨less, char⟩ := value digit
  exact ⟨less, by rw [Nat.toDigits_of_lt_base less, char]⟩

/-- Digits are zeros, and then the digits of their number. -/
theorem eq_zeros_toDigits (digits : AllDigits cs) (ne : cs ≠ []) :
    ∃ zeros, cs = List.replicate zeros '0' ++ Nat.toDigits 10 (Nat.ofDigitChars 10 cs 0) := by
  induction cs using List.reverseRecOn with
  | nil => exact absurd rfl ne
  | append_singleton ds d ih =>
    obtain ⟨less, last⟩ := toDigits_digit (digits.of_append_right d List.mem_cons_self)
    rw [Nat.ofDigitChars_append, Nat.ofDigitChars_cons, Nat.ofDigitChars_nil]
    by_cases none : ds = []
    · subst none
      exact ⟨0, by rw [Nat.ofDigitChars_nil, Nat.mul_zero, Nat.zero_add, last]; rfl⟩
    obtain ⟨zeros, front⟩ := ih digits.of_append_left none
    generalize Nat.ofDigitChars 10 ds 0 = value at front ⊢
    rcases Nat.eq_zero_or_pos value with rfl | pos
    · refine ⟨zeros + 1, ?_⟩
      rw [Nat.mul_zero, Nat.zero_add, last, front, List.replicate_succ']
      rfl
    · refine ⟨zeros, ?_⟩
      rw [← Nat.toDigits_append_toDigits (by decide) pos less, last, ← List.append_assoc, ← front]

/-- Nothing but digits is read as a number in digits. -/
theorem allDigits_of_digitsValue? (read : digitsValue? cs = some n) : AllDigits cs := by
  have general : ∀ (ds : List Char) (start : Option ℕ),
      ds.foldl (fun acc c => acc.bind fun n => (digitValue? c).map (n * 10 + ·)) start = some n →
      AllDigits ds ∧ start.isSome := by
    intro ds
    induction ds with
    | nil =>
      rintro start rfl
      exact ⟨nofun, rfl⟩
    | cons d ds ih =>
      intro start done
      obtain ⟨digits, first⟩ := ih _ done
      obtain ⟨value, bound⟩ := Option.isSome_iff_exists.mp first
      obtain ⟨m, rfl, digit⟩ := Option.bind_eq_some_iff.mp bound
      have : isDecimalDigit d = true := by
        unfold isDecimalDigit
        rw [← Option.isSome_map, digit, Option.isSome_some]
      exact ⟨List.forall_mem_cons.mpr ⟨this, digits⟩, rfl⟩
  unfold digitsValue? at read
  split at read
  · cases read
  · exact (general cs (some 0) read).1

theorem allDigits_zeros (zeros n : ℕ) :
    AllDigits (List.replicate zeros '0' ++ Nat.toDigits 10 n) := by
  refine AllDigits.append ?_ (.toDigits n)
  intro c mem
  rw [List.eq_of_mem_replicate mem]
  decide

/-- What is read as a number in digits is zeros and its digits. -/
theorem digitsValue?_eq_some_iff :
    digitsValue? cs = some n ↔ ∃ zeros, cs = List.replicate zeros '0' ++ Nat.toDigits 10 n := by
  constructor
  · intro read
    have digits := allDigits_of_digitsValue? read
    have ne : cs ≠ [] := by
      rintro rfl
      cases read
    rw [digits.digitsValue? ne] at read
    have split := eq_zeros_toDigits digits ne
    rwa [Option.some.inj read] at split
  · rintro ⟨zeros, rfl⟩
    rw [(allDigits_zeros zeros n).digitsValue? (by simp [Nat.toDigits_ne_nil]),
      Nat.ofDigitChars_append, Nat.ofDigitChars_replicate_zero, Nat.mul_zero,
      Nat.ofDigitChars_ten_toDigits]

/-- A number is read from its numerals, as far as it is within the limit, and from nothing else. -/
theorem readWord?_eq_some_iff {limit : ℕ} :
    readWord? limit cs = some n ↔ n ≤ limit ∧ ∃ plus zeros, cs = numeral plus zeros n := by
  unfold readWord?
  rw [Option.filter_eq_some_iff, decide_eq_true_eq, and_comm]
  refine and_congr_right fun _ => ?_
  split
  next r =>
    rw [digitsValue?_eq_some_iff]
    constructor
    · rintro ⟨zeros, rfl⟩
      exact ⟨true, zeros, rfl⟩
    · rintro ⟨plus, zeros, text⟩
      cases plus with
      | true => exact ⟨zeros, (List.cons.inj text).2⟩
      | false =>
        have mem : '+' ∈ numeral false zeros n := text ▸ List.mem_cons_self
        exact absurd mem ((allDigits_zeros zeros n).not_mem isDecimalDigit_other.2.2.2)
  next unsigned =>
    rw [digitsValue?_eq_some_iff]
    constructor
    · rintro ⟨zeros, rfl⟩
      exact ⟨false, zeros, rfl⟩
    · rintro ⟨plus, zeros, text⟩
      cases plus with
      | true => exact absurd text (unsigned _)
      | false => exact ⟨zeros, text⟩

end DenseDmg
