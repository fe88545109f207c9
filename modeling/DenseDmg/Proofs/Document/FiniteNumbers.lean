import DenseDmg.Proofs.Decimal.Finite
import DenseDmg.Proofs.Document.Words

/-!
# The doubles of a document

A number that is too large for a double is refused, so that every double that is read is finite.

* `isFinite_timesPower?`: a finite double times a power of ten.
* `yields_readDouble`: the doubles of a document.
* `ScenarioSpec.finite_of_document`: the doubles of a scenario document.
-/

namespace DenseDmg

namespace Document

/-! ## Powers of ten -/

/-- The powers of ten that are doubles: all are finite, and those above one are at least eight. -/
theorem powerOfTen_all : ∀ k ∈ List.range 309, ((BinaryValue.ofFloat? (powerOfTen k)).any fun v =>
    k = 0 || (!v.negative && decide (hiddenBit ≤ v.significand) && decide (-49 ≤ v.exponent))) =
      true := by
  decide +kernel

theorem isFinite_powerOfTen {k : ℕ} (few : k ≤ 308) : (powerOfTen k).isFinite = true := by
  rw [isFinite_eq]
  exact Option.isSome_of_any (powerOfTen_all k (List.mem_range.mpr (by omega)))

/-- A quotient by a power of ten above one is finite. -/
theorem isFinite_div_powerOfTen {x : Float} {k : ℕ} (finite : x.isFinite = true) (pos : 0 < k)
    (few : k ≤ 308) : (x / powerOfTen k).isFinite = true := by
  have all := powerOfTen_all k (List.mem_range.mpr (by omega))
  have unpacked := unpack_ofFloat? (powerOfTen k)
  obtain ⟨v, value, large⟩ := (Option.any_eq_true _ _).mp all
  rw [value] at unpacked
  simp only [pos.ne', decide_false, Bool.false_or, Bool.and_eq_true, Bool.not_eq_true',
    decide_eq_true_eq] at large
  obtain ⟨⟨sign, full⟩, above⟩ := large
  have bit : hiddenBit = 2 ^ 52 := rfl
  rcases unpacked with ⟨zero, -⟩ | ⟨_, number⟩
  · omega
  · rw [BinaryValue.modelSign, sign, if_neg (by decide)] at number
    exact isFinite_div finite number (bit ▸ full) above

/-- A finite double times a power of ten is finite, or too large. -/
theorem isFinite_timesPower? {x y : Float} {e : ℤ} (finite : x.isFinite = true)
    (read : timesPower? x e = some y) : y.isFinite = true := by
  fun_induction timesPower? x e with
  | case1 => exact Option.some.inj read ▸ finite
  | case2 x e low some ih => exact ih (isFinite_div_powerOfTen finite (by decide) le_rfl) read
  | case3 x e low negative =>
    exact Option.some.inj read ▸ isFinite_div_powerOfTen finite (by omega) (by omega)
  | case4 => cases read
  | case5 x e low positive high product bounded =>
    rw [Bool.not_eq_true] at bounded
    exact Option.some.inj read ▸ isFinite_mul finite (isFinite_powerOfTen (by omega)) bounded
  | case6 => exact Option.some.inj read ▸ finite
  | case7 => cases read

/-! ## Numbers in documents -/

/-- No number is read as an infinity or as none. -/
def Number.IsFinite : Number → Prop
  | real x => x.isFinite = true
  | _ => True

theorem isFinite_scaled {negative : Bool} {n : ℕ} {e : ℤ} {number : Number}
    (read : scaled negative n e = .ok number) : number.IsFinite := by
  unfold scaled at read
  split at read
  next x product =>
    have finite := isFinite_timesPower? (isFinite_countFloat n) product
    cases read
    show (if negative then -x else x).isFinite = true
    split_ifs
    · exact isFinite_neg finite
    · exact finite
  next => cases read

theorem isFinite_whole? (negative : Bool) (n : ℕ) : (whole? negative n).IsFinite := by
  unfold whole?
  split_ifs
  · trivial
  · exact isFinite_neg (isFinite_countFloat n)
  · trivial

variable {negative : Bool} {significand : ℕ} {e : ℤ} {cs rest : List Char} {number : Number}

theorem isFinite_of_scanExponent
    (read : scanExponent negative significand e cs = .ok (number, rest)) : number.IsFinite := by
  unfold scanExponent at read
  dsimp only at read
  split at read
  next => cases read
  next =>
    split at read
    next =>
      split at read
      next => cases read
      next =>
        cases read
        show (if negative then (-0.0 : Float) else 0.0).isFinite = true
        cases negative <;> decide
    next =>
      obtain ⟨_, scaled, same⟩ := exists_of_map_eq_ok read
      cases same
      exact isFinite_scaled scaled

theorem isFinite_of_scanTail (read : scanTail negative significand e cs = .ok (number, rest)) :
    number.IsFinite := by
  unfold scanTail at read
  split at read
  next => exact isFinite_of_scanExponent read
  next => exact isFinite_of_scanExponent read
  next =>
    obtain ⟨_, scaled, same⟩ := exists_of_map_eq_ok read
    cases same
    exact isFinite_scaled scaled

theorem isFinite_of_scanNumber (read : scanNumber negative cs = .ok (number, rest)) :
    number.IsFinite := by
  unfold scanNumber at read
  dsimp only at read
  split at read
  next => cases read
  next =>
    split at read
    next => cases read
    next =>
      split at read
      next =>
        split at read
        next => cases read
        next => exact isFinite_of_scanTail read
      next => exact isFinite_of_scanTail read
      next => exact isFinite_of_scanTail read
      next =>
        split at read
        next =>
          cases read
          exact isFinite_whole? _ _
        next => exact isFinite_of_scanTail read

theorem yields_readNumber : Yields readNumber Number.IsFinite := by
  intro cs number rest read
  unfold readNumber at read
  split at read
  next => cases read
  next => exact isFinite_of_scanNumber read
  next =>
    split at read
    next => exact isFinite_of_scanNumber read
    next => cases read

/-- Every double that is read is finite. -/
theorem yields_readDouble : Yields readDouble fun x => x.isFinite = true := by
  intro cs x rest read
  obtain ⟨⟨number, left⟩, scanned, same⟩ := exists_of_map_eq_ok read
  have finite := yields_readNumber _ _ _ scanned
  cases number <;> cases same
  · exact isFinite_countFloat _
  · exact isFinite_neg (isFinite_countFloat _)
  · exact finite

end Document

/-! ## Scenario documents -/

open Document

/-- The doubles of a channel are finite; so are those of a scenario. -/
structure ChannelSpec.Finite (c : ChannelSpec) : Prop where
  radius : c.radius.isFinite = true
  tracePeriod : c.tracePeriod.isFinite = true
  txPower : c.txPower.isFinite = true

structure ScenarioSpec.Finite (s : ScenarioSpec) : Prop where
  simulationTime : s.simulationTime.isFinite = true
  channel : s.channel.Finite

theorem ChannelSpec.finite : Yields (readRecord ChannelSpec.shape {}) ChannelSpec.Finite := by
  refine yields_readRecord ?_ ⟨by decide, by decide, by decide⟩
  simp only [ChannelSpec.shape, List.forall_mem_cons]
  refine ⟨?radius, ?numTraces, ?tracePeriod, ?apSectors, ?staSectors, ?txPower,
    List.forall_mem_nil _⟩
  case radius =>
    exact .of yields_readDouble fun _ _ finite double => { finite with radius := double }
  case tracePeriod =>
    exact .of yields_readDouble fun _ _ finite double => { finite with tracePeriod := double }
  case txPower =>
    exact .of yields_readDouble fun _ _ finite double => { finite with txPower := double }
  all_goals exact .of (yields_any _) fun _ _ finite _ => { finite with }

theorem ScenarioSpec.finite_of_document {raw : String} {spec : ScenarioSpec}
    (read : ScenarioSpec.ofDocument raw = .ok spec) : spec.Finite := by
  have yields : Yields (readRecord ScenarioSpec.shape {}) ScenarioSpec.Finite := by
    refine yields_readRecord ?_ ⟨by decide, ⟨by decide, by decide, by decide⟩⟩
    simp only [ScenarioSpec.shape, List.forall_mem_cons]
    refine ⟨?numStas, ?time, ?application, ?mode, ?channel, ?mac, ?output, ?blockages,
      List.forall_mem_nil _⟩
    case time =>
      exact .of yields_readDouble fun _ _ finite double => { finite with simulationTime := double }
    case channel =>
      exact .of ChannelSpec.finite fun _ _ finite inner => { finite with channel := inner }
    all_goals exact .of (yields_any _) fun _ _ finite _ => { finite with }
  unfold ScenarioSpec.ofDocument at read
  split at read
  next done =>
    cases read
    exact of_readDocument yields done
  next => cases read

end DenseDmg
