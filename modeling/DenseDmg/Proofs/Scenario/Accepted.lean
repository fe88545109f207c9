import DenseDmg.Scenario.Resolve

/-!
# Accepted scenarios

What every scenario satisfies that a document is resolved to.
-/

namespace DenseDmg

variable {α β : Type} {e : Except Fault α} {f : α → Except Fault β} {b : β}

/-- A computation in steps succeeds if its first step does and the rest does from there. -/
theorem exists_of_bind_eq_ok (done : (e >>= f) = .ok b) : ∃ a, e = .ok a ∧ f a = .ok b := by
  cases e with
  | error fault => cases done
  | ok a => exact ⟨a, rfl, done⟩

/-- The results of a computation on every element of a list are results on elements of it. -/
theorem exists_of_mem_mapM {xs : List α} {ys : List β} (done : xs.mapM f = .ok ys) :
    ∀ y ∈ ys, ∃ x ∈ xs, f x = .ok y := by
  induction xs generalizing ys with
  | nil =>
    cases done
    exact nofun
  | cons x xs ih =>
    rw [List.mapM_cons] at done
    rcases exists_of_bind_eq_ok done with ⟨y, first, done⟩
    rcases exists_of_bind_eq_ok done with ⟨ys', others, done⟩
    cases done
    intro y' mem
    rcases List.mem_cons.1 mem with rfl | mem
    · exact ⟨x, List.mem_cons_self, first⟩
    · rcases ih others y' mem with ⟨x', memx, result⟩
      exact ⟨x', List.mem_cons_of_mem _ memx, result⟩

theorem of_require {condition : Bool} {what value : String} {u : Unit}
    (passed : require condition what value = .ok u) : condition = true := by
  unfold require at passed
  split at passed
  next holds => exact holds
  next => cases passed

theorem BlockageSpec.of_resolve {numStas : Nat} {spec : BlockageSpec} {blockage : Nat × Time × Time}
    (accepted : spec.resolve numStas = .ok blockage) : 1 ≤ blockage.1 ∧ blockage.1 ≤ numStas := by
  unfold BlockageSpec.resolve at accepted
  split at accepted
  next => cases accepted
  next inside =>
    split at accepted
    next => cases accepted
    next =>
      cases accepted
      omega

/-- What the checks of a scenario document establish. -/
structure Scenario.Accepted (s : Scenario) : Prop where
  stations : s.numStas ≤ maxStations
  blockages : ∀ b ∈ s.blockages, 1 ≤ b.1 ∧ b.1 ≤ s.numStas

theorem ScenarioSpec.accepted_of_resolve {spec : ScenarioSpec} {s : Scenario}
    (resolved : spec.resolve = .ok s) : s.Accepted := by
  unfold ScenarioSpec.resolve at resolved
  obtain ⟨_, stations, resolved⟩ := exists_of_bind_eq_ok resolved
  -- The checks and conversions of the other fields.
  iterate 13 obtain ⟨_, -, resolved⟩ := exists_of_bind_eq_ok resolved
  obtain ⟨blockages, windows, resolved⟩ := exists_of_bind_eq_ok resolved
  obtain ⟨_, -, resolved⟩ := exists_of_bind_eq_ok resolved
  cases resolved
  have few := of_require stations
  simp only [Bool.and_eq_true, decide_eq_true_eq] at few
  constructor
  · exact few.2
  · intro b mem
    rcases exists_of_mem_mapM windows b mem with ⟨window, -, accepted⟩
    exact BlockageSpec.of_resolve accepted

/-- What keeps the events of a scenario apart that ask for themselves again: packets are not empty,
and neither samples nor beacon intervals follow each other at once. -/
structure Scenario.Paced (s : Scenario) : Prop where
  packet : 0 < s.sender.packetBytes
  samples : 0 < s.samplePeriod.nanos
  intervals : 0 < s.beaconInterval.nanos

theorem ScenarioSpec.paced_of_resolve {spec : ScenarioSpec} {s : Scenario}
    (resolved : spec.resolve = .ok s) : s.Paced := by
  unfold ScenarioSpec.resolve at resolved
  iterate 2 obtain ⟨_, -, resolved⟩ := exists_of_bind_eq_ok resolved
  obtain ⟨_, packet, resolved⟩ := exists_of_bind_eq_ok resolved
  iterate 8 obtain ⟨_, -, resolved⟩ := exists_of_bind_eq_ok resolved
  obtain ⟨_, interval, resolved⟩ := exists_of_bind_eq_ok resolved
  obtain ⟨_, -, resolved⟩ := exists_of_bind_eq_ok resolved
  obtain ⟨_, period, resolved⟩ := exists_of_bind_eq_ok resolved
  iterate 2 obtain ⟨_, -, resolved⟩ := exists_of_bind_eq_ok resolved
  cases resolved
  have packet := of_require packet
  have interval := of_require interval
  have period := of_require period
  simp only [Bool.and_eq_true, decide_eq_true_eq] at packet interval period
  refine ⟨packet.1, ?_, ?_⟩
  · show 0 < min (spec.output.samplePeriod * 1000000) lastWord
    unfold lastWord
    omega
  · exact Nat.lt_of_le_of_lt (Nat.zero_le _) interval

/-- Beacon intervals are longer than what comes before data transfer in them. -/
theorem ScenarioSpec.transferOffset_lt_of_resolve {spec : ScenarioSpec} {s : Scenario}
    (resolved : spec.resolve = .ok s) : MacParams.standard.transferOffset < s.beaconInterval := by
  unfold ScenarioSpec.resolve at resolved
  iterate 11 obtain ⟨_, -, resolved⟩ := exists_of_bind_eq_ok resolved
  obtain ⟨_, interval, resolved⟩ := exists_of_bind_eq_ok resolved
  iterate 4 obtain ⟨_, -, resolved⟩ := exists_of_bind_eq_ok resolved
  cases resolved
  exact of_decide_eq_true (of_require interval)

/-- Beacon intervals take whole microseconds. -/
theorem ScenarioSpec.beaconInterval_of_resolve {spec : ScenarioSpec} {s : Scenario}
    (resolved : spec.resolve = .ok s) : s.beaconInterval = .ofMicros spec.mac.beaconInterval := by
  unfold ScenarioSpec.resolve at resolved
  iterate 16 obtain ⟨_, -, resolved⟩ := exists_of_bind_eq_ok resolved
  cases resolved
  rfl

/-- No packet is longer than the longest aggregate. -/
theorem ScenarioSpec.packetBytes_le_of_resolve {spec : ScenarioSpec} {s : Scenario}
    (resolved : spec.resolve = .ok s) : s.sender.packetBytes ≤ maxPacketBytes := by
  unfold ScenarioSpec.resolve at resolved
  iterate 2 obtain ⟨_, -, resolved⟩ := exists_of_bind_eq_ok resolved
  obtain ⟨_, packet, resolved⟩ := exists_of_bind_eq_ok resolved
  iterate 13 obtain ⟨_, -, resolved⟩ := exists_of_bind_eq_ok resolved
  cases resolved
  have packet := of_require packet
  simp only [Bool.and_eq_true, decide_eq_true_eq] at packet
  exact packet.2

/-- Nothing is sent from the simulated time on. -/
theorem ScenarioSpec.stopAt_of_resolve {spec : ScenarioSpec} {s : Scenario}
    (resolved : spec.resolve = .ok s) : s.sender.stopAt = some s.simulationTime := by
  unfold ScenarioSpec.resolve at resolved
  iterate 16 obtain ⟨_, -, resolved⟩ := exists_of_bind_eq_ok resolved
  cases resolved
  rfl

/-- What must not be zero: there is a trace of the channel, a sector in each codebook, and an interval
before a retraining. -/
structure Scenario.Positive (s : Scenario) : Prop where
  traces : 0 < s.numTraces
  apSectors : 0 < s.apSectors
  staSectors : 0 < s.staSectors
  threshold : 0 < s.biThreshold

theorem ScenarioSpec.positive_of_resolve {spec : ScenarioSpec} {s : Scenario}
    (resolved : spec.resolve = .ok s) : s.Positive := by
  unfold ScenarioSpec.resolve at resolved
  iterate 8 obtain ⟨_, -, resolved⟩ := exists_of_bind_eq_ok resolved
  obtain ⟨_, traces, resolved⟩ := exists_of_bind_eq_ok resolved
  obtain ⟨_, sectors, resolved⟩ := exists_of_bind_eq_ok resolved
  iterate 2 obtain ⟨_, -, resolved⟩ := exists_of_bind_eq_ok resolved
  obtain ⟨_, threshold, resolved⟩ := exists_of_bind_eq_ok resolved
  iterate 3 obtain ⟨_, -, resolved⟩ := exists_of_bind_eq_ok resolved
  cases resolved
  have traces := of_require traces
  have sectors := of_require sectors
  have threshold := of_require threshold
  simp only [Bool.and_eq_true, decide_eq_true_eq] at traces sectors threshold
  exact ⟨traces, sectors.1, sectors.2, threshold⟩

theorem ScenarioSpec.biThreshold_of_resolve {spec : ScenarioSpec} {s : Scenario}
    (resolved : spec.resolve = .ok s) : s.biThreshold = spec.mac.biThreshold := by
  unfold ScenarioSpec.resolve at resolved
  iterate 16 obtain ⟨_, -, resolved⟩ := exists_of_bind_eq_ok resolved
  cases resolved
  rfl

end DenseDmg
