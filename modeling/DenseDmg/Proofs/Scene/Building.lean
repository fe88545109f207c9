import DenseDmg.Proofs.Scene.Reports

/-!
# Accepted scenarios can be built

Setting a scene up can fail where an address is registered twice, where a node has two pairs and
where a header cannot be written.  None of that happens for an accepted scenario and streams that do
not fail.

* `DenseRun.exists_build`: the scene is set up, and its stations are those of the scenario.
-/

namespace DenseDmg

/-! ## Headers -/

theorem Stream.Reliable.of_setup_eq {s s' : Stream} (reliable : s.Reliable)
    (same : s'.setup = s.setup) : s'.Reliable :=
  fun n => (congrFun (congrArg Stream.fails same) n).trans (reliable n)

theorem Stream.Reliable.writeLines {s : Stream} (reliable : s.Reliable) (lines : List String) :
    (s.writeLines lines).2 = true := by
  induction lines generalizing s with
  | nil => rfl
  | cons line rest ih =>
    have first := reliable.writeLine line
    have reliable' := reliable.of_setup_eq (s.setup_writeLine line)
    unfold Stream.writeLines
    dsimp only
    rw [if_pos first]
    exact ih reliable'

/-- An experiment begins unless a stream fails. -/
theorem Experiment.exists_start {outputs : Outputs} (reliable : outputs.Reliable)
    (config : ExperimentConfig) (addresses : AddressBook) (pairs : PairRegistry) :
    ∃ x, start config addresses pairs outputs = .ok x := by
  have console := reliable.console.writeLines (if config.csv then [] else tableHeader pairs.size)
  have training := reliable.training.writeLine trainingHeader
  have quality := reliable.quality.writeLine qualityHeader
  unfold start
  dsimp only
  rw [console, training, quality]
  exact ⟨_, rfl⟩

/-! ## Addresses -/

theorem Scenario.addresses_eq (s : Scenario) :
    s.devices.toList.map Device.address =
      (List.range' 0 (s.numStas + 1)).map Network.addressOf := by
  rw [Scenario.devices, List.range'_succ, List.map_cons, List.map_cons, List.map_map,
    List.range'_eq_map_range, List.range'_eq_map_range, List.map_map, List.map_map]
  simp [accessPointDevice, stationDevice, Function.comp_def, Nat.add_comm]

/-- The addresses of a scene are all different. -/
theorem Scenario.Accepted.nodup_addresses {s : Scenario} (accepted : s.Accepted) :
    (s.devices.toList.map Device.address).Nodup := by
  rw [s.addresses_eq]
  have nodes : (List.range' 0 (s.numStas + 1)).Pairwise (· ≠ ·) := List.nodup_range'
  refine List.pairwise_map.2 (nodes.imp_of_mem fun {i j} hi hj other same => other ?_)
  rw [List.mem_range'_1] at hi hj
  exact accepted.addressOf_inj (by omega) (by omega) same

/-! ## The scene -/

namespace DenseRun

variable {s : Scenario} {outputs : Outputs}

/-- The scene of an accepted scenario is set up unless a stream fails. -/
theorem exists_build (accepted : s.Accepted) (reliable : outputs.Reliable) :
    ∃ r, build s outputs = .ok r ∧ r.stations = s.stationNodes := by
  have ap : (emptyNetwork s).addAccessPoint ⟨0.0, 0.0, deviceHeight⟩ s.apSectors =
      ({ emptyNetwork s with devices := #[s.accessPointDevice], accessPoint := some 0 }, 0) := rfl
  obtain ⟨book, booked⟩ : ∃ book,
      AddressBook.ofList (s.devices.toList.map fun d => (d.address, d.node)) = .ok book := by
    refine ⟨_, AddressBook.ofList_eq_ok_iff.2 ⟨?_, rfl⟩⟩
    rw [List.map_map]
    exact accepted.nodup_addresses
  obtain ⟨x, begun⟩ := Experiment.exists_start reliable (experimentConfig s) book s.pairs
  unfold build
  rw [ap]
  simp only [bind, Except.bind, addStations_all, addBlockages_eq, booked]
  rw [installFlows_all _ _ rfl]
  dsimp only
  rw [begun]
  exact ⟨_, rfl, rfl⟩

end DenseRun

end DenseDmg
