import DenseDmg.Dense
import DenseDmg.Proofs.Measurement.Registrations
import DenseDmg.Proofs.World.Setup

/-!
# The scene of a scenario

`DenseRun.build` sets a scene up step by step.  Here the scene is written down in one piece: the
access point is node 0, the station counted `k` from zero is node `k + 1`, and its sender, its sink
and its pair all stand at position `k`.

* `DenseRun.laidOut_of_build`: what `DenseRun.build` returns is this scene.
* `DenseRun.Built`: the scenes of accepted documents, from which every run begins.
-/

namespace DenseDmg

/-! ## The scene in one piece -/

namespace Scenario

def accessPointDevice (s : Scenario) : Device :=
  ⟨0, Network.addressOf 0, .accessPoint, ⟨0.0, 0.0, deviceHeight⟩, s.apSectors, 1,
    Network.addressOf 0, none⟩

/-- The device of the station counted `k` from zero. -/
def stationDevice (s : Scenario) (k : Nat) : Device :=
  ⟨k + 1, Network.addressOf (k + 1), .station, stationPosition k s.numStas s.radius, s.staSectors,
    1, Network.addressOf 0, none⟩

def devices (s : Scenario) : Array Device :=
  (s.accessPointDevice :: (List.range' 0 s.numStas).map s.stationDevice).toArray

/-- The nodes of the stations. -/
def stationNodes (s : Scenario) : List NodeId := List.range' 1 s.numStas

/-- The blockages of the network, each at the node of its station. -/
def networkBlockages (s : Scenario) : List Blockage :=
  s.blockages.filterMap fun (sta, start, finish) =>
    s.stationNodes[sta - 1]?.map fun node => ⟨node, start, finish⟩

/-- The sender of the station counted `k` from zero. -/
def flowSender (config : SenderConfig) (k : Nat) : Sender := .idle (k + 1) 0 k config

/-- The pair of the station counted `k` from zero. -/
def flowPair (k : Nat) : Pair := .idle (k + 1) k k (Network.addressOf (k + 1)) (Network.addressOf 0)

def flows (s : Scenario) : Applications :=
  ⟨((List.range' 0 s.numStas).map (flowSender s.sender)).toArray,
    ((List.range' 0 s.numStas).map fun _ => (⟨0, .zero⟩ : Sink)).toArray⟩

def network (s : Scenario) : Network :=
  { DenseRun.emptyNetwork s with
    devices := s.devices
    accessPoint := some 0
    blockages := .ofList s.networkBlockages
    apps := s.flows }

def pairs (s : Scenario) : PairRegistry := ⟨(List.range' 0 s.numStas).map flowPair⟩

def addressBook (s : Scenario) : AddressBook :=
  ⟨s.devices.toList.map fun d => (d.address, d.node)⟩

/-- What is known of a device when its trainings are subscribed to. -/
def context (d : Device) : MacAddress × TrainingContext := (d.address, ⟨d.node, d.role, d.bssid⟩)

/-- The subscriptions, those of later devices first. -/
def subscriptions (s : Scenario) : List (MacAddress × TrainingContext) :=
  (s.devices.toList.map context).reverse

/-- The simulator that a run begins with. -/
def simulator (s : Scenario) : Simulator NetworkEvent :=
  (Simulator.fresh.schedule .zero (.beaconInterval 0)).schedule s.samplePeriod
    (.sampleDue s.samplePeriod)

/-- At first the first beacon interval is due at once, and the first sample after one period. -/
theorem pending_simulator (s : Scenario) :
    s.simulator.pending =
      [⟨.zero, 0, .beaconInterval 0⟩, ⟨s.samplePeriod, 1, .sampleDue s.samplePeriod⟩] := by
  have later (t : Time) : max t .zero = t := by
    rw [Time.ext_iff, Time.nanos_max]
    exact Nat.max_eq_left (Nat.zero_le _)
  have before : ¬ (⟨s.samplePeriod, 1, .sampleDue s.samplePeriod⟩ : Entry NetworkEvent).Before
      ⟨.zero, 0, .beaconInterval 0⟩ := by
    simp [Entry.Before, Time.lt_def, Time.zero]
  simp only [simulator, Simulator.schedule, Simulator.fresh, Agenda.insert, later, if_neg before,
    Bool.false_eq_true, if_false, Nat.zero_add]

@[simp] theorem size_devices (s : Scenario) : s.devices.size = s.numStas + 1 := by
  simp only [devices, List.size_toArray, List.length_cons, List.length_map, List.length_range']

@[simp] theorem getElem?_devices_zero (s : Scenario) :
    s.devices[0]? = some s.accessPointDevice := by
  simp only [devices, List.getElem?_toArray, List.getElem?_cons_zero]

theorem getElem?_devices_succ (s : Scenario) {k : Nat} (inside : k < s.numStas) :
    s.devices[k + 1]? = some (s.stationDevice k) := by
  simp only [devices, List.getElem?_toArray, List.getElem?_cons_succ, List.getElem?_map,
    List.getElem?_range' inside, Option.map_some, Nat.zero_add, Nat.one_mul]

/-- The devices are the access point and the stations. -/
theorem of_getElem?_devices {s : Scenario} {i : Nat} {d : Device} (at_i : s.devices[i]? = some d) :
    (i = 0 ∧ d = s.accessPointDevice) ∨ ∃ k < s.numStas, i = k + 1 ∧ d = s.stationDevice k := by
  cases i with
  | zero =>
    rw [getElem?_devices_zero] at at_i
    exact .inl ⟨rfl, (Option.some.inj at_i).symm⟩
  | succ k =>
    have inside := (Array.getElem?_eq_some_iff.1 at_i).1
    rw [size_devices] at inside
    rw [getElem?_devices_succ s (Nat.lt_of_succ_lt_succ inside)] at at_i
    exact .inr ⟨k, Nat.lt_of_succ_lt_succ inside, rfl, (Option.some.inj at_i).symm⟩

end Scenario

namespace DenseRun

/-- A run that is ready to begin in the scene of its scenario. -/
structure LaidOut (s : Scenario) (outputs : Outputs) (r : DenseRun) : Prop where
  network : r.world.network = s.network
  pairs : r.world.experiment.pairs = s.pairs
  addresses : r.world.experiment.addresses = s.addressBook
  config : r.world.experiment.config = experimentConfig s
  sampler : r.world.experiment.sampler = ⟨s.samplePeriod, 0⟩
  threshold : r.world.experiment.trigger.threshold = max s.biThreshold 1
  outputs : r.world.experiment.outputs.setup = outputs.setup
  history : r.world.experiment.history = #[]
  subscriptions : r.world.subscriptions = s.subscriptions
  fatal : r.world.fatal = none
  simulator : r.simulator = s.simulator
  stopAt : r.stopAt = s.stopTime

/-! ## Setting the scene up -/

theorem addStations_range' (s : Scenario) (m : Nat) (network : Network) (k : Nat)
    (size : network.devices.size = k + 1) (ap : network.accessPoint = some 0)
    (first : network.devices[0]? = some s.accessPointDevice) :
    addStations s network (List.range' k m) =
      .ok ({ network with
        devices := network.devices ++ ((List.range' k m).map s.stationDevice).toArray },
        List.range' (k + 1) m) := by
  induction m generalizing network k with
  | zero => simp [addStations]
  | succ m ih =>
    rw [List.range'_succ, addStations]
    have added : network.addStation (stationPosition k s.numStas s.radius) s.staSectors =
        .ok ({ network with devices := network.devices.push (s.stationDevice k) }, k + 1) := by
      simp only [Network.addStation, ap, Option.bind_some, first, size]
      rfl
    have later := ih { network with devices := network.devices.push (s.stationDevice k) } (k + 1)
      (by rw [Array.size_push, size]) ap
      (by rw [Array.getElem?_push_lt (by omega)]; rw [← first]; simp [size])
    rw [added]
    dsimp only
    rw [later]
    simp [Except.map, List.range'_succ]

theorem push_append_range' {α : Type} (xs : Array α) (f : Nat → α) (k m : Nat) :
    xs.push (f k) ++ ((List.range' (k + 1) m).map f).toArray =
      xs ++ ((List.range' k (m + 1)).map f).toArray := by
  simp [List.range'_succ]

/-- A flow from every station is installed at the position of the station. -/
theorem installFlows_range' (config : SenderConfig) (m : Nat) (network : Network)
    (registry : PairRegistry) (k : Nat) (senders : network.apps.senders.size = k)
    (sinks : network.apps.sinks.size = k) (below : ∀ p ∈ registry.pairs, p.node ≤ k) :
    installFlows config 0 network registry (List.range' (k + 1) m) =
      .ok ({ network with
        apps := ⟨network.apps.senders ++
            ((List.range' k m).map (Scenario.flowSender config)).toArray,
          network.apps.sinks ++ ((List.range' k m).map fun _ => (⟨0, .zero⟩ : Sink)).toArray⟩ },
        ⟨registry.pairs ++ (List.range' k m).map Scenario.flowPair⟩) := by
  induction m generalizing network registry k with
  | zero => simp [installFlows]
  | succ m ih =>
    have unknown : registry.get? (k + 1) = none := by
      apply List.find?_eq_none.2
      intro p mem
      rw [beq_iff_eq]
      intro same
      have := below p mem
      rw [same] at this
      exact Nat.not_succ_le_self k this
    have registered : registry.register (k + 1) k k (Network.addressOf (k + 1))
        (Network.addressOf 0) = .ok (⟨registry.pairs ++ [Scenario.flowPair k]⟩, registry.size) := by
      rw [PairRegistry.register, unknown]
      rfl
    rw [List.range'_succ, installFlows]
    simp only [Applications.installSink, Applications.installSender, senders, sinks, registered]
    rw [ih _ _ (k + 1)]
    · rw [← push_append_range', ← push_append_range', List.range'_succ]
      simp [Scenario.flowSender]
    · simp [senders]
    · simp [sinks]
    · intro p mem
      rcases List.mem_append.1 mem with old | new
      · exact Nat.le_succ_of_le (below p old)
      · rw [List.mem_singleton.1 new]
        exact Nat.le_refl _

theorem addBlockages_eq (nodes : List NodeId) (network : Network)
    (blockages : List (Nat × Time × Time)) :
    addBlockages nodes network blockages =
      { network with
        blockages := (blockages.filterMap fun (sta, start, finish) =>
          nodes[sta - 1]?.map fun node => ⟨node, start, finish⟩).foldl .enter
            network.blockages } := by
  unfold addBlockages
  induction blockages generalizing network with
  | nil => simp
  | cons blockage rest ih =>
    rcases blockage with ⟨sta, start, finish⟩
    rw [List.foldl_cons, ih]
    cases at_sta : nodes[sta - 1]? with
    | none => simp [at_sta]
    | some node => simp [at_sta, Network.addBlockage]

/-- Subscribing to the trainings of devices adds what is known of them. -/
theorem foldl_subscribe {ds : List Device} {w : World}
    (known : ∀ d ∈ ds, w.network.devices[d.node]? = some d) :
    (ds.map Device.node).foldl World.subscribe w =
      { w with subscriptions := (ds.map Scenario.context).reverse ++ w.subscriptions } := by
  induction ds generalizing w with
  | nil => rfl
  | cons d ds ih =>
    have subscribed : w.subscribe d.node =
        { w with subscriptions := Scenario.context d :: w.subscriptions } := by
      rw [World.subscribe, known d List.mem_cons_self]
      rfl
    rw [List.map_cons, List.foldl_cons, subscribed]
    rw [ih (w := { w with subscriptions := Scenario.context d :: w.subscriptions })
      fun d' mem => known d' (List.mem_cons_of_mem _ mem)]
    simp

theorem threshold_foldl_register (t : RetrainingTrigger) (nodes : List NodeId) :
    (nodes.foldl (fun t sta => t.register (Network.addressOf sta)) t).threshold = t.threshold := by
  induction nodes generalizing t with
  | nil => rfl
  | cons node rest ih => exact (ih _).trans (t.threshold_setCount _ 0)

/-! ## The whole scene -/

theorem addStations_all (s : Scenario) (n : Network) :
    addStations s { n with devices := #[s.accessPointDevice], accessPoint := some 0 }
        (List.range s.numStas) =
      .ok ({ n with devices := s.devices, accessPoint := some 0 }, s.stationNodes) := by
  rw [List.range_eq_range', addStations_range' s s.numStas _ 0 rfl rfl rfl]
  simp [Scenario.devices, Scenario.stationNodes]

theorem installFlows_all (s : Scenario) (n : Network) (bare : n.apps = .empty) :
    installFlows s.sender 0 n .empty s.stationNodes =
      .ok ({ n with apps := s.flows }, s.pairs) := by
  have installed := installFlows_range' s.sender s.numStas n .empty 0 (by rw [bare]; rfl)
    (by rw [bare]; rfl) (by simp [PairRegistry.empty])
  rw [Scenario.stationNodes, installed, bare]
  simp [Scenario.flows, Scenario.pairs, Applications.empty, PairRegistry.empty]

theorem stationNodes_eq (s : Scenario) :
    s.stationNodes = ((List.range' 0 s.numStas).map s.stationDevice).map Device.node := by
  rw [List.map_map, Scenario.stationNodes, List.range'_eq_map_range, List.range_eq_range']
  apply List.map_congr_left
  intro k _
  simp [Scenario.stationDevice, Nat.add_comm]

theorem subscribed_all (s : Scenario) (x : Experiment) :
    s.stationNodes.foldl World.subscribe ((World.ofNetwork s.network x).subscribe 0) =
      ⟨s.network, x, s.subscriptions, none⟩ := by
  have ap : (World.ofNetwork s.network x).subscribe 0 =
      ⟨s.network, x, [Scenario.context s.accessPointDevice], none⟩ := by
    simp only [World.subscribe, World.ofNetwork, Scenario.network, s.getElem?_devices_zero]
    rfl
  rw [ap, stationNodes_eq, foldl_subscribe]
  · simp [Scenario.subscriptions, Scenario.devices]
  · intro d mem
    rcases List.mem_map.1 mem with ⟨k, inside, rfl⟩
    rw [List.mem_range'_1] at inside
    exact s.getElem?_devices_succ (by omega)

/-- What is built is the scene of the scenario, around an experiment that has begun. -/
theorem exists_start_of_build {s : Scenario} {outputs : Outputs} {r : DenseRun}
    (built : build s outputs = .ok r) :
    ∃ x, Experiment.start (experimentConfig s) s.addressBook s.pairs outputs = .ok x ∧
      r = ⟨s.simulator,
        ⟨s.network,
          { x with
            trigger := s.stationNodes.foldl (fun t sta => t.register (Network.addressOf sta))
              x.trigger },
          s.subscriptions, none⟩, 0, s.stationNodes, s.simulationTime, s.stopTime⟩ := by
  have ap : (emptyNetwork s).addAccessPoint ⟨0.0, 0.0, deviceHeight⟩ s.apSectors =
      ({ emptyNetwork s with devices := #[s.accessPointDevice], accessPoint := some 0 }, 0) := rfl
  unfold build at built
  rw [ap] at built
  simp only [bind, Except.bind, addStations_all, addBlockages_eq] at built
  split at built
  next => cases built
  next book booked =>
    have known : book = s.addressBook := (AddressBook.ofList_eq_ok_iff.1 booked).2
    rw [installFlows_all _ _ rfl, known] at built
    dsimp only at built
    split at built
    next => cases built
    next x begun =>
      simp only [pure, Except.pure, Except.ok.injEq] at built
      refine ⟨x, begun, built.symm.trans ?_⟩
      exact congrArg (DenseRun.mk s.simulator · 0 s.stationNodes s.simulationTime s.stopTime)
        (subscribed_all s _)

/-- What is built is the scene of the scenario. -/
theorem laidOut_of_build {s : Scenario} {outputs : Outputs} {r : DenseRun}
    (built : build s outputs = .ok r) : LaidOut s outputs r := by
  obtain ⟨x, begun, rfl⟩ := exists_start_of_build built
  obtain ⟨config, addresses, pairs, sampler, trigger, outputs', history⟩ :=
    Experiment.of_start begun
  exact {
    network := rfl
    pairs := pairs
    addresses := addresses
    config := config
    sampler := sampler
    threshold := by
      dsimp only
      rw [threshold_foldl_register, trigger]
      rfl
    outputs := outputs'
    history := history
    subscriptions := rfl
    fatal := rfl
    simulator := rfl
    stopAt := rfl }

/-- A run that begins in the scene of an accepted document. -/
structure Built (spec : ScenarioSpec) (s : Scenario) (outputs : Outputs) (r : DenseRun) : Prop where
  accepted : spec.resolve = .ok s
  built : build s outputs = .ok r

theorem Built.laidOut {spec : ScenarioSpec} {s : Scenario} {outputs : Outputs} {r : DenseRun}
    (run : Built spec s outputs r) : LaidOut s outputs r :=
  laidOut_of_build run.built

end DenseRun

end DenseDmg
