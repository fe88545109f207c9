import DenseDmg.Proofs.Engine.Order
import DenseDmg.Proofs.Network.Numbering
import DenseDmg.Proofs.Scene.Layout
import DenseDmg.Proofs.World.Effects

/-!
# The wiring of reached worlds

A run changes nothing about the setup of its world, so in every world that it reaches the devices,
senders and pairs are those of the scene, each at its position: `World.InScene`.  The other
modules take what they need to know about the scene from here.

* `DenseRun.Built.inScene`: every reached world is in the scene of its scenario.
* `InScene.exists_device`, `InScene.exists_pair`, `InScene.exists_sender`: what belongs to a
  station.
* `Lone.history`: the first events of a scene with one station.
-/

namespace DenseDmg

/-- The scene of a scenario before anything has happened in it. -/
def Scenario.scene (s : Scenario) (outputs : Outputs) : World where
  network := s.network
  experiment :=
    ⟨DenseRun.experimentConfig s, s.addressBook, s.pairs, ⟨s.samplePeriod, 0⟩,
      ⟨max s.biThreshold 1, [], 0⟩, outputs.setup, #[]⟩
  subscriptions := s.subscriptions
  fatal := none

/-- A world that was set up as the scene of a scenario. -/
def World.InScene (s : Scenario) (outputs : Outputs) (w : World) : Prop :=
  w.setup = s.scene outputs

namespace DenseRun

variable {spec : ScenarioSpec} {s : Scenario} {outputs : Outputs} {r : DenseRun}

theorem LaidOut.inScene (run : LaidOut s outputs r) : r.world.InScene s outputs := by
  have pairs : s.pairs.setup = s.pairs := by
    simp only [PairRegistry.setup, Scenario.pairs, List.map_map]
    rfl
  have flows : s.flows.setup = s.flows := by
    simp only [Applications.setup, Scenario.flows, List.map_toArray, List.map_map]
    rfl
  have devices : s.devices.map Device.setup = s.devices := by
    simp only [Scenario.devices, List.map_toArray, List.map_cons, List.map_map]
    rfl
  have network : s.network.setup = s.network := by
    unfold Network.setup
    rw [show s.network.devices = s.devices from rfl, devices,
      show s.network.apps = s.flows from rfl, flows]
    rfl
  unfold World.InScene World.setup Experiment.setup
  rw [run.network, network, run.pairs, pairs, run.addresses, run.config, run.sampler,
    run.threshold, run.outputs, run.subscriptions]
  rfl

end DenseRun

/-- No history changes the setup of its world. -/
theorem History.setup_eq {s₀ s : Simulator NetworkEvent} {w₀ w : World}
    {ms : List (Moment NetworkEvent World)} (history : History World.behaviour s₀ w₀ ms s w) :
    w.setup = w₀.setup := by
  induction history with
  | start => rfl
  | execute _ _ ih => exact (World.setup_act ..).trans ih
  | settle _ _ _ ih => exact ih

theorem DenseRun.Built.inScene {spec : ScenarioSpec} {s : Scenario} {outputs : Outputs}
    {r : DenseRun} {sim : Simulator NetworkEvent} {w : World}
    {ms : List (Moment NetworkEvent World)} (run : Built spec s outputs r)
    (history : History World.behaviour r.simulator r.world ms sim w) : w.InScene s outputs :=
  history.setup_eq.trans run.laidOut.inScene

/-! ## The simulator -/

namespace DenseRun

variable {spec : ScenarioSpec} {s : Scenario} {outputs : Outputs} {r : DenseRun}
  {sim : Simulator NetworkEvent} {w : World} {ms : List (Moment NetworkEvent World)}

theorem LaidOut.inOrder (run : LaidOut s outputs r) : r.simulator.InOrder := by
  rw [run.simulator]
  exact (Simulator.InOrder.fresh.schedule ..).schedule ..

theorem LaidOut.not_halted (run : LaidOut s outputs r) : r.world.halted = false := by
  rw [World.halted, run.fatal]
  rfl

theorem Built.inOrder (run : Built spec s outputs r)
    (history : History World.behaviour r.simulator r.world ms sim w) : sim.InOrder :=
  history.inOrder run.laidOut.inOrder

/-- Events are executed in sound worlds only. -/
theorem Built.sound_of_pending (run : Built spec s outputs r)
    (history : History World.behaviour r.simulator r.world ms sim w)
    {entry : Entry NetworkEvent} {rest : List (Entry NetworkEvent)}
    (pending : sim.pending = entry :: rest) : w.fatal = none := by
  have running := history.not_halted run.laidOut.inOrder run.laidOut.not_halted pending
  cases fatal : w.fatal with
  | none => rfl
  | some f =>
    rw [show World.behaviour.halted w = w.halted from rfl, World.halted, fatal] at running
    cases running

/-- Executing an event without a fault takes it off the agenda and adds what it asks for. -/
theorem Built.perm_pending (run : Built spec s outputs r)
    (history : History World.behaviour r.simulator r.world ms sim w)
    {entry : Entry NetworkEvent} {rest : List (Entry NetworkEvent)}
    (pending : sim.pending = entry :: rest) (sound : (w.act entry.due entry.event).1.fatal = none) :
    (sim.step World.behaviour entry rest w).1.pending.Perm
      (Request.entries entry.due sim.nextSeq (w.act entry.due entry.event).2 ++ rest) := by
  refine Simulator.perm_pending_step ((run.inOrder history).running pending)
    World.schedules_of_mem_act ?_
  show ((w.act entry.due entry.event).1.fatal).isSome = false
  rw [sound]
  rfl

/-- The worlds of a run that is not stopped are sound. -/
theorem Built.sound_of_running (run : Built spec s outputs r)
    (history : History World.behaviour r.simulator r.world ms sim w)
    (running : sim.stopped = false) : w.fatal = none := by
  cases fatal : w.fatal with
  | none => rfl
  | some f =>
    have halted : World.behaviour.halted w = true := by
      rw [show World.behaviour.halted w = w.halted from rfl, World.halted, fatal]
      rfl
    rw [history.stopped_of_halted run.laidOut.not_halted halted] at running
    cases running

end DenseRun

namespace World.InScene

variable {s : Scenario} {outputs : Outputs} {w : World}

/-! ## Devices -/

theorem map_devices (scene : w.InScene s outputs) :
    w.network.devices.map Device.setup = s.devices :=
  congrArg (·.network.devices) scene

theorem accessPoint (scene : w.InScene s outputs) : w.network.accessPoint = some 0 :=
  congrArg (·.network.accessPoint) scene

theorem blockages (scene : w.InScene s outputs) :
    w.network.blockages = .ofList s.networkBlockages :=
  congrArg (·.network.blockages) scene

theorem mac (scene : w.InScene s outputs) :
    w.network.mac = { MacParams.standard with beaconInterval := s.beaconInterval } :=
  congrArg (·.network.mac) scene

theorem size_devices (scene : w.InScene s outputs) : w.network.devices.size = s.numStas + 1 := by
  rw [← s.size_devices, ← scene.map_devices, Array.size_map]

theorem getElem?_setup (scene : w.InScene s outputs) (i : Nat) :
    w.network.devices[i]?.map Device.setup = s.devices[i]? := by
  rw [← Array.getElem?_map, scene.map_devices]

/-- The device at node 0 is the access point. -/
theorem exists_accessPoint (scene : w.InScene s outputs) :
    ∃ d, w.network.devices[0]? = some d ∧ d.setup = s.accessPointDevice := by
  have at_zero := scene.getElem?_setup 0
  rw [s.getElem?_devices_zero] at at_zero
  exact Option.map_eq_some_iff.1 at_zero

/-- The device at node `k + 1` is the station counted `k` from zero. -/
theorem exists_device (scene : w.InScene s outputs) {k : Nat} (inside : k < s.numStas) :
    ∃ d, w.network.devices[k + 1]? = some d ∧ d.setup = s.stationDevice k := by
  have at_k := scene.getElem?_setup (k + 1)
  rw [s.getElem?_devices_succ inside] at at_k
  exact Option.map_eq_some_iff.1 at_k

/-- A device is the access point or a station, and stands at its node. -/
theorem of_getElem? (scene : w.InScene s outputs) {i : Nat} {d : Device}
    (at_i : w.network.devices[i]? = some d) :
    (i = 0 ∧ d.setup = s.accessPointDevice) ∨
      ∃ k < s.numStas, i = k + 1 ∧ d.setup = s.stationDevice k := by
  have setup := scene.getElem?_setup i
  rw [at_i] at setup
  exact Scenario.of_getElem?_devices setup.symm

/-- The devices of a scene are numbered, the access point being the first. -/
theorem numbered (scene : w.InScene s outputs) : w.network.Numbered where
  device i d at_i := by
    rw [Network.made, ← Array.toList_map, scene.map_devices, Array.getElem?_toList] at at_i
    rcases Scenario.of_getElem?_devices at_i with ⟨rfl, rfl⟩ | ⟨k, -, rfl, rfl⟩
    · exact ⟨rfl, rfl⟩
    · exact ⟨rfl, rfl⟩
  accessPoint ap current := by
    rw [scene.accessPoint] at current
    cases current
    rw [Network.length_made, scene.size_devices]
    exact Nat.succ_pos _

theorem node_eq (scene : w.InScene s outputs) {i : Nat} {d : Device}
    (at_i : w.network.devices[i]? = some d) : d.node = i :=
  (scene.numbered.of_getElem? at_i).1

theorem mem_stations (scene : w.InScene s outputs) {d : Device} (mem : d ∈ w.network.stations) :
    w.network.devices[d.node]? = some d ∧
      ∃ k < s.numStas, d.node = k + 1 ∧ d.setup = s.stationDevice k := by
  obtain ⟨mem, role⟩ := List.mem_filter.1 mem
  obtain ⟨i, at_i⟩ := Array.mem_iff_getElem?.1 (Array.mem_toList_iff.1 mem)
  rcases scene.of_getElem? at_i with ⟨rfl, setup⟩ | ⟨k, inside, rfl, setup⟩
  · have ap : d.role = .accessPoint := congrArg Device.role setup
    rw [ap] at role
    cases role
  · have node := scene.node_eq at_i
    exact ⟨node ▸ at_i, k, inside, node, setup⟩

theorem map_stations (scene : w.InScene s outputs) :
    w.network.stations.map Device.setup = (List.range' 0 s.numStas).map s.stationDevice := by
  have all := congrArg Array.toList scene.map_devices
  rw [Array.toList_map, Scenario.devices] at all
  have stations : w.network.stations.map Device.setup =
      (w.network.devices.toList.map Device.setup).filter fun d => d.role == .station :=
    (List.filter_map (f := Device.setup) (p := fun d => d.role == .station)).symm
  rw [stations, all]
  refine (List.filter_cons_of_neg (by simp [Scenario.accessPointDevice])).trans ?_
  apply List.filter_eq_self.2
  intro d mem
  obtain ⟨k, -, rfl⟩ := List.mem_map.1 mem
  rfl

theorem map_node_stations (scene : w.InScene s outputs) :
    w.network.stations.map Device.node = s.stationNodes := by
  rw [DenseRun.stationNodes_eq, ← scene.map_stations, List.map_map]
  rfl

theorem bounds_of_mem_stations (scene : w.InScene s outputs) {d : Device}
    (mem : d ∈ w.network.stations) : 1 ≤ d.node ∧ d.node ≤ s.numStas := by
  obtain ⟨-, k, inside, node, -⟩ := scene.mem_stations mem
  rw [node]
  exact ⟨Nat.le_add_left .., inside⟩

theorem length_stations (scene : w.InScene s outputs) : w.network.stations.length = s.numStas := by
  have length := congrArg List.length scene.map_node_stations
  rwa [List.length_map, Scenario.stationNodes, List.length_range'] at length

theorem nodup_stations (scene : w.InScene s outputs) :
    (w.network.stations.map Device.node).Nodup := by
  rw [scene.map_node_stations]
  exact List.nodup_range'

theorem mem_map_node_stations (scene : w.InScene s outputs) {k : Nat} (inside : k < s.numStas) :
    k + 1 ∈ w.network.stations.map Device.node := by
  rw [scene.map_node_stations, Scenario.stationNodes, List.mem_range'_1]
  omega

/-! ## Pairs and senders -/

theorem map_pairs (scene : w.InScene s outputs) :
    w.experiment.pairs.pairs.map Pair.setup = (List.range' 0 s.numStas).map Scenario.flowPair :=
  congrArg (·.experiment.pairs.pairs) scene

theorem map_senders (scene : w.InScene s outputs) :
    w.network.apps.senders.map Sender.setup = s.flows.senders :=
  congrArg (·.network.apps.senders) scene

theorem getElem?_pairs_setup (scene : w.InScene s outputs) (i : Nat) :
    w.experiment.pairs.pairs[i]?.map Pair.setup =
      if i < s.numStas then some (Scenario.flowPair i) else none := by
  rw [← List.getElem?_map, scene.map_pairs, List.getElem?_map]
  split
  next inside => simp [List.getElem?_range' inside]
  next outside =>
    rw [List.getElem?_eq_none (by simpa using Nat.le_of_not_lt outside)]
    rfl

theorem of_getElem?_pairs (scene : w.InScene s outputs) {i : Nat} {p : Pair}
    (at_i : w.experiment.pairs.pairs[i]? = some p) :
    i < s.numStas ∧ p.setup = Scenario.flowPair i := by
  have setup := scene.getElem?_pairs_setup i
  rw [at_i] at setup
  split at setup
  next inside => exact ⟨inside, Option.some.inj setup⟩
  next => cases setup

/-- A pair belongs to a station and stands, with its sender, at the position of the station. -/
theorem of_mem_pairs (scene : w.InScene s outputs) {p : Pair}
    (mem : p ∈ w.experiment.pairs.pairs) :
    ∃ k < s.numStas, w.experiment.pairs.pairs[k]? = some p ∧ p.node = k + 1 ∧ p.sender = k ∧
      p.sink = k := by
  obtain ⟨k, at_k⟩ := List.mem_iff_getElem?.1 mem
  obtain ⟨inside, setup⟩ := scene.of_getElem?_pairs at_k
  exact ⟨k, inside, at_k, congrArg Pair.node setup, congrArg Pair.sender setup,
    congrArg Pair.sink setup⟩

/-- No two pairs belong to one node. -/
theorem pair_eq_of_node_eq (scene : w.InScene s outputs) {p q : Pair}
    (memp : p ∈ w.experiment.pairs.pairs) (memq : q ∈ w.experiment.pairs.pairs)
    (same : p.node = q.node) : p = q := by
  obtain ⟨i, _, at_i, nodei, _⟩ := scene.of_mem_pairs memp
  obtain ⟨j, _, at_j, nodej, _⟩ := scene.of_mem_pairs memq
  rw [nodei, nodej] at same
  cases Nat.succ.inj same
  exact Option.some.inj (at_i.symm.trans at_j)

/-- Every station has a pair. -/
theorem exists_pair (scene : w.InScene s outputs) {k : Nat} (inside : k < s.numStas) :
    ∃ p ∈ w.experiment.pairs.pairs, p.node = k + 1 ∧ p.sender = k ∧
      w.experiment.pairs.get? (k + 1) = some p := by
  have setup := scene.getElem?_pairs_setup k
  rw [if_pos inside] at setup
  obtain ⟨p, at_k, setup⟩ := Option.map_eq_some_iff.1 setup
  have mem := List.mem_of_getElem? at_k
  have node : p.node = k + 1 := congrArg Pair.node setup
  refine ⟨p, mem, node, congrArg Pair.sender setup, ?_⟩
  cases found : w.experiment.pairs.get? (k + 1) with
  | none =>
    have none := List.find?_eq_none.1 found p mem
    rw [beq_iff_eq] at none
    exact absurd node none
  | some q =>
    rcases PairRegistry.of_get? found with ⟨memq, nodeq⟩
    rw [scene.pair_eq_of_node_eq mem memq (node.trans nodeq.symm)]

/-- The sender of the station counted `k` from zero. -/
theorem exists_sender (scene : w.InScene s outputs) {k : Nat} (inside : k < s.numStas) :
    ∃ sd, w.network.apps.senders[k]? = some sd ∧ sd.setup = Scenario.flowSender s.sender k := by
  have at_k := congrArg (·[k]?) scene.map_senders
  simp only [Array.getElem?_map, Scenario.flows, List.getElem?_toArray, List.getElem?_map,
    List.getElem?_range' inside, Nat.zero_add, Nat.one_mul, Option.map_some] at at_k
  exact Option.map_eq_some_iff.1 at_k

theorem of_getElem?_senders (scene : w.InScene s outputs) {k : Nat} {sd : Sender}
    (at_k : w.network.apps.senders[k]? = some sd) : k < s.numStas := by
  have size := congrArg Array.size scene.map_senders
  rw [Array.size_map] at size
  have inside := (Array.getElem?_eq_some_iff.1 at_k).1
  rw [size] at inside
  simpa [Scenario.flows] using inside

end World.InScene

/-! ## A station on its own -/

/-- Beacons of a sweep over one sector take one frame each. -/
theorem World.beaconRequests_of_sectors {mac : MacParams} {ap d : Device} {now : Time}
    (one : ap.sectors = 1) :
    World.beaconRequests mac ap now [d] =
      [.atTime (now + mac.sweepFrame.repeatedWord 1) (.controlFrame ap.node d.node .beacon)] := by
  simp [World.beaconRequests, Network.bestSector, Channel.bestSector, one]

/-- What a beacon interval asks for in which a lone station is trained and associates. -/
def World.soloRequests (mac : MacParams) (ap d : Device) (index : Nat) (now : Time) :
    List NetworkRequest :=
  [.atTime (now + mac.sweepFrame.repeatedWord 1) (.controlFrame ap.node d.node .beacon)] ++
    slotRequests mac ap.node (now + mac.bti) 0 d ++
    [.atTime (now + mac.transferOffset) (.transferInterval mac.transferDuration),
      .atTime (now + mac.transferOffset + mac.assocDelay.repeatedWord 1)
        (.associationComplete d.node),
      .atTime (now + mac.beaconInterval) (.beaconInterval (index + 1))]

/-- A lone station that is within reach and not associated is trained. -/
theorem World.beginInterval_solo {w : World} {ap d : Device} {node : NodeId} {now : Time}
    (accessPoint : w.network.accessPoint = some node)
    (at_node : w.network.devices[node]? = some ap) (stations : w.network.stations = [d])
    (one : ap.sectors = 1) (slots : 0 < w.network.mac.abftSlots)
    (up : w.network.linkUp ap.node d.node now = true) (apart : d.isAssociated = false)
    (index : Nat) :
    w.beginInterval index now = (w, soloRequests w.network.mac ap d index now) := by
  have keeps : [d].foldl (loseStation now) w = w := by simp [loseStation, apart]
  have reachable : [d].filter (fun d => w.network.linkUp ap.node d.node now) = [d] := by simp [up]
  have trained : ([d].filter fun d => !d.isAssociated).take w.network.mac.abftSlots = [d] := by
    rw [List.filter_cons_of_pos (by simp [apart]), List.filter_nil,
      List.take_of_length_le slots]
  unfold beginInterval
  rw [accessPoint, Option.bind_some, at_node]
  dsimp only
  rw [stations, keeps, stations, reachable, trained, beaconRequests_of_sectors one]
  rfl

namespace Lone

/-- One station, that is cut off from one to two milliseconds. -/
def spec : ScenarioSpec :=
  { numStas := 1
    channel := { apSectors := 1, staSectors := 1 }
    output := { csv := true }
    blockages := [⟨1, 1, 2⟩] }

def scenario : Scenario :=
  match spec.resolve with
  | .ok s => s
  | .error _ => default

def outputs : Outputs := ⟨.fresh "console", .fresh "sls", .fresh "snr"⟩

def run : DenseRun :=
  match DenseRun.build scenario outputs with
  | .ok r => r
  | .error _ => default

theorem built : DenseRun.Built spec scenario outputs run := ⟨rfl, rfl⟩

/-- What the first beacon interval asks for.  The slot is over while the station is cut off. -/
def requests : List NetworkRequest :=
  [.atTime (.ofMicros 16) (.controlFrame 0 1 .beacon),
    .atTime (.ofMicros 816) (.controlFrame 1 0 .sectorSweep),
    .atTime (.ofMicros 1034) (.controlFrame 0 1 .sweepFeedback),
    .atTime (.ofMicros 1050) (.trainingDone 0 1 .associationTraining),
    .atTime (.ofMicros 2800) (.transferInterval (.ofMicros 99600)),
    .atTime (.ofMicros 2850) (.associationComplete 1),
    .atTime (.ofMicros 102400) (.beaconInterval 1)]

theorem beginInterval : run.world.beginInterval 0 .zero = (run.world, requests) := by
  have at_zero : run.world.network.devices[0]? = some scenario.accessPointDevice := by rfl
  have stations : run.world.network.stations = [scenario.stationDevice 0] := by rfl
  have up : run.world.network.linkUp 0 1 .zero = true := by rfl
  exact World.beginInterval_solo rfl at_zero stations rfl (by decide) up rfl 0

/-- The first event of the run. -/
def start : Moment NetworkEvent World :=
  ⟨run.simulator, run.world, ⟨.zero, 0, .beaconInterval 0⟩,
    [⟨scenario.samplePeriod, 1, .sampleDue scenario.samplePeriod⟩]⟩

/-- The simulator after the first event, which leaves the world as it is. -/
def simulator : Simulator NetworkEvent :=
  requests.foldl .serve (run.simulator.taking start.entry start.rest)

/-- The first `n + 1` events of the run, the latest one first. -/
def moments (n : Nat) : List (Moment NetworkEvent World) :=
  (Simulator.replay World.behaviour n simulator run.world).1 ++ [start]

/-- The simulator after the first `n + 1` events. -/
def agenda (n : Nat) : Simulator NetworkEvent :=
  (Simulator.replay World.behaviour n simulator run.world).2.1

/-- The world after the first `n + 1` events. -/
def world (n : Nat) : World := (Simulator.replay World.behaviour n simulator run.world).2.2

theorem step_start : run.simulator.step World.behaviour start.entry start.rest run.world =
    (simulator, run.world) := by
  have acted : World.behaviour.act (run.simulator.taking start.entry start.rest) start.entry.event
      run.world = (run.world, requests) := beginInterval
  exact Simulator.step_of_act acted rfl

theorem history (n : Nat) :
    History World.behaviour run.simulator run.world (moments n) (agenda n) (world n) := by
  have pending : run.simulator.pending = start.entry :: start.rest := by rfl
  have first : History World.behaviour run.simulator run.world _ _ _ := .execute .start pending
  rw [step_start] at first
  dsimp only at first
  exact first.trans (History.of_replay World.behaviour n simulator run.world)

end Lone

end DenseDmg
