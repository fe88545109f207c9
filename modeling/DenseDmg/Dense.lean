import DenseDmg.Scenario.Resolve
import DenseDmg.World

/-!
# The dense scene

One access point in the middle of a room, stations evenly spread on a circle around it, and one
flow of traffic from every station to the access point.  `DenseRun.build` sets the scene up from a
scenario, `DenseRun.run` plays it to its end and writes the report.
-/

namespace DenseDmg

/-- How far all devices are above the floor, in metres. -/
def deviceHeight : Float := 1.5

/-- Where the `k`-th of `n` stations stands, counted from zero: the first one straight ahead, the
others at equal angles from one to the next. -/
def stationPosition (k n : Nat) (radius : Float) : Position :=
  let angle := pi / 2.0 + 2.0 * pi * countFloat k / countFloat (max n 1)
  ⟨radius * angle.cos, radius * angle.sin, deviceHeight⟩

structure DenseRun where
  simulator : Simulator NetworkEvent
  world : World
  accessPoint : NodeId
  stations : List NodeId
  simulationTime : Time
  stopAt : Time
deriving Inhabited

namespace DenseRun

/-! ## Setting up -/

/-- The network of a scenario before its stations are added. -/
def emptyNetwork (s : Scenario) : Network :=
  .empty ⟨s.numTraces, s.tracePeriod, s.txPower, 10.0⟩ s.phy
    { MacParams.standard with beaconInterval := s.beaconInterval }

/-- Add the given stations of a scene, and list their nodes. -/
def addStations (s : Scenario) : Network → List Nat → Except Fault (Network × List NodeId)
  | network, [] => .ok (network, [])
  | network, k :: rest =>
    match network.addStation (stationPosition k s.numStas s.radius) s.staSectors with
    | .error f => .error f
    | .ok (network, node) =>
      (addStations s network rest).map fun (network, nodes) => (network, node :: nodes)

/-- Enter the blockages of a scenario, each at the node of its station. -/
def addBlockages (stations : List NodeId) (network : Network)
    (blockages : List (Nat × Time × Time)) : Network :=
  blockages.foldl (fun network (sta, start, finish) =>
    match stations[sta - 1]? with
    | some node => network.addBlockage ⟨node, start, finish⟩
    | none => network) network

/-- Install a flow from each of the given stations to the access point, with a sink of its own,
and register the communicating pair. -/
def installFlows (config : SenderConfig) (ap : NodeId) :
    Network → PairRegistry → List NodeId → Except Fault (Network × PairRegistry)
  | network, pairs, [] => .ok (network, pairs)
  | network, pairs, sta :: rest =>
    let (apps, sink) := network.apps.installSink ap
    let (apps, sender) := apps.installSender sta ap sink config
    let network := { network with apps := apps }
    match pairs.register sta sender sink (Network.addressOf sta) (Network.addressOf ap) with
    | .error f => .error f
    | .ok (pairs, _) => installFlows config ap network pairs rest

/-- What a scenario asks of the experiment. -/
def experimentConfig (s : Scenario) : ExperimentConfig :=
  ⟨s.biThreshold, s.csv, s.reportDataSnr, s.samplePeriod⟩

/-- The scene of a scenario, ready to run: the first beacon interval is due at once and the first
sample after one period. -/
def build (s : Scenario) (outputs : Outputs) : Except Fault DenseRun := do
  let (network, ap) := (emptyNetwork s).addAccessPoint ⟨0.0, 0.0, deviceHeight⟩ s.apSectors
  let (network, stations) ← addStations s network (List.range s.numStas)
  let network := addBlockages stations network s.blockages
  let addresses ← AddressBook.ofList (network.devices.toList.map fun d => (d.address, d.node))
  let (network, pairs) ← installFlows s.sender ap network .empty stations
  let experiment ← Experiment.start (experimentConfig s) addresses pairs outputs
  let trigger := stations.foldl
    (fun t sta => t.register (Network.addressOf sta)) experiment.trigger
  let world := World.ofNetwork network { experiment with trigger := trigger }
  let world := stations.foldl World.subscribe (world.subscribe ap)
  let simulator := (Simulator.fresh.schedule .zero (.beaconInterval 0)).schedule s.samplePeriod
    (.sampleDue s.samplePeriod)
  return ⟨simulator, world, ap, stations, s.simulationTime, s.stopTime⟩

/-! ## Running -/

/-- The result of a run whose event loop has ended: the first fault, or the figures, which are
also written as a report. -/
def conclude (r : DenseRun) : World × Except Fault Summary :=
  match r.world.fatal with
  | some f => ({ r.world with fatal := none }, .error f)
  | none =>
    let summary := { r.world.summary r.simulationTime with eventsExecuted := r.simulator.executed }
    let (experiment, answer) := r.world.experiment.finish summary
    ({ r.world with experiment := experiment }, answer.map fun _ => summary)

/-- Run to the end.  `none` if that takes more than `fuel` events. -/
def run (fuel : Nat) (r : DenseRun) : Option (World × Except Fault Summary) :=
  (Simulator.runUntil World.behaviour r.stopAt fuel r.simulator r.world).map fun (s, w) =>
    { r with simulator := s, world := w }.conclude

end DenseRun

end DenseDmg
