import DenseDmg.Proofs.Scenario.Accepted
import DenseDmg.Proofs.Scene.Wiring

/-!
# Reports of trainings

Every address that a report of a training names is known in the scene of an accepted scenario, and
each belongs to one device.  So a training that is over with its link up is logged at both ends,
unless a stream fails.

* `InScene.of_reportTraining`: what one end reports, and the record of it.
* `InScene.endTraining`: the two records of a training.
-/

namespace DenseDmg

/-! ## Streams that do not fail -/

def Stream.Reliable (s : Stream) : Prop := ∀ n, s.fails n = false

/-- No operation fails on any of the streams. -/
structure Outputs.Reliable (o : Outputs) : Prop where
  console : o.console.Reliable
  training : o.training.Reliable
  quality : o.quality.Reliable

theorem Lone.reliable : Lone.outputs.Reliable := ⟨fun _ => rfl, fun _ => rfl, fun _ => rfl⟩

theorem Stream.Reliable.writeLine {s : Stream} (reliable : s.Reliable) (line : String) :
    (s.writeLine line).2 = true := by
  rw [Stream.writeLine, reliable]
  rfl

theorem World.InScene.reliable {s : Scenario} {outputs : Outputs} {w : World}
    (scene : w.InScene s outputs) (reliable : outputs.Reliable) :
    w.experiment.outputs.Reliable where
  console n := (congrFun (congrArg (·.experiment.outputs.console.fails) scene) n).trans
    (reliable.console n)
  training n := (congrFun (congrArg (·.experiment.outputs.training.fails) scene) n).trans
    (reliable.training n)
  quality n := (congrFun (congrArg (·.experiment.outputs.quality.fails) scene) n).trans
    (reliable.quality n)

namespace Experiment

variable {x : Experiment}

theorem notify_of_reliable (reliable : x.outputs.Reliable) (notice : String) :
    (x.notify notice).2 = true := by
  unfold notify
  split
  · rfl
  · exact reliable.console.writeLine notice

@[simp] theorem history_notify (x : Experiment) (notice : String) :
    (x.notify notice).1.history = x.history := by
  unfold notify
  split <;> rfl

theorem logTraining_of_reliable (reliable : x.outputs.Reliable) (record : TrainingRecord) :
    (x.logTraining record).2 = true ∧
      (x.logTraining record).1.history = x.history.push (.training record) ∧
      (x.logTraining record).1.outputs.Reliable := by
  have ok := reliable.training.writeLine record.text
  unfold logTraining remember
  dsimp only
  rw [ok, if_pos rfl]
  refine ⟨rfl, rfl, reliable.console, fun n => ?_, reliable.quality⟩
  rw [← reliable.training n]
  dsimp only
  unfold Stream.writeLine
  split <;> rfl

/-- A training whose addresses are registered is logged unless a stream fails. -/
theorem onTrainingCompleted_of_reliable (reliable : x.outputs.Reliable) {event : TrainingCompleted}
    {traceIndex : Nat} {now : Time} {record : TrainingRecord}
    (known : x.trainingRecord event traceIndex now = .ok record) :
    (x.onTrainingCompleted event traceIndex now).answer = .ok record ∧
      (x.onTrainingCompleted event traceIndex now).experiment.history =
        x.history.push (.training record) := by
  obtain ⟨ok, history, reliable'⟩ := logTraining_of_reliable reliable record
  have told := notify_of_reliable reliable' event.notice
  unfold onTrainingCompleted
  rw [known]
  dsimp only
  rw [ok, told]
  exact ⟨rfl, (history_notify ..).trans history⟩

end Experiment

/-! ## Addresses -/

/-- A key of which there is only one is found. -/
theorem lookup_map_of_mem {α κ β : Type} [BEq κ] [LawfulBEq κ] (key : α → κ) (value : α → β)
    {xs : List α} {x : α} (distinct : ∀ y ∈ xs, key y = key x → y = x) (mem : x ∈ xs) :
    (xs.map fun y => (key y, value y)).lookup (key x) = some (value x) := by
  induction xs with
  | nil => cases mem
  | cons y ys ih =>
    rw [List.map_cons, List.lookup_cons]
    by_cases same : key y = key x
    · rw [distinct y List.mem_cons_self same, beq_self_eq_true]
    · rw [beq_false_of_ne (Ne.symm same)]
      refine ih (fun z memz => distinct z (List.mem_cons_of_mem _ memz)) ?_
      rcases List.mem_cons.1 mem with rfl | mem
      · exact absurd rfl same
      · exact mem

namespace Scenario

variable {s : Scenario} {d d' : Device}

/-- So few devices have addresses of their own. -/
theorem Accepted.addressOf_inj (accepted : s.Accepted) {a b : Nat} (ha : a ≤ s.numStas)
    (hb : b ≤ s.numStas) (same : Network.addressOf a = Network.addressOf b) : a = b := by
  have few := accepted.stations
  rw [maxStations] at few
  exact Network.addressOf_inj (by omega) (by omega) same

theorem of_mem_devices (mem : d ∈ s.devices.toList) :
    d.node ≤ s.numStas ∧ s.devices[d.node]? = some d ∧ d.address = Network.addressOf d.node ∧
      d.bssid = Network.addressOf 0 := by
  obtain ⟨i, at_i⟩ := Array.mem_iff_getElem?.1 (Array.mem_toList_iff.1 mem)
  rcases of_getElem?_devices at_i with ⟨rfl, rfl⟩ | ⟨k, inside, rfl, rfl⟩
  · exact ⟨Nat.zero_le _, at_i, rfl, rfl⟩
  · exact ⟨inside, at_i, rfl, rfl⟩

/-- No two devices have one address. -/
theorem Accepted.eq_of_address_eq (accepted : s.Accepted) (mem : d ∈ s.devices.toList)
    (mem' : d' ∈ s.devices.toList) (same : d.address = d'.address) : d = d' := by
  obtain ⟨few, at_d, address, -⟩ := of_mem_devices mem
  obtain ⟨few', at_d', address', -⟩ := of_mem_devices mem'
  rw [address, address'] at same
  have node := accepted.addressOf_inj few few' same
  rw [node, at_d'] at at_d
  exact (Option.some.inj at_d).symm

/-- What is subscribed for the address of a device is the device's own context. -/
theorem Accepted.lookup_subscriptions (accepted : s.Accepted) (mem : d ∈ s.devices.toList) :
    s.subscriptions.lookup d.address = some ⟨d.node, d.role, Network.addressOf 0⟩ := by
  have found := lookup_map_of_mem Device.address
    (fun d : Device => (⟨d.node, d.role, d.bssid⟩ : TrainingContext))
    (fun d' mem' same => accepted.eq_of_address_eq (List.mem_reverse.1 mem') mem same)
    (List.mem_reverse.2 mem)
  rw [List.map_reverse, (of_mem_devices mem).2.2.2] at found
  exact found

/-- What is registered for the address of a device is its node. -/
theorem Accepted.resolve_address (accepted : s.Accepted) (mem : d ∈ s.devices.toList) :
    s.addressBook.resolve d.address = .ok d.node := by
  have found := lookup_map_of_mem Device.address Device.node
    (fun d' mem' same => accepted.eq_of_address_eq mem' mem same) mem
  rw [AddressBook.resolve, addressBook, found]

end Scenario

/-! ## The records of a training -/

namespace World

variable {s : Scenario} {outputs : Outputs} {w : World} {a b : Device} {i j : NodeId} {now : Time}

theorem InScene.addresses (scene : w.InScene s outputs) : w.experiment.addresses = s.addressBook :=
  congrArg (·.experiment.addresses) scene

theorem InScene.subscriptions (scene : w.InScene s outputs) : w.subscriptions = s.subscriptions :=
  congrArg (·.subscriptions) scene

theorem InScene.setup_mem_devices (scene : w.InScene s outputs)
    (at_i : w.network.devices[i]? = some a) : a.setup ∈ s.devices.toList := by
  have setup := scene.getElem?_setup i
  rw [at_i] at setup
  exact Array.mem_toList_iff.2 (Array.mem_of_getElem? setup.symm)

/-- A training that is reported without a fault is logged, and nothing is asked for. -/
theorem dispatch_trainingCompleted {event : TrainingCompleted} {record : TrainingRecord}
    (reliable : w.experiment.outputs.Reliable) (sound : w.fatal = none)
    (known : w.experiment.trainingRecord event (w.network.traceIndex now) now = .ok record) :
    (w.dispatch (.trainingCompleted event) now).1.experiment.history =
        w.experiment.history.push (.training record) ∧
      (w.dispatch (.trainingCompleted event) now).1.fatal = none := by
  obtain ⟨answer, history⟩ := Experiment.onTrainingCompleted_of_reliable reliable known
  have orders := w.experiment.orders_onTrainingCompleted event (w.network.traceIndex now) now
  unfold dispatch Experiment.handle Handled.ignore
  rw [if_neg (by simp [halted, sound])]
  dsimp only
  rw [answer, orders]
  exact ⟨history, sound⟩

/-- What a device reports of a completed training with another one. -/
def trainingReport (reporter peer : Device) (period : AccessPeriod) (side : TrainingSide) :
    TrainingCompleted :=
  ⟨⟨reporter.node, reporter.role, Network.addressOf 0⟩, peer.address, period, side, true, true,
    Network.bestSector reporter peer, reporter.antenna⟩

/-- The record of such a report, in a scene whose access point is node 0. -/
def trainingRecord (w : World) (reporter peer : Device) (now : Time) : TrainingRecord :=
  ⟨reporter.node, peer.node, w.network.traceIndex now, Network.bestSector reporter peer,
    reporter.antenna, reporter.role, 0, now⟩

/-- The reports of trainings name what is registered in the scene. -/
theorem InScene.of_reportTraining (scene : w.InScene s outputs) (accepted : s.Accepted)
    (at_i : w.network.devices[i]? = some a) (at_j : w.network.devices[j]? = some b)
    (period : AccessPeriod) (side : TrainingSide) (now : Time) :
    w.reportTraining a b period side now =
        w.dispatch (.trainingCompleted (trainingReport a b period side)) now ∧
      w.experiment.trainingRecord (trainingReport a b period side) (w.network.traceIndex now) now =
        .ok (w.trainingRecord a b now) := by
  have subscribed := accepted.lookup_subscriptions (scene.setup_mem_devices at_i)
  rw [← scene.subscriptions] at subscribed
  have context : w.trainingContext a.address = .ok ⟨a.node, a.role, Network.addressOf 0⟩ := by
    rw [trainingContext, show a.address = a.setup.address from rfl, subscribed]
    rfl
  have peer := accepted.resolve_address (scene.setup_mem_devices at_j)
  rw [← scene.addresses] at peer
  have ap := accepted.resolve_address (d := s.accessPointDevice) (by simp [Scenario.devices])
  rw [← scene.addresses] at ap
  constructor
  · rw [World.reportTraining, context]
    rfl
  · rw [Experiment.trainingRecord,
      show (trainingReport a b period side).peer = b.setup.address from rfl, peer,
      show (trainingReport a b period side).context.bssid = s.accessPointDevice.address from rfl,
      ap]
    rfl

/-- The report of one end of a training is logged. -/
theorem InScene.reportTraining (scene : w.InScene s outputs) (accepted : s.Accepted)
    (reliable : outputs.Reliable) (sound : w.fatal = none)
    (at_i : w.network.devices[i]? = some a) (at_j : w.network.devices[j]? = some b)
    (period : AccessPeriod) (side : TrainingSide) (now : Time) :
    ∃ record : TrainingRecord, record.source = i ∧ record.peer = j ∧
      (w.reportTraining a b period side now).1.experiment.history =
        w.experiment.history.push (.training record) ∧
      (w.reportTraining a b period side now).1.fatal = none := by
  obtain ⟨reported, known⟩ := scene.of_reportTraining accepted at_i at_j period side now
  obtain ⟨history, intact⟩ := dispatch_trainingCompleted (scene.reliable reliable) sound known
  rw [reported]
  exact ⟨w.trainingRecord a b now, scene.node_eq at_i, scene.node_eq at_j, history, intact⟩

/-- A training that is over with its link up is logged at both ends. -/
theorem InScene.endTraining (scene : w.InScene s outputs) (accepted : s.Accepted)
    (reliable : outputs.Reliable) (sound : w.fatal = none)
    (at_i : w.network.devices[i]? = some a) (at_j : w.network.devices[j]? = some b)
    (up : w.network.linkUp i j now = true) (period : AccessPeriod) :
    ∃ first second : TrainingRecord, (first.source = i ∧ first.peer = j) ∧
      (second.source = j ∧ second.peer = i) ∧
      (w.endTraining i j period now).1.experiment.history =
        (w.experiment.history.push (.training first)).push (.training second) ∧
      (w.endTraining i j period now).1.fatal = none := by
  obtain ⟨first, source, peer, history, intact⟩ :=
    scene.reportTraining accepted reliable sound at_i at_j period .initiator now
  have scene' := (setup_reportTraining w a b period .initiator now).trans scene
  have devices : (w.reportTraining a b period .initiator now).1.network.devices =
      w.network.devices := congrArg Prod.fst (w.flows_reportTraining a b period .initiator now)
  obtain ⟨second, source', peer', history', intact'⟩ :=
    InScene.reportTraining scene' accepted reliable intact (by rw [devices]; exact at_j)
      (by rw [devices]; exact at_i) period .responder now
  refine ⟨first, second, ⟨source, peer⟩, ⟨source', peer'⟩, ?_⟩
  rw [World.endTraining, at_i, at_j]
  dsimp only
  rw [if_pos up]
  exact ⟨history'.trans (congrArg (Array.push · _) history), intact'⟩

end World

end DenseDmg
