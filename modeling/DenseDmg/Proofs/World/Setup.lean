import DenseDmg.World

/-!
# What a run never changes

A run changes associations, counters, measurements and outputs; everything else about a world is
settled when it is set up.  `World.setup w` is `w` as it was then: no station associated, nothing
sent, received, measured or written.

* `World.setup_act`: no event changes the setup of its world.

So a fact about the setup of the world that a run begins with holds of every world it reaches.
-/

namespace DenseDmg

/-! ## The parts of a world as they were set up -/

def Device.setup (d : Device) : Device := { d with aid := none }

def Sender.setup (s : Sender) : Sender := .idle s.node s.peer s.sink s.config

def Sink.setup (s : Sink) : Sink := ⟨s.node, .zero⟩

def Applications.setup (a : Applications) : Applications :=
  ⟨a.senders.map Sender.setup, a.sinks.map Sink.setup⟩

def Network.setup (n : Network) : Network :=
  { n with devices := n.devices.map Device.setup, nextAid := 1, apps := n.apps.setup }

def Pair.setup (p : Pair) : Pair := .idle p.node p.sender p.sink p.source p.destination

def PairRegistry.setup (r : PairRegistry) : PairRegistry := ⟨r.pairs.map Pair.setup⟩

def Stream.setup (s : Stream) : Stream :=
  { s with lines := 0, written := #[], operations := 0 }

def Outputs.setup (o : Outputs) : Outputs := ⟨o.console.setup, o.training.setup, o.quality.setup⟩

def Experiment.setup (x : Experiment) : Experiment :=
  { x with
    pairs := x.pairs.setup
    sampler := ⟨x.sampler.period, 0⟩
    trigger := ⟨x.trigger.threshold, [], 0⟩
    outputs := x.outputs.setup
    history := #[] }

/-- A world as it was before anything happened in it. -/
def World.setup (w : World) : World :=
  ⟨w.network.setup, w.experiment.setup, w.subscriptions, none⟩

/-! ## Applications -/

/-- A change of one entry that a map does not see is not seen after the map. -/
theorem map_modify_eq {α β : Type} (xs : Array α) (i : Nat) {f : α → α} {g : α → β}
    (unseen : ∀ x, g (f x) = g x) : (xs.modify i f).map g = xs.map g := by
  apply Array.ext_getElem?
  intro j
  rw [Array.getElem?_map, Array.getElem?_map, Array.getElem?_modify]
  split
  · rw [Option.map_map, show g ∘ f = g from funext unseen]
  · rfl

namespace Applications

theorem setup_updateSender (a : Applications) (id : SenderId) {f : Sender → Sender}
    (unseen : ∀ s, (f s).setup = s.setup) : (a.updateSender id f).setup = a.setup := by
  simp only [setup, updateSender, map_modify_eq a.senders id unseen]

@[simp] theorem setup_start (a : Applications) (id : SenderId) :
    (a.start id).1.setup = a.setup := by
  refine a.setup_updateSender id fun s => ?_
  unfold Sender.start
  dsimp only
  split <;> rfl

@[simp] theorem setup_stop (a : Applications) (id : SenderId) : (a.stop id).setup = a.setup :=
  a.setup_updateSender id fun _ => rfl

@[simp] theorem setup_finish (a : Applications) (id : SenderId) : (a.finish id).setup = a.setup :=
  a.setup_updateSender id fun _ => rfl

@[simp] theorem setup_recordSent (a : Applications) (id : SenderId) (bytes : Nat) :
    (a.recordSent id bytes).setup = a.setup :=
  a.setup_updateSender id fun _ => rfl

@[simp] theorem setup_recordReceived (a : Applications) (id : SinkId) (bytes : Nat) :
    (a.recordReceived id bytes).setup = a.setup := by
  simp only [setup, recordReceived, updateSink]
  rw [map_modify_eq a.sinks id (g := Sink.setup)]
  exact fun _ => rfl

end Applications

/-! ## The network -/

@[simp] theorem Network.setup_setAid (n : Network) (node : NodeId) (aid : Option Nat) :
    (n.setAid node aid).setup = n.setup := by
  simp only [setup, setAid]
  rw [map_modify_eq n.devices node (g := Device.setup)]
  exact fun _ => rfl

@[simp] theorem Network.setup_associate (n : Network) (station : Device) :
    (n.associate station).1.setup = n.setup :=
  n.setup_setAid station.node (some n.nextAid)

@[simp] theorem Network.setup_deassociate (n : Network) (station : Device) :
    (n.deassociate station).1.setup = n.setup :=
  n.setup_setAid station.node none

/-! ## The experiment -/

@[simp] theorem Stream.setup_writeLine (s : Stream) (line : String) :
    (s.writeLine line).1.setup = s.setup := by
  unfold writeLine
  split <;> rfl

@[simp] theorem Stream.setup_writeLines (stream : Stream) (lines : List String) :
    (stream.writeLines lines).1.setup = stream.setup := by
  induction lines generalizing stream with
  | nil => rfl
  | cons line rest ih =>
    unfold writeLines
    dsimp only
    split
    · exact (ih _).trans (stream.setup_writeLine line)
    · exact stream.setup_writeLine line

@[simp] theorem PairRegistry.nodes_setup (r : PairRegistry) : r.setup.nodes = r.nodes := by
  simp only [nodes, setup, List.map_map]
  rfl

theorem PairRegistry.setup_update (r : PairRegistry) (node : NodeId) {f : Pair → Pair}
    (unseen : ∀ p, (f p).setup = p.setup) : (r.update node f).setup = r.setup := by
  simp only [setup, update, List.map_map, mk.injEq]
  apply List.map_congr_left
  intro p _
  simp only [Function.comp_apply]
  split
  · exact unseen p
  · rfl

/-- A sample changes nothing but what has been measured of a pair. -/
theorem map_samplePairs {β : Type} {f : Pair → β}
    (unseen : ∀ p current throughput, f (p.observe current throughput) = f p)
    (scale : Float) (received : SinkId → Nat) (index : Nat) (pairs : List Pair) :
    (samplePairs scale received index pairs).1.map f = pairs.map f := by
  induction pairs generalizing index with
  | nil => rfl
  | cons p rest ih =>
    unfold samplePairs
    dsimp only
    split
    · rfl
    · simp only [List.map_cons, ih, unseen]

namespace Sampler

variable (s : Sampler) (now : Time) (r : PairRegistry) (received : SinkId → Nat)

theorem pairs_sample :
    (s.sample now r received).2.1 = ⟨(samplePairs s.scale received 0 r.pairs).1⟩ := by
  unfold sample
  split
  next sampled => rw [sampled]
  next sampled => rw [sampled]

theorem period_sample : (s.sample now r received).1.period = s.period := by
  unfold sample
  split <;> rfl

/-- A sample leaves every pair in its column. -/
theorem setup_pairs_sample : (s.sample now r received).2.1.setup = r.setup := by
  rw [pairs_sample]
  exact congrArg PairRegistry.mk (map_samplePairs (f := Pair.setup) (fun _ _ _ => rfl) ..)

variable {s now r received}

/-- A sample that is taken without a fault adds a row, for the window that ends with it. -/
theorem of_sample {s' : Sampler} {r' : PairRegistry} {row : ThroughputRow}
    (taken : s.sample now r received = (s', r', .ok row)) :
    s'.rows = s.rows + 1 ∧ row.windowStart = now - s.period ∧ row.time = now := by
  unfold sample at taken
  split at taken
  · cases taken
  · cases taken
    exact ⟨rfl, rfl, rfl⟩

end Sampler

@[simp] theorem RetrainingTrigger.threshold_setCount (t : RetrainingTrigger) (address : MacAddress)
    (n : Nat) : (t.setCount address n).threshold = t.threshold := by
  unfold setCount
  split <;> rfl

@[simp] theorem RetrainingTrigger.threshold_onTransferStarted (t : RetrainingTrigger)
    (event : TransferStarted) : (t.onTransferStarted event).1.threshold = t.threshold := by
  unfold onTransferStarted
  split
  · rfl
  · dsimp only
    split <;> simp only [threshold_setCount]

namespace Experiment

@[simp] theorem setup_writeConsole (x : Experiment) (line : String) :
    (x.writeConsole line).1.setup = x.setup := by
  simp only [setup, writeConsole, Outputs.setup, Stream.setup_writeLine]

@[simp] theorem setup_notify (x : Experiment) (notice : String) :
    (x.notify notice).1.setup = x.setup := by
  unfold notify
  split
  · rfl
  · exact x.setup_writeConsole notice

@[simp] theorem setup_remember (x : Experiment) (record : LogRecord) (ok : Bool) :
    (x.remember record ok).setup = x.setup := by
  unfold remember
  split <;> rfl

@[simp] theorem setup_logTraining (x : Experiment) (record : TrainingRecord) :
    (x.logTraining record).1.setup = x.setup := by
  simp only [logTraining, setup_remember]
  simp only [setup, Outputs.setup, Stream.setup_writeLine]

@[simp] theorem setup_logQuality (x : Experiment) (record : QualityRecord) :
    (x.logQuality record).1.setup = x.setup := by
  simp only [logQuality, setup_remember]
  simp only [setup, Outputs.setup, Stream.setup_writeLine]

theorem setup_withPairs (x : Experiment) {pairs : PairRegistry}
    (same : pairs.setup = x.pairs.setup) :
    ({ x with pairs := pairs } : Experiment).setup = x.setup := by
  simp only [setup, same]

theorem setup_withSample (x : Experiment) {sampler : Sampler} {pairs : PairRegistry}
    (period : sampler.period = x.sampler.period) (same : pairs.setup = x.pairs.setup) :
    ({ x with sampler := sampler, pairs := pairs } : Experiment).setup = x.setup := by
  simp only [setup, period, same]

@[simp] theorem setup_onAssociated (x : Experiment) (event : Associated) (now : Time) :
    (x.onAssociated event now).experiment.setup = x.setup := by
  rw [← x.setup_notify event.notice]
  unfold onAssociated
  dsimp only
  split
  · rfl
  · split
    · rfl
    · exact setup_withPairs _ (PairRegistry.setup_update _ _ fun _ => rfl)

@[simp] theorem setup_onDeassociated (x : Experiment) (event : Deassociated) :
    (x.onDeassociated event).experiment.setup = x.setup := by
  rw [← x.setup_notify event.notice]
  unfold onDeassociated
  dsimp only
  split
  · rfl
  · split
    · rfl
    · exact setup_withPairs _ (PairRegistry.setup_update _ _ fun _ => rfl)

@[simp] theorem setup_onTrainingCompleted (x : Experiment) (event : TrainingCompleted)
    (traceIndex : Nat) (now : Time) :
    (x.onTrainingCompleted event traceIndex now).experiment.setup = x.setup := by
  unfold onTrainingCompleted
  split
  · rfl
  · dsimp only
    split
    · exact x.setup_logTraining _
    · exact (setup_notify _ _).trans (x.setup_logTraining _)

@[simp] theorem setup_onTransferStarted (x : Experiment) (event : TransferStarted) :
    (x.onTransferStarted event).experiment.setup = x.setup := by
  simp only [onTransferStarted, setup, RetrainingTrigger.threshold_onTransferStarted]

@[simp] theorem setup_onFrameReceived (x : Experiment) (event : FrameReceived) (now : Time) :
    (x.onFrameReceived event now).experiment.setup = x.setup := by
  unfold onFrameReceived
  split
  · rfl
  · exact x.setup_logQuality _

@[simp] theorem setup_handle (x : Experiment) (event : LinkEvent) (traceIndex : Nat) (now : Time) :
    (x.handle event traceIndex now).experiment.setup = x.setup := by
  cases event with
  | associated e => exact x.setup_onAssociated e now
  | deassociated e => exact x.setup_onDeassociated e
  | trainingCompleted e => exact x.setup_onTrainingCompleted e traceIndex now
  | transferStarted e => exact x.setup_onTransferStarted e
  | frameReceived e => exact x.setup_onFrameReceived e now

@[simp] theorem setup_sample (x : Experiment) (now : Time) (received : SinkId → Nat) :
    (x.sample now received).1.setup = x.setup := by
  have pairs := x.sampler.setup_pairs_sample now x.pairs received
  have period := x.sampler.period_sample now x.pairs received
  unfold sample
  split
  next taken =>
    rw [taken] at pairs period
    exact x.setup_withSample period pairs
  next taken =>
    rw [taken] at pairs period
    dsimp only
    rw [setup_writeConsole]
    exact x.setup_withSample period pairs

/-- An experiment that has begun has written its headers and nothing else. -/
theorem of_start {config : ExperimentConfig} {addresses : AddressBook} {registry : PairRegistry}
    {outputs : Outputs} {x : Experiment}
    (begun : start config addresses registry outputs = .ok x) :
    x.config = config ∧ x.addresses = addresses ∧ x.pairs = registry ∧
      x.sampler = ⟨config.samplePeriod, 0⟩ ∧ x.trigger = .ofThreshold config.biThreshold ∧
      x.outputs.setup = outputs.setup ∧ x.history = #[] := by
  unfold start at begun
  generalize (if config.csv then [] else tableHeader registry.size) = header at begun
  dsimp only at begun
  split at begun
  · cases begun
    refine ⟨rfl, rfl, rfl, rfl, rfl, ?_, rfl⟩
    simp only [Outputs.setup, Stream.setup_writeLine, Stream.setup_writeLines]
  · cases begun

end Experiment

/-! ## The world -/

namespace World

@[simp] theorem setup_check (w : World) (answer : Except Fault Unit) :
    (w.check answer).setup = w.setup := by
  cases answer <;> rfl

/-- Worlds whose parts were set up in the same way were set up in the same way. -/
theorem setup_congr {w w' : World} (network : w'.network.setup = w.network.setup)
    (experiment : w'.experiment.setup = w.experiment.setup)
    (subscriptions : w'.subscriptions = w.subscriptions) : w'.setup = w.setup := by
  simp only [setup, network, experiment, subscriptions]

theorem setup_withApps (w : World) {apps : Applications}
    (same : apps.setup = w.network.apps.setup) :
    ({ w with network := { w.network with apps := apps } } : World).setup = w.setup :=
  setup_congr (by simp only [Network.setup, same]) rfl rfl

@[simp] theorem setup_obey (w : World) (order : Order) : (w.obey order).1.setup = w.setup := by
  cases order with
  | startSender sender => exact w.setup_withApps (Applications.setup_start _ _)
  | stopSender sender => exact w.setup_withApps (Applications.setup_stop _ _)
  | train initiator peer =>
    unfold obey
    dsimp only
    split <;> rfl

@[simp] theorem setup_obeyAll (w : World) (orders : List Order) :
    (w.obeyAll orders).1.setup = w.setup := by
  induction orders generalizing w with
  | nil => rfl
  | cons order rest ih => exact (ih _).trans (w.setup_obey order)

@[simp] theorem setup_dispatch (w : World) (event : LinkEvent) (now : Time) :
    (w.dispatch event now).1.setup = w.setup := by
  unfold dispatch
  split
  · rfl
  · dsimp only
    rw [setup_obeyAll, setup_check]
    exact setup_congr rfl (Experiment.setup_handle ..) rfl

@[simp] theorem setup_loseStation (now : Time) (w : World) (d : Device) :
    (loseStation now w d).setup = w.setup := by
  unfold loseStation
  split
  · dsimp only
    rw [setup_dispatch]
    exact setup_congr (Network.setup_deassociate ..) rfl rfl
  · rfl

theorem setup_foldl_loseStation (now : Time) (w : World) (ds : List Device) :
    (ds.foldl (loseStation now) w).setup = w.setup := by
  induction ds generalizing w with
  | nil => rfl
  | cons d ds ih => exact (ih _).trans (setup_loseStation now w d)

@[simp] theorem setup_announceTransfer (w : World) (duration now : Time) (ds : List Device) :
    (w.announceTransfer duration now ds).1.setup = w.setup := by
  induction ds generalizing w with
  | nil => rfl
  | cons d ds ih => exact (ih _).trans (w.setup_dispatch ..)

@[simp] theorem setup_reportTraining (w : World) (reporter peer : Device) (period : AccessPeriod)
    (side : TrainingSide) (now : Time) :
    (w.reportTraining reporter peer period side now).1.setup = w.setup := by
  unfold reportTraining
  split
  · rfl
  · exact w.setup_dispatch ..

@[simp] theorem setup_beginInterval (w : World) (index : Nat) (now : Time) :
    (w.beginInterval index now).1.setup = w.setup := by
  unfold beginInterval
  split
  · rfl
  · exact setup_foldl_loseStation ..

@[simp] theorem setup_beginTransfer (w : World) (duration now : Time) :
    (w.beginTransfer duration now).1.setup = w.setup := by
  unfold beginTransfer
  split
  · rfl
  · exact w.setup_announceTransfer ..

@[simp] theorem setup_completeAssociation (w : World) (station : NodeId) (now : Time) :
    (w.completeAssociation station now).1.setup = w.setup := by
  unfold completeAssociation
  split
  · split
    · rfl
    · dsimp only
      rw [setup_dispatch]
      exact setup_congr (Network.setup_associate ..) rfl rfl
  · rfl

@[simp] theorem fst_beginTraining (w : World) (initiator responder : NodeId) (now : Time) :
    (w.beginTraining initiator responder now).1 = w := by
  unfold beginTraining
  split
  · split <;> rfl
  · rfl

@[simp] theorem setup_endTraining (w : World) (initiator responder : NodeId)
    (period : AccessPeriod) (now : Time) :
    (w.endTraining initiator responder period now).1.setup = w.setup := by
  unfold endTraining
  split
  · split
    · exact (setup_reportTraining ..).trans (setup_reportTraining ..)
    · rfl
  · rfl

@[simp] theorem setup_receiveFrame (w : World) (tx rx : NodeId) (kind : FrameKind) (bytes : Nat)
    (sink : Option SinkId) (now : Time) :
    (w.receiveFrame tx rx kind bytes sink now).1.setup = w.setup := by
  unfold receiveFrame
  split
  · split
    · dsimp only
      rw [setup_dispatch]
      split
      · exact w.setup_withApps (Applications.setup_recordReceived ..)
      · rfl
    · rfl
  · rfl

@[simp] theorem setup_sendPacket (w : World) (sender : SenderId) (generation : Nat) (now : Time) :
    (w.sendPacket sender generation now).1.setup = w.setup := by
  unfold sendPacket
  split
  · rfl
  · split
    · rfl
    · split
      · exact w.setup_withApps (Applications.setup_finish ..)
      · exact w.setup_withApps (Applications.setup_recordSent ..)

@[simp] theorem setup_takeSample (w : World) (period now : Time) :
    (w.takeSample period now).1.setup = w.setup := by
  unfold takeSample sampleThroughput
  dsimp only
  split
  · rfl
  · rw [setup_check]
    exact setup_congr rfl (Experiment.setup_sample ..) rfl

/-- No event changes the setup of its world. -/
@[simp] theorem setup_act (w : World) (now : Time) (event : NetworkEvent) :
    (w.act now event).1.setup = w.setup := by
  cases event with
  | beaconInterval index => exact w.setup_beginInterval index now
  | transferInterval duration => exact w.setup_beginTransfer duration now
  | associationComplete station => exact w.setup_completeAssociation station now
  | trainingRequested initiator responder => exact congrArg setup (w.fst_beginTraining ..)
  | trainingDone initiator responder period => exact w.setup_endTraining ..
  | frameArrives tx rx kind bytes sink => exact w.setup_receiveFrame ..
  | sendTimer sender generation => exact w.setup_sendPacket sender generation now
  | sampleDue period => exact w.setup_takeSample period now

end World

end DenseDmg
