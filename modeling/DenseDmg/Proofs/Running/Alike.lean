import DenseDmg.Proofs.Running.TrainingLog
import DenseDmg.Proofs.Running.Transcript

/-!
# What decides on a run

The channel of a network tells how good a frame was and which trace was in force, and an experiment
writes down what it is told.  Nothing of that is ever read again.  Worlds are alike if they agree in
everything else, and as long as there is no fault they stay alike.

* `Alike.dispatch`: a report brings the same orders in worlds that are alike.
* `Alike.act`: an event asks for the same in worlds that are alike, and leaves them alike.
* `Alike.rows_written`, `Alike.trainings_written`, `Alike.qualities_written`: what an event adds to
  the table and to the logs of worlds that are alike.
-/

namespace DenseDmg

/-! ## Networks -/

/-- Networks that differ in their channels only. -/
def Network.Alike (n n' : Network) : Prop := ∃ channel, n' = { n with channel := channel }

namespace Network.Alike

variable {n n' : Network}

theorem devices (alike : n.Alike n') : n'.devices = n.devices := by
  obtain ⟨_, rfl⟩ := alike
  rfl

theorem accessPoint (alike : n.Alike n') : n'.accessPoint = n.accessPoint := by
  obtain ⟨_, rfl⟩ := alike
  rfl

theorem nextAid (alike : n.Alike n') : n'.nextAid = n.nextAid := by
  obtain ⟨_, rfl⟩ := alike
  rfl

theorem apps (alike : n.Alike n') : n'.apps = n.apps := by
  obtain ⟨_, rfl⟩ := alike
  rfl

theorem phy (alike : n.Alike n') : n'.phy = n.phy := by
  obtain ⟨_, rfl⟩ := alike
  rfl

theorem mac (alike : n.Alike n') : n'.mac = n.mac := by
  obtain ⟨_, rfl⟩ := alike
  rfl

theorem stations (alike : n.Alike n') : n'.stations = n.stations := by
  obtain ⟨_, rfl⟩ := alike
  rfl

theorem nodeOf? (alike : n.Alike n') : n'.nodeOf? = n.nodeOf? := by
  obtain ⟨_, rfl⟩ := alike
  rfl

theorem isBlocked (alike : n.Alike n') : n'.isBlocked = n.isBlocked := by
  obtain ⟨_, rfl⟩ := alike
  rfl

theorem linkUp (alike : n.Alike n') : n'.linkUp = n.linkUp := by
  obtain ⟨_, rfl⟩ := alike
  rfl

theorem withApps (alike : n.Alike n') (apps : Applications) :
    Network.Alike { n with apps := apps } { n' with apps := apps } := by
  obtain ⟨channel, rfl⟩ := alike
  exact ⟨channel, rfl⟩

theorem associate (alike : n.Alike n') (d : Device) :
    (n.associate d).1.Alike (n'.associate d).1 ∧ (n'.associate d).2 = (n.associate d).2 := by
  obtain ⟨channel, rfl⟩ := alike
  exact ⟨⟨channel, rfl⟩, rfl⟩

theorem deassociate (alike : n.Alike n') (d : Device) :
    (n.deassociate d).1.Alike (n'.deassociate d).1 ∧
      (n'.deassociate d).2 = (n.deassociate d).2 := by
  obtain ⟨channel, rfl⟩ := alike
  exact ⟨⟨channel, rfl⟩, rfl⟩

end Network.Alike

/-! ## Experiments -/

/-- Experiments that differ in their settings and in what they have written only. -/
structure Experiment.Alike (x x' : Experiment) : Prop where
  addresses : x'.addresses = x.addresses
  pairs : x'.pairs = x.pairs
  sampler : x'.sampler = x.sampler
  trigger : x'.trigger = x.trigger

/-- Reports of the same; a frame that was received may have been of another quality. -/
inductive LinkEvent.Alike : LinkEvent → LinkEvent → Prop
  | same (event : LinkEvent) : Alike event event
  | received (event event' : FrameReceived) :
    Alike (.frameReceived event) (.frameReceived event')

namespace Experiment

@[simp] theorem sampler_notify (x : Experiment) (notice : String) :
    (x.notify notice).1.sampler = x.sampler := by
  unfold notify
  split <;> rfl

@[simp] theorem sampler_remember (x : Experiment) (record : LogRecord) (ok : Bool) :
    (x.remember record ok).sampler = x.sampler := by
  unfold remember
  split <;> rfl

/-- No report is a sample. -/
theorem sampler_handle (x : Experiment) (event : LinkEvent) (traceIndex : Nat) (now : Time) :
    (x.handle event traceIndex now).experiment.sampler = x.sampler := by
  cases event with
  | associated e =>
    unfold handle onAssociated
    dsimp only
    split
    · exact x.sampler_notify _
    · split <;> exact x.sampler_notify _
  | deassociated e =>
    unfold handle onDeassociated
    dsimp only
    split
    · exact x.sampler_notify _
    · split <;> exact x.sampler_notify _
  | trainingCompleted e =>
    unfold handle Handled.ignore onTrainingCompleted
    dsimp only
    split
    · rfl
    · split <;> simp only [logTraining, sampler_notify, sampler_remember]
  | transferStarted e => rfl
  | frameReceived e =>
    unfold handle Handled.ignore onFrameReceived
    dsimp only
    split
    · rfl
    · simp only [logQuality, sampler_remember]

theorem addresses_handle (x : Experiment) (event : LinkEvent) (traceIndex : Nat) (now : Time) :
    (x.handle event traceIndex now).experiment.addresses = x.addresses := by
  have setup := x.setup_handle event traceIndex now
  exact congrArg (·.addresses) setup

namespace Alike

variable {x x' : Experiment} {traceIndex traceIndex' : Nat} {now : Time}

/-- Quiet events leave the pairs as they are. -/
theorem pairs_of_quiet (alike : x.Alike x') {event event' : LinkEvent} (quiet : event.IsQuiet)
    (quiet' : event'.IsQuiet) :
    (x'.handle event' traceIndex' now).experiment.pairs =
      (x.handle event traceIndex now).experiment.pairs := by
  rw [Experiment.pairs_handle _ quiet, Experiment.pairs_handle _ quiet', alike.pairs]

/-- Events that are handled without a fault leave the same pairs and bring the same orders. -/
theorem pairs_handle (alike : x.Alike x') {event event' : LinkEvent} (events : event.Alike event')
    (handled : (x.handle event traceIndex now).answer = .ok ())
    (handled' : (x'.handle event' traceIndex' now).answer = .ok ()) :
    (x'.handle event' traceIndex' now).experiment.pairs =
        (x.handle event traceIndex now).experiment.pairs ∧
      (x'.handle event' traceIndex' now).orders = (x.handle event traceIndex now).orders := by
  cases events with
  | received e e' =>
    exact ⟨alike.pairs_of_quiet trivial trivial,
      (orders_onFrameReceived ..).trans (orders_onFrameReceived ..).symm⟩
  | same =>
    cases event with
    | associated e =>
      obtain ⟨p, found, pairs, orders⟩ := of_onAssociated handled
      obtain ⟨p', found', pairs', orders'⟩ := of_onAssociated handled'
      rw [alike.pairs, found, Option.some_inj] at found'
      rw [alike.pairs] at pairs'
      exact ⟨pairs'.trans pairs.symm, by rw [handle, handle, orders, orders', found']⟩
    | deassociated e =>
      obtain ⟨p, found, pairs, orders⟩ := of_onDeassociated handled
      obtain ⟨p', found', pairs', orders'⟩ := of_onDeassociated handled'
      rw [alike.pairs, found, Option.some_inj] at found'
      rw [alike.pairs] at pairs'
      exact ⟨pairs'.trans pairs.symm, by rw [handle, handle, orders, orders', found']⟩
    | trainingCompleted e =>
      exact ⟨alike.pairs_of_quiet trivial trivial,
        (orders_onTrainingCompleted ..).trans (orders_onTrainingCompleted ..).symm⟩
    | transferStarted e =>
      refine ⟨alike.pairs, ?_⟩
      simp only [handle, Handled.ignore, onTransferStarted, alike.trigger]
    | frameReceived e =>
      exact ⟨alike.pairs_of_quiet trivial trivial,
        (orders_onFrameReceived ..).trans (orders_onFrameReceived ..).symm⟩

theorem trigger_handle (alike : x.Alike x') {event event' : LinkEvent}
    (events : event.Alike event') :
    (x'.handle event' traceIndex' now).experiment.trigger =
      (x.handle event traceIndex now).experiment.trigger := by
  cases events with
  | received e e' =>
    rw [Experiment.trigger_handle _ (by trivial), Experiment.trigger_handle _ (by trivial),
      alike.trigger]
  | same =>
    cases event with
    | transferStarted e =>
      simp only [handle, Handled.ignore, onTransferStarted, alike.trigger]
    | _ =>
      rw [Experiment.trigger_handle _ (by trivial), Experiment.trigger_handle _ (by trivial),
        alike.trigger]

/-- Reports that are handled without a fault leave experiments alike. -/
theorem handle (alike : x.Alike x') {event event' : LinkEvent} (events : event.Alike event')
    (handled : (x.handle event traceIndex now).answer = .ok ())
    (handled' : (x'.handle event' traceIndex' now).answer = .ok ()) :
    (x.handle event traceIndex now).experiment.Alike
      (x'.handle event' traceIndex' now).experiment where
  addresses := by rw [addresses_handle, addresses_handle, alike.addresses]
  pairs := (alike.pairs_handle events handled handled').1
  sampler := by rw [sampler_handle, sampler_handle, alike.sampler]
  trigger := alike.trigger_handle events

/-- Samples of the same counters have the same row. -/
theorem sample (alike : x.Alike x') {received : SinkId → Nat} {row row' : ThroughputRow}
    (sampled : (x.sample now received).2 = .ok row)
    (sampled' : (x'.sample now received).2 = .ok row') :
    row' = row ∧ (x.sample now received).1.Alike (x'.sample now received).1 := by
  unfold Experiment.sample at sampled sampled' ⊢
  rw [alike.sampler, alike.pairs] at sampled' ⊢
  split at sampled
  next => cases sampled
  next sampler pairs row₀ same =>
    rw [same] at sampled'
    dsimp only at sampled sampled' ⊢
    split at sampled
    · split at sampled'
      · cases sampled
        cases sampled'
        exact ⟨rfl, alike.addresses, rfl, rfl, alike.trigger⟩
      · cases sampled'
    · cases sampled

end Alike

end Experiment

/-! ## Worlds -/

/-- Worlds that agree in all that decides on what happens next. -/
structure World.Alike (w w' : World) : Prop where
  network : w.network.Alike w'.network
  experiment : w.experiment.Alike w'.experiment
  subscriptions : w'.subscriptions = w.subscriptions

/-- Outcomes that ask for the same and leave worlds alike. -/
structure World.SameOutcome (out out' : World × List NetworkRequest) : Prop where
  world : out.1.Alike out'.1
  requests : out'.2 = out.2

namespace World.Alike

variable {w w' : World} {now : Time}

theorem updateApps (alike : w.Alike w') (f : Applications → Applications) :
    (w.updateApps f).Alike (w'.updateApps f) := by
  refine ⟨?_, alike.experiment, alike.subscriptions⟩
  show Network.Alike { w.network with apps := f w.network.apps }
    { w'.network with apps := f w'.network.apps }
  rw [alike.network.apps]
  exact alike.network.withApps _

/-! ### Orders -/

theorem requestTraining (alike : w.Alike w') (initiator peer : MacAddress) :
    w'.requestTraining initiator peer = w.requestTraining initiator peer := by
  unfold World.requestTraining
  rw [alike.network.nodeOf?, alike.network.mac]

theorem obey (alike : w.Alike w') (order : Order) :
    SameOutcome (w.obey order) (w'.obey order) := by
  cases order with
  | startSender sender =>
    unfold World.obey World.startSender
    dsimp only
    rw [alike.network.apps]
    exact ⟨⟨alike.network.withApps _, alike.experiment, alike.subscriptions⟩, rfl⟩
  | stopSender sender => exact ⟨alike.updateApps fun apps => apps.stop sender, rfl⟩
  | train initiator peer =>
    unfold World.obey
    dsimp only
    rw [alike.requestTraining]
    split
    · exact ⟨alike, rfl⟩
    · exact ⟨⟨alike.network, alike.experiment, alike.subscriptions⟩, rfl⟩

theorem obeyAll (alike : w.Alike w') (orders : List Order) :
    SameOutcome (w.obeyAll orders) (w'.obeyAll orders) := by
  induction orders generalizing w w' with
  | nil => exact ⟨alike, rfl⟩
  | cons order rest ih =>
    obtain ⟨world, first⟩ := alike.obey order
    obtain ⟨world, others⟩ := ih world
    refine ⟨world, ?_⟩
    change (w'.obey order).2 ++ ((w'.obey order).1.obeyAll rest).2 =
      (w.obey order).2 ++ ((w.obey order).1.obeyAll rest).2
    rw [first, others]

/-- A report brings the same orders in worlds that are alike, unless there is a fault. -/
theorem dispatch (alike : w.Alike w') {event event' : LinkEvent} (events : event.Alike event')
    (sound : (w.dispatch event now).1.fatal = none)
    (sound' : (w'.dispatch event' now).1.fatal = none) :
    SameOutcome (w.dispatch event now) (w'.dispatch event' now) := by
  obtain ⟨-, handled, dispatched⟩ := of_dispatch sound
  obtain ⟨-, handled', dispatched'⟩ := of_dispatch sound'
  rw [dispatched, dispatched', (alike.experiment.pairs_handle events handled handled').2]
  have reported : World.Alike
      { w with experiment :=
        (w.experiment.handle event (w.network.traceIndex now) now).experiment }
      { w' with experiment :=
        (w'.experiment.handle event' (w'.network.traceIndex now) now).experiment } :=
    ⟨alike.network, alike.experiment.handle events handled handled', alike.subscriptions⟩
  exact reported.obeyAll _

/-! ### Beacon intervals -/

theorem loseStation (alike : w.Alike w') {d : Device}
    (sound : (World.loseStation now w d).fatal = none)
    (sound' : (World.loseStation now w' d).fatal = none) :
    (World.loseStation now w d).Alike (World.loseStation now w' d) := by
  obtain ⟨network, event⟩ := alike.network.deassociate d
  have left : World.Alike { w with network := (w.network.deassociate d).1 }
      { w' with network := (w'.network.deassociate d).1 } :=
    ⟨network, alike.experiment, alike.subscriptions⟩
  unfold World.loseStation at sound sound' ⊢
  dsimp only at sound sound' ⊢
  rw [alike.network.isBlocked] at sound' ⊢
  rw [event] at sound' ⊢
  split
  next lost =>
    rw [if_pos lost] at sound sound'
    exact (left.dispatch (.same _) sound sound').world
  next => exact alike

theorem foldl_loseStation (alike : w.Alike w') {ds : List Device}
    (sound : (ds.foldl (World.loseStation now) w).fatal = none)
    (sound' : (ds.foldl (World.loseStation now) w').fatal = none) :
    (ds.foldl (World.loseStation now) w).Alike (ds.foldl (World.loseStation now) w') := by
  induction ds generalizing w w' with
  | nil => exact alike
  | cons d ds ih =>
    exact ih (alike.loseStation (fatal_of_foldl_loseStation sound)
      (fatal_of_foldl_loseStation sound')) sound sound'

theorem beginInterval (alike : w.Alike w') {index : Nat}
    (sound : (w.beginInterval index now).1.fatal = none)
    (sound' : (w'.beginInterval index now).1.fatal = none) :
    SameOutcome (w.beginInterval index now) (w'.beginInterval index now) := by
  unfold World.beginInterval at sound sound' ⊢
  rw [alike.network.accessPoint, alike.network.devices, alike.network.stations,
    alike.network.mac] at sound' ⊢
  split
  next => exact ⟨alike, rfl⟩
  next ap found =>
    rw [found] at sound sound'
    have lost := alike.foldl_loseStation sound sound'
    refine ⟨lost, ?_⟩
    dsimp only
    rw [lost.network.stations, lost.network.linkUp]

/-! ### Data transfer intervals -/

theorem announceTransfer (alike : w.Alike w') {duration : Time} {ds : List Device}
    (sound : (w.announceTransfer duration now ds).1.fatal = none)
    (sound' : (w'.announceTransfer duration now ds).1.fatal = none) :
    SameOutcome (w.announceTransfer duration now ds) (w'.announceTransfer duration now ds) := by
  induction ds generalizing w w' with
  | nil => exact ⟨alike, rfl⟩
  | cons d ds ih =>
    obtain ⟨world, first⟩ := alike.dispatch (.same _) (fatal_of_announceTransfer sound)
      (fatal_of_announceTransfer sound')
    obtain ⟨world, others⟩ := ih world sound sound'
    refine ⟨world, ?_⟩
    simp only [World.announceTransfer]
    rw [first, others]

theorem beginTransfer (alike : w.Alike w') {duration : Time}
    (sound : (w.beginTransfer duration now).1.fatal = none)
    (sound' : (w'.beginTransfer duration now).1.fatal = none) :
    SameOutcome (w.beginTransfer duration now) (w'.beginTransfer duration now) := by
  unfold World.beginTransfer at sound sound' ⊢
  rw [alike.network.accessPoint, alike.network.stations, alike.network.linkUp] at sound' ⊢
  split
  next => exact ⟨alike, rfl⟩
  next ap found =>
    rw [found] at sound sound'
    exact alike.announceTransfer sound sound'

/-! ### Associations and trainings -/

theorem completeAssociation (alike : w.Alike w') {station : NodeId}
    (sound : (w.completeAssociation station now).1.fatal = none)
    (sound' : (w'.completeAssociation station now).1.fatal = none) :
    SameOutcome (w.completeAssociation station now) (w'.completeAssociation station now) := by
  unfold World.completeAssociation at sound sound' ⊢
  rw [alike.network.accessPoint, alike.network.devices, alike.network.linkUp] at sound' ⊢
  split
  next ap d at_ap at_station =>
    rw [at_ap, at_station] at sound sound'
    obtain ⟨network, event⟩ := alike.network.associate d
    have joined : World.Alike { w with network := (w.network.associate d).1 }
        { w' with network := (w'.network.associate d).1 } :=
      ⟨network, alike.experiment, alike.subscriptions⟩
    dsimp only at sound sound' ⊢
    rw [event] at sound' ⊢
    split
    next => exact ⟨alike, rfl⟩
    next reached =>
      rw [if_neg reached] at sound sound'
      exact joined.dispatch (.same _) sound sound'
  next => exact ⟨alike, rfl⟩

theorem beginTraining (alike : w.Alike w') (initiator responder : NodeId) (now : Time) :
    SameOutcome (w.beginTraining initiator responder now)
      (w'.beginTraining initiator responder now) := by
  refine ⟨?_, ?_⟩
  · rw [fst_beginTraining, fst_beginTraining]
    exact alike
  · unfold World.beginTraining
    rw [alike.network.devices, alike.network.linkUp, alike.network.mac]
    split
    · split <;> rfl
    · rfl

theorem reportTraining (alike : w.Alike w') {a b : Device} {period : AccessPeriod}
    {side : TrainingSide} (sound : (w.reportTraining a b period side now).1.fatal = none)
    (sound' : (w'.reportTraining a b period side now).1.fatal = none) :
    SameOutcome (w.reportTraining a b period side now)
      (w'.reportTraining a b period side now) := by
  have context : w'.trainingContext a.address = w.trainingContext a.address := by
    rw [trainingContext, trainingContext, alike.subscriptions]
  unfold World.reportTraining at sound sound' ⊢
  rw [context] at sound' ⊢
  split
  next unknown =>
    rw [unknown] at sound
    cases sound
  next context known =>
    rw [known] at sound sound'
    exact alike.dispatch (.same _) sound sound'

theorem endTraining (alike : w.Alike w') {initiator responder : NodeId} {period : AccessPeriod}
    (sound : (w.endTraining initiator responder period now).1.fatal = none)
    (sound' : (w'.endTraining initiator responder period now).1.fatal = none) :
    SameOutcome (w.endTraining initiator responder period now)
      (w'.endTraining initiator responder period now) := by
  unfold World.endTraining at sound sound' ⊢
  rw [alike.network.devices, alike.network.linkUp] at sound' ⊢
  split
  next a b at_initiator at_responder =>
    rw [at_initiator, at_responder] at sound sound'
    dsimp only at sound sound' ⊢
    split
    next up =>
      rw [if_pos up] at sound sound'
      obtain ⟨world, first⟩ := alike.reportTraining (fatal_of_reportTraining sound)
        (fatal_of_reportTraining sound')
      obtain ⟨world, second⟩ := world.reportTraining sound sound'
      exact ⟨world, by dsimp only; rw [first, second]⟩
    next => exact ⟨alike, rfl⟩
  next => exact ⟨alike, rfl⟩

/-! ### Traffic and samples -/

theorem receiveFrame (alike : w.Alike w') {tx rx : NodeId} {kind : FrameKind} {bytes : Nat}
    {sink : Option SinkId} (sound : (w.receiveFrame tx rx kind bytes sink now).1.fatal = none)
    (sound' : (w'.receiveFrame tx rx kind bytes sink now).1.fatal = none) :
    SameOutcome (w.receiveFrame tx rx kind bytes sink now)
      (w'.receiveFrame tx rx kind bytes sink now) := by
  unfold World.receiveFrame at sound sound' ⊢
  rw [alike.network.devices, alike.network.linkUp] at sound' ⊢
  split
  next a b at_tx at_rx =>
    rw [at_tx, at_rx] at sound sound'
    dsimp only at sound sound' ⊢
    split
    next up =>
      rw [if_pos up] at sound sound'
      cases sink with
      | none => exact alike.dispatch (.received ..) sound sound'
      | some id =>
        exact (alike.updateApps fun apps => apps.recordReceived id bytes).dispatch (.received ..)
          sound sound'
    next => exact ⟨alike, rfl⟩
  next => exact ⟨alike, rfl⟩

theorem sendPacket (alike : w.Alike w') (sender : SenderId) (generation : Nat) (now : Time) :
    SameOutcome (w.sendPacket sender generation now) (w'.sendPacket sender generation now) := by
  unfold World.sendPacket
  rw [alike.network.apps, alike.network.phy, alike.network.linkUp]
  split
  next => exact ⟨alike, rfl⟩
  next sd _ =>
    split
    next => exact ⟨alike, rfl⟩
    next =>
      split
      next => exact ⟨alike.updateApps fun apps => apps.finish sender, rfl⟩
      next => exact ⟨alike.updateApps fun apps => apps.recordSent sender _, rfl⟩

theorem takeSample (alike : w.Alike w') {period : Time}
    (sound : (w.takeSample period now).1.fatal = none)
    (sound' : (w'.takeSample period now).1.fatal = none) :
    SameOutcome (w.takeSample period now) (w'.takeSample period now) := by
  obtain ⟨row, sampled, experiment⟩ := of_takeSample sound
  obtain ⟨row', sampled', experiment'⟩ := of_takeSample sound'
  rw [alike.network.apps] at sampled' experiment'
  refine ⟨⟨?_, ?_, ?_⟩, ?_⟩
  · rw [network_takeSample, network_takeSample]
    exact alike.network
  · rw [experiment, experiment']
    exact (alike.experiment.sample sampled sampled').2
  · have kept := congrArg (·.subscriptions) (w.setup_takeSample period now)
    have kept' := congrArg (·.subscriptions) (w'.setup_takeSample period now)
    exact kept'.trans (alike.subscriptions.trans kept.symm)
  · rw [requests_takeSample sound, requests_takeSample sound']

/-! ### All events -/

/-- An event that brings no fault asks for the same in worlds that are alike, and leaves them
alike. -/
theorem act (alike : w.Alike w') {event : NetworkEvent}
    (sound : (w.act now event).1.fatal = none) (sound' : (w'.act now event).1.fatal = none) :
    SameOutcome (w.act now event) (w'.act now event) := by
  cases event with
  | beaconInterval index => exact alike.beginInterval sound sound'
  | transferInterval duration => exact alike.beginTransfer sound sound'
  | associationComplete station => exact alike.completeAssociation sound sound'
  | trainingRequested initiator responder => exact alike.beginTraining initiator responder now
  | trainingDone initiator responder period => exact alike.endTraining sound sound'
  | frameArrives tx rx kind bytes sink => exact alike.receiveFrame sound sound'
  | sendTimer sender generation => exact alike.sendPacket sender generation now
  | sampleDue period => exact alike.takeSample sound sound'

end World.Alike

/-! ## What is written -/

/-- A record of a training, whichever trace was in force. -/
def TrainingRecord.untraced (record : TrainingRecord) : TrainingRecord :=
  { record with traceIndex := 0 }

/-- When a frame was received and between whom, however good it was. -/
def QualityRecord.frame (record : QualityRecord) : Time × MacAddress × MacAddress :=
  (record.time, record.transmitter, record.receiver)

/-- A control frame of a training arrives. -/
def NetworkEvent.isControl : NetworkEvent → Bool
  | .frameArrives _ _ kind _ _ => kind.isTraining
  | _ => false

namespace World.Alike

variable {w w' : World} {now : Time} {event : NetworkEvent}

/-- The rows of samples are the same. -/
theorem rows_written (alike : w.Alike w') (sound : (w.act now event).1.fatal = none)
    (sound' : (w'.act now event).1.fatal = none) :
    (w'.written now event).rows = (w.written now event).rows := by
  have dated := (dated_written sound).rows
  have dated' := (dated_written sound').rows
  cases event with
  | sampleDue period =>
    simp only [written, writtenSample, alike.experiment.sampler, alike.experiment.pairs,
      alike.network.apps]
  | _ => rw [List.map_eq_nil_iff.1 dated, List.map_eq_nil_iff.1 dated']

/-- The records of trainings are the same, but for the trace. -/
theorem trainings_written (alike : w.Alike w') (now : Time) (event : NetworkEvent) :
    (w'.written now event).trainings.map TrainingRecord.untraced =
      (w.written now event).trainings.map TrainingRecord.untraced := by
  by_cases done : ∃ i j period, event = .trainingDone i j period
  · obtain ⟨i, j, period, rfl⟩ := done
    simp only [written, writtenTraining, alike.network.devices, alike.network.linkUp]
    split
    · split <;> rfl
    · rfl
  · have other : ∀ i j period, event ≠ .trainingDone i j period :=
      fun i j period same => done ⟨i, j, period, same⟩
    rw [World.trainings_written other, World.trainings_written other]

end World.Alike

namespace World

/-- The frame that arrives from one node at another, if the link is up. -/
def arrival (w : World) (now : Time) (tx rx : NodeId) : List (Time × MacAddress × MacAddress) :=
  match w.network.devices[tx]?, w.network.devices[rx]? with
  | some a, some b => if w.network.linkUp tx rx now then [(now, a.address, b.address)] else []
  | _, _ => []

/-- A frame that arrives is logged if it is of interest. -/
theorem qualities_writtenArrival (w : World) (now : Time) (tx rx : NodeId) (kind : FrameKind) :
    (w.writtenArrival now tx rx kind).qualities.map QualityRecord.frame =
      if kind.isLogged w.experiment.config.reportDataSnr then w.arrival now tx rx else [] := by
  unfold writtenArrival arrival
  cases w.network.devices[tx]? with
  | none => exact (ite_self _).symm
  | some a =>
    cases w.network.devices[rx]? with
    | none => exact (ite_self _).symm
    | some b =>
      dsimp only
      cases w.network.linkUp tx rx now with
      | false => exact (ite_self _).symm
      | true =>
        rw [if_pos rfl, if_pos rfl]
        split <;> rfl

/-- Only frames that arrive are logged with their quality. -/
theorem qualities_written {event : NetworkEvent}
    (other : ∀ tx rx kind bytes sink, event ≠ .frameArrives tx rx kind bytes sink) (w : World)
    (now : Time) : (w.written now event).qualities = [] := by
  cases event with
  | frameArrives tx rx kind bytes sink => exact absurd rfl (other tx rx kind bytes sink)
  | associationComplete station =>
    simp only [written, writtenAssociation]
    split
    · rfl
    · split <;> rfl
  | trainingDone i j period =>
    simp only [written, writtenTraining]
    split
    · split <;> rfl
    · rfl
  | sampleDue period =>
    simp only [written, writtenSample]
    split <;> rfl
  | beaconInterval | transferInterval | trainingRequested | sendTimer => rfl

namespace Alike

variable {w w' : World} {now : Time} {event : NetworkEvent}

theorem arrival (alike : w.Alike w') (now : Time) (tx rx : NodeId) :
    w'.arrival now tx rx = w.arrival now tx rx := by
  unfold World.arrival
  rw [alike.network.devices, alike.network.linkUp]

/-- Experiments that log the same kinds of frames log the same frames. -/
theorem qualities_written (alike : w.Alike w') (now : Time) (event : NetworkEvent)
    (same : w'.experiment.config.reportDataSnr = w.experiment.config.reportDataSnr) :
    (w'.written now event).qualities.map QualityRecord.frame =
      (w.written now event).qualities.map QualityRecord.frame := by
  by_cases arrives : ∃ tx rx kind bytes sink, event = .frameArrives tx rx kind bytes sink
  · obtain ⟨tx, rx, kind, bytes, sink, rfl⟩ := arrives
    simp only [written, qualities_writtenArrival, same, alike.arrival]
  · have other : ∀ tx rx kind bytes sink, event ≠ .frameArrives tx rx kind bytes sink :=
      fun tx rx kind bytes sink same => arrives ⟨tx, rx, kind, bytes, sink, same⟩
    rw [World.qualities_written other, World.qualities_written other]

/-- An experiment that does not log data frames logs the control frames among those that another one
logs. -/
theorem qualities_written_of_not_report (alike : w.Alike w') (now : Time) (event : NetworkEvent)
    (quiet : w'.experiment.config.reportDataSnr = false) :
    (w'.written now event).qualities.map QualityRecord.frame =
      (if event.isControl then (w.written now event).qualities else []).map
        QualityRecord.frame := by
  by_cases arrives : ∃ tx rx kind bytes sink, event = .frameArrives tx rx kind bytes sink
  · obtain ⟨tx, rx, kind, bytes, sink, rfl⟩ := arrives
    have logged (report : Bool) (training : kind.isTraining = true) :
        kind.isLogged report = true := by
      rw [FrameKind.isLogged, training, Bool.or_true]
    change (w'.writtenArrival now tx rx kind).qualities.map QualityRecord.frame =
      (if kind.isTraining then (w.writtenArrival now tx rx kind).qualities else []).map
        QualityRecord.frame
    rw [qualities_writtenArrival, quiet, alike.arrival]
    by_cases training : kind.isTraining = true
    · rw [if_pos training, qualities_writtenArrival, logged _ training, logged _ training]
    · rw [if_neg training, if_neg (by simpa [FrameKind.isLogged] using training)]
      rfl
  · have other : ∀ tx rx kind bytes sink, event ≠ .frameArrives tx rx kind bytes sink :=
      fun tx rx kind bytes sink same => arrives ⟨tx, rx, kind, bytes, sink, same⟩
    rw [World.qualities_written other, World.qualities_written other, ite_self]

end Alike

end World

end DenseDmg
