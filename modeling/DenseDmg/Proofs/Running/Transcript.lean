import DenseDmg.Proofs.Engine.Timeline
import DenseDmg.Proofs.Measurement.Logs
import DenseDmg.Proofs.Running.Termination

/-!
# The transcript of a run

The streams of a run may fail at any write and at any flush.  A run that gives its figures all the
same has lost nothing: `World.written` says what an event adds to the table and to the logs, and the
streams hold what the events of the run added, in the order of execution.

* `InScene.shows_act`: an event that brings no fault has written what belongs to it.
* `Built.shows`: so have all events of a history.
* `Built.transcript`: the streams and the figures of a run that ends without a failure.
-/

namespace DenseDmg

/-! ## What belongs to an event -/

/-- The throughput is sampled. -/
def NetworkEvent.samples : NetworkEvent → Bool
  | .sampleDue _ => true
  | _ => false

namespace World

/-- The notice of a loss, if the station is cut off and associated. -/
def writtenLoss (w : World) (now : Time) (d : Device) : List ConsoleLine :=
  if w.network.isBlocked d.node now && d.isAssociated then
    w.experiment.noticed (.deassociated ⟨d.node, d.address, d.bssid⟩)
  else []

/-- The notice of an association, if the station is within reach and not associated yet. -/
def writtenAssociation (w : World) (now : Time) (station : NodeId) : Written :=
  match w.network.devices[station]? with
  | none => .nothing
  | some d =>
    if w.network.linkUp 0 station now && !d.isAssociated then
      ⟨w.experiment.noticed (.associated ⟨d.node, d.address, d.bssid, w.network.nextAid⟩), [], []⟩
    else .nothing

/-- The notice and the record of a training for one of its ends. -/
def writtenReport (w : World) (now : Time) (reporter peer : Device) (period : AccessPeriod)
    (side : TrainingSide) : Written :=
  ⟨w.experiment.noticed (.trained (trainingReport reporter peer period side)),
    [w.trainingRecord reporter peer now], []⟩

/-- What is written of a training that is over, at either end, if the link is up. -/
def writtenTraining (w : World) (now : Time) (initiator responder : NodeId)
    (period : AccessPeriod) : Written :=
  match w.network.devices[initiator]?, w.network.devices[responder]? with
  | some a, some b =>
    if w.network.linkUp initiator responder now then
      w.writtenReport now a b period .initiator ++ w.writtenReport now b a period .responder
    else .nothing
  | _, _ => .nothing

/-- The quality of a frame that arrives, if the link is up and the frame is of interest. -/
def writtenArrival (w : World) (now : Time) (tx rx : NodeId) (kind : FrameKind) : Written :=
  match w.network.devices[tx]?, w.network.devices[rx]? with
  | some a, some b =>
    if w.network.linkUp tx rx now then
      ⟨[], [], if kind.isLogged w.experiment.config.reportDataSnr then
        [⟨now, a.address, b.address, w.network.snr a b now⟩] else []⟩
    else .nothing
  | _, _ => .nothing

/-- The row of a sample. -/
def writtenSample (w : World) (now : Time) : Written :=
  match (w.experiment.sampler.sample now w.experiment.pairs fun sink =>
      (w.network.apps.received sink).bytes).2.2 with
  | .ok row => ⟨[.row row], [], []⟩
  | .error _ => .nothing

/-- What an event adds to the table and to the logs. -/
def written (w : World) (now : Time) : NetworkEvent → Written
  | .beaconInterval _ => ⟨w.network.stations.flatMap (w.writtenLoss now), [], []⟩
  | .associationComplete station => w.writtenAssociation now station
  | .trainingDone initiator responder period => w.writtenTraining now initiator responder period
  | .frameArrives tx rx kind _ _ => w.writtenArrival now tx rx kind
  | .sampleDue _ => w.writtenSample now
  | .transferInterval _ | .trainingRequested _ _ | .sendTimer _ _ => .nothing

variable {s : Scenario} {outputs : Outputs} {w : World} {now : Time} {header : List String}
  {all : Written}

/-! ## Reports -/

theorem experiment_obeyAll (w : World) (orders : List Order) :
    (w.obeyAll orders).1.experiment = w.experiment := by
  induction orders generalizing w with
  | nil => rfl
  | cons order rest ih =>
    refine (ih _).trans ?_
    cases order with
    | startSender sender => rfl
    | stopSender sender => rfl
    | train initiator peer => exact (w.obey_train initiator peer).1.experiment

/-- A report that brings no fault has written what belongs to it. -/
theorem shows_dispatch (shows : w.experiment.Shows header all) {event : LinkEvent}
    (sound : (w.dispatch event now).1.fatal = none) :
    (w.dispatch event now).1.experiment.Shows header
      (all ++ w.experiment.written event (w.network.traceIndex now) now) := by
  obtain ⟨-, handled, dispatched⟩ := of_dispatch sound
  rw [dispatched, experiment_obeyAll]
  exact shows.handle handled

theorem InScene.config (scene : w.InScene s outputs) :
    w.experiment.config = DenseRun.experimentConfig s :=
  congrArg (·.experiment.config) scene

/-- Which notices are written is settled for the whole run. -/
theorem InScene.noticed_eq {w' : World} (scene : w.InScene s outputs)
    (scene' : w'.InScene s outputs) : w'.experiment.noticed = w.experiment.noticed := by
  funext line
  rw [Experiment.noticed, Experiment.noticed, scene.config, scene'.config]

/-! ## Events -/

theorem shows_loseStation (shows : w.experiment.Shows header all) {d : Device}
    (sound : (loseStation now w d).fatal = none) :
    (loseStation now w d).experiment.Shows header (all ++ ⟨w.writtenLoss now d, [], []⟩) := by
  unfold loseStation at sound ⊢
  unfold writtenLoss
  split
  next lost =>
    rw [if_pos lost] at sound
    exact shows_dispatch (w := { w with network := (w.network.deassociate d).1 }) shows sound
  next => exact shows.nothing

theorem InScene.shows_foldl_loseStation {ds : List Device} (scene : w.InScene s outputs)
    (shows : w.experiment.Shows header all)
    (sound : (ds.foldl (loseStation now) w).fatal = none) :
    (ds.foldl (loseStation now) w).experiment.Shows header
      (all ++ ⟨ds.flatMap (w.writtenLoss now), [], []⟩) := by
  induction ds generalizing w all with
  | nil => exact shows.nothing
  | cons d ds ih =>
    have first := shows_loseStation shows (fatal_of_foldl_loseStation sound)
    have scene' : (loseStation now w d).InScene s outputs :=
      (setup_loseStation now w d).trans scene
    -- The others are told of in the world that the first one leaves.
    have same : (loseStation now w d).writtenLoss now = w.writtenLoss now := by
      funext d'
      rw [writtenLoss, writtenLoss, isBlocked_eq scene scene', scene.noticed_eq scene']
    have others := ih scene' first sound
    rw [same, Written.append_assoc] at others
    exact others

theorem InScene.shows_beginInterval (scene : w.InScene s outputs)
    (shows : w.experiment.Shows header all) {index : Nat}
    (sound : (w.beginInterval index now).1.fatal = none) :
    (w.beginInterval index now).1.experiment.Shows header
      (all ++ w.written now (.beaconInterval index)) := by
  obtain ⟨ap, at_zero, -⟩ := scene.exists_accessPoint
  unfold beginInterval at sound ⊢
  rw [scene.accessPoint, Option.bind_some, at_zero] at sound ⊢
  exact scene.shows_foldl_loseStation shows sound

theorem fatal_of_announceTransfer {ds : List Device} {duration : Time}
    (sound : (w.announceTransfer duration now ds).1.fatal = none) : w.fatal = none := by
  induction ds generalizing w with
  | nil => exact sound
  | cons d ds ih => exact (of_dispatch (ih sound)).1

theorem shows_announceTransfer {ds : List Device} {duration : Time}
    (shows : w.experiment.Shows header all)
    (sound : (w.announceTransfer duration now ds).1.fatal = none) :
    (w.announceTransfer duration now ds).1.experiment.Shows header all := by
  induction ds generalizing w with
  | nil => exact shows
  | cons d ds ih =>
    have first := shows_dispatch shows (fatal_of_announceTransfer sound)
    change (w.dispatch _ now).1.experiment.Shows header (all ++ .nothing) at first
    rw [Written.append_nothing] at first
    exact ih first sound

theorem shows_beginTransfer (shows : w.experiment.Shows header all) {duration : Time}
    (sound : (w.beginTransfer duration now).1.fatal = none) :
    (w.beginTransfer duration now).1.experiment.Shows header all := by
  unfold beginTransfer at sound ⊢
  split
  next => exact shows
  next ap at_ap =>
    rw [at_ap] at sound
    exact shows_announceTransfer shows sound

theorem InScene.shows_completeAssociation (scene : w.InScene s outputs)
    (shows : w.experiment.Shows header all) {station : NodeId}
    (sound : (w.completeAssociation station now).1.fatal = none) :
    (w.completeAssociation station now).1.experiment.Shows header
      (all ++ w.writtenAssociation now station) := by
  unfold completeAssociation at sound ⊢
  unfold writtenAssociation
  rw [scene.accessPoint] at sound ⊢
  cases at_station : w.network.devices[station]? with
  | none => exact shows.nothing
  | some d =>
    rw [at_station] at sound
    dsimp only at sound ⊢
    have either : (!w.network.linkUp 0 station now || d.isAssociated) =
        !(w.network.linkUp 0 station now && !d.isAssociated) := by simp
    rw [either] at sound ⊢
    cases admitted : (w.network.linkUp 0 station now && !d.isAssociated) with
    | false => exact shows.nothing
    | true =>
      rw [admitted] at sound
      exact shows_dispatch (w := { w with network := (w.network.associate d).1 }) shows sound

theorem fatal_of_reportTraining {a b : Device} {period : AccessPeriod} {side : TrainingSide}
    (sound : (w.reportTraining a b period side now).1.fatal = none) : w.fatal = none := by
  unfold reportTraining at sound
  split at sound
  · cases sound
  · exact (of_dispatch sound).1

theorem InScene.shows_reportTraining (scene : w.InScene s outputs) (accepted : s.Accepted)
    (shows : w.experiment.Shows header all) {i j : NodeId} {a b : Device}
    (at_i : w.network.devices[i]? = some a) (at_j : w.network.devices[j]? = some b)
    {period : AccessPeriod} {side : TrainingSide}
    (sound : (w.reportTraining a b period side now).1.fatal = none) :
    (w.reportTraining a b period side now).1.experiment.Shows header
      (all ++ w.writtenReport now a b period side) := by
  obtain ⟨reported, known⟩ := scene.of_reportTraining accepted at_i at_j period side now
  rw [reported] at sound ⊢
  have told := shows_dispatch shows sound
  unfold Experiment.written at told
  dsimp only at told
  rw [known] at told
  exact told

theorem InScene.shows_endTraining (scene : w.InScene s outputs) (accepted : s.Accepted)
    (shows : w.experiment.Shows header all) {i j : NodeId} {period : AccessPeriod}
    (sound : (w.endTraining i j period now).1.fatal = none) :
    (w.endTraining i j period now).1.experiment.Shows header
      (all ++ w.writtenTraining now i j period) := by
  unfold World.endTraining at sound ⊢
  unfold writtenTraining
  cases at_i : w.network.devices[i]? with
  | none => exact shows.nothing
  | some a =>
    cases at_j : w.network.devices[j]? with
    | none => exact shows.nothing
    | some b =>
      rw [at_i, at_j] at sound
      dsimp only at sound ⊢
      split
      next up =>
        rw [if_pos up] at sound
        have first := scene.shows_reportTraining accepted shows at_i at_j
          (fatal_of_reportTraining sound)
        -- The second report is made in the network of the first one.
        have scene' := (setup_reportTraining w a b period .initiator now).trans scene
        have network : (w.reportTraining a b period .initiator now).1.network = w.network := by
          rw [(scene.of_reportTraining accepted at_i at_j period .initiator now).1]
          exact (w.dispatch_quiet (.trainingCompleted _) trivial now).1
        have second := InScene.shows_reportTraining scene' accepted first (network ▸ at_j)
          (network ▸ at_i) sound
        have same : (w.reportTraining a b period .initiator now).1.writtenReport now b a period
            .responder = w.writtenReport now b a period .responder := by
          rw [writtenReport, writtenReport, trainingRecord, trainingRecord, network,
            scene.noticed_eq scene']
        rw [same, Written.append_assoc] at second
        exact second
      next => exact shows.nothing

theorem shows_receiveFrame (shows : w.experiment.Shows header all) {tx rx : NodeId}
    {kind : FrameKind} {bytes : Nat} {sink : Option SinkId}
    (sound : (w.receiveFrame tx rx kind bytes sink now).1.fatal = none) :
    (w.receiveFrame tx rx kind bytes sink now).1.experiment.Shows header
      (all ++ w.writtenArrival now tx rx kind) := by
  unfold receiveFrame at sound ⊢
  unfold writtenArrival
  cases at_tx : w.network.devices[tx]? with
  | none => exact shows.nothing
  | some a =>
    cases at_rx : w.network.devices[rx]? with
    | none => exact shows.nothing
    | some b =>
      rw [at_tx, at_rx] at sound
      dsimp only at sound ⊢
      split
      next up =>
        rw [if_pos up] at sound
        cases sink with
        | none => exact shows_dispatch shows sound
        | some id =>
          exact shows_dispatch (w := w.updateApps fun apps => apps.recordReceived id bytes) shows
            sound
      next => exact shows.nothing

theorem experiment_sendPacket (w : World) (sender : SenderId) (generation : Nat) (now : Time) :
    (w.sendPacket sender generation now).1.experiment = w.experiment := by
  unfold sendPacket
  split
  · rfl
  · split
    · rfl
    · split <;> rfl

/-- A sample that brings no fault has a row. -/
theorem of_takeSample {period : Time} (sound : (w.takeSample period now).1.fatal = none) :
    ∃ row, (w.experiment.sample now fun sink => (w.network.apps.received sink).bytes).2 = .ok row ∧
      (w.takeSample period now).1.experiment =
        (w.experiment.sample now fun sink => (w.network.apps.received sink).bytes).1 := by
  have running : ¬ w.halted = true := by
    intro halted
    simp only [takeSample, sampleThroughput, if_pos halted] at sound
    rw [World.halted, sound] at halted
    cases halted
  unfold takeSample sampleThroughput at sound ⊢
  rw [if_neg running] at sound ⊢
  dsimp only at sound ⊢
  cases answer : (w.experiment.sample now fun sink => (w.network.apps.received sink).bytes).2 with
  | error f =>
    rw [answer] at sound
    cases sound
  | ok row => exact ⟨row, rfl, (sameParts_check _ _).experiment⟩

theorem shows_takeSample (shows : w.experiment.Shows header all) {period : Time}
    (sound : (w.takeSample period now).1.fatal = none) :
    (w.takeSample period now).1.experiment.Shows header (all ++ w.writtenSample now) := by
  obtain ⟨row, sampled, experiment⟩ := of_takeSample sound
  obtain ⟨answer, -⟩ := Experiment.sampled_of_sample sampled
  rw [experiment, writtenSample, answer]
  exact shows.sample sampled

/-- An event that brings no fault has written what belongs to it, whichever operations of the
streams fail. -/
theorem InScene.shows_act (scene : w.InScene s outputs) (accepted : s.Accepted)
    (shows : w.experiment.Shows header all) {event : NetworkEvent}
    (sound : (w.act now event).1.fatal = none) :
    (w.act now event).1.experiment.Shows header (all ++ w.written now event) := by
  cases event with
  | beaconInterval index => exact scene.shows_beginInterval shows sound
  | transferInterval duration => exact (shows_beginTransfer shows sound).nothing
  | associationComplete station => exact scene.shows_completeAssociation shows sound
  | trainingRequested initiator responder =>
    rw [act, fst_beginTraining]
    exact shows.nothing
  | trainingDone initiator responder period => exact scene.shows_endTraining accepted shows sound
  | frameArrives tx rx kind bytes sink => exact shows_receiveFrame shows sound
  | sendTimer sender generation =>
    rw [act, experiment_sendPacket]
    exact shows.nothing
  | sampleDue period => exact shows_takeSample shows sound

/-! ## Times -/

end World

/-- All that is written tells the same instant, and it is one row if it is that of a sample. -/
structure Written.Dated (now : Time) (samples : Bool) (a : Written) : Prop where
  rows : a.rows.map ThroughputRow.time = if samples then [now] else []
  trainings : ∀ record ∈ a.trainings, record.time = now
  qualities : ∀ record ∈ a.qualities, record.time = now

namespace Written

variable {a b : Written} {now : Time} {samples : Bool}

theorem Dated.nothing : Written.nothing.Dated now false := ⟨rfl, nofun, nofun⟩

theorem Dated.append (first : a.Dated now false) (second : b.Dated now samples) :
    (a ++ b).Dated now samples where
  rows := by
    rw [rows_append, List.map_append, first.rows, second.rows]
    rfl
  trainings := fun record mem =>
    (List.mem_append.1 mem).elim (first.trainings record) (second.trainings record)
  qualities := fun record mem =>
    (List.mem_append.1 mem).elim (first.qualities record) (second.qualities record)

/-- Notices have no rows. -/
theorem Dated.notices {lines : List ConsoleLine} (notices : lines.filterMap ConsoleLine.row? = []) :
    Dated now false ⟨lines, [], []⟩ where
  rows := by
    rw [Written.rows, notices]
    rfl
  trainings := nofun
  qualities := nofun

end Written

namespace World

variable {w : World} {now : Time}

theorem filterMap_writtenLoss (w : World) (now : Time) (d : Device) :
    (w.writtenLoss now d).filterMap ConsoleLine.row? = [] := by
  unfold writtenLoss
  split
  · exact w.experiment.rows_noticed rfl []
  · rfl

theorem dated_writtenAssociation (station : NodeId) :
    (w.writtenAssociation now station).Dated now false := by
  unfold writtenAssociation
  split
  · exact .nothing
  · split
    · exact .notices (w.experiment.rows_noticed rfl [])
    · exact .nothing

theorem dated_writtenTraining (initiator responder : NodeId) (period : AccessPeriod) :
    (w.writtenTraining now initiator responder period).Dated now false := by
  have report (a b : Device) (side : TrainingSide) :
      (w.writtenReport now a b period side).Dated now false := by
    refine ⟨?_, fun record mem => ?_, nofun⟩
    · rw [writtenReport, w.experiment.rows_noticed rfl]
      rfl
    · rw [List.mem_singleton.1 mem]
      rfl
  unfold writtenTraining
  split
  · split
    · exact (report _ _ _).append (report _ _ _)
    · exact .nothing
  · exact .nothing

theorem dated_writtenArrival (tx rx : NodeId) (kind : FrameKind) :
    (w.writtenArrival now tx rx kind).Dated now false := by
  unfold writtenArrival
  split
  · split
    · refine ⟨rfl, nofun, fun record mem => ?_⟩
      dsimp only at mem
      split at mem
      · rw [List.mem_singleton.1 mem]
      · cases mem
    · exact .nothing
  · exact .nothing

/-- All that belongs to an event that brings no fault tells when it was executed.  A sample has one
row, and nothing else has any. -/
theorem dated_written {event : NetworkEvent} (sound : (w.act now event).1.fatal = none) :
    (w.written now event).Dated now event.samples := by
  cases event with
  | beaconInterval index =>
    refine .notices ?_
    rw [List.filterMap_flatMap, List.flatMap_eq_nil_iff]
    exact fun d _ => w.filterMap_writtenLoss now d
  | associationComplete station => exact dated_writtenAssociation station
  | trainingDone initiator responder period =>
    exact dated_writtenTraining initiator responder period
  | frameArrives tx rx kind bytes sink => exact dated_writtenArrival tx rx kind
  | sampleDue period =>
    obtain ⟨row, sampled, -⟩ := of_takeSample sound
    obtain ⟨answer, time⟩ := Experiment.sampled_of_sample sampled
    rw [written, writtenSample, answer]
    exact ⟨congrArg (fun t => [t]) time, nofun, nofun⟩
  | transferInterval | trainingRequested | sendTimer => exact .nothing

end World

/-! ## Along a run -/

/-- What a moment adds to the table and to the logs. -/
def Moment.written (m : Moment NetworkEvent World) : Written :=
  m.world.written m.entry.due m.entry.event

/-- The moment of a sample. -/
def Moment.samples (m : Moment NetworkEvent World) : Bool := m.entry.event.samples

/-- What the moments of a history have added, the earliest one first. -/
def Written.ofMoments (ms : List (Moment NetworkEvent World)) : Written where
  console := ms.reverse.flatMap fun m => m.written.console
  trainings := ms.reverse.flatMap fun m => m.written.trainings
  qualities := ms.reverse.flatMap fun m => m.written.qualities

theorem Written.ofMoments_cons (m : Moment NetworkEvent World)
    (ms : List (Moment NetworkEvent World)) :
    ofMoments (m :: ms) = ofMoments ms ++ m.written := by
  show Written.mk _ _ _ = Written.mk _ _ _
  simp only [ofMoments, List.reverse_cons, List.flatMap_append, List.flatMap_singleton]

/-- Where samples have one row each, and nothing else has any, the rows are those of the samples. -/
theorem Written.map_rows_ofMoments {α : Type} {ms : List (Moment NetworkEvent World)}
    (f : ThroughputRow → α) (g : Moment NetworkEvent World → α)
    (each : ∀ m ∈ ms, m.written.rows.map f = if m.samples then [g m] else []) :
    (ofMoments ms).rows.map f = (ms.reverse.filter Moment.samples).map g := by
  induction ms with
  | nil => rfl
  | cons m ms ih =>
    rw [ofMoments_cons, rows_append, List.map_append,
      ih fun m' mem => each m' (List.mem_cons_of_mem _ mem), each m List.mem_cons_self,
      List.reverse_cons, List.filter_append, List.map_append]
    cases samples : m.samples <;> simp [samples]

/-- What the moments of a history add at their own instants is in the order of time. -/
theorem pairwise_flatMap_moments {α : Type} {ms : List (Moment NetworkEvent World)}
    (added : Moment NetworkEvent World → List α) (time : α → Time)
    (ordered : ms.Pairwise fun later earlier => earlier.entry.due ≤ later.entry.due)
    (dated : ∀ m ∈ ms, ∀ a ∈ added m, time a = m.entry.due) :
    (ms.reverse.flatMap added).Pairwise fun a b => time a ≤ time b := by
  rw [List.pairwise_flatMap, List.pairwise_reverse]
  constructor
  · intro m mem
    refine List.pairwise_of_forall_mem_list fun a mema b memb => ?_
    rw [dated m (List.mem_reverse.1 mem) a mema, dated m (List.mem_reverse.1 mem) b memb]
    exact Nat.le_refl _
  · refine ordered.imp_of_mem fun {later earlier} meml meme le => ?_
    intro a mema b memb
    rw [dated earlier meme a mema, dated later meml b memb]
    exact le

theorem Lone.unused : Lone.outputs.Unused :=
  ⟨⟨rfl, fun _ => rfl⟩, ⟨rfl, fun _ => rfl⟩, ⟨rfl, fun _ => rfl⟩⟩

namespace DenseRun

variable {spec : ScenarioSpec} {s : Scenario} {outputs : Outputs} {r : DenseRun}
  {sim : Simulator NetworkEvent} {w : World} {ms : List (Moment NetworkEvent World)}

/-- In a reached world without a fault the streams show what the events of its history added. -/
theorem Built.shows (run : Built spec s outputs r) (unused : outputs.Unused)
    (history : History World.behaviour r.simulator r.world ms sim w) (sound : w.fatal = none) :
    w.experiment.Shows (Experiment.tableHeading s.csv s.numStas) (.ofMoments ms) := by
  induction history with
  | start =>
    obtain ⟨x, begun, rfl⟩ := exists_start_of_build run.built
    have shows := Experiment.Shows.of_start unused begun
    have size : s.pairs.size = s.numStas := by simp [PairRegistry.size, Scenario.pairs]
    rw [size] at shows
    exact ⟨shows.fills, shows.rows⟩
  | @execute ms sim w entry rest before pending ih =>
    rw [Written.ofMoments_cons]
    exact (run.inScene before).shows_act (ScenarioSpec.accepted_of_resolve run.accepted)
      (ih (run.sound_of_pending before pending)) sound
  | settle limit _ _ ih => exact ih sound

/-- The moments of a history without a fault brought none, each in the scene of the scenario. -/
theorem Built.sound_of_mem (run : Built spec s outputs r)
    (history : History World.behaviour r.simulator r.world ms sim w) (sound : w.fatal = none) :
    ∀ m ∈ ms, m.world.InScene s outputs ∧
      (m.world.act m.entry.due m.entry.event).1.fatal = none := by
  induction history with
  | start =>
    intro m mem
    cases mem
  | @execute ms sim w entry rest before pending ih =>
    intro m mem
    rcases List.mem_cons.1 mem with rfl | mem
    · exact ⟨run.inScene before, sound⟩
    · exact ih (run.sound_of_pending before pending) m mem
  | settle limit _ _ ih => exact ih sound

/-- All that a history without a fault added tells when it was executed. -/
theorem Built.dated (run : Built spec s outputs r)
    (history : History World.behaviour r.simulator r.world ms sim w) (sound : w.fatal = none) :
    ∀ m ∈ ms, m.written.Dated m.entry.due m.samples :=
  fun m mem => World.dated_written (run.sound_of_mem history sound m mem).2

/-- What a run that ends without a failure leaves on its streams and tells in its figures, with the
moments that it consists of, the latest one first. -/
structure Transcript (s : Scenario) (ms : List (Moment NetworkEvent World)) (o : Outputs)
    (summary : Summary) : Prop where
  console : o.console.Holds (Experiment.tableHeading s.csv s.numStas ++
    (Written.ofMoments ms).console.map (ConsoleLine.text s.csv) ++
      if s.csv then [] else summary.report)
  training : o.training.Holds
    (trainingHeader :: (Written.ofMoments ms).trainings.map TrainingRecord.text)
  quality : o.quality.Holds
    (qualityHeader :: (Written.ofMoments ms).qualities.map QualityRecord.text)
  throughputRows : summary.throughputRows = (Written.ofMoments ms).rows.length
  trainingRecords : summary.trainingRecords = (Written.ofMoments ms).trainings.length
  qualityRecords : summary.qualityRecords = (Written.ofMoments ms).qualities.length
  /-- Every sample has one row, and there are no other rows. -/
  samples : (Written.ofMoments ms).rows.map ThroughputRow.time =
    (ms.reverse.filter Moment.samples).map fun m => m.entry.due
  rowsInOrder : (Written.ofMoments ms).rows.Pairwise fun a b => a.time ≤ b.time
  trainingsInOrder : (Written.ofMoments ms).trainings.Pairwise fun a b => a.time ≤ b.time
  qualitiesInOrder : (Written.ofMoments ms).qualities.Pairwise fun a b => a.time ≤ b.time

/-- Every sample of a history without a fault has one row. -/
theorem Built.times_rows (run : Built spec s outputs r)
    (history : History World.behaviour r.simulator r.world ms sim w) (sound : w.fatal = none) :
    (Written.ofMoments ms).rows.map ThroughputRow.time =
      (ms.reverse.filter Moment.samples).map fun m => m.entry.due :=
  Written.map_rows_ofMoments _ _ fun m mem => (run.dated history sound m mem).rows

/-- The streams and the figures of a run whose last state has no fault and ends without a
failure. -/
theorem Built.transcript_of_finish (run : Built spec s outputs r) (unused : outputs.Unused)
    (history : History World.behaviour r.simulator r.world ms sim w) (sound : w.fatal = none)
    {summary : Summary} (finished : (w.experiment.finish summary).2 = .ok ())
    (rows : summary.throughputRows = w.experiment.sampler.rows)
    (trainings : summary.trainingRecords = w.experiment.trainingRecords)
    (qualities : summary.qualityRecords = w.experiment.qualityRecords) :
    Transcript s ms (w.experiment.finish summary).1.outputs summary := by
  have shows := run.shows unused history sound
  have dated := run.dated history sound
  have ordered := history.pairwise_due run.laidOut.inOrder
  have config : w.experiment.config = experimentConfig s := (run.inScene history).config
  have csv : w.experiment.config.csv = s.csv := congrArg ExperimentConfig.csv config
  have times := run.times_rows history sound
  obtain ⟨console, training, quality⟩ := shows.of_finish finished
  rw [csv] at console
  refine ⟨console, training, quality, rows.trans shows.rows, ?_, ?_, times, ?_, ?_, ?_⟩
  · rw [trainings, Experiment.trainingRecords, shows.fills.training.count, List.length_cons,
      List.length_map, Nat.add_sub_cancel]
  · rw [qualities, Experiment.qualityRecords, shows.fills.quality.count, List.length_cons,
      List.length_map, Nat.add_sub_cancel]
  · rw [← List.pairwise_map (f := ThroughputRow.time) (R := fun a b => a ≤ b), times,
      List.pairwise_map]
    refine List.Pairwise.filter _ ?_
    rwa [List.pairwise_reverse]
  · exact pairwise_flatMap_moments _ TrainingRecord.time ordered
      fun m mem => (dated m mem).trainings
  · exact pairwise_flatMap_moments _ QualityRecord.time ordered
      fun m mem => (dated m mem).qualities

/-- A run that gives its figures has ended without a fault, and what it leaves differs from that by
the end of the experiment. -/
theorem of_run_eq_ok {fuel : Nat} {final : World} {summary : Summary}
    (ended : r.run fuel = some (final, .ok summary)) :
    ∃ sim w, Simulator.runUntil World.behaviour r.stopAt fuel r.simulator r.world = some (sim, w) ∧
      w.fatal = none ∧
      summary = { w.summary r.simulationTime with eventsExecuted := sim.executed } ∧
      (w.experiment.finish summary).2 = .ok () ∧
      final = { w with experiment := (w.experiment.finish summary).1 } := by
  obtain ⟨⟨sim, w⟩, loop, concluded⟩ := Option.map_eq_some_iff.1 ended
  refine ⟨sim, w, loop, ?_⟩
  unfold conclude at concluded
  dsimp only at concluded
  split at concluded
  next => cases concluded
  next sound =>
    cases finished : (w.experiment.finish
        { w.summary r.simulationTime with eventsExecuted := sim.executed }).2 with
    | error f =>
      rw [finished] at concluded
      cases concluded
    | ok _ =>
      rw [finished] at concluded
      cases concluded
      exact ⟨sound, rfl, finished, rfl⟩

/-- A run that gives its figures has a moment for every event that it counts, and its streams hold
all that belongs to them. -/
theorem Built.transcript (run : Built spec s outputs r) (unused : outputs.Unused) {fuel : Nat}
    {final : World} {summary : Summary} (ended : r.run fuel = some (final, .ok summary)) :
    ∃ ms sim w, History World.behaviour r.simulator r.world ms sim w ∧
      Simulator.runUntil World.behaviour r.stopAt fuel r.simulator r.world = some (sim, w) ∧
      summary.eventsExecuted = ms.length ∧ Transcript s ms final.experiment.outputs summary := by
  obtain ⟨sim, w, loop, sound, figures, finished, rfl⟩ := of_run_eq_ok ended
  obtain ⟨ms, history⟩ := History.of_runUntil loop
  have fresh : r.simulator.executed = 0 := by
    rw [run.laidOut.simulator]
    rfl
  have executed : sim.executed = ms.length := by rw [history.executed, fresh, Nat.zero_add]
  refine ⟨ms, sim, w, history, loop, ?_, ?_⟩
  · rw [figures]
    exact executed
  · exact run.transcript_of_finish unused history sound finished (by rw [figures]; rfl)
      (by rw [figures]; rfl) (by rw [figures]; rfl)

/-- A lone station whose streams do not fail: its run ends, and has lost nothing. -/
theorem transcript_lone : Lone.outputs.Unused ∧ ∃ fuel final summary,
    Lone.run.run fuel = some (final, .ok summary) ∧ ∃ ms, summary.eventsExecuted = ms.length ∧
      Transcript Lone.scenario ms final.experiment.outputs summary := by
  have early : Lone.scenario.stopTime.nanos < lastWord := by decide +kernel
  obtain ⟨fuel, final, summary, ended⟩ := Lone.built.exists_figures Lone.reliable early
  obtain ⟨ms, -, -, -, -, executed, transcript⟩ := Lone.built.transcript Lone.unused ended
  exact ⟨Lone.unused, fuel, final, summary, ended, ms, executed, transcript⟩

end DenseRun

end DenseDmg
