import DenseDmg.Proofs.World.Effects

/-!
# Receive counters

A sample is refused where a receive counter shrank since the last one.  That a pair has never read
more than its sink counts is kept by every event: a frame lets a counter grow, a sample reads it,
and nothing else touches either.

* `readings_dispatch`: no report changes what sinks count and what pairs have read.
* `Experiment.sample_of_counted`: a sample of counters that did not shrink reads all of them.
* `counted_act`: no event lets a pair run ahead of its sink.
-/

namespace DenseDmg

/-- What a pair read when it was sampled last, and where. -/
def Pair.reading (p : Pair) : SinkId × Nat := (p.sink, p.lastTotal)

/-- What the sinks count, and what the pairs have read of it. -/
def World.readings (w : World) : Array Sink × List (SinkId × Nat) :=
  (w.network.apps.sinks, w.experiment.pairs.pairs.map Pair.reading)

/-- No pair has read more than its sink counts. -/
structure World.Counted (w : World) : Prop where
  le : ∀ p ∈ w.experiment.pairs.pairs, p.lastTotal ≤ (w.network.apps.received p.sink).bytes

theorem World.received_congr {w w' : World} (same : w'.readings = w.readings) :
    w'.network.apps.received = w.network.apps.received := by
  have sinks : w'.network.apps.sinks = w.network.apps.sinks := congrArg Prod.fst same
  funext id
  rw [Applications.received, Applications.received, sinks]

theorem World.Counted.congr {w w' : World} (counted : w.Counted)
    (same : w'.readings = w.readings) : w'.Counted := by
  refine ⟨fun p mem => ?_⟩
  have received : w'.network.apps.received = w.network.apps.received :=
    World.received_congr same
  have readings : w'.experiment.pairs.pairs.map Pair.reading =
      w.experiment.pairs.pairs.map Pair.reading := congrArg Prod.snd same
  have read : p.reading ∈ w.experiment.pairs.pairs.map Pair.reading :=
    readings ▸ List.mem_map_of_mem mem
  obtain ⟨q, memq, reading⟩ := List.mem_map.1 read
  rw [Pair.reading, Pair.reading, Prod.mk.injEq] at reading
  rw [received, ← reading.1, ← reading.2]
  exact counted.le q memq

/-! ## Reports -/

theorem PairRegistry.map_update {β : Type} (r : PairRegistry) (node : NodeId) {f : Pair → Pair}
    {g : Pair → β} (unseen : ∀ p, g (f p) = g p) :
    (r.update node f).pairs.map g = r.pairs.map g := by
  rw [update, List.map_map]
  apply List.map_congr_left
  intro p _
  rw [Function.comp_apply]
  split
  · exact unseen p
  · rfl

/-- No report changes what the pairs have read. -/
theorem Experiment.reading_handle (x : Experiment) (event : LinkEvent) (traceIndex : Nat)
    (now : Time) :
    (x.handle event traceIndex now).experiment.pairs.pairs.map Pair.reading =
      x.pairs.pairs.map Pair.reading := by
  have told := fun notice => congrArg (fun r => r.pairs.map Pair.reading) (x.pairs_notify notice)
  cases event with
  | associated e =>
    unfold handle onAssociated
    dsimp only
    split
    · exact told e.notice
    · split
      · exact told e.notice
      · exact (PairRegistry.map_update (f := fun p => p.activate now) _ _ fun _ => rfl).trans
          (told e.notice)
  | deassociated e =>
    unfold handle onDeassociated
    dsimp only
    split
    · exact told e.notice
    · split
      · exact told e.notice
      · exact (PairRegistry.map_update (f := Pair.deactivate) _ _ fun _ => rfl).trans
          (told e.notice)
  | trainingCompleted e => rw [x.pairs_handle (by trivial)]
  | transferStarted e => rfl
  | frameReceived e => rw [x.pairs_handle (by trivial)]

namespace World

/-- Orders change neither the experiment nor the sinks. -/
theorem readings_obey (w : World) (order : Order) : (w.obey order).1.readings = w.readings := by
  cases order with
  | startSender sender => rfl
  | stopSender sender => rfl
  | train initiator peer =>
    obtain ⟨same, -⟩ := w.obey_train initiator peer
    rw [readings, readings, same.network, same.experiment]

theorem readings_obeyAll (w : World) (orders : List Order) :
    (w.obeyAll orders).1.readings = w.readings := by
  induction orders generalizing w with
  | nil => rfl
  | cons order rest ih => exact (ih _).trans (w.readings_obey order)

theorem readings_dispatch (w : World) (event : LinkEvent) (now : Time) :
    (w.dispatch event now).1.readings = w.readings := by
  unfold dispatch
  split
  · rfl
  · dsimp only
    have read := w.experiment.reading_handle event (w.network.traceIndex now) now
    generalize w.experiment.handle event (w.network.traceIndex now) now = h at read ⊢
    have checked := sameParts_check { w with experiment := h.experiment } h.answer
    rw [readings_obeyAll, readings, checked.network, checked.experiment]
    exact congrArg (Prod.mk _) read

theorem readings_loseStation (now : Time) (w : World) (d : Device) :
    (loseStation now w d).readings = w.readings := by
  unfold loseStation
  split
  · exact readings_dispatch ..
  · rfl

theorem readings_beginInterval (w : World) (index : Nat) (now : Time) :
    (w.beginInterval index now).1.readings = w.readings := by
  have all (ds : List Device) (w : World) :
      (ds.foldl (loseStation now) w).readings = w.readings := by
    induction ds generalizing w with
    | nil => rfl
    | cons d ds ih => exact (ih _).trans (readings_loseStation now w d)
  unfold beginInterval
  split
  · rfl
  · exact all _ w

theorem readings_announceTransfer (w : World) (duration now : Time) (ds : List Device) :
    (w.announceTransfer duration now ds).1.readings = w.readings := by
  induction ds generalizing w with
  | nil => rfl
  | cons d ds ih => exact (ih _).trans (readings_dispatch ..)

theorem readings_beginTransfer (w : World) (duration now : Time) :
    (w.beginTransfer duration now).1.readings = w.readings := by
  unfold beginTransfer
  split
  · rfl
  · exact w.readings_announceTransfer ..

theorem readings_completeAssociation (w : World) (station : NodeId) (now : Time) :
    (w.completeAssociation station now).1.readings = w.readings := by
  unfold completeAssociation
  split
  · split
    · rfl
    · exact readings_dispatch ..
  · rfl

theorem readings_reportTraining (w : World) (reporter peer : Device) (period : AccessPeriod)
    (side : TrainingSide) (now : Time) :
    (w.reportTraining reporter peer period side now).1.readings = w.readings := by
  unfold reportTraining
  split
  · rfl
  · exact w.readings_dispatch ..

theorem readings_endTraining (w : World) (initiator responder : NodeId) (period : AccessPeriod)
    (now : Time) : (w.endTraining initiator responder period now).1.readings = w.readings := by
  unfold endTraining
  split
  · split
    · exact (readings_reportTraining ..).trans (readings_reportTraining ..)
    · rfl
  · rfl

theorem readings_sendPacket (w : World) (sender : SenderId) (generation : Nat) (now : Time) :
    (w.sendPacket sender generation now).1.readings = w.readings := by
  unfold sendPacket
  split
  · rfl
  · split
    · rfl
    · split <;> rfl

end World

/-! ## Frames -/

/-- A packet that is counted lets no counter shrink. -/
theorem Applications.received_recordReceived (a : Applications) (id id' : SinkId) (bytes : Nat) :
    (a.received id').bytes ≤ ((a.recordReceived id bytes).received id').bytes := by
  unfold received recordReceived updateSink
  dsimp only
  rw [Array.getElem?_modify]
  by_cases same : id = id'
  · rw [if_pos same]
    cases a.sinks[id']? with
    | none => exact Nat.le_refl _
    | some sink => exact Nat.le_add_right ..
  · exact Nat.le_of_eq (by rw [if_neg same])

theorem World.counted_receiveFrame {w : World} (counted : w.Counted) (tx rx : NodeId)
    (kind : FrameKind) (bytes : Nat) (sink : Option SinkId) (now : Time) :
    (w.receiveFrame tx rx kind bytes sink now).1.Counted := by
  unfold receiveFrame
  split
  · split
    · refine Counted.congr ?_ (readings_dispatch ..)
      split
      · exact ⟨fun p mem => Nat.le_trans (counted.le p mem)
          (w.network.apps.received_recordReceived _ p.sink bytes)⟩
      · exact counted
    · exact counted
  · exact counted

/-! ## Samples -/

/-- Counters that did not shrink are all read. -/
theorem samplePairs_of_counted (scale : Float) {received : SinkId → Nat} (index : Nat)
    {pairs : List Pair} (counted : ∀ p ∈ pairs, p.lastTotal ≤ received p.sink) :
    ∃ ps values, samplePairs scale received index pairs = (ps, .ok values) ∧
      ∀ p ∈ ps, p.lastTotal = received p.sink := by
  induction pairs generalizing index with
  | nil => exact ⟨[], [], rfl, nofun⟩
  | cons p rest ih =>
    obtain ⟨ps, values, sampled, read⟩ :=
      ih (index + 1) fun q mem => counted q (List.mem_cons_of_mem _ mem)
    have grew := counted p List.mem_cons_self
    unfold samplePairs
    dsimp only
    rw [if_neg (Nat.not_lt.2 grew), sampled]
    refine ⟨_, _, rfl, fun q mem => ?_⟩
    rcases List.mem_cons.1 mem with rfl | mem
    · rfl
    · exact read q mem

/-- A sample of counters that did not shrink reads all of them, and adds its row unless the
console fails. -/
theorem Experiment.sample_of_counted (x : Experiment) (now : Time) (received : SinkId → Nat)
    (counted : ∀ p ∈ x.pairs.pairs, p.lastTotal ≤ received p.sink) :
    (∀ p ∈ (x.sample now received).1.pairs.pairs, p.lastTotal = received p.sink) ∧
      ∃ row, (x.sample now received).2 =
        if (x.outputs.console.writeLine (row.text x.config.csv)).2 then .ok row
        else .error .inaccessible := by
  obtain ⟨ps, values, sampled, read⟩ := samplePairs_of_counted x.sampler.scale 0 counted
  unfold sample Sampler.sample
  rw [sampled]
  exact ⟨read, _, rfl⟩

namespace World

theorem counted_takeSample {w : World} (counted : w.Counted) (period now : Time) :
    (w.takeSample period now).1.Counted := by
  obtain ⟨read, -⟩ := w.experiment.sample_of_counted now
    (fun sink => (w.network.apps.received sink).bytes) counted.le
  unfold takeSample sampleThroughput
  dsimp only
  split
  · exact counted
  · generalize w.experiment.sample now _ = sampled at read ⊢
    have checked := sameParts_check { w with experiment := sampled.1 }
      (sampled.2.map fun _ => ())
    refine ⟨fun p mem => ?_⟩
    rw [checked.experiment] at mem
    rw [checked.network]
    exact Nat.le_of_eq (read p mem)

/-- No event lets a pair run ahead of its sink. -/
theorem counted_act {w : World} (counted : w.Counted) (now : Time) (event : NetworkEvent) :
    (w.act now event).1.Counted := by
  cases event with
  | beaconInterval index => exact counted.congr (w.readings_beginInterval index now)
  | transferInterval duration => exact counted.congr (w.readings_beginTransfer duration now)
  | associationComplete station =>
    exact counted.congr (w.readings_completeAssociation station now)
  | trainingRequested initiator responder =>
    exact counted.congr (congrArg readings (w.fst_beginTraining initiator responder now))
  | trainingDone initiator responder period =>
    exact counted.congr (w.readings_endTraining initiator responder period now)
  | frameArrives tx rx kind bytes sink => exact counted_receiveFrame counted ..
  | sendTimer sender generation =>
    exact counted.congr (w.readings_sendPacket sender generation now)
  | sampleDue period => exact counted_takeSample counted period now

end World

end DenseDmg
