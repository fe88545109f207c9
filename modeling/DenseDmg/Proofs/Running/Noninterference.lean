import DenseDmg.Proofs.Engine.Lockstep
import DenseDmg.Proofs.Running.Alike
import Mathlib.Data.List.Forall2

/-!
# Measuring does not disturb

What is reported of a run, and the channel that its frames are measured on, have no influence on the
traffic.  Scenarios that differ only in that run in lockstep: the same events are executed, and what
one run counts and logs the other does too, but for the traces, the qualities and the data frames
that are not asked for.

* `InStep.execute`: an event keeps two runs in lockstep.
* `Built.exists_inStep`: every history of one run has its like in the other.
* `Built.noninterference`: what the two runs have in common, up to their ends.
-/

namespace DenseDmg

/-! ## Scenarios with the same traffic -/

/-- A scenario that differs in its reports, its channel and its transport only. -/
def Scenario.SameTraffic (s s' : Scenario) : Prop :=
  ∃ csv reportDataSnr txPower numTraces tracePeriod socket tcpVariant,
    s' = { s with
      csv := csv
      reportDataSnr := reportDataSnr
      txPower := txPower
      numTraces := numTraces
      tracePeriod := tracePeriod
      socket := socket
      tcpVariant := tcpVariant }

namespace DenseRun

variable {spec spec' : ScenarioSpec} {s s' : Scenario} {outputs outputs' : Outputs}
  {r r' : DenseRun}

/-- Runs of scenarios with the same traffic begin with the same simulator in worlds that are alike,
and are to stop at the same time. -/
theorem Built.alike (run : Built spec s outputs r) (run' : Built spec' s' outputs' r')
    (same : s.SameTraffic s') :
    r'.simulator = r.simulator ∧ r.world.Alike r'.world ∧ r'.stopAt = r.stopAt ∧
      r'.simulationTime = r.simulationTime := by
  obtain ⟨csv, reportDataSnr, txPower, numTraces, tracePeriod, socket, tcpVariant, rfl⟩ := same
  obtain ⟨x, begun, rfl⟩ := exists_start_of_build run.built
  obtain ⟨x', begun', rfl⟩ := exists_start_of_build run'.built
  obtain ⟨-, addresses, pairs, sampler, trigger, -, -⟩ := Experiment.of_start begun
  obtain ⟨-, addresses', pairs', sampler', trigger', -, -⟩ := Experiment.of_start begun'
  refine ⟨rfl, ⟨⟨⟨numTraces, tracePeriod, txPower, 10.0⟩, rfl⟩, ?_, rfl⟩, rfl, rfl⟩
  refine ⟨addresses'.trans addresses.symm, pairs'.trans pairs.symm, sampler'.trans sampler.symm, ?_⟩
  dsimp only
  rw [trigger, trigger']
  rfl

end DenseRun

/-! ## Moments of two runs -/

/-- The same entry about to be executed in worlds of two runs that are alike, without a fault in
either of them. -/
structure Moment.Twin (s s' : Scenario) (m m' : Moment NetworkEvent World) : Prop where
  entry : m'.entry = m.entry
  worlds : m.world.Alike m'.world
  sound : (m.world.act m.entry.due m.entry.event).1.fatal = none
  sound' : (m'.world.act m'.entry.due m'.entry.event).1.fatal = none
  config : m.world.experiment.config = DenseRun.experimentConfig s
  config' : m'.world.experiment.config = DenseRun.experimentConfig s'

/-- The qualities that a moment adds for a control frame of a training. -/
def Moment.controlQualities (m : Moment NetworkEvent World) : List QualityRecord :=
  if m.entry.event.isControl then m.written.qualities else []

/-- The rows of the quality log that come from control frames of trainings, the earliest one first. -/
def controlQualities (ms : List (Moment NetworkEvent World)) : List QualityRecord :=
  ms.reverse.flatMap Moment.controlQualities

/-- They are a part of the log, in its order. -/
theorem controlQualities_sublist (ms : List (Moment NetworkEvent World)) :
    (controlQualities ms).Sublist (Written.ofMoments ms).qualities := by
  have each (m : Moment NetworkEvent World) : m.controlQualities.Sublist m.written.qualities := by
    unfold Moment.controlQualities
    split
    · exact .refl _
    · exact List.nil_sublist _
  unfold controlQualities Written.ofMoments
  dsimp only
  induction ms.reverse with
  | nil => exact .refl _
  | cons m ms ih => exact (each m).append ih

namespace Moment.Twin

variable {s s' : Scenario} {m m' : Moment NetworkEvent World}

theorem rows (twin : m.Twin s s' m') : m'.written.rows = m.written.rows := by
  have sound' := twin.sound'
  rw [twin.entry] at sound'
  unfold Moment.written
  rw [twin.entry]
  exact twin.worlds.rows_written twin.sound sound'

theorem trainings (twin : m.Twin s s' m') :
    m'.written.trainings.map TrainingRecord.untraced =
      m.written.trainings.map TrainingRecord.untraced := by
  unfold Moment.written
  rw [twin.entry]
  exact twin.worlds.trainings_written _ _

theorem qualities (twin : m.Twin s s' m') (same : s'.reportDataSnr = s.reportDataSnr) :
    m'.written.qualities.map QualityRecord.frame =
      m.written.qualities.map QualityRecord.frame := by
  have report : m'.world.experiment.config.reportDataSnr =
      m.world.experiment.config.reportDataSnr := by
    rw [twin.config, twin.config']
    exact same
  unfold Moment.written
  rw [twin.entry]
  exact twin.worlds.qualities_written _ _ report

theorem qualities_of_not_report (twin : m.Twin s s' m') (quiet : s'.reportDataSnr = false) :
    m'.written.qualities.map QualityRecord.frame =
      m.controlQualities.map QualityRecord.frame := by
  have report : m'.world.experiment.config.reportDataSnr = false := by
    rw [twin.config']
    exact quiet
  unfold Moment.controlQualities Moment.written
  rw [twin.entry]
  exact twin.worlds.qualities_written_of_not_report _ _ report

theorem growth (twin : m.Twin s s' m') (k : Nat) : m'.growth k = m.growth k := by
  unfold Moment.growth World.lastRead
  rw [twin.worlds.network.apps, twin.worlds.experiment.pairs]

end Moment.Twin

/-- What moments of two runs add is the same if it is so moment by moment. -/
theorem flatMap_reverse_eq {α β γ : Type} {R : α → β → Prop} {f : α → List γ} {g : β → List γ}
    {as : List α} {bs : List β} (related : List.Forall₂ R as bs)
    (same : ∀ a b, R a b → g b = f a) : bs.reverse.flatMap g = as.reverse.flatMap f := by
  induction related with
  | nil => rfl
  | cons first _ ih =>
    rw [List.reverse_cons, List.reverse_cons, List.flatMap_append, List.flatMap_append, ih,
      List.flatMap_singleton, List.flatMap_singleton, same _ _ first]

/-- What two runs have in common whose traffic is the same. -/
structure SameCourse (s s' : Scenario) (ms ms' : List (Moment NetworkEvent World)) (w w' : World) :
    Prop where
  /-- The same events have been executed at the same times, in the same order. -/
  events : ms'.map Moment.entry = ms.map Moment.entry
  rows : (Written.ofMoments ms').rows = (Written.ofMoments ms).rows
  /-- Every sample has seen each counter grow by as much. -/
  growths : ∀ k, sampledGrowths k ms' = sampledGrowths k ms
  /-- The counters of senders and sinks. -/
  apps : w'.network.apps = w.network.apps
  /-- The activations and start times of the pairs. -/
  pairs : w'.experiment.pairs = w.experiment.pairs
  retrainings : w'.experiment.trigger = w.experiment.trigger
  trainings : (Written.ofMoments ms').trainings.map TrainingRecord.untraced =
    (Written.ofMoments ms).trainings.map TrainingRecord.untraced
  qualities : s'.reportDataSnr = s.reportDataSnr →
    (Written.ofMoments ms').qualities.map QualityRecord.frame =
      (Written.ofMoments ms).qualities.map QualityRecord.frame
  /-- Without data frames there are the rows of control frames, which are a part of all rows. -/
  control : s'.reportDataSnr = false →
    (controlQualities ms).Sublist (Written.ofMoments ms).qualities ∧
      (Written.ofMoments ms').qualities.map QualityRecord.frame =
        (controlQualities ms).map QualityRecord.frame

theorem SameCourse.of_twins {s s' : Scenario} {ms ms' : List (Moment NetworkEvent World)}
    {w w' : World} (twins : List.Forall₂ (Moment.Twin s s') ms ms') (alike : w.Alike w') :
    SameCourse s s' ms ms' w w' where
  events := by
    induction twins with
    | nil => rfl
    | cons first _ ih => rw [List.map_cons, List.map_cons, first.entry, ih]
  rows := by
    have rows (ms : List (Moment NetworkEvent World)) :
        (Written.ofMoments ms).rows = ms.reverse.flatMap fun m => m.written.rows :=
      List.filterMap_flatMap
    rw [rows, rows]
    exact flatMap_reverse_eq twins fun _ _ twin => twin.rows
  growths := by
    intro k
    induction twins with
    | nil => rfl
    | cons first _ ih =>
      rw [sampledGrowths_cons, sampledGrowths_cons, ih, Moment.samples, first.entry,
        first.growth k]
      rfl
  apps := alike.network.apps
  pairs := alike.experiment.pairs
  retrainings := alike.experiment.trigger
  trainings := by
    simp only [Written.ofMoments, List.map_flatMap]
    exact flatMap_reverse_eq twins fun _ _ twin => twin.trainings
  qualities := by
    intro same
    simp only [Written.ofMoments, List.map_flatMap]
    exact flatMap_reverse_eq twins fun _ _ twin => twin.qualities same
  control := by
    intro quiet
    refine ⟨controlQualities_sublist ms, ?_⟩
    simp only [Written.ofMoments, controlQualities, List.map_flatMap]
    exact flatMap_reverse_eq twins fun _ _ twin => twin.qualities_of_not_report quiet

/-! ## Two runs in lockstep -/

/-- Histories of two runs that have executed the same events. -/
structure InStep (s s' : Scenario) (r r' : DenseRun) (ms ms' : List (Moment NetworkEvent World))
    (sim : Simulator NetworkEvent) (w w' : World) : Prop where
  history : History World.behaviour r.simulator r.world ms sim w
  history' : History World.behaviour r'.simulator r'.world ms' sim w'
  twins : List.Forall₂ (Moment.Twin s s') ms ms'
  worlds : w.Alike w'

namespace DenseRun

variable {spec spec' : ScenarioSpec} {s s' : Scenario} {outputs outputs' : Outputs}
  {r r' : DenseRun} {ms ms' : List (Moment NetworkEvent World)} {sim : Simulator NetworkEvent}
  {w w' : World} {entry : Entry NetworkEvent} {rest : List (Entry NetworkEvent)}

theorem Built.inStep_start (run : Built spec s outputs r) (run' : Built spec' s' outputs' r')
    (same : s.SameTraffic s') : InStep s s' r r' [] [] r.simulator r.world r'.world := by
  obtain ⟨simulator, worlds, -⟩ := run.alike run' same
  exact ⟨.start, simulator ▸ .start, .nil, worlds⟩

/-- An event keeps two runs in lockstep. -/
theorem Built.inStep_execute (run : Built spec s outputs r) (run' : Built spec' s' outputs' r')
    (reliable : outputs.Reliable) (reliable' : outputs'.Reliable)
    (inStep : InStep s s' r r' ms ms' sim w w') (pending : sim.pending = entry :: rest) :
    (sim.step World.behaviour entry rest w').1 = (sim.step World.behaviour entry rest w).1 ∧
      InStep s s' r r' (⟨sim, w, entry, rest⟩ :: ms) (⟨sim, w', entry, rest⟩ :: ms')
        (sim.step World.behaviour entry rest w).1 (sim.step World.behaviour entry rest w).2
        (sim.step World.behaviour entry rest w').2 := by
  obtain ⟨history, history', twins, worlds⟩ := inStep
  have sound : (w.act entry.due entry.event).1.fatal = none :=
    (run.healthy reliable (history.execute pending)).sound
  have sound' : (w'.act entry.due entry.event).1.fatal = none :=
    (run'.healthy reliable' (history'.execute pending)).sound
  obtain ⟨worlds', requests⟩ := worlds.act sound sound'
  have simulators : (sim.step World.behaviour entry rest w').1 =
      (sim.step World.behaviour entry rest w).1 := by
    refine Simulator.fst_step_eq requests ?_
    change (w'.act entry.due entry.event).1.fatal.isSome =
      (w.act entry.due entry.event).1.fatal.isSome
    rw [sound, sound']
  refine ⟨simulators, history.execute pending, ?_, .cons ?_ twins, worlds'⟩
  · rw [← simulators]
    exact history'.execute pending
  · exact ⟨rfl, worlds, sound, sound', (run.inScene history).config, (run'.inScene history').config⟩

theorem Built.lockstep (run : Built spec s outputs r) (run' : Built spec' s' outputs' r')
    (reliable : outputs.Reliable) (reliable' : outputs'.Reliable) :
    Simulator.Lockstep World.behaviour fun sim w w' =>
      ∃ ms ms', InStep s s' r r' ms ms' sim w w' where
  step := by
    rintro sim w w' entry rest ⟨ms, ms', inStep⟩ pending
    obtain ⟨simulators, next⟩ := run.inStep_execute run' reliable reliable' inStep pending
    exact ⟨simulators, _, _, next⟩
  settle := by
    rintro sim w w' limit ⟨ms, ms', inStep⟩ idle
    exact ⟨ms, ms', inStep.history.settle limit idle, inStep.history'.settle limit idle,
      inStep.twins, inStep.worlds⟩

/-- Every history of one run has its like in the other. -/
theorem Built.exists_inStep (run : Built spec s outputs r) (run' : Built spec' s' outputs' r')
    (same : s.SameTraffic s') (reliable : outputs.Reliable) (reliable' : outputs'.Reliable)
    (history : History World.behaviour r.simulator r.world ms sim w) :
    ∃ ms' w', InStep s s' r r' ms ms' sim w w' := by
  induction history with
  | start => exact ⟨[], _, run.inStep_start run' same⟩
  | execute _ pending ih =>
    obtain ⟨ms', w', inStep⟩ := ih
    exact ⟨_, _, (run.inStep_execute run' reliable reliable' inStep pending).2⟩
  | settle limit _ idle ih =>
    obtain ⟨ms', w', inStep⟩ := ih
    exact ⟨ms', w', inStep.history.settle limit idle, inStep.history'.settle limit idle,
      inStep.twins, inStep.worlds⟩

end DenseRun

/-! ## What the streams tell -/

/-- For programs an event adds nothing to the console but its rows. -/
theorem World.console_written {w : World} (csv : w.experiment.config.csv = true) (now : Time)
    (event : NetworkEvent) :
    (w.written now event).console = (w.written now event).rows.map ConsoleLine.row := by
  have silent (line : ConsoleLine) : w.experiment.noticed line = [] := if_pos csv
  cases event with
  | beaconInterval index =>
    have losses : w.network.stations.flatMap (w.writtenLoss now) = [] := by
      rw [List.flatMap_eq_nil_iff]
      intro d _
      rw [writtenLoss, silent, ite_self]
    simp only [written, Written.rows, losses]
    rfl
  | associationComplete station =>
    simp only [written, writtenAssociation, silent]
    split
    · rfl
    · split <;> rfl
  | trainingDone initiator responder period =>
    simp only [written, writtenTraining, writtenReport, silent]
    split
    · split <;> rfl
    · rfl
  | frameArrives tx rx kind bytes sink =>
    simp only [written, writtenArrival]
    split
    · split <;> rfl
    · rfl
  | sampleDue period =>
    simp only [written, writtenSample]
    split <;> rfl
  | transferInterval | trainingRequested | sendTimer => rfl

/-- What the streams tell of the moments of a run: the logs in full, and for programs the rows of the
table and nothing else. -/
structure Outputs.Tells (s : Scenario) (ms : List (Moment NetworkEvent World)) (o : Outputs) :
    Prop where
  training : o.training.Holds
    (trainingHeader :: (Written.ofMoments ms).trainings.map TrainingRecord.text)
  quality : o.quality.Holds
    (qualityHeader :: (Written.ofMoments ms).qualities.map QualityRecord.text)
  console : s.csv = true →
    o.console.Holds ((Written.ofMoments ms).rows.map fun row => row.text true)

namespace DenseRun

variable {spec spec' : ScenarioSpec} {s s' : Scenario} {outputs outputs' : Outputs}
  {r r' : DenseRun} {ms ms' : List (Moment NetworkEvent World)} {sim : Simulator NetworkEvent}
  {w w' : World}

theorem Built.console_ofMoments (run : Built spec s outputs r) (csv : s.csv = true)
    (history : History World.behaviour r.simulator r.world ms sim w) :
    (Written.ofMoments ms).console = (Written.ofMoments ms).rows.map ConsoleLine.row := by
  induction history with
  | start => rfl
  | @execute ms sim w entry rest before _ ih =>
    have quiet : w.experiment.config.csv = true := by
      rw [(run.inScene before).config]
      exact csv
    rw [Written.ofMoments_cons, Written.console_append, Written.rows_append, List.map_append, ih]
    exact congrArg _ (World.console_written quiet entry.due entry.event)
  | settle _ _ _ ih => exact ih

theorem Built.texts_of_csv (run : Built spec s outputs r) (csv : s.csv = true)
    (history : History World.behaviour r.simulator r.world ms sim w) :
    (Written.ofMoments ms).console.map (ConsoleLine.text s.csv) =
      (Written.ofMoments ms).rows.map fun row => row.text true := by
  rw [run.console_ofMoments csv history, List.map_map, csv]
  rfl

/-- What the streams tell between two events. -/
theorem Built.tells (run : Built spec s outputs r) (unused : outputs.Unused)
    (history : History World.behaviour r.simulator r.world ms sim w) (sound : w.fatal = none) :
    w.experiment.outputs.Tells s ms := by
  have shows := run.shows unused history sound
  refine ⟨shows.fills.training, shows.fills.quality, fun csv => ?_⟩
  have console := shows.fills.console
  have config : w.experiment.config.csv = s.csv :=
    congrArg ExperimentConfig.csv (run.inScene history).config
  rw [config, run.texts_of_csv csv history, csv] at console
  exact console

/-- What the streams tell after the end. -/
theorem Built.tells_of_transcript (run : Built spec s outputs r) {o : Outputs} {summary : Summary}
    (history : History World.behaviour r.simulator r.world ms sim w)
    (transcript : Transcript s ms o summary) : o.Tells s ms := by
  refine ⟨transcript.training, transcript.quality, fun csv => ?_⟩
  have console := transcript.console
  rw [run.texts_of_csv csv history, csv, if_pos rfl, List.append_nil] at console
  exact console

end DenseRun

/-! ## The ends of two runs -/

theorem World.Alike.finish {w w' : World} (alike : w.Alike w') (summary summary' : Summary) :
    World.Alike { w with experiment := (w.experiment.finish summary).1 }
      { w' with experiment := (w'.experiment.finish summary').1 } := by
  refine ⟨alike.network, ?_, alike.subscriptions⟩
  rw [w.experiment.finish_eq, w'.experiment.finish_eq]
  exact ⟨alike.experiment.addresses, alike.experiment.pairs, alike.experiment.sampler,
    alike.experiment.trigger⟩

/-- The figures of worlds that are alike are the same, but for the lengths of the logs. -/
theorem World.Alike.summary {w w' : World} (alike : w.Alike w') (simulationTime : Time) :
    w'.summary simulationTime = { w.summary simulationTime with
      trainingRecords := w'.experiment.trainingRecords
      qualityRecords := w'.experiment.qualityRecords } := by
  unfold World.summary Experiment.summary
  rw [alike.network.apps, alike.experiment.sampler, alike.experiment.pairs,
    alike.experiment.trigger]

namespace DenseRun

variable {spec spec' : ScenarioSpec} {s s' : Scenario} {outputs outputs' : Outputs}
  {r r' : DenseRun}

/-- Where one run gives its figures the other does so after as many events. -/
theorem Built.exists_end (run : Built spec s outputs r) (run' : Built spec' s' outputs' r')
    (same : s.SameTraffic s') (reliable : outputs.Reliable) (reliable' : outputs'.Reliable)
    {fuel : Nat} {final : World} {summary : Summary}
    (ended : r.run fuel = some (final, .ok summary)) :
    ∃ ms ms' sim w w' summary', InStep s s' r r' ms ms' sim w w' ∧
      w.fatal = none ∧ w'.fatal = none ∧
      summary = { w.summary r.simulationTime with eventsExecuted := sim.executed } ∧
      summary' = { w'.summary r.simulationTime with eventsExecuted := sim.executed } ∧
      (w.experiment.finish summary).2 = .ok () ∧ (w'.experiment.finish summary').2 = .ok () ∧
      final = { w with experiment := (w.experiment.finish summary).1 } ∧
      r'.run fuel =
        some ({ w' with experiment := (w'.experiment.finish summary').1 }, .ok summary') := by
  obtain ⟨simulator, -, stopAt, simulationTime⟩ := run.alike run' same
  obtain ⟨sim, w, loop, sound, figures, finished, left⟩ := of_run_eq_ok ended
  obtain ⟨w', loop', ms, ms', inStep⟩ := (run.lockstep run' reliable reliable').exists_runUntil
    ⟨[], [], run.inStep_start run' same⟩ loop
  rw [← stopAt, ← simulator] at loop'
  obtain ⟨final', answer, ended'⟩ : ∃ final' answer, r'.run fuel = some (final', answer) := by
    rw [DenseRun.run, loop']
    exact ⟨_, _, rfl⟩
  obtain ⟨summary', rfl⟩ := run'.exists_summary reliable' ended'
  obtain ⟨sim₁, w₁, loop₁, sound', figures', finished', left'⟩ := of_run_eq_ok ended'
  cases loop'.symm.trans loop₁
  rw [simulationTime] at figures'
  rw [left'] at ended'
  exact ⟨ms, ms', sim, w, w', summary', inStep, sound, sound', figures, figures', finished,
    finished', left, ended'⟩

/-- Scenarios that differ in their reports, their channel and their transport only, with streams that
do not fail: each history of one run has its like in the other, in which the same events were
executed with the same effect on the traffic, and so has its end.  The logs differ in the traces, in
the qualities, and in the data frames if they are asked for in one run only; the figures differ in
the length of the quality log then. -/
theorem Built.noninterference (run : Built spec s outputs r) (run' : Built spec' s' outputs' r')
    (same : s.SameTraffic s') (reliable : outputs.Reliable) (reliable' : outputs'.Reliable)
    (unused : outputs.Unused) (unused' : outputs'.Unused) :
    (∀ ms sim w, History World.behaviour r.simulator r.world ms sim w →
      ∃ ms' w', History World.behaviour r'.simulator r'.world ms' sim w' ∧
        SameCourse s s' ms ms' w w' ∧ w.experiment.outputs.Tells s ms ∧
        w'.experiment.outputs.Tells s' ms') ∧
    ∀ fuel final summary, r.run fuel = some (final, .ok summary) →
      ∃ ms ms' final' summary', r'.run fuel = some (final', .ok summary') ∧
        SameCourse s s' ms ms' final final' ∧ final.experiment.outputs.Tells s ms ∧
        final'.experiment.outputs.Tells s' ms' ∧ summary.eventsExecuted = ms.length ∧
        summary' = { summary with qualityRecords := summary'.qualityRecords } ∧
        (s'.reportDataSnr = s.reportDataSnr → summary' = summary) := by
  refine ⟨fun ms sim w history => ?_, fun fuel final summary ended => ?_⟩
  · obtain ⟨ms', w', inStep⟩ := run.exists_inStep run' same reliable reliable' history
    have sound := (run.healthy reliable history).sound
    have sound' := (run'.healthy reliable' inStep.history').sound
    exact ⟨ms', w', inStep.history', .of_twins inStep.twins inStep.worlds,
      run.tells unused history sound, run'.tells unused' inStep.history' sound'⟩
  · obtain ⟨ms, ms', sim, w, w', summary', inStep, sound, sound', figures, figures', finished,
      finished', rfl, ended'⟩ := run.exists_end run' same reliable reliable' ended
    have transcript := run.transcript_of_finish unused inStep.history sound finished
      (by rw [figures]; rfl) (by rw [figures]; rfl) (by rw [figures]; rfl)
    have transcript' := run'.transcript_of_finish unused' inStep.history' sound' finished'
      (by rw [figures']; rfl) (by rw [figures']; rfl) (by rw [figures']; rfl)
    have course := SameCourse.of_twins inStep.twins (inStep.worlds.finish summary summary')
    have trainings : w'.experiment.trainingRecords = w.experiment.trainingRecords := by
      have lengths := congrArg List.length course.trainings
      rw [List.length_map, List.length_map] at lengths
      have count := congrArg Summary.trainingRecords figures
      have count' := congrArg Summary.trainingRecords figures'
      rw [transcript.trainingRecords] at count
      rw [transcript'.trainingRecords, lengths] at count'
      exact count'.symm.trans count
    have summaries : summary' = { summary with qualityRecords := summary'.qualityRecords } := by
      have qualities := congrArg Summary.qualityRecords figures'
      rw [qualities, figures, figures', inStep.worlds.summary, trainings]
      rfl
    refine ⟨ms, ms', _, summary', ended', course,
      run.tells_of_transcript inStep.history transcript,
      run'.tells_of_transcript inStep.history' transcript', ?_, summaries, fun report => ?_⟩
    · have fresh : r.simulator.executed = 0 := by
        rw [run.laidOut.simulator]
        rfl
      rw [figures]
      exact inStep.history.executed.trans (by rw [fresh, Nat.zero_add])
    · have lengths := congrArg List.length (course.qualities report)
      rw [List.length_map, List.length_map] at lengths
      rw [summaries, transcript'.qualityRecords, lengths, ← transcript.qualityRecords]

end DenseRun

namespace Loud

/-- The lone station with a stronger signal on a faster channel, and everything reported. -/
def spec : ScenarioSpec :=
  { Lone.spec with
    channel := { Lone.spec.channel with numTraces := 3, tracePeriod := 10.0, txPower := 20.0 }
    output := { Lone.spec.output with csv := false, reportDataSnr := true } }

def scenario : Scenario :=
  match spec.resolve with
  | .ok s => s
  | .error _ => default

def run : DenseRun :=
  match DenseRun.build scenario Lone.outputs with
  | .ok r => r
  | .error _ => default

theorem built : DenseRun.Built spec scenario Lone.outputs run := ⟨rfl, rfl⟩

theorem sameTraffic : scenario.SameTraffic Lone.scenario := ⟨_, _, _, _, _, _, _, rfl⟩

end Loud

/-- The run that reports everything and the one that does not take the same course to their ends. -/
theorem DenseRun.noninterference_loud : Loud.scenario.SameTraffic Lone.scenario ∧
    Lone.outputs.Reliable ∧ Lone.outputs.Unused ∧ Loud.scenario.reportDataSnr = true ∧
    ∃ fuel final summary ms ms' final' summary', Loud.run.run fuel = some (final, .ok summary) ∧
      Lone.run.run fuel = some (final', .ok summary') ∧
      SameCourse Loud.scenario Lone.scenario ms ms' final final' := by
  have early : Loud.scenario.stopTime.nanos < lastWord := by decide +kernel
  obtain ⟨fuel, final, summary, ended⟩ := Loud.built.exists_figures Lone.reliable early
  obtain ⟨-, ends⟩ := Loud.built.noninterference Lone.built Loud.sameTraffic Lone.reliable
    Lone.reliable Lone.unused Lone.unused
  obtain ⟨ms, ms', final', summary', ended', course, -⟩ := ends fuel final summary ended
  exact ⟨Loud.sameTraffic, Lone.reliable, Lone.unused, rfl, fuel, final, summary, ms, ms', final',
    summary', ended, ended', course⟩

end DenseDmg
