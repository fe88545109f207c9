import DenseDmg.Proofs.World.Setup

/-!
# What an experiment writes

The streams of an experiment may fail at any write.  A handler that succeeds has written all that
belongs to its event and nothing else: `Experiment.written` says what that is, and
`x.Shows header all` says that the streams of `x` hold what was written in `all` behind their
headers, line by line.

* `Shows.handle`, `Shows.sample`: a call that succeeds adds what belongs to it.
* `Shows.of_start`: an experiment that begins has written its headers.
* `Shows.of_finish`: an end without a failure adds the report.
-/

namespace DenseDmg

/-! ## Streams -/

/-- A stream has taken exactly these lines, and holds them unless it drops what it takes. -/
structure Stream.Holds (s : Stream) (lines : List String) : Prop where
  count : s.lines = lines.length
  written : s.keeps = true → s.written = lines.toArray

namespace Stream.Holds

variable {s : Stream} {lines : List String}

theorem writeLine (holds : s.Holds lines) {line : String} (ok : (s.writeLine line).2 = true) :
    (s.writeLine line).1.Holds (lines ++ [line]) := by
  unfold Stream.writeLine at ok ⊢
  split at ok
  · cases ok
  next works =>
    rw [if_neg works]
    refine ⟨?_, fun keeps => ?_⟩
    · rw [List.length_append]
      exact congrArg (· + 1) holds.count
    · have keeps : s.keeps = true := keeps
      show (if s.keeps then s.written.push line else s.written) = _
      rw [if_pos keeps, holds.written keeps, List.push_toArray]

theorem writeLines (holds : s.Holds lines) {more : List String}
    (ok : (s.writeLines more).2 = true) : (s.writeLines more).1.Holds (lines ++ more) := by
  induction more generalizing s lines with
  | nil => simpa [Stream.writeLines] using holds
  | cons line rest ih =>
    unfold Stream.writeLines at ok ⊢
    dsimp only at ok ⊢
    split at ok
    next works =>
      rw [if_pos works]
      have all := ih (holds.writeLine works) ok
      rwa [List.append_assoc, List.singleton_append] at all
    next => cases ok

theorem flush (holds : s.Holds lines) : s.flush.1.Holds lines := ⟨holds.count, holds.written⟩

end Stream.Holds

/-- Nothing has been written to the outputs so far. -/
structure Outputs.Unused (o : Outputs) : Prop where
  console : o.console.Holds []
  training : o.training.Holds []
  quality : o.quality.Holds []

/-! ## What is written -/

/-- A line on the console, between the header of the table and the report. -/
inductive ConsoleLine
  | row (row : ThroughputRow)
  | associated (event : Associated)
  | deassociated (event : Deassociated)
  | trained (event : TrainingCompleted)

namespace ConsoleLine

def text (csv : Bool) : ConsoleLine → String
  | row r => r.text csv
  | associated e => e.notice
  | deassociated e => e.notice
  | trained e => e.notice

def row? : ConsoleLine → Option ThroughputRow
  | row r => some r
  | _ => none

end ConsoleLine

/-- What has been written to the three streams, the earliest first. -/
structure Written where
  console : List ConsoleLine
  trainings : List TrainingRecord
  qualities : List QualityRecord

namespace Written

def nothing : Written := ⟨[], [], []⟩

instance : Append Written where
  append a b := ⟨a.console ++ b.console, a.trainings ++ b.trainings, a.qualities ++ b.qualities⟩

variable (a b c : Written)

@[simp] theorem console_append : (a ++ b).console = a.console ++ b.console := rfl

@[simp] theorem trainings_append : (a ++ b).trainings = a.trainings ++ b.trainings := rfl

@[simp] theorem qualities_append : (a ++ b).qualities = a.qualities ++ b.qualities := rfl

@[simp] theorem append_nothing : a ++ nothing = a := by
  show Written.mk (a.console ++ []) (a.trainings ++ []) (a.qualities ++ []) = a
  rw [List.append_nil, List.append_nil, List.append_nil]

theorem append_assoc : a ++ b ++ c = a ++ (b ++ c) := by
  show Written.mk _ _ _ = Written.mk _ _ _
  simp only [console_append, trainings_append, qualities_append, List.append_assoc]

/-- The rows of the throughput table. -/
def rows : List ThroughputRow := a.console.filterMap ConsoleLine.row?

@[simp] theorem rows_append : (a ++ b).rows = a.rows ++ b.rows := List.filterMap_append ..

/-- The streams hold what was written, behind their headers. -/
structure Fills (csv : Bool) (header : List String) (all : Written) (o : Outputs) : Prop where
  console : o.console.Holds (header ++ all.console.map (ConsoleLine.text csv))
  training : o.training.Holds (trainingHeader :: all.trainings.map TrainingRecord.text)
  quality : o.quality.Holds (qualityHeader :: all.qualities.map QualityRecord.text)

namespace Fills

variable {csv : Bool} {header : List String} {all : Written} {o : Outputs}

theorem writeConsole (fills : all.Fills csv header o) (line : ConsoleLine)
    (ok : (o.console.writeLine (line.text csv)).2 = true) :
    (all ++ ⟨[line], [], []⟩).Fills csv header
      { o with console := (o.console.writeLine (line.text csv)).1 } where
  console := by
    have console := fills.console.writeLine ok
    rwa [List.append_assoc, ← List.map_singleton (f := ConsoleLine.text csv),
      ← List.map_append] at console
  training := by simpa using fills.training
  quality := by simpa using fills.quality

theorem writeTraining (fills : all.Fills csv header o) {record : TrainingRecord}
    (ok : (o.training.writeLine record.text).2 = true) :
    (all ++ ⟨[], [record], []⟩).Fills csv header
      { o with training := (o.training.writeLine record.text).1 } where
  console := by simpa using fills.console
  training := by simpa using fills.training.writeLine ok
  quality := by simpa using fills.quality

theorem writeQuality (fills : all.Fills csv header o) {record : QualityRecord}
    (ok : (o.quality.writeLine record.text).2 = true) :
    (all ++ ⟨[], [], [record]⟩).Fills csv header
      { o with quality := (o.quality.writeLine record.text).1 } where
  console := by simpa using fills.console
  training := by simpa using fills.training
  quality := by simpa using fills.quality.writeLine ok

end Fills

end Written

/-! ## Handlers -/

namespace Experiment

/-- A notice for people, unless the output is for programs. -/
def noticed (x : Experiment) (line : ConsoleLine) : List ConsoleLine :=
  if x.config.csv then [] else [line]

/-- What belongs to a link event. -/
def written (x : Experiment) (event : LinkEvent) (traceIndex : Nat) (now : Time) : Written :=
  match event with
  | .associated e => ⟨x.noticed (.associated e), [], []⟩
  | .deassociated e => ⟨x.noticed (.deassociated e), [], []⟩
  | .trainingCompleted e =>
    ⟨x.noticed (.trained e), (x.trainingRecord e traceIndex now).toOption.toList, []⟩
  | .transferStarted _ => .nothing
  | .frameReceived e =>
    ⟨[], [], if e.kind.isLogged x.config.reportDataSnr then
      [⟨now, e.transmitter, e.receiver, e.snr⟩] else []⟩

/-- The streams of an experiment hold what was written, and it has counted the rows. -/
structure Shows (x : Experiment) (header : List String) (all : Written) : Prop where
  fills : all.Fills x.config.csv header x.outputs
  rows : x.sampler.rows = all.rows.length

variable {x : Experiment} {header : List String} {all : Written} {now : Time}

/-- What writes nothing leaves the streams as they are. -/
theorem Shows.nothing (shows : x.Shows header all) : x.Shows header (all ++ .nothing) := by
  rwa [Written.append_nothing]

theorem rows_noticed (x : Experiment) {line : ConsoleLine} (notice : line.row? = none)
    (trainings : List TrainingRecord) :
    (Written.mk (x.noticed line) trainings []).rows = [] := by
  unfold noticed Written.rows
  split
  · rfl
  · simp [notice]

/-- A notice that is written, or need not be. -/
theorem Shows.notify (shows : x.Shows header all) (line : ConsoleLine) (notice : line.row? = none)
    (ok : (x.notify (line.text x.config.csv)).2 = true) :
    (x.notify (line.text x.config.csv)).1.Shows header (all ++ ⟨x.noticed line, [], []⟩) := by
  have rows : x.sampler.rows = (all ++ ⟨x.noticed line, [], []⟩).rows.length := by
    rw [Written.rows_append, x.rows_noticed notice, List.append_nil]
    exact shows.rows
  unfold noticed at rows ⊢
  unfold Experiment.notify at ok ⊢
  split
  next csv => exact shows.nothing
  next human =>
    rw [if_neg human] at ok rows
    exact ⟨shows.fills.writeConsole line ok, rows⟩

theorem Shows.onAssociated (shows : x.Shows header all) {event : Associated}
    (handled : (x.onAssociated event now).answer = .ok ()) :
    (x.onAssociated event now).experiment.Shows header
      (all ++ ⟨x.noticed (.associated event), [], []⟩) := by
  unfold Experiment.onAssociated at handled ⊢
  dsimp only at handled ⊢
  split at handled
  next => cases handled
  next ok =>
    rw [if_neg ok]
    have ok : (x.notify event.notice).2 = true := by simpa using ok
    have told := shows.notify (.associated event) rfl ok
    split
    · exact told
    · exact ⟨told.fills, told.rows⟩

theorem Shows.onDeassociated (shows : x.Shows header all) {event : Deassociated}
    (handled : (x.onDeassociated event).answer = .ok ()) :
    (x.onDeassociated event).experiment.Shows header
      (all ++ ⟨x.noticed (.deassociated event), [], []⟩) := by
  unfold Experiment.onDeassociated at handled ⊢
  dsimp only at handled ⊢
  split at handled
  next => cases handled
  next ok =>
    rw [if_neg ok]
    have ok : (x.notify event.notice).2 = true := by simpa using ok
    have told := shows.notify (.deassociated event) rfl ok
    split
    · exact told
    · exact ⟨told.fills, told.rows⟩

theorem Shows.logTraining (shows : x.Shows header all) {record : TrainingRecord}
    (ok : (x.logTraining record).2 = true) :
    (x.logTraining record).1.Shows header (all ++ ⟨[], [record], []⟩) := by
  have fills := shows.fills.writeTraining ok
  have rows : x.sampler.rows = (all ++ ⟨[], [record], []⟩).rows.length := by
    simpa [Written.rows] using shows.rows
  unfold Experiment.logTraining remember
  dsimp only
  split
  · exact ⟨fills, rows⟩
  · exact ⟨fills, rows⟩

theorem Shows.logQuality (shows : x.Shows header all) {record : QualityRecord}
    (ok : (x.logQuality record).2 = true) :
    (x.logQuality record).1.Shows header (all ++ ⟨[], [], [record]⟩) := by
  have fills := shows.fills.writeQuality ok
  have rows : x.sampler.rows = (all ++ ⟨[], [], [record]⟩).rows.length := by
    simpa [Written.rows] using shows.rows
  unfold Experiment.logQuality remember
  dsimp only
  split
  · exact ⟨fills, rows⟩
  · exact ⟨fills, rows⟩

theorem Shows.onTrainingCompleted (shows : x.Shows header all) {event : TrainingCompleted}
    {traceIndex : Nat} {record : TrainingRecord}
    (handled : (x.onTrainingCompleted event traceIndex now).answer = .ok record) :
    x.trainingRecord event traceIndex now = .ok record ∧
      (x.onTrainingCompleted event traceIndex now).experiment.Shows header
        (all ++ ⟨x.noticed (.trained event), [record], []⟩) := by
  unfold Experiment.onTrainingCompleted at handled ⊢
  split at handled
  next => cases handled
  next record' known =>
    dsimp only at handled ⊢
    split at handled
    next => cases handled
    next logged =>
      dsimp only at handled
      split at handled
      next told =>
        cases handled
        rw [if_neg logged]
        have config : (x.logTraining record).1.config = x.config :=
          congrArg (·.config) (x.setup_logTraining record)
        have noticed : (x.logTraining record).1.noticed (.trained event) =
            x.noticed (.trained event) := by rw [Experiment.noticed, config, ← Experiment.noticed]
        have logged : (x.logTraining record).2 = true := by simpa using logged
        have both := (shows.logTraining logged).notify (.trained event) rfl told
        rw [Written.append_assoc, noticed] at both
        exact ⟨known, both⟩
      next => cases handled

theorem Shows.onFrameReceived (shows : x.Shows header all) {event : FrameReceived}
    {answer : Option QualityRecord} (handled : (x.onFrameReceived event now).answer = .ok answer) :
    (x.onFrameReceived event now).experiment.Shows header
      (all ++ x.written (.frameReceived event) 0 now) := by
  unfold Experiment.onFrameReceived at handled ⊢
  unfold Experiment.written
  dsimp only
  split
  next ignored =>
    have ignored : event.kind.isLogged x.config.reportDataSnr = false := by simpa using ignored
    rw [ignored, if_neg nofun]
    exact shows.nothing
  next logged =>
    rw [if_neg logged] at handled
    have logged : event.kind.isLogged x.config.reportDataSnr = true := by simpa using logged
    dsimp only at handled
    split at handled
    next ok =>
      rw [if_pos logged]
      exact shows.logQuality ok
    next => cases handled

/-- An event that is handled without a fault has written what belongs to it. -/
theorem Shows.handle (shows : x.Shows header all) {event : LinkEvent} {traceIndex : Nat}
    (handled : (x.handle event traceIndex now).answer = .ok ()) :
    (x.handle event traceIndex now).experiment.Shows header
      (all ++ x.written event traceIndex now) := by
  have answered {α : Type} {h : Handled α} (ignored : h.ignore.answer = .ok ()) :
      ∃ answer, h.answer = .ok answer := by
    unfold Handled.ignore at ignored
    cases answer : h.answer with
    | error f => rw [answer] at ignored; cases ignored
    | ok a => exact ⟨a, rfl⟩
  cases event with
  | associated e => exact shows.onAssociated handled
  | deassociated e => exact shows.onDeassociated handled
  | trainingCompleted e =>
    obtain ⟨record, answer⟩ := answered handled
    obtain ⟨known, shows'⟩ := shows.onTrainingCompleted answer
    unfold Experiment.written
    dsimp only
    rw [known]
    exact shows'
  | transferStarted e => exact Shows.nothing ⟨shows.fills, shows.rows⟩
  | frameReceived e =>
    obtain ⟨record, answer⟩ := answered handled
    exact shows.onFrameReceived answer

/-- A sample that is taken without a fault gives the row of its sampler, which tells when. -/
theorem sampled_of_sample {received : SinkId → Nat} {row : ThroughputRow}
    (sampled : (x.sample now received).2 = .ok row) :
    (x.sampler.sample now x.pairs received).2.2 = .ok row ∧ row.time = now := by
  unfold Experiment.sample at sampled
  split at sampled
  next => cases sampled
  next sampler pairs row' taken =>
    dsimp only at sampled
    split at sampled
    next =>
      cases sampled
      exact ⟨congrArg (·.2.2) taken, (Sampler.of_sample taken).2.2⟩
    next => cases sampled

/-- A sample that is taken without a fault has written its row. -/
theorem Shows.sample (shows : x.Shows header all) {received : SinkId → Nat} {row : ThroughputRow}
    (sampled : (x.sample now received).2 = .ok row) :
    (x.sample now received).1.Shows header (all ++ ⟨[.row row], [], []⟩) := by
  unfold Experiment.sample at sampled ⊢
  split at sampled
  next => cases sampled
  next sampler pairs row' taken =>
    dsimp only at sampled ⊢
    split at sampled
    next ok =>
      cases sampled
      have rows : sampler.rows = (all ++ ⟨[.row row], [], []⟩).rows.length := by
        rw [(Sampler.of_sample taken).1, shows.rows, Written.rows_append, List.length_append]
        rfl
      exact ⟨shows.fills.writeConsole (.row row) ok, rows⟩
    next => cases sampled

/-! ## Begin and end -/

/-- The header of the table for people. -/
def tableHeading (csv : Bool) (pairs : Nat) : List String := if csv then [] else tableHeader pairs

/-- An experiment that begins without a failure has written its headers. -/
theorem Shows.of_start {config : ExperimentConfig} {addresses : AddressBook}
    {pairs : PairRegistry} {outputs : Outputs} (unused : outputs.Unused)
    (begun : start config addresses pairs outputs = .ok x) :
    x.Shows (tableHeading config.csv pairs.size) .nothing := by
  unfold start at begun
  unfold tableHeading
  generalize (if config.csv then [] else tableHeader pairs.size) = header at begun ⊢
  dsimp only at begun
  split at begun
  next ok =>
    cases begun
    simp only [Bool.and_eq_true] at ok
    obtain ⟨⟨console, training⟩, quality⟩ := ok
    have written : (outputs.console.writeLines header).1.Holds (header ++ []) := by
      rw [List.append_nil]
      exact unused.console.writeLines console
    exact ⟨⟨written, unused.training.writeLine training, unused.quality.writeLine quality⟩, rfl⟩
  next => cases begun

/-- The end of an experiment changes nothing but the streams. -/
theorem finish_eq (x : Experiment) (s : Summary) :
    (x.finish s).1 = { x with outputs := (x.finish s).1.outputs } := by
  unfold finish
  generalize (if x.config.csv then [] else s.report) = report
  dsimp only
  split
  · rfl
  · split
    · rfl
    · split <;> rfl

/-- An end without a failure has added the report to the console and nothing to the logs. -/
theorem Shows.of_finish (shows : x.Shows header all) {s : Summary}
    (finished : (x.finish s).2 = .ok ()) :
    (x.finish s).1.outputs.console.Holds
        (header ++ all.console.map (ConsoleLine.text x.config.csv) ++
          if x.config.csv then [] else s.report) ∧
      (x.finish s).1.outputs.training.Holds
        (trainingHeader :: all.trainings.map TrainingRecord.text) ∧
      (x.finish s).1.outputs.quality.Holds
        (qualityHeader :: all.qualities.map QualityRecord.text) := by
  unfold finish at finished ⊢
  generalize (if x.config.csv then [] else s.report) = report at finished ⊢
  dsimp only at finished ⊢
  split at finished
  next => cases finished
  next reported =>
    rw [if_neg reported]
    have reported : (x.outputs.console.writeLines report).2 = true := by simpa using reported
    have report := shows.fills.console.writeLines reported
    split at finished
    next => cases finished
    next flushed =>
      rw [if_neg flushed]
      split at finished
      next => cases finished
      next flushed' =>
        rw [if_neg flushed']
        exact ⟨report.flush, shows.fills.training.flush, shows.fills.quality.flush⟩

end Experiment

end DenseDmg
