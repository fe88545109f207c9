import DenseDmg.Measurement.AddressBook
import DenseDmg.Measurement.Log
import DenseDmg.Measurement.Retraining
import DenseDmg.Measurement.Stream
import DenseDmg.Measurement.Summary

/-!
# The experiment

An experiment watches a network.  It takes link events and the receive counters, keeps the
records of the communicating pairs, writes the table and the logs, and answers with orders for
the network: to start or stop a sender, to train a link.  A handler that fails keeps what it did
before the fault and gives no order.
-/

namespace DenseDmg

/-- What the experiment asks of the network. -/
inductive Order
  | startSender (sender : SenderId)
  | stopSender (sender : SenderId)
  | train (initiator peer : MacAddress)
deriving DecidableEq, Inhabited

structure ExperimentConfig where
  /-- How many data transfer intervals make a retraining due. -/
  biThreshold : Nat
  /-- Commas instead of columns, and neither notices nor a report. -/
  csv : Bool
  /-- Whether the quality of data frames is logged. -/
  reportDataSnr : Bool
  samplePeriod : Time
deriving DecidableEq, Inhabited

/-- The streams that an experiment writes to. -/
structure Outputs where
  console : Stream
  training : Stream
  quality : Stream
deriving Inhabited

structure Experiment where
  config : ExperimentConfig
  addresses : AddressBook
  pairs : PairRegistry
  sampler : Sampler
  trigger : RetrainingTrigger
  outputs : Outputs
  /-- What has been logged, first record first. -/
  history : Array LogRecord
deriving Inhabited

/-- What a handler leaves: the experiment, orders for the network, and an answer or a fault. -/
structure Handled (α : Type) where
  experiment : Experiment
  orders : List Order
  answer : Except Fault α

/-- Forget the answer of a handler. -/
def Handled.ignore {α : Type} (h : Handled α) : Handled Unit :=
  ⟨h.experiment, h.orders, h.answer.map fun _ => ()⟩

namespace Experiment

/-- Begin an experiment: the headers are written, to the console first. -/
def start (config : ExperimentConfig) (addresses : AddressBook) (pairs : PairRegistry)
    (outputs : Outputs) : Except Fault Experiment :=
  let header := if config.csv then [] else tableHeader pairs.size
  let (console, consoleOk) := outputs.console.writeLines header
  let (training, trainingOk) := outputs.training.writeLine trainingHeader
  let (quality, qualityOk) := outputs.quality.writeLine qualityHeader
  if consoleOk && trainingOk && qualityOk then
    .ok ⟨config, addresses, pairs, ⟨config.samplePeriod, 0⟩, .ofThreshold config.biThreshold,
      ⟨console, training, quality⟩, #[]⟩
  else .error .inaccessible

/-! ## Writing -/

def writeConsole (x : Experiment) (line : String) : Experiment × Bool :=
  let (console, ok) := x.outputs.console.writeLine line
  ({ x with outputs := { x.outputs with console := console } }, ok)

/-- Add a record to the history, if its line was written. -/
def remember (x : Experiment) (record : LogRecord) (ok : Bool) : Experiment :=
  if ok then { x with history := x.history.push record } else x

def logTraining (x : Experiment) (record : TrainingRecord) : Experiment × Bool :=
  let (training, ok) := x.outputs.training.writeLine record.text
  (({ x with outputs := { x.outputs with training := training } } : Experiment).remember
    (.training record) ok, ok)

def logQuality (x : Experiment) (record : QualityRecord) : Experiment × Bool :=
  let (quality, ok) := x.outputs.quality.writeLine record.text
  (({ x with outputs := { x.outputs with quality := quality } } : Experiment).remember
    (.quality record) ok, ok)

/-- Tell people of an event, unless the output is for programs. -/
def notify (x : Experiment) (notice : String) : Experiment × Bool :=
  if x.config.csv then (x, true) else x.writeConsole notice

/-- Lines of the training log, without its header. -/
def trainingRecords (x : Experiment) : Nat := x.outputs.training.lines - 1

/-- Lines of the quality log, without its header. -/
def qualityRecords (x : Experiment) : Nat := x.outputs.quality.lines - 1

/-! ## Link events -/

/-- A station has associated: its pair becomes active, and if it was not so already its sender is
to start. -/
def onAssociated (x : Experiment) (event : Associated) (now : Time) : Handled Unit :=
  let (x, ok) := x.notify event.notice
  if !ok then ⟨x, [], .error .inaccessible⟩
  else
    match x.pairs.get event.node with
    | .error f => ⟨x, [], .error f⟩
    | .ok pair =>
      ⟨{ x with pairs := x.pairs.update event.node fun p => p.activate now },
        if pair.active then [] else [.startSender pair.sender], .ok ()⟩

/-- A station has lost its association: its pair becomes idle, and if it was active its sender is
to stop. -/
def onDeassociated (x : Experiment) (event : Deassociated) : Handled Unit :=
  let (x, ok) := x.notify event.notice
  if !ok then ⟨x, [], .error .inaccessible⟩
  else
    match x.pairs.get event.node with
    | .error f => ⟨x, [], .error f⟩
    | .ok pair =>
      ⟨{ x with pairs := x.pairs.update event.node Pair.deactivate },
        if pair.active then [.stopSender pair.sender] else [], .ok ()⟩

/-- The record of a training, if the addresses in the event are registered. -/
def trainingRecord (x : Experiment) (event : TrainingCompleted) (traceIndex : Nat) (now : Time) :
    Except Fault TrainingRecord := do
  let peer ← x.addresses.resolve event.peer
  let accessPoint ← x.addresses.resolve event.context.bssid
  return ⟨event.context.node, peer, traceIndex, event.sector, event.antenna, event.context.role,
    accessPoint, now⟩

/-- A training has been completed: it is logged. -/
def onTrainingCompleted (x : Experiment) (event : TrainingCompleted) (traceIndex : Nat)
    (now : Time) : Handled TrainingRecord :=
  match x.trainingRecord event traceIndex now with
  | .error f => ⟨x, [], .error f⟩
  | .ok record =>
    let (x, ok) := x.logTraining record
    if !ok then ⟨x, [], .error .inaccessible⟩
    else
      let (x, ok) := x.notify event.notice
      ⟨x, [], if ok then .ok record else .error .inaccessible⟩

/-- A data transfer interval has begun for a station: it is counted, and a retraining that is due
is ordered.  The answer tells whether it was. -/
def onTransferStarted (x : Experiment) (event : TransferStarted) : Handled Bool :=
  let (trigger, due) := x.trigger.onTransferStarted event
  ⟨{ x with trigger := trigger }, if due then [.train event.address event.bssid] else [], .ok due⟩

/-- A frame has been received: its quality is logged if it is of interest. -/
def onFrameReceived (x : Experiment) (event : FrameReceived) (now : Time) :
    Handled (Option QualityRecord) :=
  if !event.kind.isLogged x.config.reportDataSnr then ⟨x, [], .ok none⟩
  else
    let record : QualityRecord := ⟨now, event.transmitter, event.receiver, event.snr⟩
    let (x, ok) := x.logQuality record
    ⟨x, [], if ok then .ok (some record) else .error .inaccessible⟩

/-- Any link event. -/
def handle (x : Experiment) (event : LinkEvent) (traceIndex : Nat) (now : Time) : Handled Unit :=
  match event with
  | .associated e => x.onAssociated e now
  | .deassociated e => x.onDeassociated e
  | .trainingCompleted e => (x.onTrainingCompleted e traceIndex now).ignore
  | .transferStarted e => (x.onTransferStarted e).ignore
  | .frameReceived e => (x.onFrameReceived e now).ignore

/-! ## Samples and the end of the run -/

/-- Sample the throughput of all pairs and write a row of the table. -/
def sample (x : Experiment) (now : Time) (received : SinkId → Nat) :
    Experiment × Except Fault ThroughputRow :=
  match x.sampler.sample now x.pairs received with
  | (sampler, pairs, .error f) => ({ x with sampler := sampler, pairs := pairs }, .error f)
  | (sampler, pairs, .ok row) =>
    let x := { x with sampler := sampler, pairs := pairs }
    let (x, ok) := x.writeConsole (row.text x.config.csv)
    (x, if ok then .ok row else .error .inaccessible)

/-- The figures of the run, for a simulated time that the first sample period is no part of. -/
def summary (x : Experiment) (sent : SenderId → Counters) (received : SinkId → Counters)
    (simulationTime : Time) : Summary :=
  let window := (simulationTime - x.sampler.period).seconds
  { simulationTime := simulationTime.seconds
    samplePeriod := countFloat x.sampler.period.nanos / 1e6
    throughputRows := x.sampler.rows
    trainingRecords := x.trainingRecords
    qualityRecords := x.qualityRecords
    retrainings := x.trigger.fired
    eventsExecuted := 0
    links := x.pairs.pairs.zipIdx.map fun (p, i) =>
      p.summarize (i + 1) (sent p.sender) (received p.sink) window simulationTime }

/-- Write the report, unless the output is for programs, and flush the streams; the first failure
ends this. -/
def finish (x : Experiment) (s : Summary) : Experiment × Except Fault Unit :=
  let report := if x.config.csv then [] else s.report
  let (console, ok) := x.outputs.console.writeLines report
  let x := { x with outputs := { x.outputs with console := console } }
  if !ok then (x, .error .inaccessible)
  else
    let (console, ok) := x.outputs.console.flush
    let x := { x with outputs := { x.outputs with console := console } }
    if !ok then (x, .error .inaccessible)
    else
      let (training, ok) := x.outputs.training.flush
      let x := { x with outputs := { x.outputs with training := training } }
      if !ok then (x, .error .inaccessible)
      else
        let (quality, ok) := x.outputs.quality.flush
        ({ x with outputs := { x.outputs with quality := quality } },
          if ok then .ok () else .error .inaccessible)

end Experiment

end DenseDmg
