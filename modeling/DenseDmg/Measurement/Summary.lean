import DenseDmg.Document.Json
import DenseDmg.Measurement.Throughput

/-!
# The summary of a run

Figures per link and for the whole run, as a report for people and as a document for programs.
-/

namespace DenseDmg

structure LinkSummary where
  /-- Counted from one. -/
  link : Nat
  source : MacAddress
  destination : MacAddress
  sent : Counters
  received : Counters
  /-- Sent over the whole window, in Mbit/s. -/
  offered : Float
  /-- Received over the whole window, in Mbit/s. -/
  flowThroughput : Float
  /-- Received over the time since the most recent association, in Mbit/s. -/
  appThroughput : Float
  meanSampled : Float
  activations : Nat
  /-- When the most recent association took place, in seconds. -/
  lastStart : Option Float
deriving Inhabited

structure Summary where
  /-- In seconds. -/
  simulationTime : Float
  /-- In milliseconds. -/
  samplePeriod : Float
  throughputRows : Nat
  trainingRecords : Nat
  qualityRecords : Nat
  retrainings : Nat
  eventsExecuted : Nat
  links : List LinkSummary
deriving Inhabited

/-- Mbit/s that bytes amount to over some seconds; nothing over no time. -/
def meanThroughput (bytes : Nat) (seconds : Float) : Float :=
  if seconds ≤ 0.0 then 0.0 else countFloat bytes * 8.0 / (seconds * 1e6)

/-- Seconds from an association until the end of the run; none if there was no association, or
not before the end. -/
def activeSeconds? (start : Option Time) (finish : Time) : Option Float :=
  start.bind fun t => if t < finish then some (finish - t).seconds else none

/-- The figures of one pair. -/
def Pair.summarize (p : Pair) (link : Nat) (sent received : Counters) (window : Float)
    (finish : Time) : LinkSummary where
  link := link
  source := p.source
  destination := p.destination
  sent := sent
  received := received
  offered := meanThroughput sent.bytes window
  flowThroughput := meanThroughput received.bytes window
  appThroughput := match activeSeconds? p.startTime finish with
    | some s => meanThroughput received.bytes s
    | none => 0.0
  meanSampled := p.meanSampled
  activations := p.activations
  lastStart := p.startTime.map Time.seconds

namespace Summary

/-- Bytes received on all links, as a 64-bit word. -/
def totalReceived (s : Summary) : Nat :=
  s.links.foldl (fun total l => total + l.received.bytes) 0 % (lastWord + 1)

/-! ## The report -/

def mbpsLine (title : String) (v : Float) : String :=
  title ++ String.ofList (throughputText v) ++ " Mbps"

def flowLines (l : LinkSummary) : List String := [
  s!"Flow {l.link} ({l.source.text} -> {l.destination.text})",
  s!"  Tx Packets: {l.sent.packets}",
  s!"  Tx Bytes:   {l.sent.bytes}",
  mbpsLine "  TxOffered:  " l.offered,
  s!"  Rx Packets: {l.received.packets}",
  s!"  Rx Bytes:   {l.received.bytes}",
  mbpsLine "  Throughput: " l.flowThroughput]

def applicationLines (l : LinkSummary) : List String := [
  s!"Communication Link ({l.link}) Statistics:",
  s!"  Tx Packets: {l.sent.packets}",
  s!"  Tx Bytes:   {l.sent.bytes}",
  s!"  Rx Packets: {l.received.packets}",
  s!"  Rx Bytes:   {l.received.bytes}",
  mbpsLine "  Throughput: " l.appThroughput]

/-- The report for people: the flows first, then the application layer. -/
def report (s : Summary) : List String :=
  s.links.flatMap flowLines ++ "" :: "Application Layer Statistics:" ::
    s.links.flatMap applicationLines

/-! ## The document -/

def linkJson (l : LinkSummary) : Json := .object [
  ("link", .count l.link),
  ("src", .text l.source.text),
  ("dst", .text l.destination.text),
  ("tx_packets", .count l.sent.packets),
  ("tx_bytes", .count l.sent.bytes),
  ("rx_packets", .count l.received.packets),
  ("rx_bytes", .count l.received.bytes),
  ("offered_mbps", .double l.offered),
  ("flow_throughput_mbps", .double l.flowThroughput),
  ("app_throughput_mbps", .double l.appThroughput),
  ("mean_sampled_mbps", .double l.meanSampled),
  ("activations", .count l.activations),
  ("last_start_s", match l.lastStart with
    | some t => .double t
    | none => .null)]

def json (s : Summary) : Json := .object [
  ("simulation_time_s", .double s.simulationTime),
  ("sample_period_ms", .double s.samplePeriod),
  ("throughput_rows", .count s.throughputRows),
  ("sls_records", .count s.trainingRecords),
  ("snr_records", .count s.qualityRecords),
  ("retraining_rounds", .count s.retrainings),
  ("events_executed", .count s.eventsExecuted),
  ("links", .array (s.links.map linkJson))]

end Summary

end DenseDmg
