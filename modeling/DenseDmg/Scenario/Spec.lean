import DenseDmg.Document.Json
import DenseDmg.Document.Reader

/-!
# Scenario documents

A scenario document describes one run.  Every field has a default, so that a document only says
what differs from it; blockages alone must be given in full.  Texts and numbers stand here as the
document gives them and are checked when the scenario is resolved.
-/

namespace DenseDmg

structure ApplicationSpec where
  kind : String := "onoff"
  packetSize : Nat := 1448
  dataRate : String := "300Mbps"
  /-- How many bytes each sender sends in all; zero stands for no limit. -/
  maxBytes : Nat := 0
  socket : String := "udp"
  tcpVariant : String := "NewReno"
deriving Inhabited

structure ChannelSpec where
  /-- How far the stations are from the access point, in metres. -/
  radius : Float := 4.0
  numTraces : Nat := 1
  /-- In milliseconds. -/
  tracePeriod : Float := 5.0
  apSectors : Nat := 32
  staSectors : Nat := 32
  /-- In dBm. -/
  txPower : Float := 10.0
deriving Inhabited

structure MacSpec where
  /-- In microseconds. -/
  beaconInterval : Nat := 102400
  biThreshold : Nat := 10
deriving Inhabited

structure OutputSpec where
  csv : Bool := false
  reportDataSnr : Bool := true
  /-- In milliseconds. -/
  samplePeriod : Nat := 100
deriving Inhabited

/-- The station of a given number, counted from one, is cut off from one millisecond until just
before another. -/
structure BlockageSpec where
  sta : Nat
  start : Nat
  finish : Nat
deriving Inhabited

structure ScenarioSpec where
  numStas : Nat := 10
  /-- In seconds. -/
  simulationTime : Float := 10.0
  application : ApplicationSpec := {}
  phyMode : String := "DMG_MCS12"
  channel : ChannelSpec := {}
  mac : MacSpec := {}
  output : OutputSpec := {}
  blockages : List BlockageSpec := []
deriving Inhabited

/-! ## Reading -/

open Document

/-- The largest numbers of 8, 16 and 32 bits. -/
def lastOctet : Nat := 255

def lastShort : Nat := 65535

def lastLong : Nat := 4294967295

def ApplicationSpec.shape : Shape ApplicationSpec where
  complete := false
  fields := [
    .of "kind" readText fun s v => { s with kind := v },
    .of "packet_size" (readCount lastLong) fun s v => { s with packetSize := v },
    .of "data_rate" readText fun s v => { s with dataRate := v },
    .of "max_bytes" (readCount lastWord) fun s v => { s with maxBytes := v },
    .of "socket" readText fun s v => { s with socket := v },
    .of "tcp_variant" readText fun s v => { s with tcpVariant := v }]

def ChannelSpec.shape : Shape ChannelSpec where
  complete := false
  fields := [
    .of "radius_m" readDouble fun s v => { s with radius := v },
    .of "num_traces" (readCount lastLong) fun s v => { s with numTraces := v },
    .of "trace_period_ms" readDouble fun s v => { s with tracePeriod := v },
    .of "ap_sectors" (readCount lastOctet) fun s v => { s with apSectors := v },
    .of "sta_sectors" (readCount lastOctet) fun s v => { s with staSectors := v },
    .of "tx_power_dbm" readDouble fun s v => { s with txPower := v }]

def MacSpec.shape : Shape MacSpec where
  complete := false
  fields := [
    .of "beacon_interval_us" (readCount lastWord) fun s v => { s with beaconInterval := v },
    .of "bi_threshold" (readCount lastShort) fun s v => { s with biThreshold := v }]

def OutputSpec.shape : Shape OutputSpec where
  complete := false
  fields := [
    .of "csv" readBool fun s v => { s with csv := v },
    .of "report_data_snr" readBool fun s v => { s with reportDataSnr := v },
    .of "sample_period_ms" (readCount lastWord) fun s v => { s with samplePeriod := v }]

def BlockageSpec.shape : Shape BlockageSpec where
  complete := true
  fields := [
    .of "sta" (readCount lastShort) fun s v => { s with sta := v },
    .of "from_ms" (readCount lastWord) fun s v => { s with start := v },
    .of "to_ms" (readCount lastWord) fun s v => { s with finish := v }]

def ScenarioSpec.shape : Shape ScenarioSpec where
  complete := false
  fields := [
    .of "num_stas" (readCount lastShort) fun s v => { s with numStas := v },
    .of "simulation_time_s" readDouble fun s v => { s with simulationTime := v },
    .of "application" (readRecord ApplicationSpec.shape {}) fun s v => { s with application := v },
    .of "phy_mode" readText fun s v => { s with phyMode := v },
    .of "channel" (readRecord ChannelSpec.shape {}) fun s v => { s with channel := v },
    .of "mac" (readRecord MacSpec.shape {}) fun s v => { s with mac := v },
    .of "output" (readRecord OutputSpec.shape {}) fun s v => { s with output := v },
    .of "blockages" (readList (readRecord BlockageSpec.shape default))
      fun s v => { s with blockages := v }]

/-- The scenario that a document describes. -/
def ScenarioSpec.ofDocument (raw : String) : Except Fault ScenarioSpec :=
  match readDocument (readRecord ScenarioSpec.shape {}) raw.toList with
  | .ok spec => .ok spec
  | .error f => .error (.document f)

/-! ## Writing -/

def ApplicationSpec.json (a : ApplicationSpec) : Json := .object [
  ("kind", .text a.kind),
  ("packet_size", .count a.packetSize),
  ("data_rate", .text a.dataRate),
  ("max_bytes", .count a.maxBytes),
  ("socket", .text a.socket),
  ("tcp_variant", .text a.tcpVariant)]

def ChannelSpec.json (c : ChannelSpec) : Json := .object [
  ("radius_m", .double c.radius),
  ("num_traces", .count c.numTraces),
  ("trace_period_ms", .double c.tracePeriod),
  ("ap_sectors", .count c.apSectors),
  ("sta_sectors", .count c.staSectors),
  ("tx_power_dbm", .double c.txPower)]

def MacSpec.json (m : MacSpec) : Json := .object [
  ("beacon_interval_us", .count m.beaconInterval),
  ("bi_threshold", .count m.biThreshold)]

def OutputSpec.json (o : OutputSpec) : Json := .object [
  ("csv", .bool o.csv),
  ("report_data_snr", .bool o.reportDataSnr),
  ("sample_period_ms", .count o.samplePeriod)]

def BlockageSpec.json (b : BlockageSpec) : Json := .object [
  ("sta", .count b.sta),
  ("from_ms", .count b.start),
  ("to_ms", .count b.finish)]

def ScenarioSpec.json (s : ScenarioSpec) : Json := .object [
  ("num_stas", .count s.numStas),
  ("simulation_time_s", .double s.simulationTime),
  ("application", s.application.json),
  ("phy_mode", .text s.phyMode),
  ("channel", s.channel.json),
  ("mac", s.mac.json),
  ("output", s.output.json),
  ("blockages", .array (s.blockages.map BlockageSpec.json))]

/-- The full document of a scenario, without any space. -/
def ScenarioSpec.document (s : ScenarioSpec) : String := String.ofList s.json.compact

end DenseDmg
