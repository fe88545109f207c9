import DenseDmg.Network.Basic
import DenseDmg.Scenario.Spec

/-!
# Resolving scenarios

Resolving turns the texts and numbers of a scenario document into typed values and refuses the
values that no run could use.  The checks are made in a fixed order and the first one that fails
is the one reported.
-/

namespace DenseDmg

structure Scenario where
  numStas : Nat
  simulationTime : Time
  sender : SenderConfig
  socket : SocketKind
  tcpVariant : TcpVariant
  phy : PhyMode
  radius : Float
  numTraces : Nat
  tracePeriod : Time
  apSectors : Nat
  staSectors : Nat
  txPower : Float
  beaconInterval : Time
  biThreshold : Nat
  csv : Bool
  reportDataSnr : Bool
  samplePeriod : Time
  /-- Number of the station, counted from one, start and end. -/
  blockages : List (Nat × Time × Time)
deriving Inhabited

namespace Scenario

/-- When a run ends: a sample period and a millisecond after the simulated time, so that the last
period is sampled in full. -/
def stopTime (s : Scenario) : Time := s.simulationTime + s.samplePeriod + .ofMillis 1

end Scenario

/-- A value that must be a finite number above zero. -/
def positive (what : String) (v : Float) : Except Fault Float :=
  if v.isFinite && 0.0 < v then .ok v
  else .error (.invalidValue what (String.ofList (plainFloat v)))

/-- The most stations that one access point serves. -/
def maxStations : Nat := 254

def BlockageSpec.resolve (numStas : Nat) (b : BlockageSpec) : Except Fault (Nat × Time × Time) :=
  if b.sta = 0 ∨ numStas < b.sta then .error (.invalidValue "blockage STA" (toString b.sta))
  else if b.finish ≤ b.start then
    .error (.invalidValue "blockage window" s!"{b.start}..{b.finish} ms")
  else .ok (b.sta, .ofMillis b.start, .ofMillis b.finish)

/-- Refuse a value unless a condition holds. -/
def require (condition : Bool) (what value : String) : Except Fault Unit :=
  if condition then .ok () else .error (.invalidValue what value)

def ScenarioSpec.resolve (s : ScenarioSpec) : Except Fault Scenario := do
  require (0 < s.numStas && s.numStas ≤ maxStations) "number of STAs" (toString s.numStas)
  let simulationTime := Time.ofSeconds (← positive "simulation time" s.simulationTime)
  let app := s.application
  require (0 < app.packetSize && app.packetSize ≤ maxPacketBytes) "packet size"
    (toString app.packetSize)
  let kind ← AppKind.parse app.kind
  let rate ← DataRate.parse app.dataRate
  let socket ← SocketKind.parse app.socket
  let tcpVariant ← TcpVariant.parse app.tcpVariant
  let phy ← PhyMode.parse s.phyMode
  let channel := s.channel
  require (0 < channel.numTraces) "number of Q-D traces" (toString channel.numTraces)
  require (0 < channel.apSectors && 0 < channel.staSectors) "codebook sectors" "0"
  let tracePeriod := Time.ofSeconds ((← positive "trace period" channel.tracePeriod) / 1e3)
  let beaconInterval := Time.ofMicros s.mac.beaconInterval
  require (MacParams.standard.transferOffset < beaconInterval) "beacon interval"
    s!"{s.mac.beaconInterval} us (shorter than BTI + A-BFT)"
  require (0 < s.mac.biThreshold) "BI threshold" "0"
  require (0 < s.output.samplePeriod) "sample period" "0"
  let blockages ← s.blockages.mapM (BlockageSpec.resolve s.numStas)
  let radius ← positive "radius" channel.radius
  return {
    numStas := s.numStas
    simulationTime := simulationTime
    sender := ⟨kind, app.packetSize, rate, app.maxBytes, some simulationTime⟩
    socket := socket
    tcpVariant := tcpVariant
    phy := phy
    radius := radius
    numTraces := channel.numTraces
    tracePeriod := tracePeriod
    apSectors := channel.apSectors
    staSectors := channel.staSectors
    txPower := channel.txPower
    beaconInterval := beaconInterval
    biThreshold := s.mac.biThreshold
    csv := s.output.csv
    reportDataSnr := s.output.reportDataSnr
    samplePeriod := Time.ofMillis s.output.samplePeriod
    blockages := blockages }

end DenseDmg
