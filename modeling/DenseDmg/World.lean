import DenseDmg.Engine.Simulator
import DenseDmg.Measurement.Experiment
import DenseDmg.Network.Basic

/-!
# The world of a run

A world is a network together with the experiment that watches it.  Its events are those of the
medium access, of the traffic and of the sampling; `World.act` says what each of them does.  Link
events go to the experiment, and the orders it answers with are carried out on the network.  The
first fault is kept: it freezes the experiment and halts the world.
-/

namespace DenseDmg

inductive NetworkEvent
  | beaconInterval (index : Nat)
  /-- The data transfer interval begins and lasts for the given time. -/
  | transferInterval (duration : Time)
  /-- A station that has been trained completes its association. -/
  | associationComplete (station : NodeId)
  /-- A training on demand begins. -/
  | trainingRequested (initiator responder : NodeId)
  /-- A training is over at both ends. -/
  | trainingDone (initiator responder : NodeId) (period : AccessPeriod)
  /-- A frame arrives; one that carries a packet names the sink that counts it. -/
  | frameArrives (tx rx : NodeId) (kind : FrameKind) (bytes : Nat) (sink : Option SinkId)
  /-- A send timer of a given generation. -/
  | sendTimer (sender : SenderId) (generation : Nat)
  /-- The throughput is sampled, and again after a period. -/
  | sampleDue (period : Time)
deriving DecidableEq, Inhabited

/-- A frame without a packet. -/
def NetworkEvent.controlFrame (tx rx : NodeId) (kind : FrameKind) : NetworkEvent :=
  .frameArrives tx rx kind 0 none

abbrev NetworkRequest := Request NetworkEvent

structure World where
  network : Network
  experiment : Experiment
  /-- What is known of the devices whose trainings are reported, latest subscription first. -/
  subscriptions : List (MacAddress × TrainingContext)
  /-- The first fault. -/
  fatal : Option Fault
deriving Inhabited

namespace World

def ofNetwork (network : Network) (experiment : Experiment) : World :=
  ⟨network, experiment, [], none⟩

def halted (w : World) : Bool := w.fatal.isSome

/-- Keep a fault, unless there is one already. -/
def fail (w : World) (f : Fault) : World := { w with fatal := some (w.fatal.getD f) }

/-- Keep the fault of a failed attempt. -/
def check (w : World) : Except Fault Unit → World
  | .ok () => w
  | .error f => w.fail f

/-- Subscribe to the trainings of a device. -/
def subscribe (w : World) (node : NodeId) : World :=
  match w.network.devices[node]? with
  | none => w
  | some d =>
    { w with subscriptions := (d.address, ⟨node, d.role, d.bssid⟩) :: w.subscriptions }

def trainingContext (w : World) (address : MacAddress) : Except Fault TrainingContext :=
  match w.subscriptions.lookup address with
  | some context => .ok context
  | none => .error (.unknownSubscription address)

/-! ## Orders -/

/-- Start a sender; one that did not run yet sends its first packet at once. -/
def startSender (w : World) (sender : SenderId) : World × List NetworkRequest :=
  let (apps, generation) := w.network.apps.start sender
  ({ w with network := { w.network with apps := apps } },
    match generation with
    | some g => [.afterDelay .zero (.sendTimer sender g)]
    | none => [])

def stopSender (w : World) (sender : SenderId) : World :=
  { w with network := { w.network with apps := w.network.apps.stop sender } }

/-- Ask for a training; both addresses must belong to devices. -/
def requestTraining (w : World) (initiator peer : MacAddress) :
    Except Fault (List NetworkRequest) :=
  match w.network.nodeOf? initiator with
  | none => .error (.unknownAddress initiator)
  | some a =>
    match w.network.nodeOf? peer with
    | none => .error (.unknownAddress peer)
    | some b => .ok [.afterDelay w.network.mac.accessDelay (.trainingRequested a b)]

/-- Carry out one order. -/
def obey (w : World) : Order → World × List NetworkRequest
  | .startSender sender => w.startSender sender
  | .stopSender sender => (w.stopSender sender, [])
  | .train initiator peer =>
    match w.requestTraining initiator peer with
    | .ok requests => (w, requests)
    | .error f => (w.fail f, [])

/-- Carry out orders one after the other. -/
def obeyAll (w : World) : List Order → World × List NetworkRequest
  | [] => (w, [])
  | order :: rest =>
    let (w, first) := w.obey order
    let (w, others) := w.obeyAll rest
    (w, first ++ others)

/-! ## Reports to the experiment -/

/-- Hand a link event to the experiment and carry out its orders.  After a fault nothing is
handed on any more. -/
def dispatch (w : World) (event : LinkEvent) (now : Time) : World × List NetworkRequest :=
  if w.halted then (w, [])
  else
    let h := w.experiment.handle event (w.network.traceIndex now) now
    let w := ({ w with experiment := h.experiment } : World).check h.answer
    w.obeyAll h.orders

/-- Sample the throughput, unless there has been a fault. -/
def sampleThroughput (w : World) (now : Time) : World :=
  if w.halted then w
  else
    let (experiment, answer) := w.experiment.sample now fun sink =>
      (w.network.apps.received sink).bytes
    ({ w with experiment := experiment } : World).check (answer.map fun _ => ())

/-- The figures of the run so far. -/
def summary (w : World) (simulationTime : Time) : Summary :=
  w.experiment.summary w.network.apps.sent w.network.apps.received simulationTime

/-! ## The beacon interval -/

/-- A station that is cut off when a beacon interval begins loses its association. -/
def loseStation (now : Time) (w : World) (d : Device) : World :=
  if w.network.isBlocked d.node now && d.isAssociated then
    let (network, event) := w.network.deassociate d
    (({ w with network := network } : World).dispatch (.deassociated event) now).1
  else w

/-- The beacons of the sweep, each in the sector that faces its station. -/
def beaconRequests (mac : MacParams) (ap : Device) (now : Time) (stations : List Device) :
    List NetworkRequest :=
  stations.map fun d =>
    .atTime (now + mac.sweepFrame.repeatedWord (Network.bestSector ap d))
      (.controlFrame ap.node d.node .beacon)

/-- The training of one station in its slot. -/
def slotRequests (mac : MacParams) (ap : NodeId) (start : Time) (slot : Nat) (d : Device) :
    List NetworkRequest :=
  let slotStart := start + mac.abftSlot.repeatedWord slot
  let slotEnd := slotStart + mac.abftSlot
  [.atTime (slotStart + mac.sweepFrame) (.controlFrame d.node ap .sectorSweep),
    .atTime (slotEnd - mac.sweepFrame) (.controlFrame ap d.node .sweepFeedback),
    .atTime slotEnd (.trainingDone ap d.node .associationTraining)]

/-- The associations of the stations that were trained, one after the other. -/
def associationRequests (mac : MacParams) (transferStart : Time) (trained : List Device) :
    List NetworkRequest :=
  trained.zipIdx.map fun (d, k) =>
    .atTime (transferStart + mac.assocDelay.repeatedWord (k + 1)) (.associationComplete d.node)

/--
A beacon interval begins.  Stations that are cut off lose their association; those within reach
are sent a beacon; the first of them that are not associated get a training slot each and an
association behind it.  Then follow the data transfer interval and the next beacon interval.
-/
def beginInterval (w : World) (index : Nat) (now : Time) : World × List NetworkRequest :=
  match w.network.accessPoint.bind fun node => w.network.devices[node]? with
  | none => (w, [])
  | some ap =>
    let mac := w.network.mac
    let w := w.network.stations.foldl (loseStation now) w
    let reachable := w.network.stations.filter fun d => w.network.linkUp ap.node d.node now
    let trained := (reachable.filter fun d => !d.isAssociated).take mac.abftSlots
    let transferStart := now + mac.transferOffset
    (w,
      beaconRequests mac ap now reachable ++
        trained.zipIdx.flatMap (fun (d, slot) =>
          slotRequests mac ap.node (now + mac.bti) slot d) ++
        [.atTime transferStart (.transferInterval mac.transferDuration)] ++
        associationRequests mac transferStart trained ++
        [.atTime (now + mac.beaconInterval) (.beaconInterval (index + 1))])

/-- Tell the stations one after the other that their data transfer interval has begun. -/
def announceTransfer (w : World) (duration now : Time) :
    List Device → World × List NetworkRequest
  | [] => (w, [])
  | d :: rest =>
    let (w, first) := w.dispatch
      (.transferStarted ⟨d.node, d.address, d.bssid, d.isAssociated, duration⟩) now
    let (w, others) := w.announceTransfer duration now rest
    (w, first ++ others)

/-- The data transfer interval begins for every station within reach of the access point. -/
def beginTransfer (w : World) (duration now : Time) : World × List NetworkRequest :=
  match w.network.accessPoint with
  | none => (w, [])
  | some ap =>
    w.announceTransfer duration now
      (w.network.stations.filter fun d => w.network.linkUp ap d.node now)

/-- A trained station associates, if it is within reach and has not done so already. -/
def completeAssociation (w : World) (station : NodeId) (now : Time) :
    World × List NetworkRequest :=
  match w.network.accessPoint, w.network.devices[station]? with
  | some ap, some d =>
    if !w.network.linkUp ap station now || d.isAssociated then (w, [])
    else
      let (network, event) := w.network.associate d
      ({ w with network := network } : World).dispatch (.associated event) now
  | _, _ => (w, [])

/-! ## Trainings -/

/-- The frames of a training on demand: the sweep of one end, the sweep of the other, feedback and
acknowledgement. -/
def trainingRequests (mac : MacParams) (initiator responder : Device) (now : Time) :
    List NetworkRequest :=
  let swept := now + mac.sweepFrame.repeatedWord initiator.sectors
  let answered := swept + mac.sweepFrame.repeatedWord responder.sectors
  let feedback := answered + mac.sweepFrame
  let acknowledged := feedback + mac.sweepFrame
  [.atTime swept (.controlFrame initiator.node responder.node .sectorSweep),
    .atTime answered (.controlFrame responder.node initiator.node .sectorSweep),
    .atTime feedback (.controlFrame initiator.node responder.node .sweepFeedback),
    .atTime acknowledged (.controlFrame responder.node initiator.node .sweepAck),
    .atTime acknowledged (.trainingDone initiator.node responder.node .dataTransfer)]

/-- A training on demand takes place if the link is up. -/
def beginTraining (w : World) (initiator responder : NodeId) (now : Time) :
    World × List NetworkRequest :=
  match w.network.devices[initiator]?, w.network.devices[responder]? with
  | some a, some b =>
    if w.network.linkUp initiator responder now then (w, trainingRequests w.network.mac a b now)
    else (w, [])
  | _, _ => (w, [])

/-- Report a completed training for one of its ends. -/
def reportTraining (w : World) (reporter peer : Device) (period : AccessPeriod)
    (side : TrainingSide) (now : Time) : World × List NetworkRequest :=
  match w.trainingContext reporter.address with
  | .error f => (w.fail f, [])
  | .ok context =>
    w.dispatch
      (.trainingCompleted
        ⟨context, peer.address, period, side, true, true, Network.bestSector reporter peer,
          reporter.antenna⟩) now

/-- A training is over; it counts if the link is up. -/
def endTraining (w : World) (initiator responder : NodeId) (period : AccessPeriod) (now : Time) :
    World × List NetworkRequest :=
  match w.network.devices[initiator]?, w.network.devices[responder]? with
  | some a, some b =>
    if w.network.linkUp initiator responder now then
      let (w, first) := w.reportTraining a b period .initiator now
      let (w, second) := w.reportTraining b a period .responder now
      (w, first ++ second)
    else (w, [])
  | _, _ => (w, [])

/-! ## Traffic -/

def updateApps (w : World) (f : Applications → Applications) : World :=
  { w with network := { w.network with apps := f w.network.apps } }

/-- A frame arrives if the link is still up. -/
def receiveFrame (w : World) (tx rx : NodeId) (kind : FrameKind) (bytes : Nat)
    (sink : Option SinkId) (now : Time) : World × List NetworkRequest :=
  match w.network.devices[tx]?, w.network.devices[rx]? with
  | some a, some b =>
    if w.network.linkUp tx rx now then
      let snr := w.network.snr a b now
      let w := match sink with
        | some id => w.updateApps fun apps => apps.recordReceived id bytes
        | none => w
      w.dispatch (.frameReceived ⟨b.address, a.address, kind, snr⟩) now
    else (w, [])
  | _, _ => (w, [])

/-- A send timer that is in force sends a packet and sets itself again, or ends a sender that has
finished. -/
def sendPacket (w : World) (sender : SenderId) (generation : Nat) (now : Time) :
    World × List NetworkRequest :=
  match w.network.apps.senders[sender]? with
  | none => (w, [])
  | some s =>
    if !s.isCurrent generation then (w, [])
    else if s.isFinished now then (w.updateApps fun apps => apps.finish sender, [])
    else
      let bytes := s.config.packetBytes
      let airtime := w.network.phy.airtime bytes
      let frame : List NetworkRequest :=
        if w.network.linkUp s.node s.peer now then
          [.afterDelay (.ofNanos airtime) (.frameArrives s.node s.peer .data bytes (some s.sink))]
        else []
      (w.updateApps fun apps => apps.recordSent sender bytes,
        frame ++ [.afterDelay (.ofNanos (s.interval airtime)) (.sendTimer sender generation)])

/-- A sample, and the next one unless there is a fault. -/
def takeSample (w : World) (period now : Time) : World × List NetworkRequest :=
  let w := w.sampleThroughput now
  (w, if w.halted then [] else [.afterDelay period (.sampleDue period)])

/-! ## All events -/

/-- What an event does at a given instant. -/
def act (w : World) (now : Time) : NetworkEvent → World × List NetworkRequest
  | .beaconInterval index => w.beginInterval index now
  | .transferInterval duration => w.beginTransfer duration now
  | .associationComplete station => w.completeAssociation station now
  | .trainingRequested initiator responder => w.beginTraining initiator responder now
  | .trainingDone initiator responder period => w.endTraining initiator responder period now
  | .frameArrives tx rx kind bytes sink => w.receiveFrame tx rx kind bytes sink now
  | .sendTimer sender generation => w.sendPacket sender generation now
  | .sampleDue period => w.takeSample period now

/-- How the events of a network act on its world. -/
def behaviour : Behaviour NetworkEvent World where
  act := fun s event w => w.act s.now event
  halted := World.halted

end World

end DenseDmg
