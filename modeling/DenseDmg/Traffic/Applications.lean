import DenseDmg.Radio.Phy
import DenseDmg.Time
import DenseDmg.Traffic

/-!
# Traffic applications

A sender emits packets of one size towards a peer while it runs; a sink counts what arrives.
Every start gives a sender a new generation, and a send timer of an older generation has no
effect any more.  `Applications` is the table of all senders and sinks, addressed by position.
-/

namespace DenseDmg

abbrev SenderId := Nat

abbrev SinkId := Nat

/-- The largest packet: the longest aggregate that one frame can carry. -/
def maxPacketBytes : Nat := 7935

/-- Packets and bytes counted so far. -/
structure Counters where
  packets : Nat
  bytes : Nat
deriving DecidableEq, Inhabited

namespace Counters

def zero : Counters := ⟨0, 0⟩

/-- One packet more. -/
def add (c : Counters) (bytes : Nat) : Counters := ⟨c.packets + 1, c.bytes + bytes⟩

end Counters

structure SenderConfig where
  kind : AppKind
  packetBytes : Nat
  rate : DataRate
  /-- How many bytes to send in all; zero stands for no limit. -/
  maxBytes : Nat
  /-- From when on nothing is sent. -/
  stopAt : Option Time
deriving DecidableEq, Inhabited

structure Sender where
  node : NodeId
  peer : NodeId
  sink : SinkId
  config : SenderConfig
  running : Bool
  /-- How often the sender has begun to run. -/
  generation : Nat
  startCalls : Nat
  stopCalls : Nat
  sent : Counters
deriving DecidableEq, Inhabited

namespace Sender

/-- A sender that has not been started. -/
def idle (node peer : NodeId) (sink : SinkId) (config : SenderConfig) : Sender where
  node := node
  peer := peer
  sink := sink
  config := config
  running := false
  generation := 0
  startCalls := 0
  stopCalls := 0
  sent := .zero

/-- Whether a send timer of the given generation is still in force. -/
def isCurrent (s : Sender) (generation : Nat) : Bool := s.running && s.generation == generation

def budgetExhausted (s : Sender) : Bool :=
  decide (0 < s.config.maxBytes ∧ s.config.maxBytes ≤ s.sent.bytes)

/-- Whether the budget is used up or the time to stop has come. -/
def isFinished (s : Sender) (now : Time) : Bool :=
  s.budgetExhausted || s.config.stopAt.any fun t => decide (t ≤ now)

/-- From one packet to the next, in nanoseconds. -/
def interval (s : Sender) (airtime : Nat) : Nat :=
  match s.config.kind with
  | .onOff => transferNanos s.config.packetBytes s.config.rate.bps
  | .bulk => max airtime 1

/-- A call to start: it counts always, and makes a sender run that does not run yet. -/
def start (s : Sender) : Sender :=
  let s := { s with startCalls := s.startCalls + 1 }
  if s.running then s else { s with running := true, generation := s.generation + 1 }

/-- A call to stop. -/
def stop (s : Sender) : Sender := { s with stopCalls := s.stopCalls + 1, running := false }

/-- The sender ends by itself, which is no call to stop. -/
def finish (s : Sender) : Sender := { s with running := false }

def recordSent (s : Sender) (bytes : Nat) : Sender := { s with sent := s.sent.add bytes }

end Sender

structure Sink where
  node : NodeId
  received : Counters
deriving DecidableEq, Inhabited

namespace Sink

def recordReceived (s : Sink) (bytes : Nat) : Sink := { s with received := s.received.add bytes }

end Sink

/-- All senders and sinks of a network, in the order of their installation. -/
structure Applications where
  senders : Array Sender
  sinks : Array Sink
deriving Inhabited

namespace Applications

def empty : Applications := ⟨#[], #[]⟩

/-- A new sink, and the position it got. -/
def installSink (a : Applications) (node : NodeId) : Applications × SinkId :=
  ({ a with sinks := a.sinks.push ⟨node, .zero⟩ }, a.sinks.size)

/-- A new sender at rest, and the position it got. -/
def installSender (a : Applications) (node peer : NodeId) (sink : SinkId)
    (config : SenderConfig) : Applications × SenderId :=
  ({ a with senders := a.senders.push (.idle node peer sink config) }, a.senders.size)

/-- Change one sender and leave the others. -/
def updateSender (a : Applications) (id : SenderId) (f : Sender → Sender) : Applications :=
  { a with senders := a.senders.modify id f }

/-- Change one sink and leave the others. -/
def updateSink (a : Applications) (id : SinkId) (f : Sink → Sink) : Applications :=
  { a with sinks := a.sinks.modify id f }

/-- Start a sender.  If it did not run yet, the second part is its new generation. -/
def start (a : Applications) (id : SenderId) : Applications × Option Nat :=
  let generation := match a.senders[id]? with
    | some s => if s.running then none else some (s.generation + 1)
    | none => none
  (a.updateSender id Sender.start, generation)

def stop (a : Applications) (id : SenderId) : Applications := a.updateSender id Sender.stop

def finish (a : Applications) (id : SenderId) : Applications := a.updateSender id Sender.finish

def recordSent (a : Applications) (id : SenderId) (bytes : Nat) : Applications :=
  a.updateSender id fun s => s.recordSent bytes

def recordReceived (a : Applications) (id : SinkId) (bytes : Nat) : Applications :=
  a.updateSink id fun s => s.recordReceived bytes

/-- What a sender has sent; nothing, for a position without a sender. -/
def sent (a : Applications) (id : SenderId) : Counters :=
  match a.senders[id]? with
  | some s => s.sent
  | none => .zero

/-- What a sink has received; nothing, for a position without a sink. -/
def received (a : Applications) (id : SinkId) : Counters :=
  match a.sinks[id]? with
  | some s => s.received
  | none => .zero

end Applications

end DenseDmg
