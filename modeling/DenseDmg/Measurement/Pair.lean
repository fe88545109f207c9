import DenseDmg.Traffic.Applications

/-!
# Communicating pairs

One record for every node that sends traffic: who sends to whom, whether the node is associated,
and what has been measured of it so far.  The registry keeps the pairs in the order of their
registration, which is the order of the columns in the throughput table.
-/

namespace DenseDmg

structure Pair where
  node : NodeId
  sender : SenderId
  sink : SinkId
  source : MacAddress
  destination : MacAddress
  /-- Whether the node is associated. -/
  active : Bool
  /-- The receive counter at the last sample. -/
  lastTotal : Nat
  /-- Sum of the throughput of all samples, in Mbit/s. -/
  throughputSum : Float
  samples : Nat
  /-- When the node associated most recently. -/
  startTime : Option Time
  /-- How often the node has turned from idle to active. -/
  activations : Nat
deriving Inhabited

namespace Pair

/-- A pair that has been idle so far. -/
def idle (node : NodeId) (sender : SenderId) (sink : SinkId) (source destination : MacAddress) :
    Pair :=
  ⟨node, sender, sink, source, destination, false, 0, 0.0, 0, none, 0⟩

/-- The node has associated: the start time is set anew, whether or not the pair was active. -/
def activate (p : Pair) (now : Time) : Pair :=
  { p with
    startTime := some now
    active := true
    activations := if p.active then p.activations else p.activations + 1 }

/-- The node has lost its association. -/
def deactivate (p : Pair) : Pair := { p with active := false }

def meanSampled (p : Pair) : Float :=
  if p.samples = 0 then 0.0 else p.throughputSum / countFloat p.samples

/-- Take over a receive counter and the throughput that its growth amounts to. -/
def observe (p : Pair) (current : Nat) (throughput : Float) : Pair :=
  { p with
    lastTotal := current
    throughputSum := p.throughputSum + throughput
    samples := p.samples + 1 }

end Pair

structure PairRegistry where
  pairs : List Pair
deriving Inhabited

namespace PairRegistry

def empty : PairRegistry := ⟨[]⟩

def size (r : PairRegistry) : Nat := r.pairs.length

/-- The nodes that have a pair, in the order of registration. -/
def nodes (r : PairRegistry) : List NodeId := r.pairs.map Pair.node

def get? (r : PairRegistry) (node : NodeId) : Option Pair := r.pairs.find? fun p => p.node == node

/-- The pair of a node, or the fault that it has none. -/
def get (r : PairRegistry) (node : NodeId) : Except Fault Pair :=
  match r.get? node with
  | some p => .ok p
  | none => .error (.missingTraffic node)

/-- Add an idle pair for a node and give its column; a node has one pair at most. -/
def register (r : PairRegistry) (node : NodeId) (sender : SenderId) (sink : SinkId)
    (source destination : MacAddress) : Except Fault (PairRegistry × Nat) :=
  if (r.get? node).isSome then
    .error (.invalidValue "traffic configuration"
      s!"node {node} already has a communication pair")
  else .ok (⟨r.pairs ++ [.idle node sender sink source destination]⟩, r.size)

/-- Change the pair of one node and leave the others. -/
def update (r : PairRegistry) (node : NodeId) (f : Pair → Pair) : PairRegistry :=
  ⟨r.pairs.map fun p => if p.node = node then f p else p⟩

end PairRegistry

end DenseDmg
