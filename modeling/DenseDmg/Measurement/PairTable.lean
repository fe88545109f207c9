import DenseDmg.Measurement.Throughput

/-!
# Pairs with an index

The pairs of a registry in a table, in the order of their columns, and beside it an index of the
columns by node, so that the pair of a node is taken from its column and not searched for.  Nobody
asks whether there is such a column: an operation that gives `none` has gone beyond the table.
-/

namespace DenseDmg

structure PairTable where
  /-- The pairs, the one in the first column first. -/
  pairs : Array Pair
  /-- The columns by node, a later entry before an earlier one. -/
  columns : List (NodeId × Nat)
deriving Inhabited

namespace PairTable

def empty : PairTable := ⟨#[], []⟩

def size (t : PairTable) : Nat := t.pairs.size

/-- The nodes of the pairs, in the order of the columns. -/
def nodes (t : PairTable) : List NodeId := t.pairs.toList.map Pair.node

/-- Add an idle pair for a node in a new column, which is the answer; a node has one pair at most,
and a registration that is refused changes nothing. -/
def register (t : PairTable) (node : NodeId) (sender : SenderId) (sink : SinkId)
    (source destination : MacAddress) : PairTable × Except Fault Nat :=
  if (t.columns.lookup node).isSome then
    (t, .error (.invalidValue "traffic configuration"
      s!"node {node} already has a communication pair"))
  else
    (⟨t.pairs.push (.idle node sender sink source destination), (node, t.size) :: t.columns⟩,
      .ok t.size)

/-- The column of a node's pair, or the fault that it has none. -/
def column (t : PairTable) (node : NodeId) : Except Fault Nat :=
  match t.columns.lookup node with
  | some column => .ok column
  | none => .error (.missingTraffic node)

/-- The pair of a node. -/
def get (t : PairTable) (node : NodeId) : Option (Except Fault Pair) :=
  match t.column node with
  | .error f => some (.error f)
  | .ok column => t.pairs[column]?.map .ok

/-- Change the pair of a node in its column.  The answer is the pair as it was. -/
def modify (t : PairTable) (node : NodeId) (f : Pair → Pair) :
    Option (PairTable × Except Fault Pair) :=
  match t.column node with
  | .error fault => some (t, .error fault)
  | .ok column =>
    t.pairs[column]?.map fun p => ({ t with pairs := t.pairs.modify column f }, .ok p)

/-- The node has associated.  The answer tells whether its pair has turned active. -/
def activate (t : PairTable) (node : NodeId) (now : Time) :
    Option (PairTable × Except Fault Bool) :=
  (t.modify node fun p => p.activate now).map fun (t, answer) => (t, answer.map (!·.active))

/-- The node has lost its association.  The answer tells whether its pair has turned idle. -/
def deactivate (t : PairTable) (node : NodeId) : Option (PairTable × Except Fault Bool) :=
  (t.modify node Pair.deactivate).map fun (t, answer) => (t, answer.map (·.active))

/-- Sample all pairs, column by column. -/
def sample (t : PairTable) (s : Sampler) (now : Time) (received : SinkId → Nat) :
    PairTable × Except Fault ThroughputRow :=
  let (_, registry, answer) := s.sample now ⟨t.pairs.toList⟩ received
  ({ t with pairs := registry.pairs.toArray }, answer)

end PairTable

end DenseDmg
