import DenseDmg.Address
import DenseDmg.Text.Quoted

/-!
# Faults

What can go wrong is a closed list of causes.  Some arise before a run, from values that are not
understood or not acceptable; the others arise in a run, and each of those ends it.
-/

namespace DenseDmg

/-- Nodes are numbered in the order of their creation. -/
abbrev NodeId := Nat

/-- What is wrong with a document: it is not well formed, it ends too early, or it is well formed
so far but holds a value of the wrong type or range, a field twice, or a required field not at
all. -/
inductive DocumentFault
  | malformed
  | truncated
  | mismatched
deriving DecidableEq, Inhabited

inductive Fault
  /-- An address that was not registered when the network was set up. -/
  | unknownAddress (address : MacAddress)
  /-- A node without a communication pair. -/
  | missingTraffic (node : NodeId)
  /-- A device whose trainings nobody subscribed to. -/
  | unknownSubscription (address : MacAddress)
  /-- A receive counter that shrank between two samples. -/
  | counterRegression (pair previous current : Nat)
  /-- A name that stands for none of the variants it is chosen from. -/
  | unknownVariant (what value : String)
  /-- A value outside its range. -/
  | invalidValue (what value : String)
  /-- A stream or file that cannot be read or written. -/
  | inaccessible
  | document (fault : DocumentFault)
deriving DecidableEq, Inhabited

/-- The wording of a fault. -/
def Fault.message : Fault → String
  | unknownAddress a => s!"unknown MAC address {a.text}: not registered at setup"
  | missingTraffic node => s!"no traffic configuration for node {node}"
  | unknownSubscription a => s!"device {a.text} has no beam-training subscription"
  | counterRegression pair previous current =>
    s!"receive counter of pair {pair} went backwards: {previous} -> {current}"
  | unknownVariant what value => s!"unknown {what}: {quoted value}"
  | invalidValue what value => s!"invalid {what}: {value}"
  | inaccessible => "I/O error"
  | document .malformed => "JSON error: malformed document"
  | document .truncated => "JSON error: the document ends too early"
  | document .mismatched => "JSON error: a value does not fit its place"

/-- The address that a text denotes, or the fault of a text that denotes none. -/
def MacAddress.parse (s : String) : Except Fault MacAddress :=
  match MacAddress.read? s.toList with
  | some m => .ok m
  | none => .error (.invalidValue "MAC address" s)

end DenseDmg
