import DenseDmg.Measurement.Experiment

/-!
# Rehearsals

An experiment can be rehearsed without a network.  A rehearsal stands in for one: its counters
and its channel trace are set by hand, and it remembers the orders it is given.  It may refuse
trainings in which a certain address takes part.
-/

namespace DenseDmg

structure Rehearsal where
  sent : List (SenderId × Counters)
  received : List (SinkId × Counters)
  traceIndex : Nat
  /-- An address that takes part in no training. -/
  refused : Option MacAddress
  /-- The orders so far, first order first. -/
  orders : Array Order
deriving Inhabited

namespace Rehearsal

/-- A rehearsal in which nothing has been sent and nothing is refused. -/
def fresh : Rehearsal := ⟨[], [], 0, none, #[]⟩

def sentBy (r : Rehearsal) (sender : SenderId) : Counters := (r.sent.lookup sender).getD .zero

def receivedBy (r : Rehearsal) (sink : SinkId) : Counters := (r.received.lookup sink).getD .zero

/-- Set the counters of a sender; the second part tells whether they had been set before. -/
def setSent (r : Rehearsal) (sender : SenderId) (c : Counters) : Rehearsal × Bool :=
  ({ r with sent := (sender, c) :: r.sent }, (r.sent.lookup sender).isSome)

/-- Set the counters of a sink; the second part tells whether they had been set before. -/
def setReceived (r : Rehearsal) (sink : SinkId) (c : Counters) : Rehearsal × Bool :=
  ({ r with received := (sink, c) :: r.received }, (r.received.lookup sink).isSome)

/-- Whether an order is refused, and with which fault. -/
def refusal? (r : Rehearsal) : Order → Option Fault
  | .train initiator peer =>
    r.refused.bind fun a => if a = initiator ∨ a = peer then some (.unknownAddress a) else none
  | _ => none

/-- Take orders up to the first that is refused; that one is remembered too. -/
def take (r : Rehearsal) : List Order → Rehearsal × Except Fault Unit
  | [] => (r, .ok ())
  | order :: rest =>
    let r := { r with orders := r.orders.push order }
    match r.refusal? order with
    | some f => (r, .error f)
    | none => r.take rest

/-- Let a handler's orders be taken, and give its answer unless one is refused. -/
def conclude {α : Type} (r : Rehearsal) (h : Handled α) :
    Rehearsal × Experiment × Except Fault α :=
  match r.take h.orders with
  | (r, .error f) => (r, h.experiment, .error f)
  | (r, .ok ()) => (r, h.experiment, h.answer)

end Rehearsal

end DenseDmg
