import DenseDmg.Proofs.Measurement.Course
import Mathlib.Data.List.Nodup

/-!
# Starts and stops alternate

An experiment orders a sender to start when the node of its pair associates, and to stop when the
node loses its association.  `Handlings x₀ cs x` says that the calls of handlers `cs`, the latest
one first, led from `x₀` to `x`, with any events in any order, whichever of the calls failed.

* `Handling.comes`: a call means nothing to the pairs, or it turns the pair of its node on or off.
* `Handling.pairs_of_fault`: a call that fails starts and stops no sender and changes no pair.
* `Pair.Governed`: what the orders for a pair tell about it; kept by calls and by samples.
* `Handlings.starts_and_stops_alternate`: the orders for each pair alternate, beginning with a
  start, and the pair counts the starts and knows whether the last order was one.
-/

namespace DenseDmg

/-! ## Orders to a sender -/

/-- An order that starts or stops a sender. -/
def Order.switches : Order → Bool
  | .startSender _ | .stopSender _ => true
  | .train .. => false

/-- Orders to a sender, the latest one first, that begin with a start and alternate; at the end the
sender is on or off. -/
inductive Alternating (sender : SenderId) : List Order → Bool → Prop
  | off : Alternating sender [] false
  | start {orders : List Order} : Alternating sender orders false →
    Alternating sender (.startSender sender :: orders) true
  | stop {orders : List Order} : Alternating sender orders true →
    Alternating sender (.stopSender sender :: orders) false

/-- There are as many stops as starts, or one less if the sender is on. -/
theorem Alternating.balance {sender : SenderId} {orders : List Order} {on : Bool}
    (alternating : Alternating sender orders on) :
    orders.count (.startSender sender) = orders.count (.stopSender sender) + on.toNat := by
  induction alternating with
  | off => rfl
  | start _ ih =>
    have other : Order.startSender sender ≠ .stopSender sender := nofun
    rw [List.count_cons_self, List.count_cons_of_ne other, ih]
    rfl
  | stop _ ih =>
    have other : Order.stopSender sender ≠ .startSender sender := nofun
    rw [List.count_cons_self, List.count_cons_of_ne other, ih]
    rfl

/-- A sender that is off is started, and one that is on is not started again. -/
theorem Alternating.turnOn {sender : SenderId} {orders : List Order} {on : Bool}
    (alternating : Alternating sender orders on) :
    Alternating sender ((if on then [] else [.startSender sender]) ++ orders) true := by
  cases on with
  | true => exact alternating
  | false => exact alternating.start

/-- A sender that is on is stopped, and one that is off is not stopped again. -/
theorem Alternating.turnOff {sender : SenderId} {orders : List Order} {on : Bool}
    (alternating : Alternating sender orders on) :
    Alternating sender ((if on then [.stopSender sender] else []) ++ orders) false := by
  cases on with
  | true => exact alternating.stop
  | false => exact alternating

/-! ## Failing handlers -/

namespace Experiment

variable {x : Experiment} {now : Time} {f : Fault}

theorem of_onAssociated_error {event : Associated}
    (failed : (x.onAssociated event now).answer = .error f) :
    (x.onAssociated event now).experiment.pairs = x.pairs ∧
      (x.onAssociated event now).orders = [] := by
  have kept := x.pairs_notify event.notice
  unfold onAssociated at failed ⊢
  dsimp only at failed ⊢
  split
  next => exact ⟨kept, rfl⟩
  next ok =>
    rw [if_neg ok] at failed
    split
    next => exact ⟨kept, rfl⟩
    next found => rw [found] at failed; cases failed

theorem of_onDeassociated_error {event : Deassociated}
    (failed : (x.onDeassociated event).answer = .error f) :
    (x.onDeassociated event).experiment.pairs = x.pairs ∧
      (x.onDeassociated event).orders = [] := by
  have kept := x.pairs_notify event.notice
  unfold onDeassociated at failed ⊢
  dsimp only at failed ⊢
  split
  next => exact ⟨kept, rfl⟩
  next ok =>
    rw [if_neg ok] at failed
    split
    next => exact ⟨kept, rfl⟩
    next found => rw [found] at failed; cases failed

/-- All that the handlers of associations order is to start or to stop a sender. -/
theorem switches_onAssociated (x : Experiment) (event : Associated) (now : Time) :
    ∀ order ∈ (x.onAssociated event now).orders, order.switches = true := by
  unfold onAssociated
  dsimp only
  split
  · nofun
  · split
    · nofun
    · intro order mem
      split at mem
      · cases mem
      · rw [List.mem_singleton.1 mem]
        rfl

theorem switches_onDeassociated (x : Experiment) (event : Deassociated) :
    ∀ order ∈ (x.onDeassociated event).orders, order.switches = true := by
  unfold onDeassociated
  dsimp only
  split
  · nofun
  · split
    · nofun
    · intro order mem
      split at mem
      · rw [List.mem_singleton.1 mem]
        rfl
      · cases mem

end Experiment

/-! ## Calls of handlers -/

/-- A call of a handler, with the experiment whose handler it is.  All that the handlers ask of the
network are the trace index and whether it takes part in a training. -/
structure Handling where
  before : Experiment
  event : LinkEvent
  traceIndex : Nat
  now : Time
  /-- The fault with which the network refuses a training, if it does. -/
  refusal? : MacAddress → MacAddress → Option Fault

/-- The node that has associated or lost its association. -/
def LinkEvent.node? : LinkEvent → Option NodeId
  | .associated e => some e.node
  | .deassociated e => some e.node
  | _ => none

namespace Handling

variable {c : Handling}

def outcome (c : Handling) : Handled Unit := c.before.handle c.event c.traceIndex c.now

def after (c : Handling) : Experiment := c.outcome.experiment

/-- The fault with which the network meets an order, if it does. -/
def fault? (c : Handling) : Order → Option Fault
  | .train initiator peer => c.refusal? initiator peer
  | _ => none

/-- What a call returns: the fault of a training that is refused, or else what the handler says. -/
def answer (c : Handling) : Except Fault Unit :=
  match c.outcome.orders.findSome? c.fault? with
  | some f => .error f
  | none => c.outcome.answer

/-- The orders of a call that start or stop a sender. -/
def switches (c : Handling) : List Order := c.outcome.orders.filter Order.switches

/-- Those of them that are issued for the pair of a node. -/
def switchesOf (node : NodeId) (c : Handling) : List Order :=
  if c.event.node? = some node then c.switches else []

/-- Whether a call tells of the association of a node and is handled without a fault. -/
def associates (node : NodeId) (c : Handling) : Bool :=
  match c.event with
  | .associated e => e.node == node && c.answer.isOk
  | _ => false

/-! ### What a call does -/

/-- A call that tells of neither an association nor the loss of one. -/
theorem of_quiet (quiet : c.event.IsQuiet) : c.after.pairs = c.before.pairs ∧ c.switches = [] := by
  refine ⟨c.before.pairs_handle quiet c.traceIndex c.now, ?_⟩
  unfold switches
  rw [List.filter_eq_nil_iff]
  intro order mem
  rcases c.before.orders_handle quiet c.traceIndex c.now order mem with ⟨e, -, rfl⟩
  exact nofun

/-- The network refuses trainings and nothing else. -/
theorem of_switches (all : ∀ order ∈ c.outcome.orders, order.switches = true) :
    c.answer = c.outcome.answer ∧ c.switches = c.outcome.orders := by
  have accepted : c.outcome.orders.findSome? c.fault? = none := by
    rw [List.findSome?_eq_none_iff]
    intro order mem
    have switches := all order mem
    cases order with
    | startSender sender => rfl
    | stopSender sender => rfl
    | train initiator peer => cases switches
  refine ⟨?_, List.filter_eq_self.2 all⟩
  rw [answer, accepted]

/-- An association fails and changes nothing, or it makes the pair of its node active and starts the
sender unless the pair was active before. -/
theorem of_associated {e : Associated} (event : c.event = .associated e) :
    (∃ f, c.answer = .error f ∧ c.after.pairs = c.before.pairs ∧ c.switches = []) ∨
      c.answer = .ok () ∧ ∃ p, c.before.pairs.get? e.node = some p ∧
        c.after.pairs = c.before.pairs.update e.node (fun q => q.activate c.now) ∧
        c.switches = if p.active then [] else [.startSender p.sender] := by
  have outcome : c.outcome = c.before.onAssociated e c.now := by
    rw [Handling.outcome, event]
    rfl
  cases answered : (c.before.onAssociated e c.now).answer with
  | error f =>
    obtain ⟨pairs, orders⟩ := Experiment.of_onAssociated_error answered
    rw [← outcome] at pairs orders answered
    obtain ⟨answer, issued⟩ := of_switches (c := c) (by rw [orders]; exact nofun)
    exact .inl ⟨f, answer.trans answered, pairs, issued.trans orders⟩
  | ok _ =>
    obtain ⟨p, found, pairs, orders⟩ := Experiment.of_onAssociated answered
    rw [← outcome] at pairs orders answered
    obtain ⟨answer, issued⟩ := of_switches (c := c) (by
      rw [orders]
      split <;> simp [Order.switches])
    exact .inr ⟨answer.trans answered, p, found, pairs, issued.trans orders⟩

/-- The loss of an association fails and changes nothing, or it makes the pair of its node idle and
stops the sender if the pair was active before. -/
theorem of_deassociated {e : Deassociated} (event : c.event = .deassociated e) :
    (∃ f, c.answer = .error f ∧ c.after.pairs = c.before.pairs ∧ c.switches = []) ∨
      c.answer = .ok () ∧ ∃ p, c.before.pairs.get? e.node = some p ∧
        c.after.pairs = c.before.pairs.update e.node Pair.deactivate ∧
        c.switches = if p.active then [.stopSender p.sender] else [] := by
  have outcome : c.outcome = c.before.onDeassociated e := by
    rw [Handling.outcome, event]
    rfl
  cases answered : (c.before.onDeassociated e).answer with
  | error f =>
    obtain ⟨pairs, orders⟩ := Experiment.of_onDeassociated_error answered
    rw [← outcome] at pairs orders answered
    obtain ⟨answer, issued⟩ := of_switches (c := c) (by rw [orders]; exact nofun)
    exact .inl ⟨f, answer.trans answered, pairs, issued.trans orders⟩
  | ok _ =>
    obtain ⟨p, found, pairs, orders⟩ := Experiment.of_onDeassociated answered
    rw [← outcome] at pairs orders answered
    obtain ⟨answer, issued⟩ := of_switches (c := c) (by
      rw [orders]
      split <;> simp [Order.switches])
    exact .inr ⟨answer.trans answered, p, found, pairs, issued.trans orders⟩

end Handling

/-! ## One pair -/

/-- What a call makes of the pair `q`: the orders for it, and the pair afterwards. -/
inductive Handling.Turns (c : Handling) (q : Pair) : List Order → Pair → Prop
  | kept : c.associates q.node = false → Turns c q [] q
  | activated : c.associates q.node = true →
    Turns c q (if q.active then [] else [.startSender q.sender]) (q.activate c.now)
  | deactivated : c.associates q.node = false →
    Turns c q (if q.active then [.stopSender q.sender] else []) q.deactivate

namespace PairRegistry

variable {r : PairRegistry}

/-- Among pairs of different nodes, a change of one node's pair changes the one that is found. -/
theorem of_mem_update_of_get? (nodup : r.nodes.Nodup) {node : NodeId} {q : Pair}
    (found : r.get? node = some q) {g : Pair → Pair} {p : Pair}
    (mem : p ∈ (r.update node g).pairs) : p = g q ∨ p ∈ r.pairs ∧ p.node ≠ node := by
  obtain ⟨memq, of_node⟩ := of_get? found
  rcases of_mem_update mem with ⟨p, memp, rfl⟩
  by_cases own : p.node = node
  · obtain rfl : p = q := List.inj_on_of_nodup_map nodup memp memq (own.trans of_node.symm)
    rw [if_pos own]
    exact .inl rfl
  · rw [if_neg own]
    exact .inr ⟨memp, own⟩

/-- A node has one pair at most. -/
theorem Registered.nodup (registered : r.Registered) : r.nodes.Nodup := by
  induction registered with
  | empty => exact List.nodup_nil
  | @register r r' node sender sink source destination column _ accepted ih =>
    unfold PairRegistry.register at accepted
    split at accepted
    next => cases accepted
    next new =>
      cases accepted
      rw [Option.not_isSome_iff_eq_none] at new
      have unused : node ∉ r.nodes := by
        intro mem
        rcases List.mem_map.1 mem with ⟨p, memp, of_node⟩
        exact List.find?_eq_none.1 new p memp (beq_iff_eq.2 of_node)
      rw [nodes, List.map_append]
      exact List.concat_eq_append ▸ ih.concat unused

end PairRegistry

namespace Handling

variable {c : Handling}

theorem associates_eq_true {e : Associated} (event : c.event = .associated e)
    (handled : c.answer = .ok ()) : c.associates e.node = true := by
  rw [associates, event, handled]
  exact Bool.and_eq_true_iff.2 ⟨beq_self_eq_true _, rfl⟩

theorem associates_eq_false {node : NodeId}
    (other : c.event.node? ≠ some node ∨ ∃ f, c.answer = .error f) :
    c.associates node = false := by
  unfold associates
  split
  next e event =>
    rcases other with other | ⟨f, failed⟩
    · have ne : e.node ≠ node := fun same => other (event ▸ congrArg some same)
      rw [beq_false_of_ne ne]
      rfl
    · rw [failed]
      exact Bool.and_false _
  next => rfl

/-- What a call comes to: nothing at all for the pairs, or it turns the pair of its node. -/
inductive Comes (c : Handling) : Prop
  | nothing : c.after.pairs = c.before.pairs → c.switches = [] →
    (∀ node, c.associates node = false) → Comes c
  | turned {p : Pair} {g : Pair → Pair} : c.answer = .ok () → c.event.node? = some p.node →
    c.before.pairs.get? p.node = some p → c.after.pairs = c.before.pairs.update p.node g →
    c.Turns p c.switches (g p) → Comes c

theorem comes (c : Handling) : c.Comes := by
  have quiet (quiet : c.event.IsQuiet) (silent : c.event.node? = none) : c.Comes := by
    obtain ⟨same, none⟩ := of_quiet quiet
    exact .nothing same none fun node => associates_eq_false (.inl (silent ▸ nofun))
  cases event : c.event with
  | associated e =>
    rcases of_associated event with ⟨f, failed, same, none⟩ | ⟨handled, p, found, pairs, orders⟩
    · exact .nothing same none fun node => associates_eq_false (.inr ⟨f, failed⟩)
    · obtain ⟨-, of_node⟩ := PairRegistry.of_get? found
      rw [← of_node] at found pairs
      refine .turned handled (by rw [event, of_node]; rfl) found pairs ?_
      rw [orders]
      exact .activated (of_node ▸ associates_eq_true event handled)
  | deassociated e =>
    rcases of_deassociated event with ⟨f, failed, same, none⟩ | ⟨handled, p, found, pairs, orders⟩
    · exact .nothing same none fun node => associates_eq_false (.inr ⟨f, failed⟩)
    · obtain ⟨-, of_node⟩ := PairRegistry.of_get? found
      rw [← of_node] at found pairs
      refine .turned handled (by rw [event, of_node]; rfl) found pairs ?_
      rw [orders]
      exact .deactivated (by rw [associates, event])
  | trainingCompleted e => exact quiet (event ▸ trivial) (event ▸ rfl)
  | transferStarted e => exact quiet (event ▸ trivial) (event ▸ rfl)
  | frameReceived e => exact quiet (event ▸ trivial) (event ▸ rfl)

/-- A handler that fails orders no start or stop and changes no pair, also where the network refuses
what it has ordered. -/
theorem pairs_of_fault {f : Fault} (failed : c.answer = .error f) :
    c.after.pairs = c.before.pairs ∧ c.switches = [] := by
  cases c.comes with
  | nothing same none => exact ⟨same, none⟩
  | turned handled => cases failed.symm.trans handled

/-- Whatever starts or stops a sender is ordered for a pair. -/
theorem node_of_switches (some_order : c.switches ≠ []) :
    ∃ p ∈ c.before.pairs.pairs, c.event.node? = some p.node := by
  cases c.comes with
  | nothing _ none => exact absurd none some_order
  | turned _ node found => exact ⟨_, (PairRegistry.of_get? found).1, node⟩

/-- A pair after a call is a pair before it, as the call has turned it. -/
theorem turns_of_mem (nodup : c.before.pairs.nodes.Nodup) {p : Pair}
    (mem : p ∈ c.after.pairs.pairs) :
    ∃ q ∈ c.before.pairs.pairs, c.Turns q (c.switchesOf q.node) p := by
  cases c.comes with
  | nothing same none unassociated =>
    -- Also the orders for the pair of the node that the call tells of are none.
    refine ⟨p, same ▸ mem, ?_⟩
    rw [switchesOf, none, ite_self]
    exact .kept (unassociated p.node)
  | @turned q g _ node found pairs turns =>
    rcases PairRegistry.of_mem_update_of_get? nodup found (pairs ▸ mem) with rfl | ⟨memp, ne⟩
    · refine ⟨q, (PairRegistry.of_get? found).1, ?_⟩
      rw [switchesOf, if_pos node]
      exact turns
    · have other : c.event.node? ≠ some p.node := by
        rw [node]
        exact fun same => ne (Option.some.inj same).symm
      refine ⟨p, memp, ?_⟩
      rw [switchesOf, if_neg other]
      exact .kept (associates_eq_false (.inl other))

end Handling

/-- What the calls for a pair tell about it: its orders alternate, and the last one says whether it
is active; it counts the starts; it was started when its node associated most recently. -/
structure Pair.Governed (cs : List Handling) (p : Pair) : Prop where
  alternating : Alternating p.sender (cs.flatMap (Handling.switchesOf p.node)) p.active
  starts : (cs.flatMap (Handling.switchesOf p.node)).count (.startSender p.sender) = p.activations
  startTime : p.startTime = (cs.find? (Handling.associates p.node)).map Handling.now

namespace Pair

variable {cs : List Handling} {c : Handling} {p q : Pair}

/-- Samples do not matter. -/
theorem Governed.of_unmeasured (governed : q.Governed cs) (same : p.unmeasured = q.unmeasured) :
    p.Governed cs := by
  obtain ⟨node, sender, sink, source, destination, active, total, sum, samples, time, times⟩ := p
  obtain ⟨node', sender', sink', source', destination', active', total', sum', samples', time',
    times'⟩ := q
  obtain ⟨rfl, rfl, -, -, -, rfl, -, -, -, rfl, rfl⟩ := Pair.mk.inj same
  exact ⟨governed.alternating, governed.starts, governed.startTime⟩

/-- A call keeps to the alternation. -/
theorem Governed.turn (governed : q.Governed cs) (turns : c.Turns q (c.switchesOf q.node) p) :
    p.Governed (c :: cs) := by
  obtain ⟨alternating, starts, startTime⟩ := governed
  -- What the call orders for the pair stands in front of all earlier orders for it.
  generalize orders : c.switchesOf q.node = issued at turns
  have flatMap : (c :: cs).flatMap (Handling.switchesOf q.node) =
      issued ++ cs.flatMap (Handling.switchesOf q.node) := by
    rw [List.flatMap_cons, orders]
  cases turns with
  | kept unassociated =>
    refine ⟨flatMap ▸ alternating, flatMap ▸ starts, ?_⟩
    rw [List.find?_cons, unassociated]
    exact startTime
  | activated associated =>
    refine ⟨flatMap ▸ alternating.turnOn, ?_, ?_⟩
    · show ((c :: cs).flatMap (Handling.switchesOf q.node)).count (.startSender q.sender) = _
      rw [flatMap, List.count_append, starts]
      unfold activate
      split
      · exact Nat.zero_add _
      · rw [List.count_singleton_self, Nat.add_comm]
    · show some c.now = ((c :: cs).find? (Handling.associates q.node)).map Handling.now
      rw [List.find?_cons, associated]
      rfl
  | deactivated unassociated =>
    refine ⟨flatMap ▸ alternating.turnOff, ?_, ?_⟩
    · show ((c :: cs).flatMap (Handling.switchesOf q.node)).count (.startSender q.sender) = _
      rw [flatMap, List.count_append, starts]
      have other : Order.stopSender q.sender ≠ .startSender q.sender := nofun
      split
      · rw [List.count_cons_of_ne other]
        exact Nat.zero_add _
      · exact Nat.zero_add _
    · show q.startTime = ((c :: cs).find? (Handling.associates q.node)).map Handling.now
      rw [List.find?_cons, unassociated]
      exact startTime

end Pair

/-- Before the first call there are no orders. -/
theorem PairRegistry.Registered.governed {r : PairRegistry} (registered : r.Registered) :
    ∀ p ∈ r.pairs, p.Governed [] := by
  intro p mem
  rw [← registered.setup_eq p mem]
  exact ⟨.off, rfl, rfl⟩

/-! ## Sequences of calls -/

/-- `Handlings x₀ cs x`: the calls `cs`, the latest one first, lead from `x₀` to `x`, whichever of
them failed.  Samples may be taken in between, with or without success. -/
inductive Handlings (x₀ : Experiment) : List Handling → Experiment → Prop
  | start : Handlings x₀ [] x₀
  | call {cs : List Handling} {c : Handling} : Handlings x₀ cs c.before →
    Handlings x₀ (c :: cs) c.after
  | sample {cs : List Handling} {x : Experiment} (now : Time) (received : SinkId → Nat) :
    Handlings x₀ cs x → Handlings x₀ cs (x.sample now received).1

namespace Handlings

variable {x₀ x : Experiment} {cs : List Handling}

theorem setup_eq (calls : Handlings x₀ cs x) : x.setup = x₀.setup := by
  induction calls with
  | start => rfl
  | @call _ c _ ih => exact (c.before.setup_handle c.event c.traceIndex c.now).trans ih
  | @sample _ x now received _ ih => exact (x.setup_sample now received).trans ih

/-- Nodes are registered before the first call. -/
theorem nodes_eq (calls : Handlings x₀ cs x) : x.pairs.nodes = x₀.pairs.nodes := by
  rw [← x.pairs.nodes_setup, ← x₀.pairs.nodes_setup]
  exact congrArg (fun x : Experiment => x.pairs.nodes) calls.setup_eq

theorem governed (calls : Handlings x₀ cs x) (nodup : x₀.pairs.nodes.Nodup)
    (fresh : ∀ p ∈ x₀.pairs.pairs, p.Governed []) : ∀ p ∈ x.pairs.pairs, p.Governed cs := by
  induction calls with
  | start => exact fresh
  | @call _ c calls ih =>
    intro p mem
    rcases c.turns_of_mem (calls.nodes_eq ▸ nodup) mem with ⟨q, memq, turns⟩
    exact (ih q memq).turn turns
  | @sample _ x now received _ ih =>
    intro p mem
    have mem' := List.mem_map_of_mem (f := Pair.unmeasured) mem
    rw [x.unmeasured_sample now received] at mem'
    rcases List.mem_map.1 mem' with ⟨q, memq, same⟩
    exact (ih q memq).of_unmeasured same.symm

/-- Every call has an experiment before it that the earlier calls led to. -/
theorem of_mem (calls : Handlings x₀ cs x) :
    ∀ c ∈ cs, ∃ earlier, Handlings x₀ earlier c.before := by
  induction calls with
  | start =>
    intro c mem
    cases mem
  | @call cs c calls ih =>
    intro c' mem
    rcases List.mem_cons.1 mem with same | mem
    · exact ⟨cs, same ▸ calls⟩
    · exact ih c' mem
  | sample _ _ _ ih => exact ih

/-- Starts and stops alternate.  Whatever is called, in whichever order and with whichever failures:
the orders for each pair alternate, beginning with a start; the pair counts the starts, of which
there is one more than of stops if it is active and as many if it is idle; its start time is that of
the most recent association of its node that was handled without a fault.  No other orders to start
or stop are given, and a call that fails gives none and changes no pair. -/
theorem starts_and_stops_alternate {config : ExperimentConfig} {addresses : AddressBook}
    {registry : PairRegistry} {outputs : Outputs} (registered : registry.Registered)
    (begun : Experiment.start config addresses registry outputs = .ok x₀)
    (calls : Handlings x₀ cs x) :
    (∀ p ∈ x.pairs.pairs,
      let orders := cs.flatMap (Handling.switchesOf p.node)
      Alternating p.sender orders p.active ∧
        orders.count (.startSender p.sender) = p.activations ∧
        orders.count (.startSender p.sender) =
          orders.count (.stopSender p.sender) + (if p.active then 1 else 0) ∧
        p.startTime = (cs.find? (Handling.associates p.node)).map Handling.now) ∧
      ∀ c ∈ cs, (c.switches ≠ [] → ∃ p ∈ x.pairs.pairs, c.event.node? = some p.node) ∧
        ∀ f, c.answer = .error f → c.after.pairs = c.before.pairs ∧ c.switches = [] := by
  obtain ⟨-, -, pairs, -⟩ := Experiment.of_start begun
  constructor
  · intro p mem
    have governed := calls.governed (pairs ▸ registered.nodup) (pairs ▸ registered.governed) p mem
    refine ⟨governed.alternating, governed.starts, ?_, governed.startTime⟩
    rw [governed.alternating.balance]
    cases p.active <;> rfl
  · intro c mem
    rcases calls.of_mem c mem with ⟨earlier, before⟩
    refine ⟨fun some_order => ?_, fun f failed => c.pairs_of_fault failed⟩
    rcases c.node_of_switches some_order with ⟨p, memp, node⟩
    have known : p.node ∈ x.pairs.nodes := by
      rw [calls.nodes_eq, ← before.nodes_eq]
      exact List.mem_map_of_mem memp
    rcases List.mem_map.1 known with ⟨q, memq, same⟩
    exact ⟨q, memq, same ▸ node⟩

/-! ### A station that comes and goes -/

/-- Handlers are called with link events, the latest one first, by a network that trains whatever
it is asked to. -/
def ofEvents (x₀ : Experiment) : List (LinkEvent × Time) → List Handling × Experiment
  | [] => ([], x₀)
  | (event, now) :: earlier =>
    let (cs, x) := ofEvents x₀ earlier
    let c : Handling := ⟨x, event, 0, now, fun _ _ => none⟩
    (c :: cs, c.after)

theorem handlings_ofEvents (x₀ : Experiment) (events : List (LinkEvent × Time)) :
    Handlings x₀ (ofEvents x₀ events).1 (ofEvents x₀ events).2 := by
  induction events with
  | nil => exact .start
  | cons event earlier ih => exact ih.call

/-- A console on which the fifth operation fails: that is the third notice after a header of two
lines. -/
def console : Stream := { Stream.fresh "console" with fails := fun n => n == 4 }

/-- Node 1 associates twice and loses its association twice, where the console fails first; node 7,
which sends no traffic, associates; and node 1 associates again. -/
def comings : List (LinkEvent × Time) :=
  [(.associated ⟨1, .allocate 2, .allocate 1, 3⟩, .ofSecs 5),
    (.deassociated ⟨1, .allocate 2, .allocate 1⟩, .ofSecs 4),
    (.associated ⟨7, .allocate 8, .allocate 1, 2⟩, .ofSecs 3),
    (.deassociated ⟨1, .allocate 2, .allocate 1⟩, .ofSecs 2),
    (.associated ⟨1, .allocate 2, .allocate 1, 1⟩, .ofSecs 1),
    (.associated ⟨1, .allocate 2, .allocate 1, 1⟩, .ofSecs 0)]

/-- An experiment for the pair of node 1 that writes to that console. -/
def started : Experiment where
  config := ⟨10, false, true, .ofMillis 100⟩
  addresses := ⟨[]⟩
  pairs := Course.onePair
  sampler := ⟨.ofMillis 100, 0⟩
  trigger := .ofThreshold 10
  outputs := ⟨(console.writeLines (tableHeader 1)).1, (Stream.discard.writeLine trainingHeader).1,
    (Stream.discard.writeLine qualityHeader).1⟩
  history := #[]

/-- Two of the calls fail, and the sender of node 1 is started, stopped and started again. -/
theorem starts_and_stops_alternate_comings :
    let (cs, x) := ofEvents started comings
    cs.map (fun c => c.answer.isOk) = [true, true, false, false, true, true] ∧
      ∃ p, x.pairs.pairs = [p] ∧ cs.flatMap (Handling.switchesOf p.node) =
          [.startSender p.sender, .stopSender p.sender, .startSender p.sender] ∧
        p.active = true ∧ p.activations = 2 ∧ p.startTime = some (.ofSecs 5) := by
  have begun : Experiment.start ⟨10, false, true, .ofMillis 100⟩ ⟨[]⟩ Course.onePair
      ⟨console, .discard, .discard⟩ = .ok started := rfl
  obtain ⟨of_pairs, -⟩ :=
    starts_and_stops_alternate Course.registered_onePair begun (handlings_ofEvents started comings)
  have pairs : (ofEvents started comings).2.pairs.pairs = [_] := rfl
  obtain ⟨-, starts, -, startTime⟩ := of_pairs _ (pairs ▸ List.mem_singleton_self _)
  exact ⟨rfl, _, rfl, rfl, rfl, starts.symm, startTime⟩

end Handlings

end DenseDmg
