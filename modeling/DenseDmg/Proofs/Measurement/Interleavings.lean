import DenseDmg.Proofs.Measurement.Alternation
import DenseDmg.Proofs.Measurement.Retraining
import Mathlib.Data.List.Perm.Basic

/-!
# Nodes do not interfere

The stations of a network share one experiment: one registry, one trigger and one count of all
retrainings.  `Successes x₀ cs x` says that the calls of handlers `cs`, the latest one first, led
from `x₀` to `x`, and that all of them succeeded, with events of any kind for any stations in any
order.  What becomes of a station is nevertheless told by the events that name it.

* `Pair.heedAll_filter`, `RetrainingTrigger.handleAll_filter`: a pair and a count heed the events
  that name them and no others.
* `Successes.pairs`, `Successes.switches`, `Successes.trigger`, `Successes.trainings`: what a run
  does is what they do.
* `Successes.interleavings_agree`: runs whose events are the same for a station, and runs that
  differ by an exchange of simultaneous events for different stations.
-/

namespace DenseDmg

/-! ## A pair by itself -/

namespace Pair

variable {p : Pair}

/-- What a pair makes of an event and its time, and what it orders. -/
def heed (p : Pair) : LinkEvent × Time → Pair × List Order
  | (.associated e, now) =>
    if p.node = e.node then (p.activate now, if p.active then [] else [.startSender p.sender])
    else (p, [])
  | (.deassociated e, _) =>
    if p.node = e.node then (p.deactivate, if p.active then [.stopSender p.sender] else [])
    else (p, [])
  | _ => (p, [])

/-- What a pair makes of events, the latest one first, and what it orders, the first order first. -/
def heedAll (p : Pair) : List (LinkEvent × Time) → Pair × List Order
  | [] => (p, [])
  | event :: earlier =>
    (((p.heedAll earlier).1.heed event).1,
      (p.heedAll earlier).2 ++ ((p.heedAll earlier).1.heed event).2)

theorem node_heed (p : Pair) (event : LinkEvent × Time) : (p.heed event).1.node = p.node := by
  unfold heed
  split
  · split <;> rfl
  · split <;> rfl
  · rfl

theorem sender_heed (p : Pair) (event : LinkEvent × Time) : (p.heed event).1.sender = p.sender := by
  unfold heed
  split
  · split <;> rfl
  · split <;> rfl
  · rfl

/-- Events that do not name the node of a pair do not matter to it. -/
theorem heed_of_ne {event : LinkEvent × Time} (other : event.1.node? ≠ some p.node) :
    p.heed event = (p, []) := by
  obtain ⟨event, now⟩ := event
  cases event with
  | associated e =>
    have ne : p.node ≠ e.node := fun same => other (congrArg some same.symm)
    exact if_neg ne
  | deassociated e =>
    have ne : p.node ≠ e.node := fun same => other (congrArg some same.symm)
    exact if_neg ne
  | trainingCompleted e => rfl
  | transferStarted e => rfl
  | frameReceived e => rfl

theorem node_heedAll (p : Pair) (events : List (LinkEvent × Time)) :
    (p.heedAll events).1.node = p.node := by
  induction events with
  | nil => rfl
  | cons event earlier ih => exact (node_heed _ event).trans ih

theorem sender_heedAll (p : Pair) (events : List (LinkEvent × Time)) :
    (p.heedAll events).1.sender = p.sender := by
  induction events with
  | nil => rfl
  | cons event earlier ih => exact (sender_heed _ event).trans ih

end Pair

/-- Whether an event tells that a node has associated or has lost its association. -/
def names (node : NodeId) (event : LinkEvent × Time) : Bool := event.1.node? == some node

/-- A pair heeds the events that name its node and no others. -/
theorem Pair.heedAll_filter (p : Pair) (events : List (LinkEvent × Time)) :
    p.heedAll (events.filter (names p.node)) = p.heedAll events := by
  induction events with
  | nil => rfl
  | cons event earlier ih =>
    by_cases named : event.1.node? = some p.node
    · have kept : names p.node event = true := beq_iff_eq.2 named
      rw [List.filter_cons_of_pos kept, heedAll, heedAll, ih]
    · have unmoved : (p.heedAll earlier).1.heed event = ((p.heedAll earlier).1, []) := by
        apply heed_of_ne
        rwa [node_heedAll]
      rw [List.filter_cons_of_neg (by simpa [names] using named), ih, heedAll, unmoved,
        List.append_nil]

/-! ## A count by itself -/

/-- Whether an interval has begun for the station of an address. -/
def TransferStarted.isFor (address : MacAddress) (e : TransferStarted) : Bool :=
  e.address == address

namespace RetrainingTrigger

variable {t t' : RetrainingTrigger} {address : MacAddress}

/-- Two triggers are at the same point for an address. -/
structure Agree (address : MacAddress) (t t' : RetrainingTrigger) : Prop where
  threshold : t'.threshold = t.threshold
  count : t'.count address = t.count address

/-- The intervals of other stations leave a trigger at the same point. -/
theorem Agree.of_ne {event : TransferStarted} (other : address ≠ event.address) :
    Agree address t (t.onTransferStarted event).1 :=
  ⟨t.threshold_onTransferStarted event, count_onTransferStarted_of_ne other⟩

/-- Triggers at the same point go on to the same point, and agree on what is due. -/
theorem Agree.onTransferStarted {event : TransferStarted} (agree : Agree event.address t t') :
    Agree event.address (t.onTransferStarted event).1 (t'.onTransferStarted event).1 ∧
      (t'.onTransferStarted event).2 = (t.onTransferStarted event).2 := by
  have set (n : Nat) : (t'.setCount event.address n).count event.address =
      (t.setCount event.address n).count event.address := by
    rw [count_setCount, count_setCount, if_pos rfl, if_pos rfl]
  have threshold : (t'.onTransferStarted event).1.threshold =
      (t.onTransferStarted event).1.threshold := by
    rw [threshold_onTransferStarted, threshold_onTransferStarted, agree.threshold]
  suffices same : (t'.onTransferStarted event).1.count event.address =
      (t.onTransferStarted event).1.count event.address ∧
        (t'.onTransferStarted event).2 = (t.onTransferStarted event).2 from
    ⟨⟨threshold, same.1⟩, same.2⟩
  unfold RetrainingTrigger.onTransferStarted
  dsimp only
  rw [agree.count, agree.threshold]
  split
  · exact ⟨agree.count, rfl⟩
  · split
    · exact ⟨set _, rfl⟩
    · exact ⟨set 0, rfl⟩

theorem handleAll_append (t : RetrainingTrigger) (events later : List TransferStarted) :
    t.handleAll (events ++ later) =
      (((t.handleAll events).1.handleAll later).1,
        (t.handleAll events).2 ++ ((t.handleAll events).1.handleAll later).2) := by
  induction events generalizing t with
  | nil => rfl
  | cons event rest ih =>
    simp only [List.cons_append, handleAll, ih]
    cases (t.onTransferStarted event).2 <;> rfl

theorem fired_handleAll (t : RetrainingTrigger) (events : List TransferStarted) :
    (t.handleAll events).1.fired = t.fired + (t.handleAll events).2.length := by
  induction events generalizing t with
  | nil => rfl
  | cons event rest ih =>
    have fired := t.fired_onTransferStarted event
    simp only [handleAll, ih, fired]
    cases (t.onTransferStarted event).2 with
    | false => rfl
    | true =>
      rw [if_pos rfl, if_pos rfl, List.length_cons]
      omega

/-- The count of an address, and the retrainings of it, follow from the intervals of that
address. -/
theorem handleAll_filter (agree : Agree address t t') (events : List TransferStarted) :
    (t'.handleAll (events.filter (TransferStarted.isFor address))).1.count address =
        (t.handleAll events).1.count address ∧
      (t'.handleAll (events.filter (TransferStarted.isFor address))).2 =
        (t.handleAll events).2.filter (TransferStarted.isFor address) := by
  induction events generalizing t t' with
  | nil => exact ⟨agree.count, rfl⟩
  | cons event rest ih =>
    by_cases named : event.address = address
    · subst named
      obtain ⟨next, due⟩ := agree.onTransferStarted
      obtain ⟨count, retrained⟩ := ih next
      have kept : event.isFor event.address = true := beq_self_eq_true _
      rw [List.filter_cons_of_pos kept]
      simp only [handleAll, due]
      refine ⟨count, ?_⟩
      rw [retrained]
      split
      · rw [List.filter_cons_of_pos kept]
      · rfl
    · have unnamed : ¬ event.isFor address = true := by simpa [TransferStarted.isFor] using named
      have next : Agree address (t.onTransferStarted event).1 t' := by
        have moved := Agree.of_ne (t := t) (Ne.symm named)
        exact ⟨agree.threshold.trans moved.threshold.symm, agree.count.trans moved.count.symm⟩
      obtain ⟨count, retrained⟩ := ih next
      rw [List.filter_cons_of_neg unnamed]
      simp only [handleAll]
      refine ⟨count, ?_⟩
      rw [retrained]
      split
      · rw [List.filter_cons_of_neg unnamed]
      · rfl

/-- Intervals that are the same for every address make as many retrainings due. -/
theorem length_handleAll_congr (t : RetrainingTrigger) {events events' : List TransferStarted}
    (same : ∀ address, events'.filter (TransferStarted.isFor address) =
      events.filter (TransferStarted.isFor address)) :
    (t.handleAll events').2.length = (t.handleAll events).2.length := by
  have agree (address : MacAddress) : Agree address t t := ⟨rfl, rfl⟩
  apply List.Perm.length_eq
  apply List.perm_iff_count.2
  intro e
  have named : e.isFor e.address = true := beq_self_eq_true _
  have retrained := (handleAll_filter (agree e.address) events).2
  have retrained' := (handleAll_filter (agree e.address) events').2
  rw [same, retrained] at retrained'
  rw [← List.count_filter (p := TransferStarted.isFor e.address) named, ← retrained',
    List.count_filter named]

end RetrainingTrigger

/-! ## One call -/

/-- The interval of whose start an event tells. -/
def LinkEvent.interval? : LinkEvent → Option TransferStarted
  | .transferStarted e => some e
  | _ => none

/-- Whether an order starts or stops a given sender. -/
def Order.isTo (sender : SenderId) : Order → Bool
  | .startSender s | .stopSender s => s == sender
  | .train .. => false

/-- Whether an order asks for a training of a given station. -/
def Order.trains (address : MacAddress) : Order → Bool
  | .train initiator _ => initiator == address
  | _ => false

/-- The training that is ordered when it is due. -/
def TransferStarted.training (e : TransferStarted) : Order := .train e.address e.bssid

namespace Handling

variable {c : Handling} {p : Pair} {node : NodeId}

def timed (c : Handling) : LinkEvent × Time := (c.event, c.now)

/-- A call that succeeds makes of every pair what the pair makes of its event. -/
theorem pairs_of_ok (handled : c.answer = .ok ()) :
    c.after.pairs.pairs = c.before.pairs.pairs.map fun p => (p.heed c.timed).1 := by
  have quiet (quiet : c.event.IsQuiet) (silent : c.event.node? = none) :
      c.after.pairs.pairs = c.before.pairs.pairs.map fun p => (p.heed c.timed).1 := by
    have unmoved (p : Pair) : (p.heed c.timed).1 = p := by
      rw [Pair.heed_of_ne (show c.timed.1.node? ≠ some p.node from silent ▸ nofun)]
    rw [(of_quiet quiet).1, List.map_congr_left fun p _ => unmoved p, List.map_id']
  cases event : c.event with
  | associated e =>
    rcases of_associated event with ⟨f, failed, -⟩ | ⟨-, q, -, pairs, -⟩
    · cases failed.symm.trans handled
    · rw [pairs, PairRegistry.update]
      apply List.map_congr_left
      intro p _
      rw [timed, event, Pair.heed]
      split <;> rfl
  | deassociated e =>
    rcases of_deassociated event with ⟨f, failed, -⟩ | ⟨-, q, -, pairs, -⟩
    · cases failed.symm.trans handled
    · rw [pairs, PairRegistry.update]
      apply List.map_congr_left
      intro p _
      rw [timed, event, Pair.heed]
      split <;> rfl
  | trainingCompleted e => exact quiet (event ▸ trivial) (event ▸ rfl)
  | transferStarted e => exact quiet (event ▸ trivial) (event ▸ rfl)
  | frameReceived e => exact quiet (event ▸ trivial) (event ▸ rfl)

/-- Pairs that are found for different nodes have different senders. -/
theorem sender_ne {r : PairRegistry} (distinct : (r.pairs.map Pair.sender).Nodup) {q : Pair}
    {other : NodeId} (found : r.get? node = some p) (found' : r.get? other = some q)
    (ne : node ≠ other) : q.sender ≠ p.sender := by
  intro same
  obtain ⟨mem, of_node⟩ := PairRegistry.of_get? found
  obtain ⟨mem', of_node'⟩ := PairRegistry.of_get? found'
  obtain rfl : q = p := List.inj_on_of_nodup_map distinct mem' mem same
  exact ne (of_node.symm.trans of_node')

/-- What a call that succeeds orders of the sender of a pair is what the pair orders. -/
theorem switches_of_ok (handled : c.answer = .ok ())
    (distinct : (c.before.pairs.pairs.map Pair.sender).Nodup)
    (found : c.before.pairs.get? node = some p) :
    c.switches.filter (Order.isTo p.sender) = (p.heed c.timed).2 := by
  obtain ⟨-, of_node⟩ := PairRegistry.of_get? found
  have quiet (quiet : c.event.IsQuiet) (silent : c.event.node? = none) :
      c.switches.filter (Order.isTo p.sender) = (p.heed c.timed).2 := by
    have other : c.timed.1.node? ≠ some p.node := silent ▸ nofun
    rw [(of_quiet quiet).2, Pair.heed_of_ne other]
    rfl
  cases event : c.event with
  | associated e =>
    rcases of_associated event with ⟨f, failed, -⟩ | ⟨-, q, found', -, switches⟩
    · cases failed.symm.trans handled
    · rw [switches, timed, event, Pair.heed]
      by_cases own : p.node = e.node
      · rw [of_node] at own
        cases found.symm.trans (own ▸ found')
        rw [if_pos (of_node.trans own)]
        cases p.active <;> simp [Order.isTo]
      · rw [if_neg own]
        have ne := sender_ne distinct found found' (of_node ▸ own)
        cases q.active <;> simp [Order.isTo, ne]
  | deassociated e =>
    rcases of_deassociated event with ⟨f, failed, -⟩ | ⟨-, q, found', -, switches⟩
    · cases failed.symm.trans handled
    · rw [switches, timed, event, Pair.heed]
      by_cases own : p.node = e.node
      · rw [of_node] at own
        cases found.symm.trans (own ▸ found')
        rw [if_pos (of_node.trans own)]
        cases p.active <;> simp [Order.isTo]
      · rw [if_neg own]
        have ne := sender_ne distinct found found' (of_node ▸ own)
        cases q.active <;> simp [Order.isTo, ne]
  | trainingCompleted e => exact quiet (event ▸ trivial) (event ▸ rfl)
  | transferStarted e => exact quiet (event ▸ trivial) (event ▸ rfl)
  | frameReceived e => exact quiet (event ▸ trivial) (event ▸ rfl)

/-- The trainings that a call orders. -/
def trainings (c : Handling) : List Order := c.outcome.orders.filter fun order => !order.switches

/-- A call counts the interval that its event tells of, and orders the training that is due then. -/
theorem trigger_after (c : Handling) :
    c.after.trigger = (c.before.trigger.handleAll c.event.interval?.toList).1 ∧
      c.trainings =
        (c.before.trigger.handleAll c.event.interval?.toList).2.map TransferStarted.training := by
  have other (uncounted : c.event.IsUncounted) (silent : c.event.interval? = none)
      (none : c.trainings = []) :
      c.after.trigger = (c.before.trigger.handleAll c.event.interval?.toList).1 ∧
        c.trainings =
          (c.before.trigger.handleAll c.event.interval?.toList).2.map
            TransferStarted.training := by
    rw [silent, none]
    exact ⟨c.before.trigger_handle uncounted c.traceIndex c.now, rfl⟩
  have untrained (all : ∀ order ∈ c.outcome.orders, order.switches = true) : c.trainings = [] := by
    rw [trainings, List.filter_eq_nil_iff]
    intro order mem
    rw [all order mem]
    exact Bool.false_ne_true
  cases event : c.event with
  | associated e =>
    rw [← event]
    refine other (event ▸ trivial) (event ▸ rfl) (untrained ?_)
    rw [outcome, event]
    exact c.before.switches_onAssociated e c.now
  | deassociated e =>
    rw [← event]
    refine other (event ▸ trivial) (event ▸ rfl) (untrained ?_)
    rw [outcome, event]
    exact c.before.switches_onDeassociated e
  | trainingCompleted e =>
    rw [← event]
    refine other (event ▸ trivial) (event ▸ rfl) (untrained ?_)
    rw [outcome, event, Experiment.handle, Handled.ignore, Experiment.orders_onTrainingCompleted]
    exact List.forall_mem_nil _
  | transferStarted e =>
    have counted : c.after.trigger = (c.before.trigger.onTransferStarted e).1 := by
      rw [after, outcome, event]
      rfl
    have orders : c.outcome.orders =
        if (c.before.trigger.onTransferStarted e).2 then [e.training] else [] := by
      rw [outcome, event]
      rfl
    rw [counted, trainings, orders]
    refine ⟨rfl, ?_⟩
    simp only [LinkEvent.interval?, Option.toList_some, RetrainingTrigger.handleAll]
    cases (c.before.trigger.onTransferStarted e).2 <;> rfl
  | frameReceived e =>
    rw [← event]
    refine other (event ▸ trivial) (event ▸ rfl) (untrained ?_)
    rw [outcome, event, Experiment.handle, Handled.ignore, Experiment.orders_onFrameReceived]
    exact List.forall_mem_nil _

end Handling

/-! ## Runs of calls -/

/-- `Successes x₀ cs x`: the calls `cs`, the latest one first, lead from `x₀` to `x`, and all of
them succeed. -/
inductive Successes (x₀ : Experiment) : List Handling → Experiment → Prop
  | start : Successes x₀ [] x₀
  | call {cs : List Handling} {c : Handling} : Successes x₀ cs c.before → c.answer = .ok () →
    Successes x₀ (c :: cs) c.after

/-- The intervals of whose start events tell, the earliest one first; of the events, the latest one
stands first. -/
def intervals (events : List (LinkEvent × Time)) : List TransferStarted :=
  events.reverse.filterMap fun event => event.1.interval?

theorem intervals_cons (event : LinkEvent × Time) (earlier : List (LinkEvent × Time)) :
    intervals (event :: earlier) = intervals earlier ++ event.1.interval?.toList := by
  rw [intervals, List.reverse_cons, List.filterMap_append, List.filterMap_cons]
  cases event.1.interval? <;> rfl

/-- The starts and stops of a sender that calls have ordered, the first order first. -/
def switchesTo (sender : SenderId) (cs : List Handling) : List Order :=
  (cs.reverse.flatMap Handling.switches).filter (Order.isTo sender)

theorem switchesTo_cons (sender : SenderId) (c : Handling) (cs : List Handling) :
    switchesTo sender (c :: cs) =
      switchesTo sender cs ++ c.switches.filter (Order.isTo sender) := by
  simp only [switchesTo, List.reverse_cons, List.flatMap_append, List.flatMap_singleton,
    List.filter_append]

/-- The trainings of a station that calls have ordered, the first order first. -/
def trainingsOf (address : MacAddress) (cs : List Handling) : List Order :=
  (cs.reverse.flatMap Handling.trainings).filter (Order.trains address)

namespace Successes

variable {x₀ x x' : Experiment} {cs cs' : List Handling} {node : NodeId} {address : MacAddress}

/-- The pairs after some calls are what they have made of the events themselves. -/
theorem pairs (calls : Successes x₀ cs x) :
    x.pairs.pairs = x₀.pairs.pairs.map fun p => (p.heedAll (cs.map Handling.timed)).1 := by
  induction calls with
  | start => exact (List.map_id' _).symm
  | @call cs c calls handled ih =>
    rw [c.pairs_of_ok handled, ih, List.map_map]
    rfl

theorem get? (calls : Successes x₀ cs x) (node : NodeId) :
    x.pairs.get? node =
      (x₀.pairs.get? node).map fun p => (p.heedAll (cs.map Handling.timed)).1 := by
  have unnamed : (fun p : Pair => p.node == node) ∘
      (fun p : Pair => (p.heedAll (cs.map Handling.timed)).1) = fun p => p.node == node := by
    funext p
    rw [Function.comp_apply, Pair.node_heedAll]
  rw [PairRegistry.get?, calls.pairs, List.find?_map, unnamed]
  rfl

theorem senders (calls : Successes x₀ cs x) :
    x.pairs.pairs.map Pair.sender = x₀.pairs.pairs.map Pair.sender := by
  rw [calls.pairs, List.map_map]
  exact List.map_congr_left fun p _ => p.sender_heedAll _

/-- What calls order of the sender of a pair is what the pair orders. -/
theorem switches (calls : Successes x₀ cs x)
    (distinct : (x₀.pairs.pairs.map Pair.sender).Nodup) {p : Pair}
    (found : x₀.pairs.get? node = some p) :
    switchesTo p.sender cs = (p.heedAll (cs.map Handling.timed)).2 := by
  induction calls with
  | start => rfl
  | @call cs c calls handled ih =>
    have here : c.before.pairs.get? node = some (p.heedAll (cs.map Handling.timed)).1 := by
      rw [calls.get?, found]
      rfl
    have new := c.switches_of_ok handled (calls.senders ▸ distinct) here
    rw [Pair.sender_heedAll] at new
    rw [switchesTo_cons, ih, new]
    rfl

theorem trigger (calls : Successes x₀ cs x) :
    x.trigger = (x₀.trigger.handleAll (intervals (cs.map Handling.timed))).1 := by
  induction calls with
  | start => rfl
  | @call cs c calls handled ih =>
    rw [c.trigger_after.1, ih, List.map_cons, intervals_cons, RetrainingTrigger.handleAll_append]
    rfl

/-- The trainings that calls order are those that are due. -/
theorem trainings (calls : Successes x₀ cs x) :
    cs.reverse.flatMap Handling.trainings =
      (x₀.trigger.handleAll (intervals (cs.map Handling.timed))).2.map
        TransferStarted.training := by
  induction calls with
  | start => rfl
  | @call cs c calls handled ih =>
    rw [List.reverse_cons, List.flatMap_append, List.flatMap_singleton, ih, c.trigger_after.2,
      calls.trigger, List.map_cons, intervals_cons, RetrainingTrigger.handleAll_append,
      List.map_append]
    rfl

end Successes

/-! ## Two runs -/

/-- Whether an event tells of the start of an interval for the station of an address. -/
def tells (address : MacAddress) (event : LinkEvent × Time) : Bool :=
  event.1.interval?.any (TransferStarted.isFor address)

theorem intervals_filter (address : MacAddress) (events : List (LinkEvent × Time)) :
    intervals (events.filter (tells address)) =
      (intervals events).filter (TransferStarted.isFor address) := by
  induction events with
  | nil => rfl
  | cons event earlier ih =>
    rw [intervals_cons, List.filter_append, ← ih]
    cases interval : event.1.interval? with
    | none =>
      have untold : ¬ tells address event = true := by simp [tells, interval]
      rw [List.filter_cons_of_neg untold]
      exact (List.append_nil _).symm
    | some e =>
      by_cases own : e.isFor address = true
      · have told : tells address event = true := by simpa [tells, interval] using own
        rw [List.filter_cons_of_pos told, intervals_cons, interval, Option.toList_some,
          List.filter_cons_of_pos own]
        rfl
      · have untold : ¬ tells address event = true := by simpa [tells, interval] using own
        rw [List.filter_cons_of_neg untold, Option.toList_some, List.filter_cons_of_neg own]
        exact (List.append_nil _).symm

/-- Two events are for different stations: they do not name one node, and do not tell of intervals
for one address. -/
structure LinkEvent.Apart (e₁ e₂ : LinkEvent) : Prop where
  nodes : ∀ node, e₁.node? = some node → e₂.node? ≠ some node
  addresses : ∀ i₁ i₂, e₁.interval? = some i₁ → e₂.interval? = some i₂ → i₁.address ≠ i₂.address

/-- An exchange of neighbours, of which one is left out, does not show. -/
theorem filter_exchange {α : Type} {keep : α → Bool} {a b : α}
    (apart : keep a = true → keep b = false) (later earlier : List α) :
    (later ++ a :: b :: earlier).filter keep = (later ++ b :: a :: earlier).filter keep := by
  rw [List.filter_append, List.filter_append]
  congr 1
  simp only [List.filter_cons]
  cases kept : keep a with
  | false => rfl
  | true => rw [apart kept]; rfl

namespace LinkEvent.Apart

variable {e₁ e₂ : LinkEvent} {t : Time}

theorem names_exchange (apart : e₁.Apart e₂) (node : NodeId)
    (later earlier : List (LinkEvent × Time)) :
    (later ++ (e₁, t) :: (e₂, t) :: earlier).filter (names node) =
      (later ++ (e₂, t) :: (e₁, t) :: earlier).filter (names node) := by
  apply filter_exchange
  intro named
  exact beq_false_of_ne (apart.nodes node (beq_iff_eq.1 named))

theorem tells_exchange (apart : e₁.Apart e₂) (address : MacAddress)
    (later earlier : List (LinkEvent × Time)) :
    (later ++ (e₁, t) :: (e₂, t) :: earlier).filter (tells address) =
      (later ++ (e₂, t) :: (e₁, t) :: earlier).filter (tells address) := by
  apply filter_exchange
  intro told
  obtain ⟨i₁, first, own⟩ := (Option.any_eq_true _ _).1 told
  cases second : e₂.interval? with
  | none => simp [tells, second]
  | some i₂ =>
    have ne := apart.addresses i₁ i₂ first second
    have same : i₁.address = address := beq_iff_eq.1 own
    have other : i₂.isFor address = false := beq_false_of_ne (same ▸ ne.symm)
    simp [tells, second, other]

end LinkEvent.Apart

namespace Successes

variable {x₀ x x' : Experiment} {cs cs' : List Handling} {node : NodeId} {address : MacAddress}

/-- What becomes of the pair of a node, and what is ordered of its sender, is told by the events
that name the node. -/
theorem node_congr (calls : Successes x₀ cs x) (calls' : Successes x₀ cs' x')
    (same : (cs'.map Handling.timed).filter (names node) =
      (cs.map Handling.timed).filter (names node)) :
    x'.pairs.get? node = x.pairs.get? node ∧
      ∀ p, (x₀.pairs.pairs.map Pair.sender).Nodup → x₀.pairs.get? node = some p →
        switchesTo p.sender cs' = switchesTo p.sender cs := by
  have heeded {p : Pair} (found : x₀.pairs.get? node = some p) :
      p.heedAll (cs'.map Handling.timed) = p.heedAll (cs.map Handling.timed) := by
    obtain ⟨-, rfl⟩ := PairRegistry.of_get? found
    rw [← p.heedAll_filter, same, p.heedAll_filter]
  constructor
  · rw [calls.get?, calls'.get?]
    cases found : x₀.pairs.get? node with
    | none => rfl
    | some p => rw [Option.map_some, Option.map_some, heeded found]
  · intro p distinct found
    rw [calls.switches distinct found, calls'.switches distinct found, heeded found]

/-- The count of an address, and the trainings that are ordered for it, are told by the intervals of
that address. -/
theorem address_congr (calls : Successes x₀ cs x) (calls' : Successes x₀ cs' x')
    (same : (cs'.map Handling.timed).filter (tells address) =
      (cs.map Handling.timed).filter (tells address)) :
    x'.trigger.count address = x.trigger.count address ∧
      trainingsOf address cs' = trainingsOf address cs := by
  have agree : RetrainingTrigger.Agree address x₀.trigger x₀.trigger := ⟨rfl, rfl⟩
  have own := congrArg intervals same
  rw [intervals_filter, intervals_filter] at own
  obtain ⟨count, due⟩ := RetrainingTrigger.handleAll_filter agree
    (intervals (cs.map Handling.timed))
  obtain ⟨count', due'⟩ := RetrainingTrigger.handleAll_filter agree
    (intervals (cs'.map Handling.timed))
  rw [own] at count' due'
  have trains (events : List TransferStarted) :
      (events.map TransferStarted.training).filter (Order.trains address) =
        (events.filter (TransferStarted.isFor address)).map TransferStarted.training := by
    rw [List.filter_map]
    rfl
  constructor
  · rw [calls.trigger, calls'.trigger, ← count, ← count']
  · rw [trainingsOf, trainingsOf, calls.trainings, calls'.trainings, trains, trains, ← due, ← due']

/-- Runs in which the events are the same for every node and for every address leave the same
pairs, counts and number of retrainings. -/
theorem congr (calls : Successes x₀ cs x) (calls' : Successes x₀ cs' x')
    (nodes : ∀ node, (cs'.map Handling.timed).filter (names node) =
      (cs.map Handling.timed).filter (names node))
    (addresses : ∀ address, (cs'.map Handling.timed).filter (tells address) =
      (cs.map Handling.timed).filter (tells address)) :
    x'.pairs = x.pairs ∧ (∀ address, x'.trigger.count address = x.trigger.count address) ∧
      x'.trigger.fired = x.trigger.fired := by
  refine ⟨?_, fun address => (calls.address_congr calls' (addresses address)).1, ?_⟩
  · have pairs : x'.pairs.pairs = x.pairs.pairs := by
      rw [calls.pairs, calls'.pairs]
      apply List.map_congr_left
      intro p _
      rw [← p.heedAll_filter, nodes, p.heedAll_filter]
    exact congrArg PairRegistry.mk pairs
  · have own (address : MacAddress) := congrArg intervals (addresses address)
    simp only [intervals_filter] at own
    rw [calls.trigger, calls'.trigger, RetrainingTrigger.fired_handleAll,
      RetrainingTrigger.fired_handleAll, RetrainingTrigger.length_handleAll_congr _ own]

/-- Nodes do not interfere.  In runs of calls that all succeed, from an experiment whose pairs have
different senders, the record of a node's pair and the starts and stops of its sender follow from
the events that name the node, the count of an address and the trainings of its station from the
intervals for that address.  So two runs that differ by an exchange of simultaneous events for
different stations, one next to the other, leave the same pairs, counts and number of
retrainings. -/
theorem interleavings_agree (distinct : (x₀.pairs.pairs.map Pair.sender).Nodup)
    (calls : Successes x₀ cs x) (calls' : Successes x₀ cs' x') :
    (∀ node, (cs'.map Handling.timed).filter (names node) =
        (cs.map Handling.timed).filter (names node) →
      x'.pairs.get? node = x.pairs.get? node ∧
        ∀ p, x₀.pairs.get? node = some p →
          switchesTo p.sender cs' = switchesTo p.sender cs) ∧
    (∀ address, (cs'.map Handling.timed).filter (tells address) =
        (cs.map Handling.timed).filter (tells address) →
      x'.trigger.count address = x.trigger.count address ∧
        trainingsOf address cs' = trainingsOf address cs) ∧
    ∀ later e₁ e₂ t earlier, LinkEvent.Apart e₁ e₂ →
      cs.map Handling.timed = later ++ (e₁, t) :: (e₂, t) :: earlier →
      cs'.map Handling.timed = later ++ (e₂, t) :: (e₁, t) :: earlier →
        x'.pairs = x.pairs ∧ (∀ address, x'.trigger.count address = x.trigger.count address) ∧
          x'.trigger.fired = x.trigger.fired := by
  refine ⟨fun node same => ?_, fun address same => calls.address_congr calls' same, ?_⟩
  · obtain ⟨pair, switches⟩ := calls.node_congr calls' same
    exact ⟨pair, fun p found => switches p distinct found⟩
  · intro later e₁ e₂ t earlier apart events events'
    apply calls.congr calls'
    · intro node
      rw [events, events', apart.names_exchange]
    · intro address
      rw [events, events', apart.tells_exchange]

/-! ### Two stations at once -/

theorem ofEvents (x₀ : Experiment) (events : List (LinkEvent × Time))
    (handled : ∀ c ∈ (Handlings.ofEvents x₀ events).1, c.answer = .ok ()) :
    Successes x₀ (Handlings.ofEvents x₀ events).1 (Handlings.ofEvents x₀ events).2 := by
  induction events with
  | nil => exact .start
  | cons event earlier ih =>
    have before := ih fun c mem => handled c (List.mem_cons_of_mem _ mem)
    exact .call (c := ⟨_, event.1, 0, event.2, fun _ _ => none⟩) before
      (handled _ List.mem_cons_self)

/-- An experiment for the pairs of the nodes 1 and 2 that retrains in every interval. -/
def twins : Experiment where
  config := ⟨1, true, true, .ofMillis 100⟩
  addresses := ⟨[]⟩
  pairs := ⟨[.idle 1 0 0 (.allocate 2) (.allocate 1), .idle 2 1 1 (.allocate 3) (.allocate 1)]⟩
  sampler := ⟨.ofMillis 100, 0⟩
  trigger := .ofThreshold 1
  outputs := ⟨.discard, .discard, .discard⟩
  history := #[]

/-- Node 1 associates, and an interval begins for node 2. -/
def meeting : LinkEvent × LinkEvent :=
  (.associated ⟨1, .allocate 2, .allocate 1, 1⟩,
    .transferStarted ⟨2, .allocate 3, .allocate 1, true, .ofMillis 90⟩)

/-- Both nodes associate, the first one anew in the end; what happens at 2 seconds is told in one
order or the other. -/
def course (first second : LinkEvent) : List (LinkEvent × Time) :=
  [(.associated ⟨1, .allocate 2, .allocate 1, 3⟩, .ofSecs 3)] ++
    (second, .ofSecs 2) :: (first, .ofSecs 2) ::
      [(.associated ⟨2, .allocate 3, .allocate 1, 2⟩, .ofSecs 1)]

theorem interleavings_agree_twins :
    let (cs, x) := Handlings.ofEvents twins (course meeting.2 meeting.1)
    let (cs', x') := Handlings.ofEvents twins (course meeting.1 meeting.2)
    Successes twins cs x ∧ Successes twins cs' x' ∧ x'.pairs = x.pairs ∧
      x'.trigger.fired = x.trigger.fired ∧
      trainingsOf (.allocate 3) cs' = trainingsOf (.allocate 3) cs ∧
      trainingsOf (.allocate 3) cs = [.train (.allocate 3) (.allocate 1)] ∧
      switchesTo 0 cs' = switchesTo 0 cs ∧ switchesTo 0 cs = [.startSender 0] := by
  have calls := ofEvents twins (course meeting.2 meeting.1) (by decide +kernel)
  have calls' := ofEvents twins (course meeting.1 meeting.2) (by decide +kernel)
  have distinct : (twins.pairs.pairs.map Pair.sender).Nodup := by decide
  have apart : LinkEvent.Apart meeting.1 meeting.2 := ⟨fun _ _ => nofun, nofun⟩
  obtain ⟨nodes, addresses, exchanged⟩ := interleavings_agree distinct calls calls'
  obtain ⟨pairs, -, fired⟩ := exchanged [(.associated ⟨1, .allocate 2, .allocate 1, 3⟩, .ofSecs 3)]
    meeting.1 meeting.2 (.ofSecs 2) [(.associated ⟨2, .allocate 3, .allocate 1, 2⟩, .ofSecs 1)]
    apart rfl rfl
  exact ⟨calls, calls', pairs, fired, (addresses (.allocate 3) rfl).2, rfl,
    (nodes 1 rfl).2 _ rfl, rfl⟩

end Successes

end DenseDmg
