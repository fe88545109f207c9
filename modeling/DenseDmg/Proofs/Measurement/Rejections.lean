import DenseDmg.Proofs.Measurement.Alternation
import DenseDmg.Proofs.Measurement.Retraining
import DenseDmg.Proofs.Measurement.Sampling
import DenseDmg.Proofs.Scene.Reports

/-!
# What rejected calls leave behind

A handler or a sample may be rejected although no stream fails: a node has no pair, an address is
not registered, a training is refused, a receive counter has shrunk.  Such a fault ends a run, and
what was done before it is not taken back.

* `Handling.rejected`, `Experiment.of_sample_error`: how calls are rejected, and what is left then.
* `Halfway.rejected_calls_disturb`: that is not always what was there before.
* `rejected_calls_spare`: what a rejected call leaves alone.
-/

namespace DenseDmg

/-! ## Handlers -/

namespace Experiment

variable {x : Experiment} {now : Time} {f : Fault}

/-- An association that is rejected has got no further than to its notice. -/
theorem onAssociated_eq_of_error (reliable : x.outputs.Reliable) {event : Associated}
    (failed : (x.onAssociated event now).answer = .error f) :
    x.onAssociated event now = ⟨(x.notify event.notice).1, [], .error f⟩ ∧
      x.pairs.get? event.node = none ∧ f = .missingTraffic event.node := by
  have told := notify_of_reliable reliable event.notice
  have kept := x.pairs_notify event.notice
  unfold onAssociated PairRegistry.get at failed ⊢
  dsimp only at failed ⊢
  rw [told, kept] at failed ⊢
  cases found : x.pairs.get? event.node with
  | none =>
    rw [found] at failed
    cases failed
    exact ⟨rfl, rfl, rfl⟩
  | some p =>
    rw [found] at failed
    cases failed

/-- The loss of an association that is rejected has got no further than to its notice. -/
theorem onDeassociated_eq_of_error (reliable : x.outputs.Reliable) {event : Deassociated}
    (failed : (x.onDeassociated event).answer = .error f) :
    x.onDeassociated event = ⟨(x.notify event.notice).1, [], .error f⟩ ∧
      x.pairs.get? event.node = none ∧ f = .missingTraffic event.node := by
  have told := notify_of_reliable reliable event.notice
  have kept := x.pairs_notify event.notice
  unfold onDeassociated PairRegistry.get at failed ⊢
  dsimp only at failed ⊢
  rw [told, kept] at failed ⊢
  cases found : x.pairs.get? event.node with
  | none =>
    rw [found] at failed
    cases failed
    exact ⟨rfl, rfl, rfl⟩
  | some p =>
    rw [found] at failed
    cases failed

/-- A training is rejected before anything of it is written. -/
theorem onTrainingCompleted_eq_of_error (reliable : x.outputs.Reliable)
    {event : TrainingCompleted} {traceIndex : Nat}
    (failed : (x.onTrainingCompleted event traceIndex now).answer = .error f) :
    x.onTrainingCompleted event traceIndex now = ⟨x, [], .error f⟩ := by
  unfold onTrainingCompleted at failed ⊢
  cases known : x.trainingRecord event traceIndex now with
  | error f' =>
    rw [known] at failed
    cases failed
    rfl
  | ok record =>
    obtain ⟨logged, -, reliable'⟩ := logTraining_of_reliable reliable record
    have told := notify_of_reliable reliable' event.notice
    rw [known] at failed
    dsimp only at failed
    rw [logged, told] at failed
    cases failed

/-- No frame is rejected. -/
theorem onFrameReceived_ne_error (reliable : x.outputs.Reliable) (event : FrameReceived) :
    (x.onFrameReceived event now).answer ≠ .error f := by
  unfold onFrameReceived logQuality
  dsimp only
  split
  · nofun
  · rw [reliable.quality.writeLine]
    nofun

end Experiment

/-- The notice of an event that is written before the event is looked into. -/
def LinkEvent.notice? : LinkEvent → Option String
  | .associated e => some e.notice
  | .deassociated e => some e.notice
  | _ => none

/-- A training that is due has been counted, for its station and altogether. -/
theorem RetrainingTrigger.of_due {t : RetrainingTrigger} {event : TransferStarted}
    (due : (t.onTransferStarted event).2 = true) :
    (t.onTransferStarted event).1.count event.address = 0 ∧
      (t.onTransferStarted event).1.fired = t.fired + 1 := by
  have fired := t.fired_onTransferStarted event
  rw [due, if_pos rfl] at fired
  refine ⟨?_, fired⟩
  unfold onTransferStarted at due ⊢
  split at due
  · cases due
  next associated =>
    rw [if_neg associated]
    dsimp only at due ⊢
    split at due
    · cases due
    next reached =>
      rw [if_neg reached]
      exact (t.count_setCount event.address event.address 0).trans (if_pos rfl)

namespace Handling

variable {c : Handling}

/-- How a handler is rejected where no stream fails, and what it leaves. -/
inductive Rejected (c : Handling) : Fault → Prop
  /-- A node without a pair associates or loses its association: its notice may be written. -/
  | apart {node : NodeId} {notice : String} : c.event.node? = some node →
    c.event.notice? = some notice → c.before.pairs.get? node = none →
    c.after = (c.before.notify notice).1 → c.outcome.orders = [] → Rejected c (.missingTraffic node)
  /-- A training names an address that is not registered. -/
  | unresolved {e : TrainingCompleted} {f : Fault} : c.event = .trainingCompleted e →
    c.after = c.before → c.outcome.orders = [] → Rejected c f
  /-- The network refuses a training that was due and has been counted. -/
  | refused {e : TransferStarted} {f : Fault} : c.event = .transferStarted e →
    (c.before.trigger.onTransferStarted e).2 = true →
    c.after = { c.before with trigger := (c.before.trigger.onTransferStarted e).1 } →
    c.outcome.orders = [.train e.address e.bssid] → c.refusal? e.address e.bssid = some f →
    Rejected c f

theorem error_of_ignore {α : Type} {h : Handled α} {f : Fault}
    (failed : h.ignore.answer = .error f) : h.answer = .error f := by
  unfold Handled.ignore at failed
  cases answer : h.answer with
  | error g =>
    rw [answer] at failed
    cases failed
    rfl
  | ok a =>
    rw [answer] at failed
    cases failed

theorem rejected {f : Fault} (reliable : c.before.outputs.Reliable) (failed : c.answer = .error f) :
    c.Rejected f := by
  cases event : c.event with
  | associated e =>
    have outcome : c.outcome = c.before.onAssociated e c.now := by rw [Handling.outcome, event]; rfl
    rw [(of_switches (outcome ▸ c.before.switches_onAssociated e c.now)).1, outcome] at failed
    obtain ⟨same, unknown, rfl⟩ := Experiment.onAssociated_eq_of_error reliable failed
    rw [← outcome] at same
    exact .apart (event ▸ rfl) (event ▸ rfl) unknown (congrArg Handled.experiment same)
      (congrArg Handled.orders same)
  | deassociated e =>
    have outcome : c.outcome = c.before.onDeassociated e := by rw [Handling.outcome, event]; rfl
    rw [(of_switches (outcome ▸ c.before.switches_onDeassociated e)).1, outcome] at failed
    obtain ⟨same, unknown, rfl⟩ := Experiment.onDeassociated_eq_of_error reliable failed
    rw [← outcome] at same
    exact .apart (event ▸ rfl) (event ▸ rfl) unknown (congrArg Handled.experiment same)
      (congrArg Handled.orders same)
  | trainingCompleted e =>
    have outcome : c.outcome = (c.before.onTrainingCompleted e c.traceIndex c.now).ignore := by
      rw [Handling.outcome, event]; rfl
    have orders : c.outcome.orders = [] := by
      rw [outcome]
      exact c.before.orders_onTrainingCompleted e c.traceIndex c.now
    rw [(of_switches (orders ▸ List.forall_mem_nil _)).1, outcome] at failed
    have same := Experiment.onTrainingCompleted_eq_of_error reliable (error_of_ignore failed)
    refine .unresolved event ?_ orders
    rw [after, outcome, Handled.ignore, same]
  | transferStarted e =>
    have outcome : c.outcome = (c.before.onTransferStarted e).ignore := by
      rw [Handling.outcome, event]; rfl
    have orders : c.outcome.orders =
        if (c.before.trigger.onTransferStarted e).2 then [.train e.address e.bssid] else [] := by
      rw [outcome]
      rfl
    have after : c.after =
        { c.before with trigger := (c.before.trigger.onTransferStarted e).1 } := by
      rw [after, outcome]
      rfl
    -- The handler itself does not fail.
    cases due : (c.before.trigger.onTransferStarted e).2 with
    | false =>
      rw [due, if_neg Bool.false_ne_true] at orders
      rw [(of_switches (orders ▸ List.forall_mem_nil _)).1, outcome] at failed
      cases failed
    | true =>
      rw [due, if_pos rfl] at orders
      refine .refused event due after orders ?_
      cases refused : c.refusal? e.address e.bssid with
      | some g =>
        rw [answer, orders, List.findSome?_singleton, fault?, refused] at failed
        cases failed
        rfl
      | none =>
        rw [answer, orders, List.findSome?_singleton, fault?, refused, outcome] at failed
        cases failed
  | frameReceived e =>
    have outcome : c.outcome = (c.before.onFrameReceived e c.now).ignore := by
      rw [Handling.outcome, event]; rfl
    have orders : c.outcome.orders = [] := by
      rw [outcome]
      exact c.before.orders_onFrameReceived e c.now
    rw [(of_switches (orders ▸ List.forall_mem_nil _)).1, outcome] at failed
    exact absurd (error_of_ignore failed) (Experiment.onFrameReceived_ne_error reliable e)

/-- What a training leaves that was due and is refused: it has been counted as if it had not been
refused, and nothing else has changed. -/
structure CountsRefused (c : Handling) (e : TransferStarted) : Prop where
  orders : c.outcome.orders = [.train e.address e.bssid]
  count : c.after.trigger.count e.address = 0
  others : ∀ address, address ≠ e.address →
    c.after.trigger.count address = c.before.trigger.count address
  fired : c.after.trigger.fired = c.before.trigger.fired + 1
  threshold : c.after.trigger.threshold = c.before.trigger.threshold
  rest : c.after = { c.before with trigger := c.after.trigger }

/-- What a rejected handler leaves. -/
structure Spares (c : Handling) : Prop where
  /-- No sender is started or stopped. -/
  switches : c.switches = []
  pairs : c.after.pairs = c.before.pairs
  sampler : c.after.sampler = c.before.sampler
  trainings : c.after.outputs.training = c.before.outputs.training
  qualities : c.after.outputs.quality = c.before.outputs.quality
  /-- Nothing is counted but intervals. -/
  trigger : (∀ e, c.event ≠ .transferStarted e) → c.after.trigger = c.before.trigger
  counted : ∀ e, c.event = .transferStarted e → c.CountsRefused e
  /-- An association or its loss leaves everything, in a run for people up to its notice: whether
  that is written first is left open. -/
  announced : ∀ notice, c.event.notice? = some notice →
    c.after = c.before ∨
      c.before.config.csv = false ∧ c.after = (c.before.writeConsole notice).1
  /-- A training that is not logged leaves everything. -/
  unlogged : ∀ e, c.event = .trainingCompleted e → c.after = c.before
  /-- No frame is rejected. -/
  received : ∀ e, c.event ≠ .frameReceived e

namespace Rejected

variable {f : Fault}

theorem switches (rejected : c.Rejected f) : c.switches = [] := by
  unfold Handling.switches
  cases rejected with
  | apart _ _ _ _ orders => rw [orders, List.filter_nil]
  | unresolved _ _ orders => rw [orders, List.filter_nil]
  | refused _ _ _ orders _ =>
    rw [orders]
    rfl

/-- A rejected handler has touched nothing but the console and the counts. -/
theorem frame (rejected : c.Rejected f) :
    c.after = { c.before with
      outputs := { c.before.outputs with console := c.after.outputs.console }
      trigger := c.after.trigger } := by
  cases rejected with
  | apart _ _ _ after _ =>
    rw [after]
    unfold Experiment.notify
    split <;> rfl
  | unresolved _ same _ => rw [same]
  | refused _ _ after _ _ => rw [after]

theorem trigger (rejected : c.Rejected f) (other : ∀ e, c.event ≠ .transferStarted e) :
    c.after.trigger = c.before.trigger := by
  cases rejected with
  | apart _ _ _ after _ => rw [after, Experiment.trigger_notify]
  | unresolved _ same _ => rw [same]
  | refused event _ _ _ _ => exact absurd event (other _)

/-- A training that is refused has been counted for its station and altogether. -/
theorem counted (rejected : c.Rejected f) {e : TransferStarted}
    (event : c.event = .transferStarted e) : c.CountsRefused e := by
  cases rejected with
  | apart _ written _ _ _ =>
    rw [event] at written
    cases written
  | unresolved event' _ _ => cases event.symm.trans event'
  | refused event' due after orders _ =>
    cases event.symm.trans event'
    obtain ⟨count, fired⟩ := RetrainingTrigger.of_due due
    have trigger : c.after.trigger = (c.before.trigger.onTransferStarted e).1 := by rw [after]
    refine ⟨orders, ?_, fun address other => ?_, ?_, ?_, ?_⟩
    · rw [trigger, count]
    · rw [trigger, RetrainingTrigger.count_onTransferStarted_of_ne other]
    · rw [trigger, fired]
    · rw [trigger, RetrainingTrigger.threshold_onTransferStarted]
    · rw [trigger, after]

theorem announced (rejected : c.Rejected f) {notice : String}
    (written : c.event.notice? = some notice) :
    c.after = c.before ∨
      c.before.config.csv = false ∧ c.after = (c.before.writeConsole notice).1 := by
  cases rejected with
  | apart _ written' _ after _ =>
    cases written.symm.trans written'
    rw [after, Experiment.notify]
    cases c.before.config.csv with
    | true => exact .inl rfl
    | false => exact .inr ⟨rfl, rfl⟩
  | unresolved _ same _ => exact .inl same
  | refused event _ _ _ _ =>
    rw [event] at written
    cases written

theorem unlogged (rejected : c.Rejected f) {e : TrainingCompleted}
    (event : c.event = .trainingCompleted e) : c.after = c.before := by
  cases rejected with
  | apart _ written _ _ _ =>
    rw [event] at written
    cases written
  | unresolved _ same _ => exact same
  | refused event' _ _ _ _ => cases event.symm.trans event'

theorem event_ne (rejected : c.Rejected f) (e : FrameReceived) : c.event ≠ .frameReceived e := by
  intro event
  cases rejected with
  | apart _ written _ _ _ =>
    rw [event] at written
    cases written
  | unresolved event' _ _ => cases event.symm.trans event'
  | refused event' _ _ _ _ => cases event.symm.trans event'

theorem spares (rejected : c.Rejected f) : c.Spares where
  switches := rejected.switches
  pairs := by rw [rejected.frame]
  sampler := by rw [rejected.frame]
  trainings := by rw [rejected.frame]
  qualities := by rw [rejected.frame]
  trigger := rejected.trigger
  counted _ event := rejected.counted event
  announced _ written := rejected.announced written
  unlogged _ event := rejected.unlogged event
  received := rejected.event_ne

end Rejected

end Handling

/-! ## Samples -/

namespace Experiment

variable {x : Experiment} {now : Time} {received : SinkId → Nat} {f : Fault}

/-- What a rejected sample leaves alone: all but the pairs in front of the first receive counter
that has shrunk, which have been sampled. -/
structure SampleSpares (x : Experiment) (now : Time) (received : SinkId → Nat) (f : Fault) :
    Prop where
  outputs : (x.sample now received).1.outputs = x.outputs
  trigger : (x.sample now received).1.trigger = x.trigger
  sampler : (x.sample now received).1.sampler = x.sampler
  /-- Of no pair anything changes but what is measured. -/
  unmeasured : (x.sample now received).1.pairs.pairs.map Pair.unmeasured =
    x.pairs.pairs.map Pair.unmeasured
  pairs : ∃ column p, Sampling.Regresses ⟨x.sampler, x.pairs, now, received⟩ column p ∧
    f = .counterRegression column p.lastTotal (received p.sink) ∧
    ∀ i q, x.pairs.pairs[i]? = some q → (x.sample now received).1.pairs.pairs[i]? =
      some (if i < column then q.sampled x.sampler.scale received else q)

/-- A sample is rejected when a receive counter has shrunk, before its row is written. -/
theorem of_sample_error (reliable : x.outputs.Reliable)
    (failed : (x.sample now received).2 = .error f) : x.SampleSpares now received f := by
  let c : Sampling := ⟨x.sampler, x.pairs, now, received⟩
  have unmeasured := x.unmeasured_sample now received
  have sampled : (x.sample now received).1 = { x with sampler := c.after, pairs := c.left } ∧
      c.answer = .error f := by
    cases answer : c.answer with
    | error g =>
      have taken : x.sampler.sample now x.pairs received = (c.after, c.left, .error g) :=
        Prod.ext rfl (Prod.ext rfl answer)
      rw [sample, taken] at failed ⊢
      cases failed
      exact ⟨rfl, rfl⟩
    | ok row =>
      have taken : x.sampler.sample now x.pairs received = (c.after, c.left, .ok row) :=
        Prod.ext rfl (Prod.ext rfl answer)
      rw [sample, taken] at failed
      unfold writeConsole at failed
      dsimp only at failed
      rw [reliable.console.writeLine] at failed
      cases failed
  obtain ⟨same, answer⟩ := sampled
  obtain ⟨-, -, row, succeeded, -⟩ | ⟨p, rest, spared, after, regressed⟩ := c.answer_eq
  · cases answer.symm.trans succeeded
  · have regresses := Sampling.regresses_of_spared spared
    rw [answer] at regressed
    cases regressed
    refine ⟨by rw [same], by rw [same], by rw [same, after], unmeasured, _, p, regresses, rfl, ?_⟩
    intro i q at_i
    rw [same]
    rcases c.getElem?_left at_i with ⟨before, -, sampled⟩ | ⟨behind, -, kept⟩
    · rw [if_pos before]
      exact sampled
    · rw [if_neg (Nat.not_lt.2 behind)]
      exact kept

end Experiment

/-! ## What rejected calls disturb -/

/-- Nothing has been written, and of the pairs, the counts and the rows nothing has changed. -/
structure Experiment.Undisturbed (x x' : Experiment) : Prop where
  console : x'.outputs.console.lines = x.outputs.console.lines
  trainings : x'.outputs.training.lines = x.outputs.training.lines
  qualities : x'.outputs.quality.lines = x.outputs.quality.lines
  pairs : x'.pairs = x.pairs
  counts : ∀ address, x'.trigger.count address = x.trigger.count address
  fired : x'.trigger.fired = x.trigger.fired
  rows : x'.sampler.rows = x.sampler.rows

namespace Halfway

/-- An experiment for the pairs of the nodes 1 and 2 that writes for people and retrains in every
second interval. -/
def started : Experiment where
  config := ⟨2, false, true, .ofMillis 100⟩
  addresses := ⟨[]⟩
  pairs := ⟨[.idle 1 0 0 (.allocate 2) (.allocate 1), .idle 2 1 1 (.allocate 3) (.allocate 1)]⟩
  sampler := ⟨.ofMillis 100, 0⟩
  trigger := .ofThreshold 2
  outputs := ⟨.fresh "console", .fresh "training", .fresh "quality"⟩
  history := #[]

/-- The experiment after a first sample and a first interval of node 1. -/
def measured : Experiment :=
  let x := (started.sample (.ofMillis 100) fun sink => if sink = 0 then 1000 else 2000).1
  (x.onTransferStarted ⟨1, .allocate 2, .allocate 1, true, .ofMillis 90⟩).experiment

/-- Node 7, which has no pair, associates. -/
def stranger : Handling :=
  ⟨measured, .associated ⟨7, .allocate 8, .allocate 1, 1⟩, 0, .ofMillis 200, fun _ _ => none⟩

/-- A training is due in the second interval of node 1, which the network does not know. -/
def unknown : Handling :=
  ⟨measured, .transferStarted ⟨1, .allocate 2, .allocate 1, true, .ofMillis 90⟩, 0, .ofMillis 200,
    fun initiator _ => some (.unknownAddress initiator)⟩

/-- The first counter has grown, and the second one has shrunk. -/
def shrunk : SinkId → Nat := fun sink => if sink = 0 then 3000 else 500

theorem reliable : measured.outputs.Reliable := ⟨fun _ => rfl, fun _ => rfl, fun _ => rfl⟩

theorem answer_stranger : stranger.answer = .error (.missingTraffic 7) := rfl

theorem answer_unknown : unknown.answer = .error (.unknownAddress (.allocate 2)) := rfl

theorem answer_sample :
    (measured.sample (.ofMillis 200) shrunk).2 = .error (.counterRegression 1 2000 500) := rfl

/-- The node without a pair has been announced, the training that was refused has been counted, and
the first pair has been sampled. -/
theorem rejected_calls_disturb : measured.outputs.Reliable ∧
    (stranger.answer = .error (.missingTraffic 7) ∧ ¬ measured.Undisturbed stranger.after) ∧
    (unknown.answer = .error (.unknownAddress (.allocate 2)) ∧
      ¬ measured.Undisturbed unknown.after) ∧
    (measured.sample (.ofMillis 200) shrunk).2 = .error (.counterRegression 1 2000 500) ∧
      ¬ measured.Undisturbed (measured.sample (.ofMillis 200) shrunk).1 := by
  refine ⟨reliable, ⟨answer_stranger, fun same => ?_⟩, ⟨answer_unknown, fun same => ?_⟩,
    answer_sample, fun same => ?_⟩
  · exact absurd same.console (by decide +kernel)
  · exact absurd same.fired (by decide +kernel)
  · have read := congrArg (fun r : PairRegistry => r.pairs.map Pair.lastTotal) same.pairs
    exact absurd read (by decide +kernel)

end Halfway

/-! ## What rejected calls spare -/

/-- A call that is rejected by an experiment whose streams do not fail starts and stops no sender,
changes neither which pairs are active nor since when nor how often they were, and no number of
rows, and writes to neither log.  An association, its loss or a training that is rejected changes
no pair and no count, and nothing is written of it, unless it is the notice of an association or
of its loss, for people.  A training that the network refuses has been counted, and that is all it
changes.  A sample writes nothing and counts nothing; the pairs in front of the receive counter
that has shrunk have been sampled, and the others are left alone. -/
theorem rejected_calls_spare :
    (∀ (c : Handling) (f : Fault), c.before.outputs.Reliable → c.answer = .error f → c.Spares) ∧
      ∀ (x : Experiment) (now : Time) (received : SinkId → Nat) (f : Fault), x.outputs.Reliable →
        (x.sample now received).2 = .error f → x.SampleSpares now received f :=
  ⟨fun _ _ reliable failed => (Handling.rejected reliable failed).spares,
    fun _ _ _ _ reliable failed => Experiment.of_sample_error reliable failed⟩

theorem rejected_calls_spare_halfway : Halfway.measured.outputs.Reliable ∧
    (Halfway.stranger.answer = .error (.missingTraffic 7) ∧ Halfway.stranger.Spares) ∧
    (Halfway.unknown.answer = .error (.unknownAddress (.allocate 2)) ∧ Halfway.unknown.Spares) ∧
    (Halfway.measured.sample (.ofMillis 200) Halfway.shrunk).2 =
      .error (.counterRegression 1 2000 500) ∧
    Halfway.measured.SampleSpares (.ofMillis 200) Halfway.shrunk
      (.counterRegression 1 2000 500) := by
  obtain ⟨handlers, samples⟩ := rejected_calls_spare
  exact ⟨Halfway.reliable,
    ⟨Halfway.answer_stranger, handlers _ _ Halfway.reliable Halfway.answer_stranger⟩,
    ⟨Halfway.answer_unknown, handlers _ _ Halfway.reliable Halfway.answer_unknown⟩,
    Halfway.answer_sample, samples _ _ _ _ Halfway.reliable Halfway.answer_sample⟩

end DenseDmg
