import DenseDmg.Measurement.Rehearsal
import DenseDmg.Proofs.Measurement.Registrations
import DenseDmg.Proofs.World.Setup

/-!
# Every so many intervals

A trigger counts the data transfer intervals in which a station is associated and asks for a
training each time the count reaches the threshold.  The count begins anew before the training is
asked for, so that it makes no difference whether the training is refused.

* `RetrainingTrigger.balance_onTransferStarted`: what an interval does to a count.
* `Rehearsal.due_afterTicks`: which intervals ask for a training.
* `Rehearsal.retrains_at_threshold`: counts, orders and the number of retrainings after any intervals.
-/

namespace DenseDmg

/-! ## Counts -/

namespace RetrainingTrigger

variable {t : RetrainingTrigger} {event : TransferStarted}

/-- Setting a count changes the count of that address and no other. -/
theorem count_setCount (t : RetrainingTrigger) (address other : MacAddress) (n : Nat) :
    (t.setCount address n).count other = if other = address then n else t.count other := by
  have found : (t.setCount address n).counts.lookup other =
      if other = address then some n else t.counts.lookup other := by
    rw [← lookup_enter]
    unfold setCount
    split <;> rfl
  unfold count
  rw [found]
  split <;> rfl

theorem fired_setCount (t : RetrainingTrigger) (address : MacAddress) (n : Nat) :
    (t.setCount address n).fired = t.fired := by
  unfold setCount
  split <;> rfl

/-- A threshold that a 16-bit count can reach. -/
structure InRange (t : RetrainingTrigger) : Prop where
  one_le : 1 ≤ t.threshold
  le_max : t.threshold ≤ maxCount

theorem inRange_of_threshold {n : Nat} (word : n ≤ maxCount)
    (threshold : t.threshold = max n 1) : t.InRange := by
  constructor
  · omega
  · unfold maxCount at word ⊢
    omega

/-- Intervals without an association change nothing. -/
theorem onTransferStarted_of_apart (apart : event.associated = false) :
    t.onTransferStarted event = (t, false) := by
  unfold onTransferStarted
  rw [apart]
  rfl

/-- An interval adds one to the number of retrainings if it asks for one. -/
theorem fired_onTransferStarted (t : RetrainingTrigger) (event : TransferStarted) :
    (t.onTransferStarted event).1.fired =
      t.fired + if (t.onTransferStarted event).2 then 1 else 0 := by
  unfold onTransferStarted
  split
  · rfl
  · dsimp only
    split
    · exact t.fired_setCount ..
    · rfl

/-- An interval with an association raises the count of its station, and asks for a retraining
instead when the threshold is reached. -/
theorem onTransferStarted_of_associated (range : t.InRange)
    (associated : event.associated = true) (below : t.count event.address < t.threshold) :
    t.onTransferStarted event =
      if t.count event.address + 1 = t.threshold then
        ({ t.setCount event.address 0 with fired := t.fired + 1 }, true)
      else (t.setCount event.address (t.count event.address + 1), false) := by
  have le := range.le_max
  have small : min (t.count event.address + 1) maxCount = t.count event.address + 1 := by omega
  unfold onTransferStarted
  rw [associated, if_neg (by simp)]
  dsimp only
  rw [small]
  split
  next early => rw [if_neg (Nat.ne_of_lt early)]
  next reached => rw [if_pos (by omega)]

/-- The intervals of other stations do not count. -/
theorem count_onTransferStarted_of_ne {address : MacAddress} (other : address ≠ event.address) :
    (t.onTransferStarted event).1.count address = t.count address := by
  have unset (n : Nat) : (t.setCount event.address n).count address = t.count address := by
    rw [count_setCount, if_neg other]
  unfold onTransferStarted
  split
  · rfl
  · dsimp only
    split
    · exact unset _
    · exact unset 0

/-- A count starts again from zero when it reaches the threshold. -/
theorem count_onTransferStarted (range : t.InRange) (associated : event.associated = true)
    (below : t.count event.address < t.threshold) :
    (t.onTransferStarted event).1.count event.address =
      (t.count event.address + 1) % t.threshold := by
  rw [onTransferStarted_of_associated range associated below]
  split
  next whole =>
    rw [whole, Nat.mod_self]
    exact (t.count_setCount event.address event.address 0).trans (if_pos rfl)
  next part =>
    have early : t.count event.address + 1 < t.threshold := by omega
    rw [count_setCount, if_pos rfl, Nat.mod_eq_of_lt early]

/-- A retraining is due when the count reaches the threshold. -/
theorem due_onTransferStarted (range : t.InRange) (below : t.count event.address < t.threshold) :
    (t.onTransferStarted event).2 = true ↔
      event.associated = true ∧ t.count event.address + 1 = t.threshold := by
  cases associated : event.associated with
  | false => simp [onTransferStarted_of_apart associated]
  | true =>
    rw [onTransferStarted_of_associated range associated below]
    split
    next whole => simp [whole]
    next part => simp [part]

/-- What an interval adds to the count of an address and to the retrainings of it, each of them worth
a threshold, is one if it counts for that address. -/
theorem balance_onTransferStarted (range : t.InRange) {address : MacAddress}
    (below : t.count address < t.threshold) (event : TransferStarted) :
    (t.onTransferStarted event).1.count address < t.threshold ∧
      (t.onTransferStarted event).1.count address +
          t.threshold * (if (t.onTransferStarted event).2 && event.address == address then 1 else 0) =
        t.count address + if event.associated && event.address == address then 1 else 0 := by
  cases associated : event.associated with
  | false => simpa [onTransferStarted_of_apart associated] using below
  | true =>
    by_cases same : event.address = address
    · subst same
      rw [onTransferStarted_of_associated range associated below]
      split
      next whole =>
        have zero := t.count_setCount event.address event.address 0
        rw [if_pos rfl] at zero
        change (t.setCount event.address 0).count event.address < _ ∧
          (t.setCount event.address 0).count event.address + _ = _
        have positive := range.one_le
        rw [zero, beq_self_eq_true, Bool.and_self, if_pos rfl]
        omega
      next part =>
        rw [count_setCount, if_pos rfl, beq_self_eq_true, Bool.false_and, if_neg nofun,
          Bool.and_self, if_pos rfl]
        omega
    · rw [count_onTransferStarted_of_ne (Ne.symm same)]
      simpa [same] using below

/-! ### One interval after the other -/

/-- The trigger after some starts of intervals, and those of them that made a retraining due. -/
def handleAll (t : RetrainingTrigger) :
    List TransferStarted → RetrainingTrigger × List TransferStarted
  | [] => (t, [])
  | event :: rest =>
    let (t, due) := t.onTransferStarted event
    let (t, later) := t.handleAll rest
    (t, if due then event :: later else later)

/-- What intervals add to the count of an address and to the retrainings of it is how many of them
count for that address. -/
theorem balance_handleAll (range : t.InRange) {address : MacAddress}
    (below : t.count address < t.threshold) (events : List TransferStarted) :
    (t.handleAll events).1.count address < t.threshold ∧
      (t.handleAll events).1.count address +
          t.threshold * (t.handleAll events).2.countP (fun e => e.address == address) =
        t.count address + events.countP fun e => e.associated && e.address == address := by
  induction events generalizing t with
  | nil => exact ⟨below, rfl⟩
  | cons event rest ih =>
    obtain ⟨below', first⟩ := balance_onTransferStarted range below event
    have threshold := t.threshold_onTransferStarted event
    rw [← threshold] at below'
    obtain ⟨below'', others⟩ :=
      ih ⟨threshold ▸ range.one_le, threshold ▸ range.le_max⟩ below'
    rw [threshold] at below'' others
    refine ⟨below'', ?_⟩
    have split : ((t.handleAll (event :: rest)).2.countP fun e => e.address == address) =
        (((t.onTransferStarted event).1.handleAll rest).2.countP fun e => e.address == address) +
          if (t.onTransferStarted event).2 && event.address == address then 1 else 0 := by
      rw [handleAll]
      dsimp only
      cases (t.onTransferStarted event).2 with
      | false => rfl
      | true => exact List.countP_cons ..
    rw [split, List.countP_cons, Nat.mul_add]
    change ((t.onTransferStarted event).1.handleAll rest).1.count address + _ = _
    omega

end RetrainingTrigger

/-! ## Other events -/

/-- Link events that are not the start of a data transfer interval. -/
def LinkEvent.IsUncounted : LinkEvent → Prop
  | .transferStarted _ => False
  | _ => True

namespace Experiment

@[simp] theorem trigger_notify (x : Experiment) (notice : String) :
    (x.notify notice).1.trigger = x.trigger := by
  unfold notify
  split <;> rfl

@[simp] theorem trigger_remember (x : Experiment) (record : LogRecord) (ok : Bool) :
    (x.remember record ok).trigger = x.trigger := by
  unfold remember
  split <;> rfl

/-- Only starts of data transfer intervals are counted. -/
theorem trigger_handle (x : Experiment) {event : LinkEvent} (uncounted : event.IsUncounted)
    (traceIndex : Nat) (now : Time) :
    (x.handle event traceIndex now).experiment.trigger = x.trigger := by
  cases event with
  | associated e =>
    unfold handle onAssociated
    dsimp only
    split
    · exact x.trigger_notify _
    · split <;> exact x.trigger_notify _
  | deassociated e =>
    unfold handle onDeassociated
    dsimp only
    split
    · exact x.trigger_notify _
    · split <;> exact x.trigger_notify _
  | trainingCompleted e =>
    unfold handle Handled.ignore onTrainingCompleted
    dsimp only
    split
    · rfl
    · split <;> simp only [logTraining, trigger_notify, trigger_remember]
  | transferStarted e => cases uncounted
  | frameReceived e =>
    unfold handle Handled.ignore onFrameReceived
    dsimp only
    split
    · rfl
    · simp only [logQuality, trigger_remember]

theorem trigger_sample (x : Experiment) (now : Time) (received : SinkId → Nat) :
    (x.sample now received).1.trigger = x.trigger := by
  unfold sample
  split <;> rfl

end Experiment

/-! ## Ticks -/

/-- The start of an interval as it is handed to an experiment, and the address that takes part in
no training at that time. -/
structure Tick where
  event : TransferStarted
  refused : Option MacAddress

/-- Whether a tick counts for an address. -/
def Tick.countsFor (address : MacAddress) (c : Tick) : Bool :=
  c.event.associated && c.event.address == address

/-- How many ticks count for an address. -/
def countedTicks (address : MacAddress) (cs : List Tick) : Nat := cs.countP (Tick.countsFor address)

theorem countedTicks_cons (address : MacAddress) (c : Tick) (cs : List Tick) :
    countedTicks address (c :: cs) =
      countedTicks address cs +
        if c.event.associated = true ∧ address = c.event.address then 1 else 0 := by
  simp only [countedTicks, List.countP_cons, Tick.countsFor, Bool.and_eq_true, beq_iff_eq,
    eq_comm (a := address)]

namespace Rehearsal

/-- Hand a tick to an experiment, and let the training that it may ask for be taken or refused. -/
def tick (r : Rehearsal) (x : Experiment) (c : Tick) :
    Rehearsal × Experiment × Except Fault Bool :=
  ({ r with refused := c.refused } : Rehearsal).conclude (x.onTransferStarted c.event)

/-- What ticks leave, the latest one first. -/
def afterTicks (r : Rehearsal) (x : Experiment) : List Tick → Rehearsal × Experiment
  | [] => (r, x)
  | c :: earlier =>
    let (r, x) := r.afterTicks x earlier
    let (r, x, _) := r.tick x c
    (r, x)

variable {r : Rehearsal} {x : Experiment} {c : Tick}

/-- A tick reaches the trigger whether or not its training is refused. -/
theorem experiment_tick (r : Rehearsal) (x : Experiment) (c : Tick) :
    (r.tick x c).2.1 = { x with trigger := (x.trigger.onTransferStarted c.event).1 } := by
  unfold tick conclude
  split <;> rfl

/-- A training that is due is asked for, refused or not, and no other. -/
theorem orders_tick (r : Rehearsal) (x : Experiment) (c : Tick) :
    (r.tick x c).1.orders =
      if (x.trigger.onTransferStarted c.event).2 then
        r.orders.push (.train c.event.address c.event.bssid)
      else r.orders := by
  unfold tick conclude Experiment.onTransferStarted
  dsimp only
  cases (x.trigger.onTransferStarted c.event).2 with
  | false => rfl
  | true =>
    rw [if_pos rfl, if_pos rfl, take]
    dsimp only
    cases refusal? _ (.train c.event.address c.event.bssid) <;> rfl

/-- A tick without an association asks for nothing and changes nothing. -/
theorem tick_of_apart (r : Rehearsal) (x : Experiment) (apart : c.event.associated = false) :
    r.tick x c = ({ r with refused := c.refused }, x, .ok false) := by
  have nothing := RetrainingTrigger.onTransferStarted_of_apart (t := x.trigger) apart
  unfold tick conclude Experiment.onTransferStarted
  rw [nothing]
  rfl

/-! ## Any number of ticks -/

/-- No tick changes the threshold. -/
theorem threshold_afterTicks (r : Rehearsal) (x : Experiment) (cs : List Tick) :
    (r.afterTicks x cs).2.trigger.threshold = x.trigger.threshold := by
  induction cs with
  | nil => rfl
  | cons c earlier ih =>
    change ((r.afterTicks x earlier).1.tick _ c).2.1.trigger.threshold = _
    rw [experiment_tick]
    exact (RetrainingTrigger.threshold_onTransferStarted _ _).trans ih

/-- The count of an address is what its ticks leave behind whole thresholds. -/
theorem count_afterTicks (range : x.trigger.InRange) (r : Rehearsal) (cs : List Tick)
    {address : MacAddress} (below : x.trigger.count address < x.trigger.threshold) :
    (r.afterTicks x cs).2.trigger.count address =
      (x.trigger.count address + countedTicks address cs) % x.trigger.threshold := by
  induction cs with
  | nil => exact (Nat.mod_eq_of_lt below).symm
  | cons c earlier ih =>
    change ((r.afterTicks x earlier).1.tick _ c).2.1.trigger.count address = _
    have threshold := threshold_afterTicks r x earlier
    have range' : (r.afterTicks x earlier).2.trigger.InRange :=
      ⟨threshold ▸ range.one_le, threshold ▸ range.le_max⟩
    have below' : (r.afterTicks x earlier).2.trigger.count address <
        (r.afterTicks x earlier).2.trigger.threshold := by
      rw [ih, threshold]
      exact Nat.mod_lt _ range.one_le
    rw [experiment_tick, countedTicks_cons]
    dsimp only
    split
    next counts =>
      obtain ⟨associated, rfl⟩ := counts
      rw [RetrainingTrigger.count_onTransferStarted range' associated below', ih, threshold,
        Nat.mod_add_mod, Nat.add_assoc]
    next ignored =>
      rw [Nat.add_zero, ← ih]
      cases associated : c.event.associated with
      | false => rw [RetrainingTrigger.onTransferStarted_of_apart associated]
      | true =>
        exact RetrainingTrigger.count_onTransferStarted_of_ne fun same =>
          ignored ⟨associated, same⟩

/-- A tick asks for a training if it is a whole number of thresholds that have been counted for its
address. -/
theorem due_afterTicks (range : x.trigger.InRange) (r : Rehearsal) (c : Tick) (earlier : List Tick)
    (fresh : x.trigger.count c.event.address = 0) :
    ((r.afterTicks x earlier).2.trigger.onTransferStarted c.event).2 = true ↔
      c.event.associated = true ∧
        x.trigger.threshold ∣ countedTicks c.event.address (c :: earlier) := by
  have positive : 0 < x.trigger.threshold := range.one_le
  have threshold := threshold_afterTicks r x earlier
  have count := count_afterTicks range r earlier (fresh ▸ positive)
  rw [fresh, Nat.zero_add] at count
  have range' : (r.afterTicks x earlier).2.trigger.InRange :=
    ⟨threshold ▸ range.one_le, threshold ▸ range.le_max⟩
  have below : (r.afterTicks x earlier).2.trigger.count c.event.address <
      (r.afterTicks x earlier).2.trigger.threshold := by
    rw [count, threshold]
    exact Nat.mod_lt _ positive
  rw [RetrainingTrigger.due_onTransferStarted range' below, count, threshold, countedTicks_cons]
  refine and_congr_right fun associated => ?_
  rw [if_pos ⟨associated, rfl⟩]
  obtain ⟨n, whole⟩ := Nat.exists_eq_succ_of_ne_zero (Nat.ne_of_gt positive)
  rw [whole, Nat.succ_eq_add_one, Nat.add_right_cancel_iff, Nat.dvd_iff_mod_eq_zero,
    Nat.succ_mod_succ_eq_zero_iff]

/-- As many retrainings are counted as trainings are asked for. -/
theorem fired_afterTicks (r : Rehearsal) (x : Experiment) (cs : List Tick) :
    ∃ asked : List Order, (r.afterTicks x cs).1.orders = r.orders ++ asked.toArray ∧
      (r.afterTicks x cs).2.trigger.fired = x.trigger.fired + asked.length := by
  induction cs with
  | nil => exact ⟨[], by simp [afterTicks], rfl⟩
  | cons c earlier ih =>
    obtain ⟨asked, orders, fired⟩ := ih
    refine ⟨asked ++ if ((r.afterTicks x earlier).2.trigger.onTransferStarted c.event).2 then
      [.train c.event.address c.event.bssid] else [], ?_, ?_⟩
    · change ((r.afterTicks x earlier).1.tick _ c).1.orders = _
      rw [orders_tick, orders]
      split <;> simp
    · change ((r.afterTicks x earlier).1.tick _ c).2.1.trigger.fired = _
      rw [experiment_tick]
      refine (RetrainingTrigger.fired_onTransferStarted _ _).trans ?_
      rw [fired, List.length_append, Nat.add_assoc]
      split <;> rfl

/-- After any starts of intervals, with and without associations and whichever trainings are
refused, the count of an address that began at zero is what its ticks leave behind whole thresholds.
A tick asks for the training that it names exactly if it completes a threshold of its address, and
as many retrainings are counted as trainings were asked for.  Intervals without an association
change nothing. -/
theorem retrains_at_threshold {n : Nat} (word : n ≤ maxCount) (r : Rehearsal) {x : Experiment}
    (threshold : x.trigger.threshold = max n 1) (cs : List Tick) :
    (∀ address, x.trigger.count address = 0 →
        (r.afterTicks x cs).2.trigger.count address = countedTicks address cs % max n 1) ∧
      (∃ asked : List Order, (r.afterTicks x cs).1.orders = r.orders ++ asked.toArray ∧
        (r.afterTicks x cs).2.trigger.fired = x.trigger.fired + asked.length) ∧
      ∀ later c earlier, cs = later ++ c :: earlier →
        let before := r.afterTicks x earlier
        (c.event.associated = false →
          before.1.tick before.2 c = ({ before.1 with refused := c.refused }, before.2, .ok false)) ∧
        (x.trigger.count c.event.address = 0 →
          (before.1.tick before.2 c).1.orders =
            if c.event.associated = true ∧ max n 1 ∣ countedTicks c.event.address (c :: earlier) then
              before.1.orders.push (.train c.event.address c.event.bssid)
            else before.1.orders) := by
  have range := RetrainingTrigger.inRange_of_threshold word threshold
  refine ⟨fun address fresh => ?_, fired_afterTicks r x cs, ?_⟩
  · have below : x.trigger.count address < x.trigger.threshold := fresh ▸ range.one_le
    rw [count_afterTicks range r cs below, fresh, threshold, Nat.zero_add]
  · intro later c earlier _
    refine ⟨tick_of_apart _ _, fun fresh => ?_⟩
    have due := due_afterTicks range r c earlier fresh
    rw [threshold] at due
    rw [orders_tick]
    simp only [due]

/-- Ticks of two stations with the threshold two, the latest one first: the first station ticks
twice, with an interval in between in which it is not associated, and its training is refused. -/
def refusedTicks : List Tick :=
  let tick (node : NodeId) (associated : Bool) : TransferStarted :=
    ⟨node, Network.addressOf node, Network.addressOf 0, associated, .zero⟩
  [⟨tick 1 true, some (Network.addressOf 0)⟩, ⟨tick 2 true, none⟩, ⟨tick 1 false, none⟩,
    ⟨tick 1 true, none⟩]

/-- An experiment in which every second interval makes a retraining due. -/
def everySecond : Experiment := { (default : Experiment) with trigger := .ofThreshold 2 }

/-- The refused training is asked for once and counted, and the count begins anew. -/
theorem retrains_at_threshold_two :
    (fresh.afterTicks everySecond refusedTicks).1.orders =
        #[.train (Network.addressOf 1) (Network.addressOf 0)] ∧
      (fresh.afterTicks everySecond refusedTicks).2.trigger.count (Network.addressOf 1) = 0 ∧
      (fresh.afterTicks everySecond refusedTicks).2.trigger.count (Network.addressOf 2) = 1 ∧
      (fresh.afterTicks everySecond refusedTicks).2.trigger.fired = 1 := by
  have word : 2 ≤ maxCount := by decide
  obtain ⟨count, ⟨asked, orders, fired⟩, -⟩ :=
    fresh.retrains_at_threshold word (x := everySecond) rfl refusedTicks
  have once : (fresh.afterTicks everySecond refusedTicks).1.orders =
      #[.train (Network.addressOf 1) (Network.addressOf 0)] := by
    decide +kernel
  have first : countedTicks (Network.addressOf 1) refusedTicks = 2 := by decide +kernel
  have second : countedTicks (Network.addressOf 2) refusedTicks = 1 := by decide +kernel
  refine ⟨once, ?_, ?_, ?_⟩
  · rw [count _ rfl, first]
    rfl
  · rw [count _ rfl, second]
    rfl
  · rw [orders] at once
    have length : asked.length = 1 := by simpa [fresh] using congrArg Array.size once
    rw [fired, length]
    rfl

end Rehearsal

end DenseDmg
