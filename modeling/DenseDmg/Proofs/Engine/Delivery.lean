import DenseDmg.Proofs.Engine.Driver
import DenseDmg.Proofs.Engine.Timeline
import Mathlib.Data.List.Nodup

/-!
# No event is lost

A booking that a simulator took stands for one entry.  As long as the simulator is not stopped, that
entry is either pending or has been executed, and it has been executed once.  A call of the loop up
to a limit that returns by itself has left nothing behind that is due by then.

* `Simulator.Ledger.perm_entries`: what was executed and what is pending are the bookings.
* `Ends.now_eq`: where the clock stands after a call.
* `Driven.Reached.delivered`: no event is lost, executed twice or executed late.
-/

namespace DenseDmg

variable {ε ω : Type} {b : Behaviour ε ω} {s : Simulator ε} {ks : List (Booking ε)}
  {taken : List (Entry ε)} {e : Entry ε}

/-! ## The entries of bookings -/

/-- The entries of bookings, in the order of scheduling. -/
def Booking.entries (ks : List (Booking ε)) : List (Entry ε) := ks.mapIdx Booking.entry

theorem Booking.mem_entries : e ∈ Booking.entries ks ↔ e.BookedIn ks := by
  rw [Booking.entries, List.mem_mapIdx]
  constructor
  · rintro ⟨i, inside, rfl⟩
    exact ⟨ks[i], List.getElem?_eq_getElem inside, rfl⟩
  · rintro ⟨k, found, asked⟩
    obtain ⟨inside, rfl⟩ := List.getElem?_eq_some_iff.1 found
    exact ⟨e.seq, inside, asked⟩

/-- Bookings have entries of their own: each stands at its position in the order of scheduling. -/
theorem Booking.nodup_entries (ks : List (Booking ε)) : (Booking.entries ks).Nodup := by
  have positions : (Booking.entries ks).map Entry.seq = List.range ks.length := by
    apply List.ext_getElem
    · simp [Booking.entries]
    · intro i _ _
      simp [Booking.entries, Booking.entry]
  apply List.Nodup.of_map Entry.seq
  rw [positions]
  exact List.nodup_range

/-- Later bookings leave an entry booked. -/
theorem Entry.BookedIn.mono {known : List (Booking ε)} (booked : e.BookedIn known)
    (goesOn : known <+: ks) : e.BookedIn ks := by
  have inside := booked.seq_lt
  obtain ⟨k, found, asked⟩ := booked
  obtain ⟨later, rfl⟩ := goesOn
  exact ⟨k, by rw [List.getElem?_append_left inside, found], asked⟩

namespace Simulator

/-! ## The balance of a ledger -/

/-- Nothing was executed twice, and nothing that was executed is pending. -/
theorem Ledger.nodup (ledger : s.Ledger ks taken) : (taken ++ s.pending).Nodup := by
  have apart {a b : Entry ε} (before : a.Before b) : a ≠ b := by
    rintro rfl
    exact Entry.not_before_self a before
  rw [List.nodup_append]
  refine ⟨?_, ?_, ?_⟩
  · exact ledger.sorted.imp fun before => (apart before).symm
  · exact ledger.order.sorted.imp apart
  · intro a done b mem
    exact apart (ledger.before a done b mem)

/-- What was executed and what is pending are the bookings, each of them once. -/
theorem Ledger.perm_entries (ledger : s.Ledger ks taken) (booked : ∀ e ∈ taken, e.BookedIn ks)
    (running : s.stopped = false) : (taken ++ s.pending).Perm (Booking.entries ks) := by
  rw [List.perm_ext_iff_of_nodup ledger.nodup (Booking.nodup_entries ks)]
  intro e
  rw [List.mem_append, Booking.mem_entries, ledger.pending running]
  constructor
  · rintro (done | ⟨known, -⟩)
    · exact booked e done
    · exact known
  · intro known
    by_cases done : e ∈ taken
    · exact .inl done
    · exact .inr ⟨known, done⟩

/-! ## The clock after a call -/

/-- A call that was not stopped leaves the clock at its limit, or where it was if that is later. -/
theorem Ends.now_eq {w : ω} {limit : Time} {out : Simulator ε × ω} (ends : Ends b limit s w out)
    (order : s.InOrder) (running : out.1.stopped = false) : out.1.now = max s.now limit := by
  induction ends with
  | @idle s w idle =>
    rw [settle_of_running]
    unfold settle at running
    split at running
    next stopped => rw [stopped] at running; cases running
    next goesOn => simpa using goesOn
  | stops _ _ stopped =>
    rw [stopped] at running
    cases running
  | @goes s w entry rest out pending due goesOn later ih =>
    have now := order.now_le entry (by simp [pending])
    rw [ih (order.step pending) running, now_step, Time.ext_iff, Time.nanos_max, Time.nanos_max]
    rw [Time.lt_def] at due
    rw [Time.le_def] at now
    omega

end Simulator

namespace Driven

variable {d d' : Driven ε ω}

/-! ## The record of a driven simulator -/

/-- The entries that were executed, the latest one first. -/
def done (d : Driven ε ω) : List (Entry ε) := d.executed.map Moment.entry

/-- A step adds to the record and counts what it executes. -/
theorem Step.goes_on (step : Step b d d') :
    d.booked <+: d'.booked ∧ d.executed <:+ d'.executed ∧
      (d.simulator.executed = d.executed.length →
        d'.simulator.executed = d'.executed.length) := by
  cases step with
  | ask r waiting =>
    refine ⟨List.prefix_append .., List.suffix_rfl, fun counted => ?_⟩
    exact (Simulator.executed_foldl_serve (s := d.simulator) [r]).trans counted
  | enter c waiting => exact ⟨List.prefix_rfl, List.suffix_rfl, id⟩
  | @execute c entry rest inside pending covers =>
    refine ⟨List.prefix_append .., List.suffix_cons .., fun counted => ?_⟩
    exact (Simulator.executed_step entry rest).trans (congrArg (· + 1) counted)
  | @leave c inside idle =>
    refine ⟨List.prefix_rfl, List.suffix_rfl, fun counted => ?_⟩
    rw [← counted]
    show (c.settle d.simulator).executed = _
    unfold LoopCall.settle
    split
    · exact Simulator.executed_settle _
    · rfl

theorem Reaches.goes_on (reaches : Reaches b d d') :
    d.booked <+: d'.booked ∧ d.executed <:+ d'.executed ∧
      (d.simulator.executed = d.executed.length →
        d'.simulator.executed = d'.executed.length) := by
  induction reaches with
  | refl => exact ⟨List.prefix_rfl, List.suffix_rfl, id⟩
  | tail _ step ih =>
    obtain ⟨booked, executed, counted⟩ := step.goes_on
    exact ⟨ih.1.trans booked, ih.2.1.trans executed, counted ∘ ih.2.2⟩

theorem Reached.executed_eq (reached : Reached b d) :
    d.simulator.executed = d.executed.length :=
  (Reaches.goes_on reached).2.2 rfl

/-- Whatever was executed had been booked. -/
theorem Reached.bookedIn_of_mem_done (reached : Reached b d) (mem : e ∈ d.done) :
    e.BookedIn d.booked := by
  rcases List.mem_map.1 mem with ⟨m, executed, rfl⟩
  rcases List.append_of_mem executed with ⟨later, earlier, split⟩
  obtain ⟨known, goesOn, -, pending, first, -⟩ := reached.sound.inTurn later m earlier split
  exact ((pending m.entry).1 first).1.mono goesOn

/-- A booking that is due by a time before which nothing is pending has been executed. -/
theorem Reached.mem_done (reached : Reached b d) (running : d.simulator.stopped = false)
    {t : Time} (drained : ∀ e ∈ d.simulator.pending, t < e.due)
    (booked : e ∈ Booking.entries d.booked) (due : e.due ≤ t) : e ∈ d.done := by
  have kept := (reached.sound.ledger.perm_entries (fun _ => reached.bookedIn_of_mem_done)
    running).mem_iff.2 booked
  rcases List.mem_append.1 kept with done | pending
  · exact done
  · exact absurd (drained e pending) (Nat.not_lt.2 due)

/-! ## Delivery -/

/-- A call of the loop up to `t` by an idle driver has returned and left `s'`, which is not stopped:
nothing is pending that is due by `t`, the clock has been moved on to `t`, and whatever was ever
booked for then, also by the events of the call, is on record as executed. -/
structure Drained (b : Behaviour ε ω) (d : Driven ε ω) (t : Time) (s' : Simulator ε) : Prop where
  pending : ∀ e ∈ s'.pending, t < e.due
  now : s'.now = max d.simulator.now t
  executed : ∃ ks ms, Reached b ⟨s', none, d.booked ++ ks, ms ++ d.executed⟩ ∧
    ∀ e ∈ Booking.entries (d.booked ++ ks), e.due ≤ t → e ∈ (ms ++ d.executed).map Moment.entry

/-- No event of a driven simulator is lost, executed twice or executed late. -/
structure Delivered (b : Behaviour ε ω) (d : Driven ε ω) : Prop where
  /-- Nothing was executed twice, and nothing that was executed is pending. -/
  once : (d.done ++ d.simulator.pending).Nodup
  /-- Until the simulator is stopped, every booking was executed or is pending. -/
  perm : d.simulator.stopped = false →
    (d.done ++ d.simulator.pending).Perm (Booking.entries d.booked)
  count : d.simulator.stopped = false →
    d.booked.length = d.simulator.executed + d.simulator.pending.length
  /-- That is so while an event is executed, too, whatever it has asked for so far. -/
  during : ∀ w entry rest asked later, d.simulator.pending = entry :: rest →
    (b.act (d.simulator.taking entry rest) entry.event w).2 = asked ++ later →
    let midway := asked.foldl Simulator.serve (d.simulator.taking entry rest)
    midway.stopped = false → (entry :: d.done ++ midway.pending).Perm
      (Booking.entries (d.booked ++ (d.simulator.taking entry rest).bookings asked))
  /-- A call of the loop that returns without the simulator having been stopped has executed all
  that is due by its limit. -/
  drained : ∀ t fuel w s' w', d.call = none →
    Simulator.runUntil b t fuel d.simulator w = some (s', w') → s'.stopped = false →
    d.Drained b t s'

theorem Reached.drained (reached : Reached b d) (idle : d.call = none) {t : Time} {fuel : Nat}
    {w w' : ω} {s' : Simulator ε}
    (run : Simulator.runUntil b t fuel d.simulator w = some (s', w'))
    (running : s'.stopped = false) : d.Drained b t s' := by
  have ends := Simulator.Ends.of_runUntil run
  have entered : Step b d { d with call := some ⟨some t, w⟩ } := .enter _ idle
  obtain ⟨d', reaches, returned, same⟩ := reaches_of_ends
    (d := { d with call := some ⟨some t, w⟩ }) ends rfl rfl
  have reached' : Reached b d' := (reached.tail entered).trans reaches
  have pending : ∀ e ∈ s'.pending, t < e.due := by
    have order := reached'.sound.ledger.order
    rw [same] at order
    exact order.lt_due (ends.idle_of_running running)
  refine ⟨pending, ends.now_eq reached.sound.ledger.order running, ?_⟩
  obtain ⟨⟨ks, booked⟩, ⟨ms, executed⟩, -⟩ := Reaches.goes_on reaches
  have all : ∀ e ∈ Booking.entries d'.booked, e.due ≤ t → e ∈ d'.done := fun e =>
    reached'.mem_done (by rwa [same]) (by rwa [same])
  rcases d' with ⟨s', call, booked', executed'⟩
  obtain rfl : call = none := returned
  obtain rfl : d.booked ++ ks = booked' := booked
  obtain rfl : ms ++ d.executed = executed' := executed
  obtain rfl : s' = _ := same
  exact ⟨ks, ms, reached', all⟩

/-- Whatever is asked for and whatever the events do, no event is lost, executed twice or executed
late. -/
theorem Reached.delivered (reached : Reached b d) : d.Delivered b where
  once := reached.sound.ledger.nodup
  perm := reached.sound.ledger.perm_entries fun _ => reached.bookedIn_of_mem_done
  count := by
    intro running
    have perm := reached.sound.ledger.perm_entries (fun _ => reached.bookedIn_of_mem_done) running
    have length := perm.length_eq
    rw [List.length_append, List.length_map, ← reached.executed_eq] at length
    rw [length, Booking.entries, List.length_mapIdx]
  during := by
    intro w entry rest asked later pending _ midway running
    have ledger := reached.sound.ledger
    have first := (ledger.pending (ledger.order.running pending) entry).1 (by simp [pending])
    refine ((ledger.taking pending).foldl_serve asked).perm_entries (fun e mem => ?_) running
    refine Entry.BookedIn.mono ?_ (List.prefix_append ..)
    rcases List.mem_cons.1 mem with rfl | mem
    · exact first.1
    · exact reached.bookedIn_of_mem_done mem
  drained := by
    intro t fuel w s' w' idle run running
    exact reached.drained idle run running

open Cascade in
/-- Two events at 5 ns, of which the first one asks for a third at an instant that is past, and one
at 9 ns: a call up to 5 ns executes the three and leaves the other one pending. -/
theorem delivered_cascade :
    ∃ d s', Reached behaviour d ∧ d.call = none ∧ d.simulator.stopped = false ∧
      d.booked.length = d.simulator.executed + d.simulator.pending.length ∧
      Simulator.runUntil behaviour (.ofNanos 5) 3 d.simulator 0 = some (s', 3) ∧
      s'.executed = 3 ∧ s'.pending.map (fun e => (e.due.nanos, e.seq)) = [(9, 2)] ∧
      d.Drained behaviour (.ofNanos 5) s' := by
  have asked : Reached behaviour _ :=
    .tail (.tail (.tail .refl (.ask (.atTime (.ofNanos 5) 1) rfl))
      (.ask (.atTime (.ofNanos 5) 0) rfl)) (.ask (.atTime (.ofNanos 9) 0) rfl)
  have delivered := asked.delivered
  exact ⟨_, _, asked, rfl, rfl, delivered.count rfl, rfl, rfl, rfl,
    delivered.drained _ 3 0 _ _ rfl rfl rfl⟩

end Driven

end DenseDmg
