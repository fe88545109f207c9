import DenseDmg.Proofs.Engine.Driver

/-!
# Stopping is final

A simulator is stopped by its driver, by an event that asks for it, or because an event has left the
world halted.  What was pending is dropped, and no call can undo that: every request is ignored, and
the loop returns at once, whatever the world that it is given.

* `Simulator.Spent`: a simulator that is stopped and has nothing pending; nothing changes it.
* `Simulator.spent_foldl_serve`: what an event still asks for after it has asked to stop is ignored.
* `Driven.stopping_is_final`: the three ways to stop a simulator, and what follows from them.
-/

namespace DenseDmg

variable {ε ω : Type} {b : Behaviour ε ω}

namespace Simulator

variable {s : Simulator ε}

/-- A simulator that has been stopped, with nothing pending. -/
structure Spent (s : Simulator ε) : Prop where
  stopped : s.stopped = true
  pending : s.pending = []

theorem spent_stop (s : Simulator ε) : s.stop.Spent := ⟨rfl, rfl⟩

/-! ## What changes nothing -/

theorem Spent.serve (spent : s.Spent) (r : Request ε) : s.serve r = s := by
  cases r with
  | atTime due event => exact schedule_of_stopped spent.stopped due event
  | afterDelay delay event => exact schedule_of_stopped spent.stopped (s.now + delay) event
  | stop =>
    rcases s with ⟨now, nextSeq, executed, stopped, pending⟩
    obtain rfl : stopped = true := spent.stopped
    obtain rfl : pending = [] := spent.pending
    rfl

theorem Spent.foldl_serve (spent : s.Spent) (rs : List (Request ε)) :
    rs.foldl Simulator.serve s = s := by
  induction rs with
  | nil => rfl
  | cons r rs ih => rw [List.foldl_cons, spent.serve, ih]

/-- A call of the loop returns at once. -/
theorem Spent.runUntil (spent : s.Spent) (limit : Time) (fuel : Nat) (w : ω) :
    Simulator.runUntil b limit fuel s w = some (s, w) := by
  rw [runUntil_of_idle (by simp [spent.pending]), settle_of_stopped spent.stopped]

theorem Spent.run (spent : s.Spent) (fuel : Nat) (w : ω) :
    Simulator.run b fuel s w = some (s, w) := by
  unfold Simulator.run
  rw [spent.pending]

theorem Spent.settle (spent : s.Spent) (c : LoopCall ω) : c.settle s = s := by
  unfold LoopCall.settle
  split
  · exact settle_of_stopped spent.stopped _
  · rfl

/-! ## The event in progress -/

/-- Once an event has asked to stop, what else it asks for is ignored. -/
theorem spent_foldl_serve {before after : List (Request ε)} :
    ((before ++ .stop :: after).foldl serve s).Spent := by
  rw [List.foldl_append, List.foldl_cons]
  have spent : ((before.foldl serve s).serve .stop).Spent := spent_stop _
  rw [spent.foldl_serve]
  exact spent

/-- An event that asks to stop has stopped the simulator when it returns. -/
theorem spent_step_of_stop {w : ω} {entry : Entry ε} {rest : List (Entry ε)}
    (stops : .stop ∈ (b.act (s.taking entry rest) entry.event w).2) :
    (s.step b entry rest w).1.Spent := by
  rcases List.append_of_mem stops with ⟨before, after, asked⟩
  have served : ((b.act (s.taking entry rest) entry.event w).2.foldl serve
      (s.taking entry rest)).Spent := by
    rw [asked]
    exact spent_foldl_serve
  rw [step_eq]
  dsimp only
  split
  · exact spent_stop _
  · exact served

/-- An event that leaves the world halted stops the simulator. -/
theorem spent_step_of_halted {w : ω} {entry : Entry ε} {rest : List (Entry ε)}
    (halted : b.halted (s.step b entry rest w).2 = true) : (s.step b entry rest w).1.Spent := by
  rw [step_eq] at halted ⊢
  dsimp only at halted ⊢
  rw [if_pos halted]
  exact spent_stop _

end Simulator

namespace Driven

variable {d d' : Driven ε ω}

/-! ## After a stop -/

/-- No step changes a simulator that is spent, or executes an event. -/
theorem Step.of_spent (step : Step b d d') (spent : d.simulator.Spent) :
    d'.simulator = d.simulator ∧ d'.booked = d.booked ∧ d'.executed = d.executed := by
  cases step with
  | ask r waiting =>
    refine ⟨spent.serve r, ?_, rfl⟩
    have none : d.simulator.bookings [r] = [] := by simp [Simulator.bookings, spent.stopped]
    show d.booked ++ d.simulator.bookings [r] = d.booked
    rw [none, List.append_nil]
  | enter c waiting => exact ⟨rfl, rfl, rfl⟩
  | execute inside pending covers => cases pending.symm.trans spent.pending
  | leave inside idle => exact ⟨spent.settle _, rfl, rfl⟩

theorem Reaches.of_spent (reaches : Reaches b d d') (spent : d.simulator.Spent) :
    d'.simulator = d.simulator ∧ d'.booked = d.booked ∧ d'.executed = d.executed := by
  induction reaches with
  | refl => exact ⟨rfl, rfl, rfl⟩
  | tail _ step ih =>
    obtain ⟨simulator, booked, executed⟩ := ih
    obtain ⟨simulator', booked', executed'⟩ := step.of_spent (simulator ▸ spent)
    exact ⟨simulator'.trans simulator, booked'.trans booked, executed'.trans executed⟩

/-- A simulator is stopped for good: nothing is pending, and whatever is done with it from now on,
in whichever worlds, no event is taken or executed and neither the clock nor the number of executed
events changes. -/
structure Final (b : Behaviour ε ω) (d : Driven ε ω) : Prop where
  spent : d.simulator.Spent
  later : ∀ d', Reaches b d d' →
    d'.simulator = d.simulator ∧ d'.booked = d.booked ∧ d'.executed = d.executed
  /-- Every call of the loop returns, and with what it was given. -/
  calls : ∀ limit fuel w, Simulator.runUntil b limit fuel d.simulator w = some (d.simulator, w) ∧
    Simulator.run b fuel d.simulator w = some (d.simulator, w)

theorem final_of_spent (spent : d.simulator.Spent) : d.Final b where
  spent := spent
  later := fun _ reaches => Reaches.of_spent reaches spent
  calls := fun limit fuel w => ⟨spent.runUntil limit fuel w, spent.run fuel w⟩

/-- Stopping is final: when the driver stops a simulator, when an event asks for it, and when an
event leaves the world halted.  An event that asks for it may go on asking for more; nothing is
pending after that. -/
theorem stopping_is_final (b : Behaviour ε ω) (d : Driven ε ω) :
    (d.ask .stop).Final b ∧
      ∀ c entry rest,
        let taken := d.simulator.taking entry rest
        let acted := b.act taken entry.event c.world
        (∀ before after later, acted.2 = before ++ .stop :: (after ++ later) →
          ((before ++ .stop :: after).foldl Simulator.serve taken).Spent ∧
            (d.execute b c entry rest).Final b) ∧
        (b.halted acted.1 = true → (d.execute b c entry rest).Final b) := by
  refine ⟨final_of_spent (Simulator.spent_stop _), fun c entry rest => ⟨?_, fun halted => ?_⟩⟩
  · intro before after later asked
    refine ⟨Simulator.spent_foldl_serve, final_of_spent (Simulator.spent_step_of_stop ?_)⟩
    rw [asked]
    exact List.mem_append_right _ List.mem_cons_self
  · exact final_of_spent (Simulator.spent_step_of_halted halted)

/-! ### Two ways to stop -/

namespace Quitting

/-- Zero asks to stop between two other requests; any other event halts the world. -/
def behaviour : Behaviour Nat Bool where
  act _ n halted :=
    match n with
    | 0 => (halted, [.atTime .zero 1, .stop, .afterDelay (.ofNanos 1) 2])
    | _ => (true, [.afterDelay (.ofNanos 1) 0])
  halted := id

/-- An event at 3 ns and another one at 9 ns, and the loop called without a limit. -/
def called (first : Nat) : Driven Nat Bool :=
  { (fresh.ask (.atTime (.ofNanos 3) first)).ask (.atTime (.ofNanos 9) 0) with
    call := some ⟨none, false⟩ }

/-- The first event has been executed. -/
def quit (first : Nat) : Driven Nat Bool :=
  (called first).execute behaviour ⟨none, false⟩ ⟨.ofNanos 3, 0, first⟩ [⟨.ofNanos 9, 1, 0⟩]

theorem reached_quit (first : Nat) : Reached behaviour (quit first) := by
  have called : Reached behaviour (called first) :=
    .tail (.tail (.tail .refl (.ask _ rfl)) (.ask _ rfl)) (.enter _ rfl)
  exact called.tail (.execute rfl rfl nofun)

end Quitting

open Quitting in
/-- The first event stops the simulator at 3 ns, by a request or by halting the world; the other one
is never executed, although the world of a later call is not halted. -/
theorem stopping_is_final_quitting :
    (∀ first, Reached behaviour (quit first)) ∧
      (quit 0).simulator = ⟨.ofNanos 3, 3, 1, true, []⟩ ∧ (quit 0).Final behaviour ∧
      (quit 1).simulator = ⟨.ofNanos 3, 3, 1, true, []⟩ ∧ (quit 1).Final behaviour ∧
      Simulator.run behaviour 5 (quit 1).simulator false = some ((quit 1).simulator, false) := by
  have ways (first : Nat) := (stopping_is_final behaviour (called first)).2 ⟨none, false⟩
    ⟨.ofNanos 3, 0, first⟩ [⟨.ofNanos 9, 1, 0⟩]
  have asks : (quit 0).Final behaviour :=
    ((ways 0).1 [.atTime .zero 1] [] [.afterDelay (.ofNanos 1) 2] rfl).2
  have halts : (quit 1).Final behaviour := (ways 1).2 rfl
  exact ⟨reached_quit, rfl, asks, rfl, halts, (halts.calls .zero 5 false).2⟩

end Driven

end DenseDmg
