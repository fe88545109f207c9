import DenseDmg.Engine.Simulator

/-!
# Histories of the event loop

The event loop returns the state it ends in; no statement about it can name the events that led
there.  A `Moment` is one executed entry with the state it was executed in, and
`History b s₀ w₀ ms s w` says that executing the moments `ms`, the latest one first, leads from
`s₀` and `w₀` to `s` and `w`.  A history ends between two events, so the states at the ends of
histories are those that a run reaches.

* `History.of_runUntil`: a run that ends has a history.
* `History.trans`: a history may be continued.
-/

namespace DenseDmg

variable {ε ω : Type}

/-- An entry about to be executed, and the state it is executed in. -/
structure Moment (ε ω : Type) where
  simulator : Simulator ε
  world : ω
  entry : Entry ε
  /-- What is pending behind the entry. -/
  rest : List (Entry ε)

/-- What executing the entry of a moment leaves. -/
def Moment.outcome (b : Behaviour ε ω) (m : Moment ε ω) : Simulator ε × ω :=
  Simulator.step b m.entry m.rest m.simulator m.world

/-- `History b s₀ w₀ ms s w`: from `s₀` and `w₀` on the moments `ms` were executed, the latest one
first, which led to `s` and `w`.  The clock may be moved on while nothing is due. -/
inductive History (b : Behaviour ε ω) (s₀ : Simulator ε) (w₀ : ω) :
    List (Moment ε ω) → Simulator ε → ω → Prop
  | start : History b s₀ w₀ [] s₀ w₀
  | execute {ms : List (Moment ε ω)} {s : Simulator ε} {w : ω} {entry : Entry ε}
    {rest : List (Entry ε)} :
    History b s₀ w₀ ms s w → s.pending = entry :: rest →
    History b s₀ w₀ (⟨s, w, entry, rest⟩ :: ms) (s.step b entry rest w).1
      (s.step b entry rest w).2
  | settle {ms : List (Moment ε ω)} {s : Simulator ε} {w : ω} (limit : Time) :
    History b s₀ w₀ ms s w → (∀ entry ∈ s.pending.head?, limit < entry.due) →
    History b s₀ w₀ ms (s.settle limit) w

namespace History

variable {b : Behaviour ε ω} {s₀ s s' : Simulator ε} {w₀ w w' : ω} {ms ms' : List (Moment ε ω)}

/-- A history and one that begins where it ends are one history. -/
theorem trans (first : History b s₀ w₀ ms s w) (second : History b s w ms' s' w') :
    History b s₀ w₀ (ms' ++ ms) s' w' := by
  induction second with
  | start => exact first
  | execute _ pending ih => exact ih.execute pending
  | settle limit _ idle ih => exact ih.settle limit idle

/-- A moment of a history is the state that an earlier part of the history leads to, with the
first entry of its agenda. -/
theorem of_mem (history : History b s₀ w₀ ms s w) {m : Moment ε ω}
    {later earlier : List (Moment ε ω)} (split : ms = later ++ m :: earlier) :
    History b s₀ w₀ earlier m.simulator m.world ∧ m.simulator.pending = m.entry :: m.rest := by
  induction history generalizing later with
  | start => simp at split
  | execute before pending ih =>
    cases later with
    | nil =>
      simp only [List.nil_append, List.cons.injEq] at split
      rcases split with ⟨rfl, rfl⟩
      exact ⟨before, pending⟩
    | cons head later =>
      simp only [List.cons_append, List.cons.injEq] at split
      exact ih split.2
  | settle _ _ _ ih => exact ih split

end History

/-! ## The loop, case by case -/

namespace Simulator

variable {b : Behaviour ε ω} {s s' : Simulator ε} {w w' : ω} {limit : Time} {fuel : Nat}
  {entry : Entry ε} {rest : List (Entry ε)}

/-- A run ends where nothing is due up to its limit. -/
theorem runUntil_of_idle (idle : ∀ entry ∈ s.pending.head?, limit < entry.due) :
    runUntil b limit fuel s w = some (s.settle limit, w) := by
  unfold runUntil
  split
  next => rfl
  next entry rest pending => rw [if_pos (idle entry (by simp [pending]))]

/-- A run executes the first entry that is due, and goes on unless that stopped the simulator. -/
theorem runUntil_of_due (pending : s.pending = entry :: rest) (due : ¬ limit < entry.due) :
    runUntil b limit (fuel + 1) s w =
      if (s.step b entry rest w).1.stopped then some (s.step b entry rest w)
      else runUntil b limit fuel (s.step b entry rest w).1 (s.step b entry rest w).2 := by
  rw [runUntil, pending]
  exact if_neg due

theorem exists_due_of_not_idle (busy : ¬ ∀ entry ∈ s.pending.head?, limit < entry.due) :
    ∃ entry rest, s.pending = entry :: rest ∧ ¬ limit < entry.due := by
  cases pending : s.pending with
  | nil => exact absurd (by simp [pending]) busy
  | cons entry rest => exact ⟨entry, rest, rfl, by simpa [pending] using busy⟩

/-- Without fuel nothing that is due is executed. -/
theorem runUntil_zero_of_due (pending : s.pending = entry :: rest) (due : ¬ limit < entry.due) :
    runUntil b limit 0 s w = none := by
  rw [runUntil, pending]
  exact if_neg due

end Simulator

/-- A run up to a limit that ends has a history. -/
theorem History.of_runUntil {b : Behaviour ε ω} {s s' : Simulator ε} {w w' : ω} {limit : Time}
    {fuel : Nat} (run : Simulator.runUntil b limit fuel s w = some (s', w')) :
    ∃ ms, History b s w ms s' w' := by
  induction fuel generalizing s w with
  | zero =>
    by_cases idle : ∀ entry ∈ s.pending.head?, limit < entry.due
    · rw [Simulator.runUntil_of_idle idle] at run
      cases run
      exact ⟨[], .settle limit .start idle⟩
    · rcases Simulator.exists_due_of_not_idle idle with ⟨entry, rest, pending, due⟩
      rw [Simulator.runUntil_zero_of_due pending due] at run
      cases run
  | succ fuel ih =>
    by_cases idle : ∀ entry ∈ s.pending.head?, limit < entry.due
    · rw [Simulator.runUntil_of_idle idle] at run
      cases run
      exact ⟨[], .settle limit .start idle⟩
    · rcases Simulator.exists_due_of_not_idle idle with ⟨entry, rest, pending, due⟩
      have first : History b s w _ _ _ := History.start.execute pending
      rw [Simulator.runUntil_of_due pending due] at run
      split at run
      · cases run
        exact ⟨_, first⟩
      · rcases ih run with ⟨ms, later⟩
        exact ⟨_, first.trans later⟩

/-! ## Executing some events -/

/-- Execute up to a number of events, whenever they are due: the moments, the latest one first, and
the state that they lead to. -/
def Simulator.replay (b : Behaviour ε ω) :
    Nat → Simulator ε → ω → List (Moment ε ω) × Simulator ε × ω
  | 0, s, w => ([], s, w)
  | n + 1, s, w =>
    match s.pending with
    | [] => ([], s, w)
    | entry :: rest =>
      let (s', w') := s.step b entry rest w
      let (ms, s'', w'') := replay b n s' w'
      (ms ++ [⟨s, w, entry, rest⟩], s'', w'')

theorem History.of_replay (b : Behaviour ε ω) (n : Nat) (s : Simulator ε) (w : ω) :
    History b s w (Simulator.replay b n s w).1 (Simulator.replay b n s w).2.1
      (Simulator.replay b n s w).2.2 := by
  induction n generalizing s w with
  | zero => exact .start
  | succ n ih =>
    rw [Simulator.replay]
    split
    next => exact .start
    next entry rest pending => exact (History.start.execute pending).trans (ih _ _)

end DenseDmg
