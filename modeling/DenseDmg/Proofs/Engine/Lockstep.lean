import DenseDmg.Proofs.Engine.History
import DenseDmg.Proofs.Engine.Order

/-!
# Runs in lockstep

Two worlds run in lockstep if each event asks for the same in both of them.  Then they need one
simulator between them, their runs execute the same events and end together.

* `Simulator.fst_step_eq`: an event that asks for the same in two worlds does the same to the
  simulator.
* `Lockstep.exists_runUntil`: where the run of one world ends, that of the other does.
-/

namespace DenseDmg

namespace Simulator

variable {ε ω : Type} {b : Behaviour ε ω} {s s' : Simulator ε} {w w' v : ω}
  {entry : Entry ε} {rest : List (Entry ε)} {limit : Time} {fuel : Nat}

/-- What an event does to the simulator is settled by what it asks for and whether it halts its
world. -/
theorem fst_step_eq
    (asked : (b.act (s.taking entry rest) entry.event w').2 =
      (b.act (s.taking entry rest) entry.event w).2)
    (halted : b.halted (b.act (s.taking entry rest) entry.event w').1 =
      b.halted (b.act (s.taking entry rest) entry.event w).1) :
    (s.step b entry rest w').1 = (s.step b entry rest w).1 := by
  rw [step_eq, step_eq]
  dsimp only
  rw [asked, halted]

/-- Worlds of one simulator that stay related, while each event does the same to the simulator in
both of them. -/
structure Lockstep (b : Behaviour ε ω) (R : Simulator ε → ω → ω → Prop) : Prop where
  step : ∀ {s w w' entry rest}, R s w w' → s.pending = entry :: rest →
    (s.step b entry rest w').1 = (s.step b entry rest w).1 ∧
      R (s.step b entry rest w).1 (s.step b entry rest w).2 (s.step b entry rest w').2
  settle : ∀ {s w w'} (limit : Time), R s w w' → (∀ entry ∈ s.pending.head?, limit < entry.due) →
    R (s.settle limit) w w'

/-- Where the run of one world ends, that of the other ends after as many events, and the worlds that
they leave are still related. -/
theorem Lockstep.exists_runUntil {R : Simulator ε → ω → ω → Prop} (lockstep : Lockstep b R)
    (related : R s w w') (run : runUntil b limit fuel s w = some (s', v)) :
    ∃ v', runUntil b limit fuel s w' = some (s', v') ∧ R s' v v' := by
  induction fuel generalizing s w w' with
  | zero =>
    by_cases idle : ∀ entry ∈ s.pending.head?, limit < entry.due
    · rw [runUntil_of_idle idle] at run ⊢
      cases run
      exact ⟨w', rfl, lockstep.settle limit related idle⟩
    · obtain ⟨entry, rest, pending, due⟩ := exists_due_of_not_idle idle
      rw [runUntil_zero_of_due pending due] at run
      cases run
  | succ fuel ih =>
    by_cases idle : ∀ entry ∈ s.pending.head?, limit < entry.due
    · rw [runUntil_of_idle idle] at run ⊢
      cases run
      exact ⟨w', rfl, lockstep.settle limit related idle⟩
    · obtain ⟨entry, rest, pending, due⟩ := exists_due_of_not_idle idle
      obtain ⟨same, related'⟩ := lockstep.step related pending
      rw [runUntil_of_due pending due] at run ⊢
      rw [same]
      split at run
      next stopped =>
        obtain ⟨rfl, rfl⟩ := Prod.ext_iff.1 (Option.some.inj run)
        rw [if_pos stopped]
        exact ⟨(s.step b entry rest w').2, Option.some_inj.2 (Prod.ext same rfl), related'⟩
      next running =>
        rw [if_neg running]
        exact ih related' run

end Simulator

end DenseDmg
