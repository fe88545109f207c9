import DenseDmg.Proofs.Engine.Order

/-!
# The clock along a history

The clock of a simulator never goes back, so the moments of a history were due one after the other,
and all of them by now.  What is pending was pending before or was asked for by the last event,
whether or not that event halted its world.

* `History.pairwise_due`: no moment of a history was due before an earlier one.
* `History.forall_pending`: what holds of the first entries, and of every entry that an event asks
  for, holds of every entry that is ever pending.
-/

namespace DenseDmg

variable {ε ω : Type} {b : Behaviour ε ω} {s s₀ : Simulator ε} {w w₀ : ω}
  {ms : List (Moment ε ω)} {entry e : Entry ε} {rest : List (Entry ε)}

theorem Simulator.executed_foldl_serve (rs : List (Request ε)) :
    (rs.foldl serve s).executed = s.executed := by
  induction rs generalizing s with
  | nil => rfl
  | cons r rs ih =>
    refine (ih (s := s.serve r)).trans ?_
    cases r <;> simp only [serve, scheduleIn, schedule, stop] <;> split <;> rfl

/-- Executing an entry counts one event. -/
theorem Simulator.executed_step (entry : Entry ε) (rest : List (Entry ε)) :
    (s.step b entry rest w).1.executed = s.executed + 1 := by
  rw [step_eq]
  dsimp only
  split
  · exact executed_foldl_serve (s := s.taking entry rest) _
  · exact executed_foldl_serve (s := s.taking entry rest) _

@[simp] theorem Simulator.executed_settle (limit : Time) :
    (s.settle limit).executed = s.executed := by
  unfold settle
  split <;> rfl

/-- An entry that is pending after an event was pending before, or the event asked for it. -/
theorem Simulator.mem_pending_step (running : s.stopped = false)
    (schedule : ∀ r ∈ (b.act (s.taking entry rest) entry.event w).2, r.Schedules)
    (mem : e ∈ (s.step b entry rest w).1.pending) :
    e ∈ Request.entries entry.due s.nextSeq (b.act (s.taking entry rest) entry.event w).2 ∨
      e ∈ rest := by
  obtain ⟨-, -, perm⟩ := perm_foldl_serve (s := s.taking entry rest) schedule running
  rw [step_eq] at mem
  dsimp only at mem
  split at mem
  · cases mem
  · exact List.mem_append.1 (perm.mem_iff.1 mem)

namespace History

/-- The simulator counts the moments of its history. -/
theorem executed (history : History b s₀ w₀ ms s w) : s.executed = s₀.executed + ms.length := by
  induction history with
  | start => rfl
  | execute _ _ ih => rw [Simulator.executed_step, ih, List.length_cons, Nat.add_assoc]
  | settle limit _ _ ih => rw [Simulator.executed_settle, ih]

/-- Every event that was executed was due by now. -/
theorem due_le_now (history : History b s₀ w₀ ms s w) (order : s₀.InOrder) :
    ∀ m ∈ ms, m.entry.due ≤ s.now := by
  induction history with
  | start => exact nofun
  | @execute ms s w entry rest before pending ih =>
    intro m mem
    rw [Simulator.now_step]
    rcases List.mem_cons.1 mem with rfl | mem
    · exact Nat.le_refl _
    · have later := (before.inOrder order).now_le entry (by simp [pending])
      exact Nat.le_trans (ih m mem) later
  | settle limit _ _ ih =>
    intro m mem
    exact Nat.le_trans (ih m mem) (Simulator.now_le_settle _ limit)

/-- The events of a history were executed in the order of time. -/
theorem pairwise_due (history : History b s₀ w₀ ms s w) (order : s₀.InOrder) :
    ms.Pairwise fun later earlier => earlier.entry.due ≤ later.entry.due := by
  induction history with
  | start => exact .nil
  | @execute ms s w entry rest before pending ih =>
    have now := (before.inOrder order).now_le entry (by simp [pending])
    refine List.pairwise_cons.2 ⟨fun m mem => ?_, ih⟩
    exact Nat.le_trans (before.due_le_now order m mem) now
  | settle _ _ _ ih => exact ih

/-- What holds of the entries that are pending at first, and of every entry that an event asks for
if it holds of the entry of that event, holds of all that are ever pending. -/
theorem forall_pending {P : Entry ε → Prop} (order : s₀.InOrder)
    (schedules : ∀ {s w event}, ∀ r ∈ (b.act s event w).2, Request.Schedules r)
    (first : ∀ e ∈ s₀.pending, P e)
    (asked : ∀ {ms s w entry rest}, History b s₀ w₀ ms s w → s.pending = entry :: rest → P entry →
      ∀ r ∈ (b.act (s.taking entry rest) entry.event w).2, ∀ e, r.entry? entry.due e.seq = some e →
        P e)
    (history : History b s₀ w₀ ms s w) : ∀ e ∈ s.pending, P e := by
  induction history with
  | start => exact first
  | @execute ms s w entry rest before pending ih =>
    intro e mem
    have running := (before.inOrder order).running pending
    rcases Simulator.mem_pending_step running schedules mem with new | old
    · obtain ⟨⟨r, memr, entry?⟩, -, -⟩ := Request.of_mem_entries new
      exact asked before pending (ih entry (by simp [pending])) r memr e entry?
    · exact ih e (by rw [pending]; exact List.mem_cons_of_mem _ old)
  | settle limit _ _ ih => simpa using ih

end History

end DenseDmg
