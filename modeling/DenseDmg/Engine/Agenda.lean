import DenseDmg.Time

/-!
# The agenda of pending events

An agenda is a list of entries in the order in which they are to be executed: by the time they
are due, and among entries due at one time by the order in which they were scheduled.
-/

namespace DenseDmg

/-- A pending event: when it is due, and its position in the order of scheduling. -/
structure Entry (ε : Type) where
  due : Time
  seq : Nat
  event : ε
deriving DecidableEq

namespace Entry

variable {ε : Type}

/-- Whether an entry is executed before another one. -/
def Before (a b : Entry ε) : Prop := a.due < b.due ∨ (a.due = b.due ∧ a.seq < b.seq)

instance (a b : Entry ε) : Decidable (a.Before b) :=
  inferInstanceAs (Decidable (a.due < b.due ∨ (a.due = b.due ∧ a.seq < b.seq)))

theorem Before.trans {a b c : Entry ε} (hab : a.Before b) (hbc : b.Before c) : a.Before c := by
  simp only [Before, Time.lt_def, Time.ext_iff] at *
  omega

theorem not_before_self (a : Entry ε) : ¬ a.Before a := by
  simp only [Before, Time.lt_def]
  omega

/-- Entries with different positions in the order of scheduling are comparable. -/
theorem before_or_before {a b : Entry ε} (h : a.seq ≠ b.seq) : a.Before b ∨ b.Before a := by
  simp only [Before, Time.lt_def, Time.ext_iff]
  omega

end Entry

namespace Agenda

variable {ε : Type}

/-- Put an entry at its place. -/
def insert (e : Entry ε) : List (Entry ε) → List (Entry ε)
  | [] => [e]
  | x :: xs => if e.Before x then e :: x :: xs else x :: insert e xs

theorem perm_insert (e : Entry ε) (xs : List (Entry ε)) : (insert e xs).Perm (e :: xs) := by
  induction xs with
  | nil => exact .refl _
  | cons x xs ih =>
    unfold insert
    split
    · exact .refl _
    · exact (ih.cons x).trans (.swap ..)

theorem mem_insert {e a : Entry ε} {xs : List (Entry ε)} : a ∈ insert e xs ↔ a = e ∨ a ∈ xs := by
  rw [(perm_insert e xs).mem_iff, List.mem_cons]

theorem length_insert (e : Entry ε) (xs : List (Entry ε)) :
    (insert e xs).length = xs.length + 1 := by
  rw [(perm_insert e xs).length_eq, List.length_cons]

/-- An agenda stays in order when an entry with a position of its own is put in. -/
theorem pairwise_insert {e : Entry ε} {xs : List (Entry ε)} (fresh : ∀ x ∈ xs, x.seq ≠ e.seq)
    (sorted : xs.Pairwise Entry.Before) : (insert e xs).Pairwise Entry.Before := by
  induction xs with
  | nil => simp [insert]
  | cons x xs ih =>
    rw [List.pairwise_cons] at sorted
    unfold insert
    split
    next before =>
      refine List.pairwise_cons.2 ⟨fun y hy => ?_, List.pairwise_cons.2 sorted⟩
      rcases List.mem_cons.1 hy with rfl | hy
      · exact before
      · exact before.trans (sorted.1 y hy)
    next after =>
      refine List.pairwise_cons.2
        ⟨fun y hy => ?_, ih (fun y hy => fresh y (List.mem_cons_of_mem _ hy)) sorted.2⟩
      rcases mem_insert.1 hy with rfl | hy
      · exact (Entry.before_or_before (fresh x (List.mem_cons_self ..))).resolve_right after
      · exact sorted.1 y hy

end Agenda

end DenseDmg
