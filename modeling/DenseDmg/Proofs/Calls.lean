import Mathlib.Data.List.Induction

/-!
# Calls and their answers

A state takes calls one after the other and answers them; a call for which `perform` gives `none`
ends everything.  `answered perform s calls` is the state after the calls, the earliest one first,
with the history of calls and answers.

* `getElem?_concat_eq_some_iff`, `filterMap_concat_of_none` and `filterMap_concat_of_some`: what one
  more entry does to a history.
* `invariant_of_answered`: what every call preserves holds after all of them.
* `answered_map`: states that do the same call by call do the same through all calls.
-/

namespace DenseDmg

variable {σ τ α β : Type}

/-! ## One more entry -/

/-- What stands in a list to which one entry was added. -/
theorem getElem?_concat_eq_some_iff {xs : List α} {x y : α} {i : Nat} :
    (xs ++ [x])[i]? = some y ↔ xs[i]? = some y ∨ i = xs.length ∧ x = y := by
  grind

/-- An entry that a selection leaves out does not matter to it. -/
theorem filterMap_concat_of_none {f : α → Option β} {xs : List α} {x : α} (none : f x = none) :
    (xs ++ [x]).filterMap f = xs.filterMap f := by
  rw [List.filterMap_append, List.filterMap_cons_none none]
  exact List.append_nil _

/-- The last entry that a selection takes is the last of what it takes. -/
theorem filterMap_concat_of_some {f : α → Option β} {xs : List α} {x : α} {y : β}
    (some : f x = some y) : (xs ++ [x]).filterMap f = xs.filterMap f ++ [y] := by
  rw [List.filterMap_append, List.filterMap_cons_some some]
  rfl

/-! ## Histories -/

def answered (perform : σ → α → Option (σ × β)) (s : σ) (calls : List α) :
    Option (σ × List (α × β)) :=
  calls.foldlM (fun (s, history) call =>
    (perform s call).map fun (s, answer) => (s, history ++ [(call, answer)])) (s, [])

variable {perform : σ → α → Option (σ × β)} {perform' : τ → α → Option (τ × β)} {s s' : σ}
  {calls : List α} {history : List (α × β)}

theorem answered_concat (perform : σ → α → Option (σ × β)) (s : σ) (calls : List α) (call : α) :
    answered perform s (calls ++ [call]) = (answered perform s calls).bind fun (s, history) =>
      (perform s call).map fun (s, answer) => (s, history ++ [(call, answer)]) := by
  simp only [answered, List.foldlM_append, List.foldlM_cons, List.foldlM_nil, bind_pure]
  rfl

/-- The last of several calls is made after the others. -/
theorem answered_concat_eq_some_iff {call : α} :
    answered perform s (calls ++ [call]) = some (s', history) ↔ ∃ middle before answer,
      answered perform s calls = some (middle, before) ∧
        perform middle call = some (s', answer) ∧ history = before ++ [(call, answer)] := by
  rw [answered_concat, Option.bind_eq_some_iff]
  constructor
  · rintro ⟨⟨middle, before⟩, first, last⟩
    obtain ⟨⟨final, answer⟩, performed, same⟩ := Option.map_eq_some_iff.1 last
    cases same
    exact ⟨middle, before, answer, first, performed, rfl⟩
  · rintro ⟨middle, before, answer, first, performed, rfl⟩
    exact ⟨(middle, before), first, Option.map_eq_some_iff.2 ⟨(s', answer), performed, rfl⟩⟩

/-- The history tells of the calls in their order. -/
theorem map_fst_of_answered (ran : answered perform s calls = some (s', history)) :
    history.map Prod.fst = calls := by
  induction calls using List.reverseRecOn generalizing s' history with
  | nil =>
    cases ran
    rfl
  | append_singleton calls call ih =>
    obtain ⟨middle, before, answer, first, -, rfl⟩ := answered_concat_eq_some_iff.1 ran
    rw [List.map_append, ih first]
    rfl

/-- What holds at first and is preserved by every call holds after any calls. -/
theorem invariant_of_answered {P : σ → List (α × β) → Prop} (start : P s [])
    (step : ∀ {s history call s' answer}, P s history → perform s call = some (s', answer) →
      P s' (history ++ [(call, answer)]))
    (ran : answered perform s calls = some (s', history)) : P s' history := by
  induction calls using List.reverseRecOn generalizing s' history with
  | nil =>
    cases ran
    exact start
  | append_singleton calls call ih =>
    obtain ⟨middle, before, answer, first, performed, rfl⟩ := answered_concat_eq_some_iff.1 ran
    exact step (ih first) performed

/-- What does the same as the view of a state at every call does the same through all calls. -/
theorem answered_map {f : σ → τ} {P : σ → Prop} (start : P s)
    (keeps : ∀ {s call s' answer}, P s → perform s call = some (s', answer) → P s')
    (same : ∀ {s} call, P s →
      perform' (f s) call = (perform s call).map fun (s', answer) => (f s', answer)) :
    answered perform' (f s) calls =
      (answered perform s calls).map fun (s', history) => (f s', history) := by
  induction calls using List.reverseRecOn with
  | nil => rfl
  | append_singleton calls call ih =>
    rw [answered_concat, answered_concat, ih]
    cases ran : answered perform s calls with
    | none => rfl
    | some result =>
      obtain ⟨middle, history⟩ := result
      have holds : P middle :=
        invariant_of_answered (P := fun s _ => P s) start keeps ran
      simp only [Option.map_some, Option.bind_some, same call holds, Option.map_map]
      rfl

/-- Calls none of which can end everything are all answered. -/
theorem exists_answered (step : σ → α → σ × β) (s : σ) (calls : List α) :
    ∃ s' history, answered (fun s call => some (step s call)) s calls = some (s', history) := by
  induction calls using List.reverseRecOn with
  | nil => exact ⟨s, [], rfl⟩
  | append_singleton calls call ih =>
    obtain ⟨middle, before, ran⟩ := ih
    exact ⟨_, _, answered_concat_eq_some_iff.2 ⟨middle, before, _, ran, rfl, rfl⟩⟩

end DenseDmg
