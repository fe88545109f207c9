import DenseDmg.Proofs.Engine.Order

/-!
# Runs that end

A run up to a limit is given the number of events that it may execute.  `Ends b limit s w out` says
that some number is enough and that the run leaves `out`, without naming the number.

* `exists_runUntil_iff`: these are the runs that the event loop ends.
* `runUntil_split`: a run up to a later limit is a run up to an earlier one and then up to the later
  one.
* `ends_of_weight`: a run ends if what is left to do gets less with every event.
-/

namespace DenseDmg

namespace Simulator

variable {ε ω : Type} {b : Behaviour ε ω} {s : Simulator ε} {w : ω} {limit : Time}
  {entry : Entry ε} {rest : List (Entry ε)} {out out' : Simulator ε × ω}

/-- A run up to a limit ends, and leaves this: where nothing is due, with an event that stops the
simulator, or with the run that follows an event. -/
inductive Ends (b : Behaviour ε ω) (limit : Time) :
    Simulator ε → ω → Simulator ε × ω → Prop
  | idle {s : Simulator ε} {w : ω} :
    (∀ entry ∈ s.pending.head?, limit < entry.due) → Ends b limit s w (s.settle limit, w)
  | stops {s : Simulator ε} {w : ω} {entry : Entry ε} {rest : List (Entry ε)} :
    s.pending = entry :: rest → ¬ limit < entry.due →
    (s.step b entry rest w).1.stopped = true → Ends b limit s w (s.step b entry rest w)
  | goes {s : Simulator ε} {w : ω} {entry : Entry ε} {rest : List (Entry ε)}
    {out : Simulator ε × ω} :
    s.pending = entry :: rest → ¬ limit < entry.due →
    ¬ (s.step b entry rest w).1.stopped = true →
    Ends b limit (s.step b entry rest w).1 (s.step b entry rest w).2 out → Ends b limit s w out

/-! ## The event loop -/

theorem Ends.of_runUntil {fuel : Nat} (run : runUntil b limit fuel s w = some out) :
    Ends b limit s w out := by
  induction fuel generalizing s w with
  | zero =>
    by_cases idle : ∀ entry ∈ s.pending.head?, limit < entry.due
    · rw [runUntil_of_idle idle] at run
      cases run
      exact .idle idle
    · obtain ⟨entry, rest, pending, due⟩ := exists_due_of_not_idle idle
      rw [runUntil_zero_of_due pending due] at run
      cases run
  | succ fuel ih =>
    by_cases idle : ∀ entry ∈ s.pending.head?, limit < entry.due
    · rw [runUntil_of_idle idle] at run
      cases run
      exact .idle idle
    · obtain ⟨entry, rest, pending, due⟩ := exists_due_of_not_idle idle
      rw [runUntil_of_due pending due] at run
      split at run
      next stopped =>
        cases run
        exact .stops pending due stopped
      next running => exact .goes pending due running (ih run)

theorem Ends.exists_runUntil (ends : Ends b limit s w out) :
    ∃ fuel, runUntil b limit fuel s w = some out := by
  induction ends with
  | idle idle => exact ⟨0, runUntil_of_idle idle⟩
  | stops pending due stopped =>
    exact ⟨1, by rw [runUntil_of_due pending due, if_pos stopped]⟩
  | goes pending due running _ ih =>
    obtain ⟨fuel, run⟩ := ih
    exact ⟨fuel + 1, by rw [runUntil_of_due pending due, if_neg running, run]⟩

/-- A run ends if the event loop ends it with some number of events. -/
theorem exists_runUntil_iff :
    (∃ fuel, runUntil b limit fuel s w = some out) ↔ Ends b limit s w out :=
  ⟨fun ⟨_, run⟩ => .of_runUntil run, Ends.exists_runUntil⟩

/-! ## The end of a run -/

theorem not_idle_of_due (pending : s.pending = entry :: rest) (due : ¬ limit < entry.due) :
    ¬ ∀ entry ∈ s.pending.head?, limit < entry.due :=
  fun idle => due (idle entry (by simp [pending]))

theorem Ends.of_idle (ends : Ends b limit s w out)
    (idle : ∀ entry ∈ s.pending.head?, limit < entry.due) : out = (s.settle limit, w) := by
  cases ends with
  | idle => rfl
  | stops pending due => exact absurd idle (not_idle_of_due pending due)
  | goes pending due => exact absurd idle (not_idle_of_due pending due)

theorem Ends.of_due (ends : Ends b limit s w out) (pending : s.pending = entry :: rest)
    (due : ¬ limit < entry.due) :
    ((s.step b entry rest w).1.stopped = true ∧ out = s.step b entry rest w) ∨
      (¬ (s.step b entry rest w).1.stopped = true ∧
        Ends b limit (s.step b entry rest w).1 (s.step b entry rest w).2 out) := by
  cases ends with
  | idle idle => exact absurd idle (not_idle_of_due pending due)
  | stops pending' _ stopped =>
    obtain ⟨rfl, rfl⟩ := List.cons.inj (pending.symm.trans pending')
    exact .inl ⟨stopped, rfl⟩
  | goes pending' _ running later =>
    obtain ⟨rfl, rfl⟩ := List.cons.inj (pending.symm.trans pending')
    exact .inr ⟨running, later⟩

theorem Ends.unique (ends : Ends b limit s w out) (ends' : Ends b limit s w out') :
    out = out' := by
  induction ends with
  | idle idle => exact (ends'.of_idle idle).symm
  | stops pending due stopped =>
    obtain ⟨-, rfl⟩ | ⟨running, -⟩ := ends'.of_due pending due
    · rfl
    · exact absurd stopped running
  | goes pending due running _ ih =>
    obtain ⟨stopped, -⟩ | ⟨-, later⟩ := ends'.of_due pending due
    · exact absurd stopped running
    · exact ih later

/-- Nothing is due any more at the end of a run that was not stopped. -/
theorem Ends.idle_of_running (ends : Ends b limit s w out) (running : out.1.stopped = false) :
    ∀ entry ∈ out.1.pending.head?, limit < entry.due := by
  induction ends with
  | idle idle => simpa using idle
  | stops pending due stopped =>
    rw [stopped] at running
    cases running
  | goes pending due goesOn _ ih => exact ih running

/-- At the end of a run the clock has not passed its limit. -/
theorem Ends.now_le (ends : Ends b limit s w out) (early : s.now ≤ limit) : out.1.now ≤ limit := by
  induction ends with
  | @idle s w idle =>
    unfold settle
    split
    · exact early
    · rw [Time.le_def, Time.nanos_max]
      exact Nat.max_le.2 ⟨early, Nat.le_refl _⟩
  | stops pending due stopped =>
    rw [now_step]
    exact Nat.not_lt.1 due
  | goes pending due goesOn _ ih =>
    apply ih
    rw [now_step]
    exact Nat.not_lt.1 due

/-- A run ends if what is left to do gets less with every event. -/
theorem ends_of_weight (Inv : Simulator ε → ω → Prop) (weight : Simulator ε → Nat)
    (falls : ∀ {s w entry rest}, Inv s w → s.pending = entry :: rest → ¬ limit < entry.due →
      Inv (s.step b entry rest w).1 (s.step b entry rest w).2 ∧
        weight (s.step b entry rest w).1 < weight s)
    (holds : Inv s w) : ∃ out, Ends b limit s w out := by
  induction most : weight s using Nat.strongRecOn generalizing s w with
  | ind _ ih =>
    subst most
    by_cases idle : ∀ entry ∈ s.pending.head?, limit < entry.due
    · exact ⟨_, .idle idle⟩
    · obtain ⟨entry, rest, pending, due⟩ := exists_due_of_not_idle idle
      obtain ⟨holds', less⟩ := falls holds pending due
      by_cases stopped : (s.step b entry rest w).1.stopped = true
      · exact ⟨_, .stops pending due stopped⟩
      · obtain ⟨out, later⟩ := ih _ less holds' rfl
        exact ⟨out, .goes pending due stopped later⟩

/-! ## Stopped simulators -/

/-- A stopped simulator has dropped its agenda. -/
def Dropped (s : Simulator ε) : Prop := s.stopped = true → s.pending = []

theorem Dropped.running (dropped : s.Dropped) (pending : s.pending = entry :: rest) :
    s.stopped = false := by
  cases stopped : s.stopped with
  | false => rfl
  | true => cases pending.symm.trans (dropped stopped)

theorem Dropped.schedule (dropped : s.Dropped) (due : Time) (event : ε) :
    (s.schedule due event).Dropped := by
  unfold Simulator.schedule
  split
  · exact dropped
  · next running => exact fun stopped => absurd stopped running

theorem Dropped.serve (dropped : s.Dropped) (r : Request ε) : (s.serve r).Dropped := by
  cases r with
  | atTime due event => exact dropped.schedule due event
  | afterDelay delay event => exact dropped.schedule _ event
  | stop => exact fun _ => rfl

theorem Dropped.foldl_serve (dropped : s.Dropped) (rs : List (Request ε)) :
    (rs.foldl Simulator.serve s).Dropped := by
  induction rs generalizing s with
  | nil => exact dropped
  | cons r rs ih => exact ih (dropped.serve r)

theorem Dropped.step (dropped : s.Dropped) (pending : s.pending = entry :: rest) :
    (s.step b entry rest w).1.Dropped := by
  have taking : (s.taking entry rest).Dropped := by
    intro stopped
    rw [Simulator.taking, dropped.running pending] at stopped
    cases stopped
  rw [step_eq]
  dsimp only
  split
  · exact fun _ => rfl
  · exact taking.foldl_serve _

/-- A run of a stopped simulator ends at once and leaves everything as it is. -/
theorem Dropped.ends (dropped : s.Dropped) (stopped : s.stopped = true) :
    Ends b limit s w (s, w) := by
  have idle : ∀ entry ∈ s.pending.head?, limit < entry.due := by simp [dropped stopped]
  have ends : Ends b limit s w (s.settle limit, w) := .idle idle
  rwa [settle_of_stopped stopped] at ends

/-! ## A run in two parts -/

section Splitting

variable {t₁ t₂ : Time}

theorem settle_settle (le : t₁ ≤ t₂) : (s.settle t₁).settle t₂ = s.settle t₂ := by
  cases stopped : s.stopped with
  | true => rw [settle_of_stopped stopped]
  | false =>
    have later : max (max s.now t₁) t₂ = max s.now t₂ := by
      rw [Time.le_def] at le
      simp only [Time.ext_iff, Time.nanos_max]
      omega
    rw [settle_of_running stopped t₁, settle_of_running stopped t₂,
      settle_of_running (by exact stopped), later]

/-- An event sets the clock, wherever the clock was moved before. -/
theorem step_settle (dropped : s.Dropped) (pending : s.pending = entry :: rest) :
    (s.settle limit).step b entry rest w = s.step b entry rest w := by
  rw [settle_of_running (dropped.running pending)]
  rfl

/-- Moving the clock on does not change what a later run does: its first event sets the clock, and
without one it moves the clock on further. -/
theorem ends_settle_iff (dropped : s.Dropped) (le : t₁ ≤ t₂) :
    Ends b t₂ (s.settle t₁) w out ↔ Ends b t₂ s w out := by
  by_cases idle : ∀ entry ∈ s.pending.head?, t₂ < entry.due
  · have moved : Ends b t₂ (s.settle t₁) w (s.settle t₂, w) :=
      settle_settle le ▸ .idle (by rwa [pending_settle])
    have here : Ends b t₂ s w (s.settle t₂, w) := .idle idle
    exact ⟨fun ends => ends.unique moved ▸ here, fun ends => ends.unique here ▸ moved⟩
  · obtain ⟨entry, rest, pending, due⟩ := exists_due_of_not_idle idle
    have pending' : (s.settle t₁).pending = entry :: rest := by rwa [pending_settle]
    have same : (s.settle t₁).step b entry rest w = s.step b entry rest w :=
      step_settle dropped pending
    constructor
    · intro ends
      rcases ends.of_due pending' due with ⟨stopped, rfl⟩ | ⟨running, later⟩
      · rw [same] at stopped ⊢
        exact .stops pending due stopped
      · rw [same] at running later
        exact .goes pending due running later
    · intro ends
      rcases ends.of_due pending due with ⟨stopped, rfl⟩ | ⟨running, later⟩
      · rw [← same] at stopped ⊢
        exact .stops pending' due stopped
      · rw [← same] at running later
        exact .goes pending' due running later

/-- A run that ends has a first part that ends. -/
theorem Ends.split (ends : Ends b t₂ s w out) (dropped : s.Dropped) (le : t₁ ≤ t₂) :
    ∃ mid, Ends b t₁ s w mid ∧ Ends b t₂ mid.1 mid.2 out := by
  induction ends with
  | @idle s w idle =>
    have idle' : ∀ entry ∈ s.pending.head?, t₁ < entry.due :=
      fun entry head => Nat.lt_of_le_of_lt le (idle entry head)
    exact ⟨_, .idle idle', (ends_settle_iff dropped le).2 (.idle idle)⟩
  | @stops s w entry rest pending due stopped =>
    by_cases early : t₁ < entry.due
    · have idle : ∀ entry ∈ s.pending.head?, t₁ < entry.due := by simpa [pending] using early
      exact ⟨_, .idle idle, (ends_settle_iff dropped le).2 (.stops pending due stopped)⟩
    · exact ⟨_, .stops pending early stopped, (dropped.step pending).ends stopped⟩
  | @goes s w entry rest out pending due running later ih =>
    by_cases early : t₁ < entry.due
    · have idle : ∀ entry ∈ s.pending.head?, t₁ < entry.due := by simpa [pending] using early
      exact ⟨_, .idle idle, (ends_settle_iff dropped le).2 (.goes pending due running later)⟩
    · obtain ⟨mid, first, second⟩ := ih (dropped.step pending)
      exact ⟨mid, .goes pending early running first, second⟩

/-- Two parts that end make one run. -/
theorem Ends.join {mid : Simulator ε × ω} (first : Ends b t₁ s w mid)
    (second : Ends b t₂ mid.1 mid.2 out) (dropped : s.Dropped) (le : t₁ ≤ t₂) :
    Ends b t₂ s w out := by
  have still : ∀ {entry : Entry ε}, ¬ t₁ < entry.due → ¬ t₂ < entry.due :=
    fun due late => due (Nat.lt_of_le_of_lt le late)
  induction first with
  | idle idle => exact (ends_settle_iff dropped le).1 second
  | stops pending due stopped =>
    rw [second.unique ((dropped.step pending).ends stopped)]
    exact .stops pending (still due) stopped
  | goes pending due running _ ih =>
    exact .goes pending (still due) running (ih second (dropped.step pending))

/-- A run up to `t₂` ends with an outcome if and only if a run up to `t₁` ends and a run from there
up to `t₂` ends with that outcome; and there is only one outcome.  Every simulator that is driven
from the start has dropped its agenda once it is stopped, see `Driven.Reached.dropped`. -/
theorem runUntil_split (dropped : s.stopped = true → s.pending = []) (le : t₁ ≤ t₂) :
    (∀ out, (∃ fuel, runUntil b t₂ fuel s w = some out) ↔
      ∃ mid, (∃ fuel, runUntil b t₁ fuel s w = some mid) ∧
        ∃ fuel, runUntil b t₂ fuel mid.1 mid.2 = some out) ∧
    ∀ fuel fuel' out out', runUntil b t₂ fuel s w = some out →
      runUntil b t₂ fuel' s w = some out' → out = out' := by
  refine ⟨fun out => ?_, fun _ _ _ _ run run' => (Ends.of_runUntil run).unique (.of_runUntil run')⟩
  simp only [exists_runUntil_iff]
  exact ⟨fun ends => ends.split dropped le, fun ⟨_, first, second⟩ => first.join second dropped le⟩

end Splitting

/-! ### A countdown -/

namespace Countdown

/-- Every event asks for the next smaller one a nanosecond later; zero stops the simulator.  The
world lists the events, the latest one first. -/
def behaviour : Behaviour Nat (List Nat) where
  act _ n log := (n :: log, if 0 < n then [.afterDelay (.ofNanos 1) (n - 1)] else [.stop])
  halted _ := false

/-- A countdown from two, and another one that begins later. -/
def start : Simulator Nat := (fresh.schedule (.ofNanos 1) 2).schedule (.ofNanos 9) 5

end Countdown

open Countdown in
/-- The first countdown stops the simulator at 3 ns; a run to 9 ns may pause at 2 ns, in the middle
of it. -/
theorem runUntil_split_countdown :
    (start.stopped = true → start.pending = []) ∧ Time.ofNanos 2 ≤ .ofNanos 9 ∧
      ∃ mid, (∃ fuel, runUntil behaviour (.ofNanos 2) fuel start [] = some mid) ∧
        ∃ fuel, runUntil behaviour (.ofNanos 9) fuel mid.1 mid.2 =
          some (⟨.ofNanos 3, 4, 3, true, []⟩, [0, 1, 2]) := by
  have running : start.stopped = true → start.pending = [] := by
    intro stopped
    cases stopped
  have le : Time.ofNanos 2 ≤ .ofNanos 9 := by decide
  have whole : runUntil behaviour (.ofNanos 9) 3 start [] =
      some (⟨.ofNanos 3, 4, 3, true, []⟩, [0, 1, 2]) := rfl
  exact ⟨running, le, ((runUntil_split running le).1 _).1 ⟨3, whole⟩⟩

end Simulator

end DenseDmg
