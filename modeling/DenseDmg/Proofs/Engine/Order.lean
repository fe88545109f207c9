import DenseDmg.Proofs.Engine.History

/-!
# The agenda along a history

What every state between two events has in common: the agenda is in the order of execution, its
entries were scheduled earlier and are not due before now, and a stopped simulator has none.

* `InOrder.step`, `History.inOrder`: these facts are kept by every event and by every history.
* `perm_foldl_serve`: serving requests that do not stop the simulator adds exactly the entries they
  ask for.
* `History.not_halted`: nothing is executed in a halted world.
-/

namespace DenseDmg

variable {ε ω : Type}

theorem Entry.before_of_le {a b : Entry ε} (due : a.due ≤ b.due) (seq : a.seq < b.seq) :
    a.Before b := by
  rw [Time.le_def] at due
  simp only [Entry.Before, Time.lt_def, Time.ext_iff]
  omega

/-! ## What requests ask for -/

/-- The entry that a request asks for at a given instant, at a given position in the order of
scheduling. -/
def Request.entry? (now : Time) (seq : Nat) : Request ε → Option (Entry ε)
  | .atTime due event => some ⟨max due now, seq, event⟩
  | .afterDelay delay event => some ⟨max (now + delay) now, seq, event⟩
  | .stop => none

/-- The entries that requests ask for, served one after the other. -/
def Request.entries (now : Time) : Nat → List (Request ε) → List (Entry ε)
  | _, [] => []
  | seq, r :: rs => (r.entry? now seq).toList ++ Request.entries now (seq + 1) rs

/-- The requests that schedule something. -/
def Request.Schedules (r : Request ε) : Prop := r ≠ .stop

/-- What a request schedules. -/
def Request.event? : Request ε → Option ε
  | .atTime _ event | .afterDelay _ event => some event
  | .stop => none

theorem Request.schedules_of_event? {r : Request ε} {event : ε} (asks : r.event? = some event) :
    r.Schedules := by
  rintro rfl
  cases asks

/-- The events of the entries that requests ask for. -/
theorem Request.map_event_entries (now : Time) (seq : Nat) (rs : List (Request ε)) :
    (Request.entries now seq rs).map Entry.event = rs.filterMap Request.event? := by
  induction rs generalizing seq with
  | nil => rfl
  | cons r rs ih =>
    rw [Request.entries, List.map_append, ih]
    cases r <;> rfl

theorem Request.entries_append (now : Time) (seq : Nat) (rs rs' : List (Request ε)) :
    Request.entries now seq (rs ++ rs') =
      Request.entries now seq rs ++ Request.entries now (seq + rs.length) rs' := by
  induction rs generalizing seq with
  | nil => rfl
  | cons r rs ih =>
    simp only [List.cons_append, Request.entries, ih, List.append_assoc, List.length_cons]
    rw [Nat.add_right_comm seq 1, Nat.add_assoc]

theorem Request.of_entry? {now : Time} {seq : Nat} {r : Request ε} {e : Entry ε}
    (asked : r.entry? now seq = some e) : e.seq = seq ∧ r.event? = some e.event := by
  cases r with
  | atTime due event => cases asked; exact ⟨rfl, rfl⟩
  | afterDelay delay event => cases asked; exact ⟨rfl, rfl⟩
  | stop => cases asked

/-- An entry that requests ask for belongs to one of them, and stands among them in the order of
scheduling. -/
theorem Request.of_mem_entries {now : Time} {seq : Nat} {rs : List (Request ε)} {e : Entry ε}
    (mem : e ∈ Request.entries now seq rs) :
    (∃ r ∈ rs, r.entry? now e.seq = some e) ∧ seq ≤ e.seq ∧ e.seq < seq + rs.length := by
  induction rs generalizing seq with
  | nil => cases mem
  | cons r rs ih =>
    rw [Request.entries, List.mem_append] at mem
    rw [List.length_cons]
    rcases mem with head | tail
    · have asked : r.entry? now seq = some e := by simpa using head
      have position := (Request.of_entry? asked).1
      rw [position]
      exact ⟨⟨r, List.mem_cons_self, asked⟩, Nat.le_refl _,
        Nat.lt_add_of_pos_right (Nat.succ_pos _)⟩
    · rcases ih tail with ⟨⟨r', mem', asked⟩, after, before⟩
      refine ⟨⟨r', List.mem_cons_of_mem _ mem', asked⟩, ?_, ?_⟩ <;> omega

/-- What is asked for at an instant is scheduled. -/
theorem Request.exists_mem_entries (now : Time) (seq : Nat) {rs : List (Request ε)} {due : Time}
    {event : ε} (mem : .atTime due event ∈ rs) :
    ∃ e ∈ Request.entries now seq rs, e.due = max due now ∧ e.event = event := by
  induction rs generalizing seq with
  | nil => cases mem
  | cons r rs ih =>
    rw [Request.entries]
    rcases List.mem_cons.1 mem with rfl | mem
    · exact ⟨⟨max due now, seq, event⟩, List.mem_append_left _ (List.mem_singleton.2 rfl), rfl, rfl⟩
    · rcases ih (seq + 1) mem with ⟨e, meme, asked⟩
      exact ⟨e, List.mem_append_right _ meme, asked⟩

namespace Simulator

variable {b : Behaviour ε ω} {s : Simulator ε} {w : ω}

/-! ## Serving requests -/

@[simp] theorem schedule_of_stopped (stopped : s.stopped = true) (due : Time) (event : ε) :
    s.schedule due event = s := by
  rw [schedule, if_pos stopped]

theorem schedule_of_running (running : s.stopped = false) (due : Time) (event : ε) :
    s.schedule due event =
      { s with
        nextSeq := s.nextSeq + 1
        pending := Agenda.insert ⟨max due s.now, s.nextSeq, event⟩ s.pending } := by
  rw [schedule, if_neg (by simp [running])]

/-- A request that schedules something puts its entry on the agenda of a running simulator. -/
theorem serve_of_running (running : s.stopped = false) {r : Request ε} (schedules : r.Schedules) :
    ∃ e, r.entry? s.now s.nextSeq = some e ∧
      s.serve r =
        { s with nextSeq := s.nextSeq + 1, pending := Agenda.insert e s.pending } := by
  cases r with
  | atTime due event => exact ⟨_, rfl, schedule_of_running running ..⟩
  | afterDelay delay event => exact ⟨_, rfl, schedule_of_running running ..⟩
  | stop => exact absurd rfl schedules

theorem now_serve (r : Request ε) : (s.serve r).now = s.now := by
  cases r <;> simp only [serve, scheduleIn, schedule, stop] <;> split <;> rfl

theorem now_foldl_serve (rs : List (Request ε)) : (rs.foldl serve s).now = s.now := by
  induction rs generalizing s with
  | nil => rfl
  | cons r rs ih => exact ih.trans (now_serve r)

/-- Requests that schedule something leave the simulator running and add the entries that they
ask for. -/
theorem perm_foldl_serve {rs : List (Request ε)} (schedule : ∀ r ∈ rs, r.Schedules)
    (running : s.stopped = false) :
    (rs.foldl serve s).stopped = false ∧ (rs.foldl serve s).now = s.now ∧
      (rs.foldl serve s).pending.Perm (Request.entries s.now s.nextSeq rs ++ s.pending) := by
  induction rs generalizing s with
  | nil => exact ⟨running, rfl, .refl _⟩
  | cons r rs ih =>
    rcases serve_of_running running (schedule r List.mem_cons_self) with ⟨e, asked, served⟩
    have running' : (s.serve r).stopped = false := by rw [served]; exact running
    obtain ⟨running'', now, perm⟩ :=
      ih (fun r' mem => schedule r' (List.mem_cons_of_mem _ mem)) running'
    refine ⟨running'', by rw [List.foldl_cons, now, now_serve], ?_⟩
    rw [List.foldl_cons, Request.entries, asked]
    refine perm.trans ?_
    rw [served]
    refine ((Agenda.perm_insert e s.pending).append_left _).trans ?_
    exact List.perm_middle

/-! ## The invariant of the agenda -/

/-- The agenda is in the order of execution, and its entries were scheduled earlier and are not
due before now; a stopped simulator has none. -/
structure InOrder (s : Simulator ε) : Prop where
  sorted : s.pending.Pairwise Entry.Before
  seq_lt : ∀ e ∈ s.pending, e.seq < s.nextSeq
  now_le : ∀ e ∈ s.pending, s.now ≤ e.due
  stopped : s.stopped = true → s.pending = []

theorem InOrder.fresh : (Simulator.fresh : Simulator ε).InOrder where
  sorted := .nil
  seq_lt := by simp [Simulator.fresh]
  now_le := by simp [Simulator.fresh]
  stopped := fun _ => rfl

theorem InOrder.running (order : s.InOrder) {entry : Entry ε} {rest : List (Entry ε)}
    (pending : s.pending = entry :: rest) : s.stopped = false := by
  cases stopped : s.stopped with
  | false => rfl
  | true => cases pending.symm.trans (order.stopped stopped)

/-- The first entry comes before all others. -/
theorem InOrder.before_of_mem (order : s.InOrder) {entry e : Entry ε} {rest : List (Entry ε)}
    (pending : s.pending = entry :: rest) (mem : e ∈ rest) : entry.Before e := by
  have sorted := order.sorted
  rw [pending, List.pairwise_cons] at sorted
  exact sorted.1 e mem

theorem InOrder.schedule (order : s.InOrder) (due : Time) (event : ε) :
    (s.schedule due event).InOrder := by
  cases stopped : s.stopped with
  | true => rwa [schedule_of_stopped stopped]
  | false =>
    rw [schedule_of_running stopped]
    refine ⟨Agenda.pairwise_insert (fun e mem => Nat.ne_of_lt (order.seq_lt e mem)) order.sorted,
      ?_, ?_, ?_⟩
    · intro e mem
      rcases Agenda.mem_insert.1 mem with rfl | mem
      · exact Nat.lt_succ_self _
      · exact Nat.lt_succ_of_lt (order.seq_lt e mem)
    · intro e mem
      rcases Agenda.mem_insert.1 mem with rfl | mem
      · rw [Time.le_def, Time.nanos_max]
        exact Nat.le_max_right ..
      · exact order.now_le e mem
    · intro contra
      rw [stopped] at contra
      cases contra

theorem InOrder.stop (_ : s.InOrder) : s.stop.InOrder where
  sorted := .nil
  seq_lt := by simp [Simulator.stop]
  now_le := by simp [Simulator.stop]
  stopped := fun _ => rfl

theorem InOrder.serve (order : s.InOrder) (r : Request ε) : (s.serve r).InOrder := by
  cases r with
  | atTime due event => exact order.schedule due event
  | afterDelay delay event => exact order.schedule _ event
  | stop => exact order.stop

theorem InOrder.foldl_serve (order : s.InOrder) (rs : List (Request ε)) :
    (rs.foldl Simulator.serve s).InOrder := by
  induction rs generalizing s with
  | nil => exact order
  | cons r rs ih => exact ih (order.serve r)

/-- The simulator in which an entry is executed: the clock shows when the entry is due. -/
def taking (s : Simulator ε) (entry : Entry ε) (rest : List (Entry ε)) : Simulator ε :=
  { s with now := entry.due, executed := s.executed + 1, pending := rest }

theorem InOrder.taking (order : s.InOrder) {entry : Entry ε} {rest : List (Entry ε)}
    (pending : s.pending = entry :: rest) : (s.taking entry rest).InOrder where
  sorted := by
    have sorted := order.sorted
    rw [pending, List.pairwise_cons] at sorted
    exact sorted.2
  seq_lt := fun e mem => order.seq_lt e (by rw [pending]; exact List.mem_cons_of_mem _ mem)
  now_le := by
    intro e mem
    have before := order.before_of_mem pending mem
    simp only [Entry.Before, Time.lt_def, Time.ext_iff] at before
    show entry.due.nanos ≤ e.due.nanos
    omega
  stopped := by
    intro stopped
    have running := order.running pending
    rw [Simulator.taking] at stopped
    rw [running] at stopped
    cases stopped

/-- What executing an entry comes to. -/
theorem step_eq (entry : Entry ε) (rest : List (Entry ε)) :
    s.step b entry rest w =
      let acted := b.act (s.taking entry rest) entry.event w
      let served := acted.2.foldl serve (s.taking entry rest)
      (if b.halted acted.1 then served.stop else served, acted.1) := rfl

theorem InOrder.step (order : s.InOrder) {entry : Entry ε} {rest : List (Entry ε)}
    (pending : s.pending = entry :: rest) : (s.step b entry rest w).1.InOrder := by
  rw [step_eq]
  have served := (order.taking pending).foldl_serve
    (b.act (s.taking entry rest) entry.event w).2
  dsimp only
  split
  · exact served.stop
  · exact served

/-- Executing an entry that does not halt the world and asks for nothing but events leaves the
simulator running. -/
theorem stopped_step {entry : Entry ε} {rest : List (Entry ε)} (running : s.stopped = false)
    (schedule : ∀ r ∈ (b.act (s.taking entry rest) entry.event w).2, r.Schedules)
    (sound : b.halted (s.step b entry rest w).2 = false) :
    (s.step b entry rest w).1.stopped = false := by
  obtain ⟨served, -, -⟩ := perm_foldl_serve (s := s.taking entry rest) schedule running
  rw [step_eq] at sound ⊢
  dsimp only at sound ⊢
  rw [if_neg (by simp [sound])]
  exact served

/-- Executing an entry that does not halt the world takes it off the agenda and adds the entries
that are asked for. -/
theorem perm_pending_step {entry : Entry ε} {rest : List (Entry ε)} (running : s.stopped = false)
    (schedule : ∀ r ∈ (b.act (s.taking entry rest) entry.event w).2, r.Schedules)
    (sound : b.halted (s.step b entry rest w).2 = false) :
    (s.step b entry rest w).1.pending.Perm
      (Request.entries entry.due s.nextSeq (b.act (s.taking entry rest) entry.event w).2 ++
        rest) := by
  obtain ⟨-, -, perm⟩ := perm_foldl_serve (s := s.taking entry rest) schedule running
  rw [step_eq] at sound ⊢
  dsimp only at sound ⊢
  rw [if_neg (by simp [sound])]
  exact perm

/-- An event that leaves a world that is not halted has its requests served. -/
theorem step_of_act {w' : ω} {requests : List (Request ε)}
    (acted : b.act (s.taking entry rest) entry.event w = (w', requests))
    (goesOn : b.halted w' = false) :
    s.step b entry rest w = (requests.foldl serve (s.taking entry rest), w') := by
  rw [step_eq, acted]
  dsimp only
  rw [goesOn]
  rfl

/-- Executing an entry sets the clock to when it is due. -/
theorem now_step (entry : Entry ε) (rest : List (Entry ε)) :
    (s.step b entry rest w).1.now = entry.due := by
  rw [step_eq]
  dsimp only
  split
  · exact now_foldl_serve (s := s.taking entry rest) _
  · exact now_foldl_serve (s := s.taking entry rest) _

theorem settle_of_stopped (stopped : s.stopped = true) (limit : Time) : s.settle limit = s :=
  if_pos stopped

@[simp] theorem pending_settle (limit : Time) : (s.settle limit).pending = s.pending := by
  unfold Simulator.settle
  split <;> rfl

theorem settle_of_running (running : s.stopped = false) (limit : Time) :
    s.settle limit = { s with now := max s.now limit } :=
  if_neg (by simp [running])

/-- A run up to a limit does not set the clock back. -/
theorem now_le_settle (s : Simulator ε) (limit : Time) : s.now ≤ (s.settle limit).now := by
  unfold Simulator.settle
  split
  · exact Nat.le_refl _
  · rw [Time.le_def, Time.nanos_max]
    exact Nat.le_max_left ..

/-- Where the first entry is not due up to a limit, no entry is. -/
theorem InOrder.lt_due (order : s.InOrder) {limit : Time}
    (idle : ∀ entry ∈ s.pending.head?, limit < entry.due) : ∀ e ∈ s.pending, limit < e.due := by
  intro e mem
  cases pending : s.pending with
  | nil => rw [pending] at mem; cases mem
  | cons entry rest =>
    have head := idle entry (by simp [pending])
    rw [pending, List.mem_cons] at mem
    rcases mem with rfl | mem
    · exact head
    · have before := order.before_of_mem pending mem
      simp only [Entry.Before, Time.lt_def, Time.ext_iff] at before head ⊢
      omega

theorem InOrder.settle (order : s.InOrder) {limit : Time}
    (idle : ∀ entry ∈ s.pending.head?, limit < entry.due) : (s.settle limit).InOrder := by
  unfold Simulator.settle
  split
  · exact order
  · refine ⟨order.sorted, order.seq_lt, fun e mem => ?_, order.stopped⟩
    have now := order.now_le e mem
    have late := order.lt_due idle e mem
    simp only [Time.le_def, Time.lt_def, Time.nanos_max] at now late ⊢
    omega

end Simulator

namespace History

variable {b : Behaviour ε ω} {s₀ s : Simulator ε} {w₀ w : ω} {ms : List (Moment ε ω)}

/-- Every state that is reached from an ordered one is ordered. -/
theorem inOrder (history : History b s₀ w₀ ms s w) (order : s₀.InOrder) : s.InOrder := by
  induction history with
  | start => exact order
  | execute _ pending ih => exact ih.step pending
  | settle _ _ idle ih => exact ih.settle idle

/-- A reached world that is halted has stopped the simulator. -/
theorem stopped_of_halted (history : History b s₀ w₀ ms s w) (sound : b.halted w₀ = false)
    (halted : b.halted w = true) : s.stopped = true := by
  induction history with
  | start => rw [sound] at halted; cases halted
  | execute _ _ _ =>
    rw [Simulator.step_eq] at halted ⊢
    dsimp only at halted ⊢
    rw [if_pos halted]
    rfl
  | settle limit _ _ ih =>
    rw [Simulator.settle, if_pos (ih halted)]
    exact ih halted

/-- No event is executed in a halted world. -/
theorem not_halted (history : History b s₀ w₀ ms s w) (order : s₀.InOrder)
    (sound : b.halted w₀ = false) {entry : Entry ε} {rest : List (Entry ε)}
    (pending : s.pending = entry :: rest) : b.halted w = false := by
  cases halted : b.halted w with
  | false => rfl
  | true =>
    have running := (history.inOrder order).running pending
    rw [history.stopped_of_halted sound halted] at running
    cases running

end History

end DenseDmg
