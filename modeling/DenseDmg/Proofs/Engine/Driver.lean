import DenseDmg.Proofs.Engine.Ending
import Mathlib.Logic.Relation

/-!
# Driving the event loop

The loop is driven from outside: between two calls of it events are scheduled or the simulator is
stopped, and a call executes what is due, up to a limit or without one.  A `Driven` simulator keeps
a record of what was done: every `Booking` that the simulator took, in the order of scheduling, and
the moments that were executed, the latest one first.

* `Driven.reaches_of_ends`, `Driven.reaches_of_run`: the calls of the loop are such steps.
* `Simulator.Ledger`: what is pending are the bookings that were not executed, and all that was
  executed came before them; `Ledger.foldl_serve` and `Ledger.step` keep that.
* `Driven.Reached.orderly`: in every state that is reached, the entries were executed in the order
  of their due times and, among equal ones, of scheduling, and the clock never went back.
-/

namespace DenseDmg

variable {ε ω : Type}

/-! ## Bookings -/

/-- A scheduling that the simulator took: what the clock showed, the instant that was asked for,
and the event. -/
structure Booking (ε : Type) where
  clock : Time
  wanted : Time
  event : ε
deriving DecidableEq

/-- The entry of a booking at a position in the order of scheduling: due at the instant that was
asked for, or at once if that is past. -/
def Booking.entry (seq : Nat) (k : Booking ε) : Entry ε := ⟨max k.wanted k.clock, seq, k.event⟩

/-- An entry stands for the booking at its position. -/
def Entry.BookedIn (e : Entry ε) (ks : List (Booking ε)) : Prop :=
  ∃ k, ks[e.seq]? = some k ∧ k.entry e.seq = e

theorem Entry.BookedIn.seq_lt {e : Entry ε} {ks : List (Booking ε)} (booked : e.BookedIn ks) :
    e.seq < ks.length := by
  obtain ⟨k, found, -⟩ := booked
  exact (List.getElem?_eq_some_iff.1 found).1

theorem Entry.bookedIn_append_singleton {e : Entry ε} {ks : List (Booking ε)} {k : Booking ε} :
    e.BookedIn (ks ++ [k]) ↔ e = k.entry ks.length ∨ e.BookedIn ks := by
  constructor
  · rintro ⟨k', found, asked⟩
    rcases Nat.lt_or_ge e.seq ks.length with old | new
    · rw [List.getElem?_append_left old] at found
      exact .inr ⟨k', found, asked⟩
    · have inside := (List.getElem?_eq_some_iff.1 found).1
      rw [List.length_append, List.length_singleton] at inside
      have position : e.seq = ks.length := by omega
      rw [position, List.getElem?_concat_length] at found
      cases found
      rw [position] at asked
      exact .inl asked.symm
  · rintro (rfl | booked)
    · exact ⟨k, List.getElem?_concat_length, rfl⟩
    · have old := booked.seq_lt
      obtain ⟨k', found, asked⟩ := booked
      exact ⟨k', by rw [List.getElem?_append_left old, found], asked⟩

/-- The booking that a request asks for. -/
def Request.booking? (now : Time) : Request ε → Option (Booking ε)
  | .atTime due event => some ⟨now, due, event⟩
  | .afterDelay delay event => some ⟨now, now + delay, event⟩
  | .stop => none

theorem Request.entry?_eq (now : Time) (seq : Nat) (r : Request ε) :
    r.entry? now seq = (r.booking? now).map (Booking.entry seq) := by
  cases r <;> rfl

/-- The bookings that a simulator takes while it serves requests: none once it is stopped. -/
def Simulator.bookings (s : Simulator ε) : List (Request ε) → List (Booking ε)
  | [] => []
  | r :: rs =>
    (if s.stopped then none else r.booking? s.now).toList ++ (s.serve r).bookings rs

/-! ## The ledger of a simulator -/

/-- `s.Ledger ks taken`: the simulator took the bookings `ks` and executed the entries `taken`, the
latest one first.  What is pending is what it took and has not executed, and comes after all that
it executed. -/
structure Simulator.Ledger (s : Simulator ε) (ks : List (Booking ε)) (taken : List (Entry ε)) :
    Prop where
  order : s.InOrder
  next : s.nextSeq = ks.length
  pending : s.stopped = false → ∀ e, e ∈ s.pending ↔ e.BookedIn ks ∧ e ∉ taken
  seq_lt : ∀ e ∈ taken, e.seq < s.nextSeq
  due_le : ∀ e ∈ taken, e.due ≤ s.now
  before : ∀ e ∈ taken, ∀ e' ∈ s.pending, e.Before e'
  sorted : taken.Pairwise fun later earlier => earlier.Before later

namespace Simulator.Ledger

variable {b : Behaviour ε ω} {s : Simulator ε} {w : ω} {ks : List (Booking ε)}
  {taken : List (Entry ε)} {entry : Entry ε} {rest : List (Entry ε)}

theorem fresh : (Simulator.fresh : Simulator ε).Ledger [] [] where
  order := .fresh
  next := rfl
  pending := by
    intro _ e
    simp [Simulator.fresh, Entry.BookedIn]
  seq_lt := by simp
  due_le := by simp
  before := by simp
  sorted := .nil

theorem stop (ledger : s.Ledger ks taken) : s.stop.Ledger ks taken where
  order := ledger.order.stop
  next := ledger.next
  pending := by
    intro running
    cases running
  seq_lt := ledger.seq_lt
  due_le := ledger.due_le
  before := by simp [Simulator.stop]
  sorted := ledger.sorted

/-- A request that is served is booked.  A new entry comes after all that was executed: it is not
due before now, and it is the last one in the order of scheduling. -/
theorem serve (ledger : s.Ledger ks taken) (r : Request ε) :
    (s.serve r).Ledger (ks ++ s.bookings [r]) taken := by
  cases stopped : s.stopped with
  | true =>
    have same : s.serve r = s ∨ s.serve r = s.stop := by
      cases r with
      | atTime due event => exact .inl (schedule_of_stopped stopped ..)
      | afterDelay delay event => exact .inl (schedule_of_stopped stopped ..)
      | stop => exact .inr rfl
    have none : s.bookings [r] = [] := by simp [bookings, stopped]
    rw [none, List.append_nil]
    rcases same with same | same <;> rw [same]
    · exact ledger
    · exact ledger.stop
  | false =>
    cases booking : r.booking? s.now with
    | none =>
      have stops : r = .stop := by
        cases r with
        | atTime | afterDelay => cases booking
        | stop => rfl
      subst stops
      have none : s.bookings [.stop] = [] := by simp [bookings, Request.booking?]
      rw [none, List.append_nil]
      exact ledger.stop
    | some k =>
      have schedules : r.Schedules := by
        rintro rfl
        cases booking
      obtain ⟨e, asked, served⟩ := serve_of_running stopped schedules
      rw [Request.entry?_eq, booking, Option.map_some, ledger.next, Option.some_inj] at asked
      subst asked
      have one : s.bookings [r] = [k] := by simp [bookings, stopped, booking]
      have soon : s.now ≤ (k.entry ks.length).due := by
        have clock : k.clock = s.now := by
          cases r with
          | atTime | afterDelay => cases booking; rfl
          | stop => cases booking
        rw [Booking.entry, clock, Time.le_def, Time.nanos_max]
        exact Nat.le_max_right ..
      have order := ledger.order.serve r
      rw [served] at order ⊢
      rw [one]
      refine ⟨order, ?_, ?_, ?_, ledger.due_le, ?_, ledger.sorted⟩
      · rw [List.length_append, List.length_singleton, ledger.next]
      · intro _ e
        rw [Agenda.mem_insert, ledger.pending stopped, Entry.bookedIn_append_singleton,
          or_and_right]
        refine or_congr (iff_self_and.2 ?_) Iff.rfl
        rintro rfl done
        exact Nat.lt_irrefl _ (ledger.next ▸ ledger.seq_lt _ done)
      · intro e done
        exact Nat.lt_succ_of_lt (ledger.seq_lt e done)
      · intro e done e' mem
        rcases Agenda.mem_insert.1 mem with rfl | mem
        · exact Entry.before_of_le (Nat.le_trans (ledger.due_le e done) soon)
            (ledger.next ▸ ledger.seq_lt e done)
        · exact ledger.before e done e' mem

theorem foldl_serve (ledger : s.Ledger ks taken) (rs : List (Request ε)) :
    (rs.foldl Simulator.serve s).Ledger (ks ++ s.bookings rs) taken := by
  induction rs generalizing s ks with
  | nil => simpa [bookings] using ledger
  | cons r rs ih =>
    have rest := ih (ledger.serve r)
    simpa [bookings] using rest

/-- The entry that is taken off the agenda comes after all that was executed, and before all that
is left. -/
theorem taking (ledger : s.Ledger ks taken) (pending : s.pending = entry :: rest) :
    (s.taking entry rest).Ledger ks (entry :: taken) := by
  have running := ledger.order.running pending
  have first : entry ∈ s.pending := by simp [pending]
  have now := ledger.order.now_le entry first
  refine ⟨ledger.order.taking pending, ledger.next, ?_, ?_, ?_, ?_, ?_⟩
  · intro _ e
    have sorted := ledger.order.sorted
    rw [pending, List.pairwise_cons] at sorted
    have iff := ledger.pending running e
    rw [pending, List.mem_cons] at iff
    rw [List.mem_cons, not_or, and_left_comm, ← iff]
    constructor
    · intro mem
      refine ⟨?_, .inr mem⟩
      rintro rfl
      exact Entry.not_before_self _ (sorted.1 _ mem)
    · rintro ⟨other, here⟩
      exact here.resolve_left other
  · intro e mem
    rcases List.mem_cons.1 mem with rfl | done
    · exact ledger.order.seq_lt _ first
    · exact ledger.seq_lt e done
  · intro e mem
    rcases List.mem_cons.1 mem with rfl | done
    · exact Nat.le_refl _
    · exact Nat.le_trans (ledger.due_le e done) now
  · intro e mem e' later
    rcases List.mem_cons.1 mem with rfl | done
    · exact ledger.order.before_of_mem pending later
    · exact ledger.before e done e' (by rw [pending]; exact List.mem_cons_of_mem _ later)
  · exact List.pairwise_cons.2 ⟨fun e done => ledger.before e done entry first, ledger.sorted⟩

theorem step (ledger : s.Ledger ks taken) (pending : s.pending = entry :: rest) :
    (s.step b entry rest w).1.Ledger
      (ks ++ (s.taking entry rest).bookings (b.act (s.taking entry rest) entry.event w).2)
      (entry :: taken) := by
  have served := (ledger.taking pending).foldl_serve (b.act (s.taking entry rest) entry.event w).2
  rw [step_eq]
  dsimp only
  split
  · exact served.stop
  · exact served

theorem settle (ledger : s.Ledger ks taken) {limit : Time}
    (idle : ∀ entry ∈ s.pending.head?, limit < entry.due) : (s.settle limit).Ledger ks taken := by
  cases stopped : s.stopped with
  | true => rwa [settle_of_stopped stopped]
  | false =>
    have order := ledger.order.settle idle
    have later := s.now_le_settle limit
    rw [settle_of_running stopped] at order later ⊢
    exact ⟨order, ledger.next, ledger.pending, ledger.seq_lt,
      fun e done => Nat.le_trans (ledger.due_le e done) later, ledger.before, ledger.sorted⟩

end Simulator.Ledger

/-! ## The driver -/

/-- A call of the loop: how far it goes, if there is a limit, and the world that it is given. -/
structure LoopCall (ω : Type) where
  limit : Option Time
  world : ω

/-- A call executes the entries that are due up to and including its limit. -/
def LoopCall.Covers (c : LoopCall ω) (e : Entry ε) : Prop := ∀ limit ∈ c.limit, ¬ limit < e.due

/-- The simulator at the end of a call: without a limit the clock is left alone. -/
def LoopCall.settle (c : LoopCall ω) (s : Simulator ε) : Simulator ε :=
  match c.limit with
  | some limit => s.settle limit
  | none => s

theorem LoopCall.now_le_settle (c : LoopCall ω) (s : Simulator ε) : s.now ≤ (c.settle s).now := by
  unfold LoopCall.settle
  split
  · exact s.now_le_settle _
  · exact Nat.le_refl _

/-- A call ends where its limit covers nothing more, and that leaves the ledger as it is. -/
theorem LoopCall.ledger_settle {c : LoopCall ω} {s : Simulator ε} {ks : List (Booking ε)}
    {taken : List (Entry ε)} (ledger : s.Ledger ks taken)
    (idle : ∀ entry ∈ s.pending.head?, ¬ c.Covers entry) : (c.settle s).Ledger ks taken := by
  unfold LoopCall.settle
  split
  next limit has =>
    refine ledger.settle fun entry head => Decidable.byContradiction fun due => ?_
    refine idle entry head fun limit' has' => ?_
    rw [has, Option.mem_some_iff] at has'
    rwa [← has']
  next => exact ledger

/-- A simulator with the call of the loop that is under way, if one is, and the record of what was
done: all bookings, and the moments that were executed, the latest one first. -/
structure Driven (ε ω : Type) where
  simulator : Simulator ε
  call : Option (LoopCall ω)
  booked : List (Booking ε)
  executed : List (Moment ε ω)

namespace Driven

variable {b : Behaviour ε ω} {d d' : Driven ε ω}

def fresh : Driven ε ω := ⟨.fresh, none, [], []⟩

/-- Ask the simulator for something. -/
def ask (d : Driven ε ω) (r : Request ε) : Driven ε ω :=
  { d with simulator := d.simulator.serve r, booked := d.booked ++ d.simulator.bookings [r] }

/-- Execute the first entry.  The call is over if that stopped the simulator. -/
def execute (b : Behaviour ε ω) (c : LoopCall ω) (entry : Entry ε) (rest : List (Entry ε))
    (d : Driven ε ω) : Driven ε ω :=
  let taken := d.simulator.taking entry rest
  let next := d.simulator.step b entry rest c.world
  { simulator := next.1
    call := if next.1.stopped then none else some ⟨c.limit, next.2⟩
    booked := d.booked ++ taken.bookings (b.act taken entry.event c.world).2
    executed := ⟨d.simulator, c.world, entry, rest⟩ :: d.executed }

/-- What a driver and the loop may do next.  Any call may bring any world along. -/
inductive Step (b : Behaviour ε ω) : Driven ε ω → Driven ε ω → Prop
  | ask {d : Driven ε ω} (r : Request ε) : d.call = none → Step b d (d.ask r)
  | enter {d : Driven ε ω} (c : LoopCall ω) : d.call = none → Step b d { d with call := some c }
  | execute {d : Driven ε ω} {c : LoopCall ω} {entry : Entry ε} {rest : List (Entry ε)} :
    d.call = some c → d.simulator.pending = entry :: rest → c.Covers entry →
    Step b d (d.execute b c entry rest)
  | leave {d : Driven ε ω} {c : LoopCall ω} :
    d.call = some c → (∀ entry ∈ d.simulator.pending.head?, ¬ c.Covers entry) →
    Step b d { d with simulator := c.settle d.simulator, call := none }

/-- What a driver and the loop may do in any number of steps. -/
def Reaches (b : Behaviour ε ω) : Driven ε ω → Driven ε ω → Prop := Relation.ReflTransGen (Step b)

/-- The states of a simulator that was driven from the start. -/
def Reached (b : Behaviour ε ω) (d : Driven ε ω) : Prop := Reaches b fresh d

/-! ## The calls of the loop -/

/-- A call with a limit that ends is made of steps. -/
theorem reaches_of_ends {limit : Time} {s : Simulator ε} {w : ω} {out : Simulator ε × ω}
    (ends : s.Ends b limit w out) (same : d.simulator = s)
    (inside : d.call = some ⟨some limit, w⟩) :
    ∃ d', Reaches b d d' ∧ d'.call = none ∧ d'.simulator = out.1 := by
  have covers : ∀ {entry : Entry ε} {w : ω}, ¬ limit < entry.due →
      LoopCall.Covers ⟨some limit, w⟩ entry := by
    rintro entry w due _ ⟨⟩
    exact due
  induction ends generalizing d with
  | idle idle =>
    subst same
    refine ⟨_, .single (.leave inside ?_), rfl, rfl⟩
    exact fun entry head covers => covers limit rfl (idle entry head)
  | stops pending due stopped =>
    subst same
    exact ⟨_, .single (.execute inside pending (covers due)), if_pos stopped, rfl⟩
  | @goes _ w entry rest _ pending due running _ ih =>
    subst same
    have inside' : (d.execute b ⟨some limit, w⟩ entry rest).call = some ⟨some limit, _⟩ :=
      if_neg running
    obtain ⟨d', later, returned, reached⟩ := ih rfl inside'
    exact ⟨d', .head (.execute inside pending (covers due)) later, returned, reached⟩

/-- A call without a limit that ends is made of steps. -/
theorem reaches_of_run {fuel : Nat} {w w' : ω} {s' : Simulator ε}
    (inside : d.call = some ⟨none, w⟩)
    (run : Simulator.run b fuel d.simulator w = some (s', w')) :
    ∃ d', Reaches b d d' ∧ d'.call = none ∧ d'.simulator = s' := by
  induction fuel generalizing d w with
  | zero =>
    unfold Simulator.run at run
    split at run
    next pending =>
      cases run
      exact ⟨_, .single (.leave inside (by simp [pending])), rfl, rfl⟩
    next => cases run
  | succ fuel ih =>
    unfold Simulator.run at run
    split at run
    next pending =>
      cases run
      exact ⟨_, .single (.leave inside (by simp [pending])), rfl, rfl⟩
    next entry rest pending =>
      have covers : LoopCall.Covers ⟨none, w⟩ entry := by
        rintro _ ⟨⟩
      have first : Step b d _ := .execute inside pending covers
      dsimp only at run
      split at run
      next stopped =>
        cases run
        exact ⟨_, .single first, if_pos stopped, rfl⟩
      next running =>
        have inside' : (d.execute b ⟨none, w⟩ entry rest).call = some ⟨none, _⟩ := if_neg running
        obtain ⟨d', later, returned, reached⟩ := ih inside' run
        exact ⟨d', .head first later, returned, reached⟩

end Driven

/-! ## The order of execution -/

/-- A moment is in turn, with the bookings of a run and the moments before it: what is pending are
the bookings known by then that no earlier moment executed, and the entry of the moment is the
first of them. -/
def Moment.InTurn (m : Moment ε ω) (booked : List (Booking ε)) (earlier : List (Moment ε ω)) :
    Prop :=
  ∃ known, known <+: booked ∧ known.length = m.simulator.nextSeq ∧
    (∀ e, e ∈ m.simulator.pending ↔ e.BookedIn known ∧ e ∉ earlier.map Moment.entry) ∧
    m.entry ∈ m.simulator.pending ∧
    ∀ e ∈ m.simulator.pending, e ≠ m.entry → m.entry.Before e

/-- Later bookings leave a moment in turn. -/
theorem Moment.InTurn.append {m : Moment ε ω} {booked : List (Booking ε)}
    {earlier : List (Moment ε ω)} (inTurn : m.InTurn booked earlier) (ks : List (Booking ε)) :
    m.InTurn (booked ++ ks) earlier := by
  obtain ⟨known, before, first⟩ := inTurn
  exact ⟨known, before.trans (List.prefix_append ..), first⟩

/-- The entry that is taken off an agenda in order is in turn. -/
theorem Simulator.Ledger.inTurn {s : Simulator ε} {w : ω} {booked : List (Booking ε)}
    {earlier : List (Moment ε ω)} {entry : Entry ε} {rest : List (Entry ε)}
    (ledger : s.Ledger booked (earlier.map Moment.entry)) (pending : s.pending = entry :: rest) :
    Moment.InTurn ⟨s, w, entry, rest⟩ booked earlier := by
  refine ⟨booked, List.prefix_rfl, ledger.next.symm,
    ledger.pending (ledger.order.running pending), by simp [pending], ?_⟩
  intro e mem other
  rw [pending, List.mem_cons] at mem
  exact ledger.order.before_of_mem pending (mem.resolve_left other)

namespace Driven

variable {b : Behaviour ε ω} {d d' : Driven ε ω}

/-- What every step keeps: the ledger of the simulator agrees with the record, and every executed
moment was in turn. -/
structure Sound (d : Driven ε ω) : Prop where
  ledger : d.simulator.Ledger d.booked (d.executed.map Moment.entry)
  inTurn : ∀ later m earlier, d.executed = later ++ m :: earlier → m.InTurn d.booked earlier

theorem Sound.step (sound : d.Sound) (step : Step b d d') : d'.Sound := by
  cases step with
  | ask r waiting =>
    exact ⟨sound.ledger.serve r, fun _ _ _ split => (sound.inTurn _ _ _ split).append _⟩
  | enter c waiting => exact ⟨sound.ledger, sound.inTurn⟩
  | @execute c entry rest inside pending covers =>
    refine ⟨sound.ledger.step pending, fun later m earlier split => ?_⟩
    cases later with
    | nil =>
      -- The moment is the one that was executed just now.
      simp only [execute, List.nil_append, List.cons.injEq] at split
      obtain ⟨rfl, rfl⟩ := split
      exact (sound.ledger.inTurn pending).append _
    | cons head later =>
      simp only [execute, List.cons_append, List.cons.injEq] at split
      exact (sound.inTurn _ _ _ split.2).append _
  | leave inside idle => exact ⟨LoopCall.ledger_settle sound.ledger idle, sound.inTurn⟩

theorem Reached.sound (reached : Reached b d) : d.Sound := by
  induction reached with
  | refl => exact ⟨.fresh, fun later _ _ split => by simp [fresh] at split⟩
  | tail _ step ih => exact ih.step step

/-- A stopped simulator has dropped what was pending. -/
theorem Reached.dropped (reached : Reached b d) : d.simulator.Dropped :=
  reached.sound.ledger.order.stopped

/-- No step sets the clock back: an event is taken when it is due, which is not before now. -/
theorem Sound.now_le_step (sound : d.Sound) (step : Step b d d') :
    d.simulator.now ≤ d'.simulator.now := by
  cases step with
  | ask r waiting => exact Nat.le_of_eq (congrArg Time.nanos (Simulator.now_serve r).symm)
  | enter c waiting => exact Nat.le_refl _
  | @execute c entry rest inside pending covers =>
    have due := sound.ledger.order.now_le entry (by simp [pending])
    show d.simulator.now ≤ (d.simulator.step b entry rest c.world).1.now
    rwa [Simulator.now_step]
  | @leave c inside idle => exact c.now_le_settle d.simulator

theorem Sound.now_le (sound : d.Sound) (reaches : Reaches b d d') :
    d'.Sound ∧ d.simulator.now ≤ d'.simulator.now := by
  induction reaches with
  | refl => exact ⟨sound, Nat.le_refl _⟩
  | tail _ step ih => exact ⟨ih.1.step step, Nat.le_trans ih.2 (ih.1.now_le_step step)⟩

/-- The order of execution of a driven simulator. -/
structure Orderly (b : Behaviour ε ω) (d : Driven ε ω) : Prop where
  /-- Each executed entry was the first one of those pending. -/
  inTurn : ∀ later m earlier, d.executed = later ++ m :: earlier → m.InTurn d.booked earlier
  /-- The executed entries increase strictly. -/
  increasing : d.executed.Pairwise fun later earlier => earlier.entry.Before later.entry
  /-- The clock never goes back. -/
  now_le : ∀ d', Reaches b d d' → d.simulator.now ≤ d'.simulator.now
  /-- Nothing pending is overdue. -/
  due : ∀ e ∈ d.simulator.pending, d.simulator.now ≤ e.due
  /-- Entries due at one time are executed in the order of scheduling. -/
  scheduled : d.executed.Pairwise fun later earlier =>
    earlier.entry.due = later.entry.due → earlier.entry.seq < later.entry.seq

/-- Whatever is asked for and whatever the events do, they are executed in the order of their due
times and, among equal ones, of scheduling. -/
theorem Reached.orderly (reached : Reached b d) : d.Orderly b := by
  have sound := reached.sound
  have increasing := List.pairwise_map.1 sound.ledger.sorted
  refine ⟨sound.inTurn, increasing, fun d' reaches => (sound.now_le reaches).2,
    sound.ledger.order.now_le, increasing.imp fun before same => ?_⟩
  rcases before with sooner | ⟨-, seq⟩
  · rw [same, Time.lt_def] at sooner
    exact absurd sooner (Nat.lt_irrefl _)
  · exact seq

/-! ### A cascade -/

namespace Cascade

/-- Every event but zero asks for the next smaller one, at an instant that is past.  The world
counts the events. -/
def behaviour : Behaviour Nat Nat where
  act _ n count := (count + 1, if 0 < n then [.atTime .zero (n - 1)] else [])
  halted _ := false

/-- Two events at 5 ns, and the loop called for as long. -/
def called : Driven Nat Nat :=
  { (fresh.ask (.atTime (.ofNanos 5) 1)).ask (.atTime (.ofNanos 5) 0) with
    call := some ⟨some (.ofNanos 5), 0⟩ }

theorem reached_called : Reached behaviour called :=
  .tail (.tail (.tail .refl (.ask _ rfl)) (.ask _ rfl)) (.enter _ rfl)

end Cascade

open Cascade in
/-- The third event is asked for at instant zero while the first one is executed, and comes after
the second one.  A fourth one is scheduled after the call, and executed by a call without a
limit. -/
theorem orderly_cascade :
    ∃ d, Reached behaviour d ∧
      d.executed.map (fun m => (m.entry.due.nanos, m.entry.seq, m.entry.event)) =
        [(8, 3, 0), (5, 2, 0), (5, 1, 0), (5, 0, 1)] ∧
      d.Orderly behaviour := by
  have atFive : ∀ e : Entry Nat, e.due = .ofNanos 5 →
      ∀ w : Nat, LoopCall.Covers ⟨some (.ofNanos 5), w⟩ e := by
    rintro e due w _ ⟨⟩
    rw [due]
    decide
  have first : Reached behaviour _ := .tail reached_called (.execute rfl rfl (atFive _ rfl _))
  have second : Reached behaviour _ := .tail first (.execute rfl rfl (atFive _ rfl _))
  have third : Reached behaviour _ := .tail second (.execute rfl rfl (atFive _ rfl _))
  have returned : Reached behaviour _ := .tail third (.leave rfl (by rintro _ ⟨⟩))
  have again : Reached behaviour _ :=
    .tail (.tail returned (.ask (.afterDelay (.ofNanos 3) 0) rfl)) (.enter ⟨none, 0⟩ rfl)
  have fourth : Reached behaviour _ := .tail again (.execute rfl rfl (by rintro _ ⟨⟩))
  exact ⟨_, fourth, rfl, fourth.orderly⟩

end Driven

end DenseDmg
