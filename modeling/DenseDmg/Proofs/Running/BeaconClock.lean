import DenseDmg.Proofs.Running.LastSample

/-!
# The clock of beacon intervals

A beacon interval asks for its data transfer interval and for the next beacon interval, and nothing
else asks for either.  So there is always one beacon interval pending, each begins a beacon interval
after the one before it, and each has one data transfer interval, a fixed time behind its start.

* `Ticking.step`: executing an event keeps the clock going.
* `Built.ticking`: which intervals have begun, and which are pending.
-/

namespace DenseDmg

/-! ## When intervals begin -/

/-- When the beacon interval of an index begins. -/
def Scenario.intervalStart (s : Scenario) (index : Nat) : Time := s.beaconInterval.repeated index

/-- When the data transfer interval begins that belongs to the beacon interval of an index. -/
def Scenario.transferStart (s : Scenario) (index : Nat) : Time :=
  s.intervalStart index + MacParams.standard.transferOffset

namespace Time

theorem max_add (t u : Time) : max (t + u) t = t + u := by
  have le := t.nanos_le
  rw [Time.ext_iff, nanos_max, nanos_add]
  omega

theorem le_add_right (t u : Time) : t ≤ t + u := by
  have le := t.nanos_le
  rw [le_def, nanos_add]
  omega

theorem add_le_add_right {t u : Time} (le : t ≤ u) (v : Time) : t + v ≤ u + v := by
  rw [le_def] at le ⊢
  rw [nanos_add, nanos_add]
  omega

end Time

namespace Scenario

variable {s : Scenario} {i j : Nat}

theorem intervalStart_succ (s : Scenario) (i : Nat) :
    s.intervalStart i + s.beaconInterval = s.intervalStart (i + 1) :=
  (Time.max_add ..).symm.trans (Time.repeated_succ ..)

theorem intervalStart_mono (le : i ≤ j) : s.intervalStart i ≤ s.intervalStart j := by
  have products := Nat.mul_le_mul_left s.beaconInterval.nanos le
  rw [Time.le_def, intervalStart, intervalStart, Time.repeated, Time.repeated, Time.nanos_ofNanos,
    Time.nanos_ofNanos]
  omega

theorem transferStart_mono (le : i ≤ j) : s.transferStart i ≤ s.transferStart j :=
  Time.add_le_add_right (intervalStart_mono le) _

/-- Intervals begin at multiples of the beacon interval, until the last instant. -/
theorem nanos_intervalStart (s : Scenario) (i : Nat) :
    (s.intervalStart i).nanos = min (s.beaconInterval.nanos * i) lastWord := by
  rw [intervalStart, Time.repeated, Time.nanos_ofNanos]

theorem nanos_transferStart (s : Scenario) (i : Nat) :
    (s.transferStart i).nanos = min
      (s.beaconInterval.nanos * i + MacParams.standard.transferOffset.nanos) lastWord := by
  rw [transferStart, Time.nanos_add, nanos_intervalStart]
  omega

end Scenario

/-! ## Entries of the clock -/

/-- The index of a beacon interval and when it begins. -/
def Entry.interval? (e : Entry NetworkEvent) : Option (Nat × Time) :=
  match e.event with
  | .beaconInterval index => some (index, e.due)
  | _ => none

/-- When a data transfer interval begins. -/
def Entry.transfer? (e : Entry NetworkEvent) : Option Time :=
  match e.event with
  | .transferInterval _ => some e.due
  | _ => none

theorem Entry.due_of_interval? {e : Entry NetworkEvent} {index : Nat} {t : Time}
    (interval : e.interval? = some (index, t)) : e.due = t := by
  unfold interval? at interval
  split at interval
  · exact congrArg Prod.snd (Option.some.inj interval)
  · cases interval

theorem Entry.due_of_transfer? {e : Entry NetworkEvent} {t : Time}
    (transfer : e.transfer? = some t) : e.due = t := by
  unfold transfer? at transfer
  split at transfer
  · exact Option.some.inj transfer
  · cases transfer

/-- Events that are neither the start of a beacon interval nor that of a data transfer interval. -/
def NetworkEvent.OffClock : NetworkEvent → Prop
  | .beaconInterval _ | .transferInterval _ => False
  | _ => True

theorem Entry.of_offClock {e : Entry NetworkEvent} (off : e.event.OffClock) :
    e.interval? = none ∧ e.transfer? = none := by
  unfold interval? transfer?
  cases event : e.event with
  | beaconInterval index => rw [event] at off; cases off
  | transferInterval duration => rw [event] at off; cases off
  | _ => exact ⟨rfl, rfl⟩

/-- Requests that are off the clock leave no trace on it. -/
theorem filterMap_of_offClock (now : Time) (seq : Nat) {rs : List NetworkRequest}
    (off : ∀ r ∈ rs, ∃ e, r.event? = some e ∧ e.OffClock) :
    (Request.entries now seq rs).filterMap Entry.interval? = [] ∧
      (Request.entries now seq rs).filterMap Entry.transfer? = [] := by
  have each : ∀ e ∈ Request.entries now seq rs, e.event.OffClock := by
    intro e mem
    obtain ⟨⟨r, memr, asked⟩, -, -⟩ := Request.of_mem_entries mem
    obtain ⟨event, asks, off⟩ := off r memr
    rw [(Request.of_entry? asked).2, Option.some_inj] at asks
    exact asks ▸ off
  exact ⟨List.filterMap_eq_nil_iff.2 fun e mem => (Entry.of_offClock (each e mem)).1,
    List.filterMap_eq_nil_iff.2 fun e mem => (Entry.of_offClock (each e mem)).2⟩

namespace World

variable {s : Scenario} {outputs : Outputs} {w : World} {now : Time}

/-- Only beacon intervals ask for intervals. -/
theorem offClock_of_mem_act {event : NetworkEvent} {r : NetworkRequest}
    (other : ∀ index, event ≠ .beaconInterval index) (mem : r ∈ (w.act now event).2) :
    ∃ e, r.event? = some e ∧ e.OffClock := by
  obtain ⟨e, asks, caused⟩ := causes_of_mem_act mem
  refine ⟨e, asks, ?_⟩
  cases caused with
  | transfer index | interval index => exact absurd rfl (other index)
  | _ => trivial

/-- A beacon interval asks for its data transfer interval and for the next beacon interval. -/
theorem InScene.clock_beginInterval (scene : w.InScene s outputs) (now : Time) (seq index : Nat) :
    (Request.entries now seq (w.beginInterval index now).2).filterMap Entry.interval? =
        [(index + 1, now + s.beaconInterval)] ∧
      (Request.entries now seq (w.beginInterval index now).2).filterMap Entry.transfer? =
        [now + MacParams.standard.transferOffset] := by
  obtain ⟨ap, reachable, trained, -, -, -, -, -, requests⟩ := scene.exists_reachable index now
  have offset : w.network.mac.transferOffset = MacParams.standard.transferOffset := by
    rw [scene.mac]
    rfl
  have beacons (seq : Nat) := filterMap_of_offClock now seq
    fun r (mem : r ∈ beaconRequests w.network.mac ap now reachable) => by
      obtain ⟨d, -, rfl⟩ := List.mem_map.1 mem
      exact ⟨_, rfl, trivial⟩
  have slots (seq : Nat) := filterMap_of_offClock now seq
    fun r (mem : r ∈ trainingSlots w.network.mac (now + w.network.mac.bti) trained) => by
      obtain ⟨⟨d, k⟩, -, slot⟩ := List.mem_flatMap.1 mem
      simp only [slotRequests, List.mem_cons, List.not_mem_nil, or_false] at slot
      rcases slot with rfl | rfl | rfl <;> exact ⟨_, rfl, trivial⟩
  have associations (seq : Nat) := filterMap_of_offClock now seq
    fun r (mem : r ∈ associationRequests w.network.mac (now + w.network.mac.transferOffset)
      trained) => by
      obtain ⟨⟨d, k⟩, -, rfl⟩ := List.mem_map.1 mem
      exact ⟨_, rfl, trivial⟩
  rw [requests]
  simp only [Request.entries_append, List.filterMap_append, (beacons _).1, (beacons _).2,
    (slots _).1, (slots _).2, (associations _).1, (associations _).2, List.nil_append]
  constructor
  · simp only [Request.entries, Request.entry?, Time.max_add]
    rfl
  · simp only [Request.entries, Request.entry?, Time.max_add, offset]
    rfl

end World

/-! ## The clock goes on -/

/-- What is seen of the entries that are executed and pending is what was seen of them before and
what is seen of the entries that have been asked for. -/
theorem perm_filterMap_executed {β : Type} (f : Entry NetworkEvent → Option β)
    (executed : List (Entry NetworkEvent)) (entry : Entry NetworkEvent)
    {asked rest pending : List (Entry NetworkEvent)} (perm : pending.Perm (asked ++ rest)) :
    ((executed ++ [entry]).filterMap f ++ pending.filterMap f).Perm
      (executed.filterMap f ++ (entry :: rest).filterMap f ++ asked.filterMap f) := by
  have pending' := perm.filterMap f
  rw [List.filterMap_append] at pending'
  have all : (entry :: rest).filterMap f = [entry].filterMap f ++ rest.filterMap f := by
    rw [← List.filterMap_append, List.singleton_append]
  rw [all, List.filterMap_append, List.append_assoc, List.append_assoc, List.append_assoc]
  exact ((pending'.trans List.perm_append_comm).append_left _).append_left _

/-- After `n` beacon intervals have begun, the next one is pending, and each that has begun has had
its data transfer interval or has it pending. -/
structure Ticking (s : Scenario) (n : Nat) (executed pending : List (Entry NetworkEvent)) :
    Prop where
  begun : executed.filterMap Entry.interval? = (List.range n).map fun i => (i, s.intervalStart i)
  next : pending.filterMap Entry.interval? = [(n, s.intervalStart n)]
  transfers : (executed.filterMap Entry.transfer? ++ pending.filterMap Entry.transfer?).Perm
    ((List.range n).map s.transferStart)

namespace Ticking

variable {s : Scenario} {outputs : Outputs} {w : World} {n seq : Nat}
  {executed asked rest pending : List (Entry NetworkEvent)} {entry : Entry NetworkEvent}

/-- An event that is no beacon interval asks for none, and leaves the clock where it is. -/
theorem stay (ticking : Ticking s n executed (entry :: rest)) (off : entry.interval? = none)
    (quiet : asked.filterMap Entry.interval? = [] ∧ asked.filterMap Entry.transfer? = [])
    (perm : pending.Perm (asked ++ rest)) : Ticking s n (executed ++ [entry]) pending := by
  obtain ⟨begun, next, transfers⟩ := ticking
  have intervals := perm.filterMap Entry.interval?
  have transfers' := perm_filterMap_executed Entry.transfer? executed entry perm
  rw [List.filterMap_cons_none off] at next
  rw [List.filterMap_append, quiet.1, next, List.nil_append] at intervals
  rw [quiet.2, List.append_nil] at transfers'
  refine ⟨?_, List.perm_singleton.1 intervals, transfers'.trans transfers⟩
  rw [List.filterMap_append, begun, List.filterMap_cons_none off, List.filterMap_nil,
    List.append_nil]

/-- A beacon interval that begins sets the clock one further. -/
theorem tick (ticking : Ticking s n executed (entry :: rest)) {index : Nat}
    (interval : entry.interval? = some (index, entry.due))
    (asked_interval : asked.filterMap Entry.interval? =
      [(index + 1, entry.due + s.beaconInterval)])
    (asked_transfer : asked.filterMap Entry.transfer? =
      [entry.due + MacParams.standard.transferOffset])
    (perm : pending.Perm (asked ++ rest)) : Ticking s (n + 1) (executed ++ [entry]) pending := by
  obtain ⟨begun, next, transfers⟩ := ticking
  rw [List.filterMap_cons_some interval, List.cons.injEq, Prod.mk.injEq] at next
  obtain ⟨⟨rfl, due⟩, none⟩ := next
  have intervals := perm.filterMap Entry.interval?
  have transfers' := perm_filterMap_executed Entry.transfer? executed entry perm
  rw [List.filterMap_append, asked_interval, none, due, s.intervalStart_succ] at intervals
  rw [asked_transfer, due] at transfers'
  refine ⟨?_, List.perm_singleton.1 intervals, ?_⟩
  · rw [List.filterMap_append, begun, List.filterMap_cons_some interval, due, List.range_succ,
      List.map_append]
    rfl
  · rw [List.range_succ, List.map_append]
    exact transfers'.trans (transfers.append_right _)

/-- Executing an event keeps the clock going. -/
theorem step (ticking : Ticking s n executed (entry :: rest)) (scene : w.InScene s outputs)
    (perm : pending.Perm
      (Request.entries entry.due seq (w.act entry.due entry.event).2 ++ rest)) :
    ∃ n', Ticking s n' (executed ++ [entry]) pending := by
  by_cases interval : ∃ index, entry.event = .beaconInterval index
  · obtain ⟨index, event⟩ := interval
    obtain ⟨intervals, transfers⟩ := scene.clock_beginInterval entry.due seq index
    rw [event] at perm
    exact ⟨n + 1, ticking.tick (by rw [Entry.interval?, event]) intervals transfers perm⟩
  · have other : ∀ index, entry.event ≠ .beaconInterval index :=
      fun index event => interval ⟨index, event⟩
    have off : entry.interval? = none := by
      unfold Entry.interval?
      split
      next index event => exact absurd event (other index)
      next => rfl
    exact ⟨n, ticking.stay off
      (filterMap_of_offClock _ _ fun _ mem => World.offClock_of_mem_act other mem) perm⟩

end Ticking

/-! ## Along a run -/

/-- The entries that were executed, the earliest one first. -/
def executedEntries (ms : List (Moment NetworkEvent World)) : List (Entry NetworkEvent) :=
  ms.reverse.map Moment.entry

theorem executedEntries_cons (m : Moment NetworkEvent World)
    (ms : List (Moment NetworkEvent World)) :
    executedEntries (m :: ms) = executedEntries ms ++ [m.entry] := by
  rw [executedEntries, List.reverse_cons, List.map_append]
  rfl

namespace DenseRun

variable {spec : ScenarioSpec} {s : Scenario} {outputs : Outputs} {r : DenseRun}
  {sim : Simulator NetworkEvent} {w : World} {ms : List (Moment NetworkEvent World)}

/-- In every state between two events some number of beacon intervals has begun, and the clock goes
on from there. -/
theorem Built.ticking (run : Built spec s outputs r) (reliable : outputs.Reliable)
    (history : History World.behaviour r.simulator r.world ms sim w) :
    ∃ n, Ticking s n (executedEntries ms) sim.pending := by
  induction history with
  | start =>
    refine ⟨0, rfl, ?_, ?_⟩
    · have first : s.intervalStart 0 = .zero := rfl
      rw [run.laidOut.simulator, s.pending_simulator, first]
      rfl
    · rw [run.laidOut.simulator, s.pending_simulator]
      exact .refl _
  | @execute ms sim w entry rest before pending ih =>
    obtain ⟨n, ticking⟩ := ih
    rw [pending] at ticking
    rw [executedEntries_cons]
    exact ticking.step (run.inScene before) (run.perm_pending_of_reliable reliable before pending)
  | settle limit _ _ ih => simpa only [Simulator.pending_settle] using ih

/-- Data transfer intervals are executed in the order of their beacon intervals, and those that are
pending follow them. -/
theorem Built.transfers_eq (run : Built spec s outputs r)
    (history : History World.behaviour r.simulator r.world ms sim w) {n : Nat}
    (ticking : Ticking s n (executedEntries ms) sim.pending) :
    (executedEntries ms).filterMap Entry.transfer? ++ sim.pending.filterMap Entry.transfer? =
      (List.range n).map s.transferStart := by
  have order := run.inOrder history
  refine List.Perm.eq_of_pairwise (fun t u _ _ (le : t ≤ u) (ge : u ≤ t) =>
    Time.ext (Nat.le_antisymm le ge)) ?_ ?_ ticking.transfers
  · rw [← List.filterMap_append, List.pairwise_filterMap, List.pairwise_append]
    refine ⟨?_, ?_, ?_⟩
    · rw [executedEntries, List.pairwise_map, List.pairwise_reverse]
      refine (history.pairwise_due run.laidOut.inOrder).imp fun {m m'} le t first u second => ?_
      rw [← Entry.due_of_transfer? first, ← Entry.due_of_transfer? second]
      exact le
    · refine order.sorted.imp fun {e e'} before t first u second => ?_
      rw [← Entry.due_of_transfer? first, ← Entry.due_of_transfer? second, Time.le_def]
      simp only [Entry.Before, Time.lt_def, Time.ext_iff] at before
      omega
    · intro e executed e' pending t first u second
      obtain ⟨m, mem, rfl⟩ := List.mem_map.1 executed
      rw [← Entry.due_of_transfer? first, ← Entry.due_of_transfer? second]
      exact Nat.le_trans (history.due_le_now run.laidOut.inOrder m (List.mem_reverse.1 mem))
        (order.now_le e' pending)
  · rw [List.pairwise_map]
    exact List.pairwise_lt_range.imp fun lt => Scenario.transferStart_mono (Nat.le_of_lt lt)

end DenseRun

end DenseDmg
