import DenseDmg.Proofs.Traffic.Senders
import DenseDmg.Proofs.Traffic.Timers

/-!
# When packets are sent

A sender that has been started sends its first packet at once and every further one an interval
after the one before.  Each timer is set from the instant of the one before, while timers of earlier
activations are still on the agenda and stops, the budget and the time to stop cut in anywhere.

* `Timetable`: the packets of an activation have been sent when it was their turn.
* `OnTime`: what an activation keeps as long as there is no fault, with a lemma for each way in
  which an event changes a sender.
* `Built.sends_on_schedule`: the packets of every activation, and how many they are.
-/

namespace DenseDmg

variable {s : Scenario} {k : Nat} {sd : Sender} {f f' : Flow} {w : World} {outputs : Outputs}

/-! ## Activations -/

/-- How often the sender at a position has been told to start, and to stop. -/
def Applications.calls (a : Applications) (id : SenderId) : Nat × Nat :=
  match a.senders[id]? with
  | some sd => (sd.startCalls, sd.stopCalls)
  | none => (0, 0)

theorem Applications.calls_eq {a : Applications} {id : SenderId}
    (at_id : a.senders[id]? = some sd) : a.calls id = (sd.startCalls, sd.stopCalls) := by
  rw [calls, at_id]

namespace Moment

variable (k : Nat) (m : Moment NetworkEvent World)

/-- The sender at position `k` is told to start. -/
def starts : Bool :=
  decide ((m.world.network.apps.calls k).1 <
    ((m.outcome World.behaviour).2.network.apps.calls k).1)

/-- The sender at position `k` is told to stop. -/
def stops : Bool :=
  decide ((m.world.network.apps.calls k).2 <
    ((m.outcome World.behaviour).2.network.apps.calls k).2)

/-- When it is the turn of the packet counted `n` from zero, of an activation that begins at a
moment. -/
def turn (s : Scenario) (n : Nat) : Nat := m.entry.due.nanos + n * s.sendInterval

/-- When it is the turn of that packet, the budget is used up or the time to stop has come. -/
def OverAt (s : Scenario) (n : Nat) : Prop :=
  s.sender.DoneAt ((m.world.network.apps.sent k).bytes + n * s.sender.packetBytes) (m.turn s n)

end Moment

theorem Moment.turn_succ (m : Moment NetworkEvent World) (s : Scenario) (n : Nat) :
    m.turn s (n + 1) = m.turn s n + s.sendInterval := by
  rw [turn, turn, Nat.succ_mul, Nat.add_assoc]

theorem Moment.ofNanos_turn_zero (m : Moment NetworkEvent World) (s : Scenario) :
    Time.ofNanos (m.turn s 0) = m.entry.due := by
  have le := m.entry.due.nanos_le
  rw [turn, Nat.zero_mul, Nat.add_zero, Time.ext_iff, Time.nanos_ofNanos]
  omega

/-- A time and another one a while later. -/
theorem Time.max_add_ofNanos (t : Time) (d : Nat) :
    max (t + .ofNanos d) t = .ofNanos (t.nanos + d) := by
  have le := t.nanos_le
  rw [Time.ext_iff]
  simp only [Time.nanos_max, Time.nanos_add, Time.nanos_ofNanos]
  omega

/-- When packets of the sender at position `k` were sent, the earliest one first. -/
def sendTimes (k : Nat) (ms : List (Moment NetworkEvent World)) : List Nat :=
  (ms.reverse.filter (Moment.countsPacket k)).map fun m => m.entry.due.nanos

theorem sendTimes_cons (m : Moment NetworkEvent World) (ms : List (Moment NetworkEvent World)) :
    sendTimes k (m :: ms) =
      sendTimes k ms ++ if m.countsPacket k then [m.entry.due.nanos] else [] := by
  unfold sendTimes
  rw [List.reverse_cons, List.filter_append, List.map_append]
  congr 1
  by_cases counts : m.countsPacket k = true
  · simp [counts]
  · simp [counts]

/-- The packets of an activation of the sender at position `k`, which began at the moment `m` and
has come as far as the moments `later`: there are `n`, and each was sent when it was its turn. -/
structure Timetable (s : Scenario) (k : Nat) (m : Moment NetworkEvent World)
    (later : List (Moment NetworkEvent World)) (n : Nat) : Prop where
  times : sendTimes k later = (List.range n).map (m.turn s)
  /-- At the turn of each the sender still had something to send. -/
  unfinished : ∀ j < n, ¬ m.OverAt k s j
  /-- Nothing is sent any more once the sender has been told to stop. -/
  quiet : later.Pairwise fun after before => before.stops k = true → after.countsPacket k = false

namespace Timetable

variable {m m' : Moment NetworkEvent World} {later : List (Moment NetworkEvent World)} {n : Nat}

theorem start (s : Scenario) (k : Nat) (m : Moment NetworkEvent World) : Timetable s k m [] 0 :=
  ⟨rfl, nofun, .nil⟩

theorem rest (table : Timetable s k m later n) (silent : m'.countsPacket k = false) :
    Timetable s k m (m' :: later) n where
  times := by
    rw [sendTimes_cons, silent, table.times]
    exact List.append_nil _
  unfinished := table.unfinished
  quiet := List.pairwise_cons.2 ⟨fun _ _ _ => silent, table.quiet⟩

theorem send (table : Timetable s k m later n) (counts : m'.countsPacket k = true)
    (turn : m'.entry.due.nanos = m.turn s n) (more : ¬ m.OverAt k s n)
    (free : ∀ before ∈ later, before.stops k = false) : Timetable s k m (m' :: later) (n + 1) where
  times := by
    rw [sendTimes_cons, if_pos counts, table.times, turn, List.range_succ, List.map_append]
    rfl
  unfinished := fun j lt => by
    rcases Nat.lt_succ_iff_lt_or_eq.1 lt with lt | rfl
    · exact table.unfinished j lt
    · exact more
  quiet := by
    refine List.pairwise_cons.2 ⟨fun before mem stops => ?_, table.quiet⟩
    rw [free before mem] at stops
    cases stops

/-- The turn of the last packet has been. -/
theorem turn_le (table : Timetable s k m later (n + 1)) {t : Time}
    (past : ∀ m' ∈ later, m'.entry.due ≤ t) : m.turn s n ≤ t.nanos := by
  have mem : m.turn s n ∈ sendTimes k later := by
    rw [table.times]
    exact List.mem_map_of_mem (List.mem_range.2 (Nat.lt_succ_self n))
  obtain ⟨m', counted, due⟩ := List.mem_map.1 mem
  rw [← due]
  exact past m' (List.mem_reverse.1 ((List.mem_filter.1 counted).1))

end Timetable

/-! ## Along an activation -/

/-- Why an activation has ended after `n` packets: at the turn of the next one there is nothing to
send any more, or the sender has been told to stop by then. -/
def Ended (s : Scenario) (k : Nat) (m : Moment NetworkEvent World)
    (later : List (Moment NetworkEvent World)) (n : Nat) : Prop :=
  m.OverAt k s n ∨ ∃ m' ∈ later, m'.stops k = true ∧ m'.entry.due.nanos ≤ m.turn s n

theorem Ended.cons {m : Moment NetworkEvent World} {later : List (Moment NetworkEvent World)}
    {n : Nat} (ended : Ended s k m later n) (m' : Moment NetworkEvent World) :
    Ended s k m (m' :: later) n :=
  ended.imp_right fun ⟨m'', mem, stops⟩ => ⟨m'', List.mem_cons_of_mem _ mem, stops⟩

/-- An activation that has come to a state without a fault: what its sender has sent, when the next
packet is due, and why there is none if the sender has ended. -/
structure OnTime (s : Scenario) (k : Nat) (m : Moment NetworkEvent World)
    (later : List (Moment NetworkEvent World)) (pending : List (Entry NetworkEvent)) (sd : Sender)
    (n : Nat) : Prop where
  table : Timetable s k m later n
  packets : sd.sent.packets = (m.world.network.apps.sent k).packets + n
  bytes : sd.sent.bytes = (m.world.network.apps.sent k).bytes + n * s.sender.packetBytes
  timer : sd.running = true → ∀ e ∈ pending, e.event = .sendTimer k sd.generation →
    e.due = .ofNanos (m.turn s n)
  free : sd.running = true → ∀ m' ∈ later, m'.stops k = false
  ended : sd.running = false → Ended s k m later n

namespace OnTime

variable {m m' : Moment NetworkEvent World} {later : List (Moment NetworkEvent World)}
  {pending pending' : List (Entry NetworkEvent)} {sd' : Sender} {n : Nat}

/-- An event passes the sender by. -/
theorem rest (onTime : OnTime s k m later pending sd n) (silent : m'.countsPacket k = false)
    (untold : m'.stops k = false)
    (timers : sd.running = true → ∀ e ∈ pending', e.event = .sendTimer k sd.generation →
      e ∈ pending) : OnTime s k m (m' :: later) pending' sd n where
  table := onTime.table.rest silent
  packets := onTime.packets
  bytes := onTime.bytes
  timer := fun running e mem timer => onTime.timer running e (timers running e mem timer) timer
  free := fun running => List.forall_mem_cons.2 ⟨untold, onTime.free running⟩
  ended := fun rests => (onTime.ended rests).cons m'

/-- A packet is sent, and its sender runs on. -/
theorem send (onTime : OnTime s k m later pending sd n) (running : sd.running = true)
    (config : sd.config = s.sender) (counts : m'.countsPacket k = true)
    (untold : m'.stops k = false) (turn : m'.entry.due.nanos = m.turn s n)
    (unfinished : ¬ m.OverAt k s n)
    (next : ∀ e ∈ pending', e.event = .sendTimer k sd.generation →
      e.due = .ofNanos (m.turn s (n + 1))) :
    OnTime s k m (m' :: later) pending' (sd.recordSent sd.config.packetBytes) (n + 1) where
  table := onTime.table.send counts turn unfinished (onTime.free running)
  packets := congrArg (· + 1) onTime.packets
  bytes := by
    show sd.sent.bytes + sd.config.packetBytes = _
    rw [onTime.bytes, config, Nat.succ_mul, Nat.add_assoc]
  timer := fun _ => next
  free := fun _ => List.forall_mem_cons.2 ⟨untold, onTime.free running⟩
  ended := fun rests => absurd (running.symm.trans rests) nofun

/-- A sender ends. -/
theorem halt (onTime : OnTime s k m later pending sd n) (silent : m'.countsPacket k = false)
    (sent : sd'.sent = sd.sent) (rests : sd'.running = false)
    (ended : Ended s k m (m' :: later) n) : OnTime s k m (m' :: later) pending' sd' n where
  table := onTime.table.rest silent
  packets := by rw [sent, onTime.packets]
  bytes := by rw [sent, onTime.bytes]
  timer := fun runs => absurd (rests.symm.trans runs) nofun
  free := fun runs => absurd (rests.symm.trans runs) nofun
  ended := fun _ => ended

end OnTime

/-- What a moment counts and tells a sender is read off the sender. -/
theorem Moment.of_flows {m : Moment NetworkEvent World} (flow : m.world.HasFlow k f)
    (flow' : (m.outcome World.behaviour).2.HasFlow k f') :
    m.countsPacket k = decide (f.sender.sent.packets < f'.sender.sent.packets) ∧
      m.starts k = decide (f.sender.startCalls < f'.sender.startCalls) ∧
      m.stops k = decide (f.sender.stopCalls < f'.sender.stopCalls) := by
  rw [countsPacket, starts, stops, Applications.sent_eq flow.sender,
    Applications.sent_eq flow'.sender, Applications.calls_eq flow.sender,
    Applications.calls_eq flow'.sender]
  exact ⟨rfl, rfl, rfl⟩

namespace DenseRun

variable {spec : ScenarioSpec} {r : DenseRun} {sim : Simulator NetworkEvent}
  {ms later earlier : List (Moment NetworkEvent World)} {m : Moment NetworkEvent World}
  {entry e : Entry NetworkEvent} {rest : List (Entry NetworkEvent)} {n : Nat}

theorem Built.senderChange (run : Built spec s outputs r)
    (history : History World.behaviour r.simulator r.world ms sim w)
    (sound : (w.act entry.due entry.event).1.fatal = none) (flow : w.HasFlow k f)
    (flow' : (sim.step World.behaviour entry rest w).2.HasFlow k f') :
    f.SenderChange w.network entry.due k entry.event f'.sender := by
  rw [flow'.unique ((run.inScene history).hasFlow_act flow sound)]
  exact f.senderChange_next entry.event

/-- A sender that runs has a timer in force on the agenda. -/
theorem Built.exists_timer (run : Built spec s outputs r)
    (history : History World.behaviour r.simulator r.world ms sim w) (sound : w.fatal = none)
    (flow : w.HasFlow k f) (running : f.sender.running = true) :
    ∃ e ∈ sim.pending, e.event = .sendTimer k f.sender.generation := by
  have one := (run.timed history sound flow).one running
  rw [count_pendingTimers] at one
  obtain ⟨e, listed⟩ := List.exists_mem_of_length_pos (one ▸ Nat.one_pos)
  obtain ⟨mem, timer⟩ := List.mem_filter.1 listed
  exact ⟨e, mem, of_decide_eq_true timer⟩

/-- The timers of a sender that are pending after an event: one that was asked for, or one that was
pending behind it. -/
theorem Built.of_timer_pending (run : Built spec s outputs r)
    (history : History World.behaviour r.simulator r.world ms sim w)
    (pending : sim.pending = entry :: rest) (sound : (w.act entry.due entry.event).1.fatal = none)
    (flow : w.HasFlow k f) {g : Nat}
    (mem : e ∈ (sim.step World.behaviour entry rest w).1.pending)
    (timer : e.event = .sendTimer k g) :
    (g = f.sender.generation + 1 ∧ f.sender.running = false ∧ e.due = entry.due) ∨
      (entry.event = .sendTimer k g ∧ f.Sends entry.due g ∧
        e.due = .ofNanos (entry.due.nanos + s.sendInterval)) ∨
      e ∈ rest := by
  have small := ScenarioSpec.packetBytes_le_of_resolve run.accepted
  rcases List.mem_append.1 ((run.perm_pending history pending sound).mem_iff.1 mem) with new | old
  · obtain ⟨⟨r, memr, entry?⟩, -, -⟩ := Request.of_mem_entries new
    have asks := (Request.of_entry? entry?).2
    rw [timer] at asks
    rcases (run.inScene history).of_timer_mem_act flow small sound memr asks with
      ⟨generation, idle, rfl⟩ | ⟨event, sends, rfl⟩
    · refine .inl ⟨generation, idle, ?_⟩
      rw [← Option.some.inj entry?, Time.ext_iff, Time.nanos_max, Time.nanos_add]
      have le := entry.due.nanos_le
      have zero : Time.zero.nanos = 0 := rfl
      omega
    · refine .inr (.inl ⟨event, sends, ?_⟩)
      rw [← Option.some.inj entry?]
      exact entry.due.max_add_ofNanos s.sendInterval
  · exact .inr (.inr old)

/-- While the timer in force is executed no other one is pending. -/
theorem Built.timer_unique (run : Built spec s outputs r)
    (history : History World.behaviour r.simulator r.world ms sim w)
    (pending : sim.pending = entry :: rest) (flow : w.HasFlow k f)
    (running : f.sender.running = true)
    (timer : entry.event = .sendTimer k f.sender.generation) :
    ∀ e ∈ rest, e.event ≠ .sendTimer k f.sender.generation := by
  intro e mem same
  have one := (run.timed history (run.sound_of_pending history pending) flow).one running
  rw [count_pendingTimers, pending, List.filter_cons_of_pos (by simpa using timer),
    List.length_cons, Nat.succ_inj, List.length_eq_zero_iff, List.filter_eq_nil_iff] at one
  exact one e mem (by simpa using same)

/-- An activation begins with no packet, the first one due at once. -/
theorem Built.onTime_start (run : Built spec s outputs r)
    (history : History World.behaviour r.simulator r.world ms sim w)
    (pending : sim.pending = entry :: rest) (sound : (w.act entry.due entry.event).1.fatal = none)
    (flow : w.HasFlow k f)
    (flow' : (sim.step World.behaviour entry rest w).2.HasFlow k f')
    (starts : Moment.starts k ⟨sim, w, entry, rest⟩ = true) :
    OnTime s k ⟨sim, w, entry, rest⟩ [] (sim.step World.behaviour entry rest w).1.pending
      f'.sender 0 := by
  have intact := run.sound_of_pending history pending
  have told := (Moment.of_flows (m := ⟨sim, w, entry, rest⟩) flow flow').2.1
  have change := run.senderChange history sound flow flow'
  rw [starts] at told
  have more := of_decide_eq_true told.symm
  generalize f'.sender = sd' at change more
  generalize entry.event = ev at change
  cases change with
  | none | stop | send | finish => exact absurd more (Nat.lt_irrefl _)
  | start joins idle =>
    have rests : f.sender.running = false :=
      Bool.eq_false_iff.2 fun running => by
        rw [(run.agrees history intact flow).running running] at idle
        cases idle
    rw [Sender.start_of_rest rests]
    refine ⟨.start .., ?_, ?_, ?_, fun _ _ none => ?_, fun stopped => ?_⟩
    · exact congrArg Counters.packets (World.sent_of_hasFlow flow).symm
    · have bytes := congrArg Counters.bytes (World.sent_of_hasFlow flow)
      rw [Nat.zero_mul]
      exact bytes.symm
    · intro _ e mem timer
      rw [Moment.ofNanos_turn_zero]
      rcases run.of_timer_pending history pending sound flow mem timer with
        ⟨-, -, due⟩ | ⟨-, sends, -⟩ | old
      · exact due
      · have running := (Sender.running_of_isCurrent sends.1).1
        rw [rests] at running
        cases running
      · -- No timer of the new generation is pending yet.
        have listed : f.sender.generation + 1 ∈ pendingTimers k sim.pending := by
          refine List.mem_filterMap.2 ⟨e, by rw [pending]; exact List.mem_cons_of_mem _ old, ?_⟩
          rw [timer]
          simp [NetworkEvent.timer?]
        exact absurd ((run.timed history intact flow).reached _ listed) (Nat.not_succ_le_self _)
    · cases none
    · cases stopped

/-- A packet is sent when it is its turn. -/
theorem Built.due_of_sends (run : Built spec s outputs r)
    (history : History World.behaviour r.simulator r.world ms sim w)
    (pending : sim.pending = entry :: rest) (flow : w.HasFlow k f)
    (onTime : OnTime s k m later sim.pending f.sender n)
    (sends : f.Sends entry.due f.sender.generation)
    (timer : entry.event = .sendTimer k f.sender.generation) :
    entry.due.nanos = m.turn s n ∧ ¬ m.OverAt k s n := by
  have config := ((run.inScene history).of_sender flow.sender).2.2.2.2
  have unfinished : ¬ f.sender.config.DoneAt f.sender.sent.bytes entry.due.nanos := by
    rw [← Sender.isFinished_iff, sends.2]
    exact Bool.false_ne_true
  have due := onTime.timer (Sender.running_of_isCurrent sends.1).1 entry (by simp [pending]) timer
  have instant : entry.due.nanos = m.turn s n := by
    -- From the simulated time on nothing is sent, and so nothing at the last instant.
    have early : ¬ s.simulationTime.nanos ≤ entry.due.nanos := fun late =>
      unfinished (.inr ⟨s.simulationTime, by
        rw [config, ScenarioSpec.stopAt_of_resolve run.accepted], late⟩)
    have le := s.simulationTime.nanos_le
    have nanos := congrArg Time.nanos due
    rw [Time.nanos_ofNanos] at nanos
    omega
  rw [config, onTime.bytes, instant] at unfinished
  exact ⟨instant, unfinished⟩

/-- No event of an activation that runs comes later than its next packet. -/
theorem Built.due_le_turn (run : Built spec s outputs r)
    (history : History World.behaviour r.simulator r.world ms sim w)
    (pending : sim.pending = entry :: rest) (flow : w.HasFlow k f)
    (onTime : OnTime s k m later sim.pending f.sender n) (running : f.sender.running = true) :
    entry.due.nanos ≤ m.turn s n := by
  obtain ⟨e, mem, timer⟩ :=
    run.exists_timer history (run.sound_of_pending history pending) flow running
  have due := onTime.timer running e mem timer
  have le : entry.due ≤ e.due := by
    rw [pending] at mem
    rcases List.mem_cons.1 mem with rfl | behind
    · exact Nat.le_refl _
    · exact ((run.inOrder history).taking pending).now_le e behind
  rw [due, Time.le_def, Time.nanos_ofNanos] at le
  exact Nat.le_trans le (Nat.min_le_left ..)

/-- Every event of an activation keeps it on time. -/
theorem Built.onTime_step (run : Built spec s outputs r)
    (history : History World.behaviour r.simulator r.world ms sim w)
    (pending : sim.pending = entry :: rest) (sound : (w.act entry.due entry.event).1.fatal = none)
    (flow : w.HasFlow k f)
    (flow' : (sim.step World.behaviour entry rest w).2.HasFlow k f')
    (alone : Moment.starts k ⟨sim, w, entry, rest⟩ = false)
    (onTime : OnTime s k m later sim.pending f.sender n) :
    ∃ n', OnTime s k m (⟨sim, w, entry, rest⟩ :: later)
      (sim.step World.behaviour entry rest w).1.pending f'.sender n' := by
  have config := ((run.inScene history).of_sender flow.sender).2.2.2.2
  have change := run.senderChange history sound flow flow'
  obtain ⟨counts, starts, stops⟩ := Moment.of_flows (m := ⟨sim, w, entry, rest⟩) flow flow'
  rw [alone] at starts
  have unstarted := of_decide_eq_false starts.symm
  generalize f'.sender = sd' at change counts unstarted stops ⊢
  generalize event : entry.event = ev at change
  cases change with
  | none stale =>
    refine ⟨n, onTime.rest (counts.trans (decide_eq_false (Nat.lt_irrefl _)))
      (stops.trans (decide_eq_false (Nat.lt_irrefl _))) fun running e mem timer => ?_⟩
    rcases run.of_timer_pending history pending sound flow mem timer with
      ⟨-, rests, -⟩ | ⟨asked, sends, -⟩ | behind
    · rw [running] at rests
      cases rests
    · have current := stale _ (event.symm.trans asked)
      rw [sends.1] at current
      cases current
    · rw [pending]
      exact List.mem_cons_of_mem _ behind
  | start =>
    rw [Sender.startCalls_start] at unstarted
    exact absurd (Nat.lt_succ_self _) unstarted
  | stop =>
    refine ⟨n, onTime.halt (counts.trans (decide_eq_false (Nat.lt_irrefl _))) rfl rfl ?_⟩
    cases running : f.sender.running with
    | false => exact (onTime.ended running).cons _
    | true =>
      exact .inr ⟨_, List.mem_cons_self, stops.trans (decide_eq_true (Nat.lt_succ_self _)),
        run.due_le_turn history pending flow onTime running⟩
  | @send g sends =>
    obtain ⟨running, rfl⟩ := Sender.running_of_isCurrent sends.1
    obtain ⟨turn, unfinished⟩ := run.due_of_sends history pending flow onTime sends event
    refine ⟨n + 1, onTime.send running config (counts.trans (decide_eq_true (Nat.lt_succ_self _)))
      (stops.trans (decide_eq_false (Nat.lt_irrefl _))) turn unfinished fun e mem timer => ?_⟩
    rcases run.of_timer_pending history pending sound flow mem timer with
      ⟨-, rests, -⟩ | ⟨-, -, due⟩ | behind
    · rw [running] at rests
      cases rests
    · rw [due, turn, Moment.turn_succ]
    · exact absurd timer (run.timer_unique history pending flow running event e behind)
  | @finish g current finished =>
    obtain ⟨running, rfl⟩ := Sender.running_of_isCurrent current
    refine ⟨n, onTime.halt (counts.trans (decide_eq_false (Nat.lt_irrefl _))) rfl rfl (.inl ?_)⟩
    have due := congrArg Time.nanos (onTime.timer running entry (by simp [pending]) event)
    rw [Time.nanos_ofNanos] at due
    have done := Sender.isFinished_iff.1 finished
    rw [config, onTime.bytes] at done
    refine done.imp_right fun ⟨t, stopAt, passed⟩ => ⟨t, stopAt, ?_⟩
    omega

/-- As long as there is no fault, every activation is on time. -/
theorem Built.onTime (run : Built spec s outputs r)
    (history : History World.behaviour r.simulator r.world ms sim w)
    (split : ms = later ++ m :: earlier) (sound : w.fatal = none) (flow : w.HasFlow k f)
    (starts : m.starts k = true) (alone : ∀ m' ∈ later, m'.starts k = false) :
    ∃ n, OnTime s k m later sim.pending f.sender n := by
  induction history generalizing later f with
  | start => simp at split
  | @execute ms sim w entry rest before pending ih =>
    have inside := ((run.inScene (before.execute pending)).wired flow).inside
    obtain ⟨g, flow'⟩ := (run.inScene before).exists_flow inside
    cases later with
    | nil =>
      obtain ⟨rfl, -⟩ := List.cons.inj split
      exact ⟨0, run.onTime_start before pending sound flow' flow starts⟩
    | cons m' later =>
      obtain ⟨rfl, tail⟩ := List.cons.inj split
      obtain ⟨n, onTime⟩ := ih tail (run.sound_of_pending before pending) flow'
        fun m' mem => alone m' (List.mem_cons_of_mem _ mem)
      exact run.onTime_step before pending sound flow' flow (alone _ List.mem_cons_self) onTime
  | settle limit _ _ ih =>
    obtain ⟨n, onTime⟩ := ih split sound flow alone
    exact ⟨n, by rwa [Simulator.pending_settle]⟩

/-- The packets of an activation keep to their timetable even if it ends with a fault. -/
theorem Built.exists_timetable (run : Built spec s outputs r)
    (history : History World.behaviour r.simulator r.world ms sim w)
    (split : ms = later ++ m :: earlier) (inside : k < s.numStas) (starts : m.starts k = true)
    (alone : ∀ m' ∈ later, m'.starts k = false) :
    ∃ n, Timetable s k m later n ∧
      (w.fatal = none → ∀ f, w.HasFlow k f → OnTime s k m later sim.pending f.sender n) := by
  by_cases sound : w.fatal = none
  · obtain ⟨f, flow⟩ := (run.inScene history).exists_flow inside
    obtain ⟨n, onTime⟩ := run.onTime history split sound flow starts alone
    exact ⟨n, onTime.table, fun _ f' flow' => flow.unique flow' ▸ onTime⟩
  · suffices table : ∃ n, Timetable s k m later n from
      table.imp fun n table => ⟨table, fun intact => absurd intact sound⟩
    induction history generalizing later with
    | start => simp at split
    | @execute ms sim w entry rest before pending ih =>
      cases later with
      | nil => exact ⟨0, .start s k m⟩
      | cons m' later =>
        -- The fault was brought by the last event, which then counted no packet.
        obtain ⟨rfl, tail⟩ := List.cons.inj split
        have intact := run.sound_of_pending before pending
        obtain ⟨f, flow⟩ := (run.inScene before).exists_flow inside
        obtain ⟨n, onTime⟩ := run.onTime before tail intact flow starts
          fun m' mem => alone m' (List.mem_cons_of_mem _ mem)
        refine ⟨n, onTime.table.rest (Bool.eq_false_iff.2 fun counts => sound ?_)⟩
        exact Moment.sound_of_countsPacket (m := ⟨sim, w, entry, rest⟩) intact counts
    | settle _ _ _ ih => exact ih split alone sound

end DenseRun

/-! ## The schedule -/

/-- A constant rate is kept but for one packet. -/
theorem Timetable.bits_le {m : Moment NetworkEvent World}
    {later : List (Moment NetworkEvent World)} {n : Nat} (table : Timetable s k m later n)
    (kind : s.sender.kind = .onOff) {t : Time} (past : ∀ m' ∈ later, m'.entry.due ≤ t) :
    n * (s.sender.packetBytes * 8) * 1000000000 ≤
      max s.sender.rate.bps 1 * (t.nanos - m.entry.due.nanos) +
        s.sender.packetBytes * 8 * 1000000000 := by
  cases n with
  | zero => omega
  | succ n =>
    have rounded : s.sender.packetBytes * 8 * 1000000000 ≤
        s.sendInterval * max s.sender.rate.bps 1 := by
      rw [s.sendInterval_onOff kind]
      exact le_ceilDiv_mul (Nat.le_max_right ..) _
    have elapsed : n * s.sendInterval ≤ t.nanos - m.entry.due.nanos := by
      have turn := table.turn_le past
      rw [Moment.turn] at turn
      omega
    calc (n + 1) * (s.sender.packetBytes * 8) * 1000000000
      _ = n * (s.sender.packetBytes * 8 * 1000000000) +
          s.sender.packetBytes * 8 * 1000000000 := by
        rw [Nat.mul_assoc, Nat.succ_mul]
      _ ≤ n * (s.sendInterval * max s.sender.rate.bps 1) +
          s.sender.packetBytes * 8 * 1000000000 :=
        Nat.add_le_add_right (Nat.mul_le_mul_left _ rounded) _
      _ = max s.sender.rate.bps 1 * (n * s.sendInterval) +
          s.sender.packetBytes * 8 * 1000000000 := by
        rw [← Nat.mul_assoc, Nat.mul_comm (n * s.sendInterval)]
      _ ≤ _ := Nat.add_le_add_right (Nat.mul_le_mul_left _ elapsed) _

/-- How many turns have been at an instant from the first one on, before the next. -/
theorem Timetable.count_eq {m : Moment NetworkEvent World}
    {later : List (Moment NetworkEvent World)} {n : Nat} (table : Timetable s k m later n)
    {t : Time} (began : m.entry.due ≤ t) (past : ∀ m' ∈ later, m'.entry.due ≤ t)
    (next : t.nanos < m.turn s n) :
    n = (t.nanos - m.entry.due.nanos) / s.sendInterval + 1 := by
  rw [Time.le_def] at began
  cases n with
  | zero =>
    rw [Moment.turn, Nat.zero_mul] at next
    omega
  | succ n =>
    have turn := table.turn_le past
    rw [Moment.turn] at turn next
    congr 1
    exact (Nat.div_eq_of_lt_le (by omega) (by omega)).symm

/-- An activation of the sender at position `k`, which began at the moment `m`, in a state that it
has come to with the moments `later` and `n` packets. -/
structure OnSchedule (s : Scenario) (k : Nat) (m : Moment NetworkEvent World)
    (later : List (Moment NetworkEvent World)) (sim : Simulator NetworkEvent) (sd : Sender)
    (n : Nat) : Prop where
  interval : sd.interval (s.phy.airtime s.sender.packetBytes) = s.sendInterval
  packets : sd.sent.packets = (m.world.network.apps.sent k).packets + n
  /-- If the sender still runs when all is done that is due up to an instant, nothing is missing. -/
  running : sd.running = true → ∀ t : Time, sim.now ≤ t → (∀ e ∈ sim.pending, t < e.due) →
    n = (t.nanos - m.entry.due.nanos) / s.sendInterval + 1
  ended : sd.running = false → Ended s k m later n

namespace DenseRun

variable {spec : ScenarioSpec} {r : DenseRun} {sim : Simulator NetworkEvent}
  {ms later earlier : List (Moment NetworkEvent World)} {m : Moment NetworkEvent World}

/-- Only the sender of a station is ever told to start. -/
theorem Built.inside_of_starts (run : Built spec s outputs r)
    (history : History World.behaviour r.simulator r.world ms sim w)
    (split : ms = later ++ m :: earlier) (starts : m.starts k = true) : k < s.numStas := by
  obtain ⟨before, pending⟩ := history.of_mem split
  have more : _ < ((m.outcome World.behaviour).2.network.apps.calls k).1 :=
    of_decide_eq_true starts
  cases at_k : (m.outcome World.behaviour).2.network.apps.senders[k]? with
  | none =>
    rw [Applications.calls, Applications.calls, at_k] at more
    exact absurd more (Nat.not_lt_zero _)
  | some sd => exact (run.inScene (before.execute pending)).of_getElem?_senders at_k

/-- The packets of an activation are sent when it is their turn: the first one at once and every
further one an interval after the one before, until the sender has been told to stop, has used up
its budget or has reached its stop time.  A sender of a constant rate, which is at least one bit per
second, exceeds it by one packet at most. -/
theorem Built.sends_on_schedule (run : Built spec s outputs r)
    (history : History World.behaviour r.simulator r.world ms sim w)
    (split : ms = later ++ m :: earlier) (starts : m.starts k = true)
    (alone : ∀ m' ∈ later, m'.starts k = false) :
    ∃ n, Timetable s k m later n ∧
      (s.sender.kind = .onOff →
        n * (s.sender.packetBytes * 8) * 1000000000 ≤
          max s.sender.rate.bps 1 * (sim.now.nanos - m.entry.due.nanos) +
            s.sender.packetBytes * 8 * 1000000000) ∧
      (sim.stopped = false → ∃ sd, w.network.apps.senders[k]? = some sd ∧
        OnSchedule s k m later sim sd n) := by
  have scene := run.inScene history
  have small := ScenarioSpec.packetBytes_le_of_resolve run.accepted
  have past := history.due_le_now run.laidOut.inOrder
  have began : m.entry.due ≤ sim.now := past m (by simp [split])
  have later_past : ∀ m' ∈ later, m'.entry.due ≤ sim.now := fun m' mem =>
    past m' (by rw [split]; exact List.mem_append_left _ mem)
  have inside := run.inside_of_starts history split starts
  obtain ⟨n, table, onTime⟩ := run.exists_timetable history split inside starts alone
  refine ⟨n, table, fun kind => table.bits_le kind later_past, fun going => ?_⟩
  have sound := run.sound_of_running history going
  obtain ⟨f, flow⟩ := scene.exists_flow inside
  have onTime := onTime sound f flow
  refine ⟨f.sender, flow.sender, ?_, onTime.packets, fun running t now done => ?_, onTime.ended⟩
  · exact Sender.interval_eq small (scene.of_sender flow.sender).2.2.2.2
  · obtain ⟨e, mem, timer⟩ := run.exists_timer history sound flow running
    have next := done e mem
    rw [onTime.timer running e mem timer, Time.lt_def, Time.nanos_ofNanos] at next
    exact table.count_eq (Nat.le_trans began now)
      (fun m' mem => Nat.le_trans (later_past m' mem) now)
      (Nat.lt_of_lt_of_le next (Nat.min_le_left ..))

/-- A lone station has associated and sent two packets, one at once and one an interval later. -/
theorem sends_on_schedule_lone :
    ∃ later m earlier, Lone.moments 9 = later ++ m :: earlier ∧ m.starts 0 = true ∧
      (∀ m' ∈ later, m'.starts 0 = false) ∧ sendTimes 0 later = [2850000, 2888614] := by
  have longer : (Lone.moments 9).drop 3 ≠ [] := by decide +kernel
  obtain ⟨m, earlier, rest⟩ := List.exists_cons_of_ne_nil longer
  have split : Lone.moments 9 = (Lone.moments 9).take 3 ++ m :: earlier := by
    rw [← rest, List.take_append_drop]
  have association : ∀ m ∈ ((Lone.moments 9).drop 3).head?,
      m.starts 0 = true ∧ m.entry.due.nanos = 2850000 := by decide +kernel
  obtain ⟨starts, due⟩ := association m (by rw [rest]; rfl)
  have alone : ∀ m' ∈ (Lone.moments 9).take 3, m'.starts 0 = false := by decide +kernel
  have going : (Lone.agenda 9).stopped = false := by decide +kernel
  obtain ⟨n, table, -, schedule⟩ :=
    Lone.built.sends_on_schedule (Lone.history 9) split starts alone
  obtain ⟨sd, at_zero, onSchedule⟩ := schedule going
  have runs : ∀ sd ∈ (Lone.world 9).network.apps.senders, sd.running = true := by decide +kernel
  have now : (Lone.agenda 9).now ≤ ⟨2890000, by decide⟩ := by decide +kernel
  have done : ∀ e ∈ (Lone.agenda 9).pending, (⟨2890000, by decide⟩ : Time) < e.due := by
    decide +kernel
  have interval : Lone.scenario.sendInterval = 38614 := by decide +kernel
  have count := onSchedule.running (runs sd (Array.mem_of_getElem? at_zero)) _ now done
  rw [due, interval] at count
  refine ⟨_, m, earlier, split, starts, alone, ?_⟩
  rw [table.times, count]
  simp [Moment.turn, due, interval, List.range_succ]

end DenseRun

end DenseDmg
