import DenseDmg.Proofs.Scene.Flow

/-!
# Send timers

A sender that runs is kept going by its send timer.  Stops and restarts leave timers of earlier
generations on the agenda, several of them at a time.  `Flow.Timed` links the generations on the
agenda to the one of the sender; `Flow.OutOfDate` says that timers of a generation have no effect
any more, which no event can undo.

* `Timed.next`: executing an event keeps the link, whatever timers it takes off the agenda and adds.
* `DenseRun.Built.timers_in_force`: a sender that runs has exactly one timer in force, and every
  other timer has no effect, whenever it is executed.
-/

namespace DenseDmg

/-- The generations of the send timers, of the sender at position `k`, among entries. -/
def pendingTimers (k : Nat) (entries : List (Entry NetworkEvent)) : List Nat :=
  entries.filterMap fun e => e.event.timer? k

theorem pendingTimers_perm {k : Nat} {es es' : List (Entry NetworkEvent)} (perm : es.Perm es') :
    (pendingTimers k es).Perm (pendingTimers k es') :=
  perm.filterMap _

theorem pendingTimers_append (k : Nat) (es es' : List (Entry NetworkEvent)) :
    pendingTimers k (es ++ es') = pendingTimers k es ++ pendingTimers k es' :=
  List.filterMap_append

/-- The timers among the entries that requests ask for are those that the requests ask for. -/
theorem pendingTimers_entries (k : Nat) (now : Time) (seq : Nat) (rs : List NetworkRequest) :
    pendingTimers k (Request.entries now seq rs) = askedTimers k rs := by
  have events := Request.map_event_entries now seq rs
  have timers := congrArg (List.filterMap (NetworkEvent.timer? k)) events
  rw [List.filterMap_map, List.filterMap_filterMap] at timers
  exact timers

theorem pendingTimers_cons (k : Nat) (e : Entry NetworkEvent) (es : List (Entry NetworkEvent)) :
    pendingTimers k (e :: es) = (e.event.timer? k).toList ++ pendingTimers k es := by
  unfold pendingTimers
  rw [List.filterMap_cons]
  cases e.event.timer? k <;> rfl

theorem count_pendingTimers (k g : Nat) (es : List (Entry NetworkEvent)) :
    (pendingTimers k es).count g = (es.filter fun e => e.event = .sendTimer k g).length := by
  induction es with
  | nil => rfl
  | cons e es ih =>
    rw [pendingTimers_cons, List.count_append, ih, List.filter_cons]
    by_cases timer : e.event = .sendTimer k g
    · simp [timer, NetworkEvent.timer?, Nat.add_comm]
    · rw [if_neg (by simpa using timer)]
      have other : g ∉ (e.event.timer? k).toList := by
        rw [Option.mem_toList]
        rintro same
        unfold NetworkEvent.timer? at same
        split at same
        next event =>
          split at same
          next sender => exact timer (by rw [event, sender, Option.some.inj same])
          next => cases same
        next => cases same
      rw [List.count_eq_zero.2 other, Nat.zero_add]

namespace Flow

/-- The pending timers are of no generation that the sender has not reached, and one of them is
in force if the sender runs. -/
structure Timed (gens : List Nat) (f : Flow) : Prop where
  reached : ∀ g ∈ gens, g ≤ f.sender.generation
  one : f.sender.running = true → gens.count f.sender.generation = 1

/-- Timers of a generation have no effect any more. -/
def OutOfDate (g : Nat) (f : Flow) : Prop :=
  g ≤ f.sender.generation ∧ f.sender.isCurrent g = false

variable {f : Flow} {n : Network} {now : Time} {k : Nat} {gens : List Nat}

theorem Timed.perm {gens' : List Nat} (timed : f.Timed gens) (perm : gens'.Perm gens) :
    f.Timed gens' :=
  ⟨fun g mem => timed.reached g (perm.mem_iff.1 mem),
    fun running => (perm.count_eq _).trans (timed.one running)⟩

/-- How an event may change a sender, with the generation of its own timer if it is one that was
taken off the agenda, and the generations of the timers that it asks for. -/
inductive SenderStep (f : Flow) : List Nat → Flow → List Nat → Prop
  /-- No timer is asked for; if the sender runs on, its timer in force was not the one taken. -/
  | rest {taken : List Nat} {f' : Flow} : f'.sender.generation = f.sender.generation →
    (f'.sender.running = true → f.sender.running = true ∧ f.sender.generation ∉ taken) →
    SenderStep f taken f' []
  /-- The timer in force sets itself again. -/
  | again {f' : Flow} : f'.sender.generation = f.sender.generation →
    f'.sender.running = f.sender.running →
    SenderStep f [f.sender.generation] f' [f.sender.generation]
  /-- A sender at rest begins to run, under a new generation. -/
  | start {f' : Flow} : f'.sender.generation = f.sender.generation + 1 →
    f.sender.running = false → SenderStep f [] f' [f'.sender.generation]

theorem senderStep_join (aid : Nat) :
    f.SenderStep [] (f.join aid now)
      (if f.pair.active = false ∧ f.sender.running = false then [f.sender.generation + 1]
        else []) := by
  cases active : f.pair.active with
  | true =>
    rw [if_neg (by simp)]
    refine .rest ?_ ?_ <;> rw [join, active]
    · rfl
    · exact fun running => ⟨running, List.not_mem_nil⟩
  | false =>
    cases running : f.sender.running with
    | true =>
      rw [if_neg (by simp)]
      refine .rest ?_ fun _ => ⟨running, List.not_mem_nil⟩
      simp [join, active, Sender.start, running]
    | false =>
      have generation : (f.join aid now).sender.generation = f.sender.generation + 1 := by
        simp [join, active, Sender.start, running]
      rw [if_pos ⟨rfl, rfl⟩, ← generation]
      exact .start generation running

theorem senderStep_leave : f.SenderStep [] f.leave [] := by
  cases active : f.pair.active with
  | false => exact .rest (by simp [leave, active]) (by simp [leave, active])
  | true =>
    refine .rest (by simp [leave, active, Sender.stop]) fun running => ?_
    simp [leave, active, Sender.stop] at running

theorem senderStep_tick (generation : Nat) :
    f.SenderStep [generation] (f.tick now generation)
      (if f.Sends now generation then [generation] else []) := by
  unfold tick
  split
  next sends =>
    rcases Bool.and_eq_true_iff.1 sends.1 with ⟨-, same⟩
    rw [← beq_iff_eq.1 same]
    exact .again rfl rfl
  next =>
    split
    next => exact .rest rfl nofun
    next stale =>
      refine .rest rfl fun running => ⟨running, fun mem => stale ?_⟩
      rw [Sender.isCurrent, running, List.mem_singleton.1 mem]
      simp

/-- An event changes the sender of a flow in one of these ways. -/
theorem senderStep_next (event : NetworkEvent) :
    f.SenderStep (event.timer? k).toList (f.next n now k event) (f.timers n now k event) := by
  have kept : f.SenderStep [] f [] := .rest rfl fun running => ⟨running, List.not_mem_nil⟩
  cases event with
  | beaconInterval index =>
    show f.SenderStep [] (f.cutOff n now k) []
    unfold cutOff
    split
    · exact f.senderStep_leave
    · exact kept
  | associationComplete station =>
    have other : NetworkEvent.timer? k (.associationComplete station) = none := rfl
    rw [next, timers, other, Option.toList_none]
    by_cases joins : station = k + 1 ∧ f.Joins n now k
    · rw [if_pos joins]
      simpa only [joins.1, joins.2, true_and] using f.senderStep_join n.nextAid
    · rw [if_neg joins, if_neg fun asked => joins ⟨asked.1, asked.2.1⟩]
      exact kept
  | sendTimer sender generation =>
    rw [next, timers, NetworkEvent.timer?]
    by_cases same : sender = k
    · simpa only [same, if_true, true_and, Option.toList_some] using f.senderStep_tick generation
    · simpa only [same, if_false, false_and, Option.toList_none] using kept
  | transferInterval duration => exact kept
  | trainingRequested initiator responder => exact kept
  | trainingDone initiator responder period => exact kept
  | frameArrives tx rx kind bytes sink => exact kept
  | sampleDue period => exact kept

/-- Timers stay linked to their sender when one is taken off the agenda and others are added. -/
theorem Timed.step {taken asked : List Nat} {f' : Flow} (step : f.SenderStep taken f' asked)
    (timed : f.Timed (taken ++ gens)) : f'.Timed (asked ++ gens) := by
  cases step with
  | rest generation runs =>
    constructor
    · intro g mem
      rw [generation]
      exact timed.reached g (List.mem_append_right _ mem)
    · intro running
      rcases runs running with ⟨running, other⟩
      have one := timed.one running
      rw [List.count_append, List.count_eq_zero.2 other, Nat.zero_add] at one
      rw [generation]
      exact one
  | again generation running =>
    constructor
    · intro g mem
      rw [generation]
      exact timed.reached g mem
    · intro runs
      rw [generation]
      exact timed.one (running ▸ runs)
  | start generation _ =>
    constructor
    · intro g mem
      rcases List.mem_cons.1 mem with rfl | mem
      · exact Nat.le_refl _
      · rw [generation]
        exact Nat.le_succ_of_le (timed.reached g mem)
    · intro _
      -- No timer on the agenda is of the new generation yet.
      have fresh : f'.sender.generation ∉ gens := fun mem => by
        have reached := timed.reached _ mem
        rw [generation] at reached
        exact Nat.not_succ_le_self _ reached
      rw [List.singleton_append, List.count_cons_self, List.count_eq_zero.2 fresh]

/-- Timers that have no effect any more never have one again. -/
theorem OutOfDate.step {taken asked : List Nat} {f' : Flow} {g : Nat}
    (step : f.SenderStep taken f' asked) (old : f.OutOfDate g) : f'.OutOfDate g := by
  have stale : f.sender.running = true → f.sender.generation ≠ g := by
    rintro running rfl
    have stale := old.2
    rw [Sender.isCurrent, running] at stale
    simp at stale
  have still (reached : g ≤ f'.sender.generation)
      (other : f'.sender.running = true → f'.sender.generation ≠ g) : f'.OutOfDate g := by
    refine ⟨reached, ?_⟩
    cases running : f'.sender.running with
    | false => rw [Sender.isCurrent, running, Bool.false_and]
    | true => simpa [Sender.isCurrent, running] using other running
  cases step with
  | rest generation runs =>
    rw [← generation] at stale
    exact still (generation ▸ old.1) fun running => stale (runs running).1
  | again generation running =>
    rw [← generation, ← running] at stale
    exact still (generation ▸ old.1) stale
  | start generation _ =>
    have later : g < f'.sender.generation := by
      rw [generation]
      exact Nat.lt_succ_of_le old.1
    exact still (Nat.le_of_lt later) fun _ => (Nat.ne_of_lt later).symm

end Flow

/-! ## Along a run -/

/-- Executing the entry of a moment only takes it off the agenda: the world stays as it is and
nothing is scheduled. -/
def Moment.Idle (m : Moment NetworkEvent World) : Prop :=
  m.outcome World.behaviour = (m.simulator.taking m.entry m.rest, m.world)

theorem Moment.idle_of_act {m : Moment NetworkEvent World} (sound : m.world.fatal = none)
    (still : m.world.act m.entry.due m.entry.event = (m.world, [])) : m.Idle := by
  have acted : World.behaviour.act (m.simulator.taking m.entry m.rest) m.entry.event m.world =
      (m.world, []) := still
  have running : World.behaviour.halted m.world = false := by
    show m.world.fatal.isSome = false
    rw [sound]
    rfl
  rw [Idle, outcome, Simulator.step_eq, acted]
  dsimp only
  rw [if_neg (by simp [running])]
  rfl

namespace DenseRun

variable {spec : ScenarioSpec} {s : Scenario} {outputs : Outputs} {r : DenseRun}
  {sim sim' : Simulator NetworkEvent} {w w' : World} {ms ms' : List (Moment NetworkEvent World)}
  {k : Nat} {f f' : Flow}

/-- In every state of a run without a fault the pending timers are linked to their senders. -/
theorem Built.timed (run : Built spec s outputs r)
    (history : History World.behaviour r.simulator r.world ms sim w) (sound : w.fatal = none)
    (flow : w.HasFlow k f) : f.Timed (pendingTimers k sim.pending) := by
  induction history generalizing f with
  | start =>
    have inside := (run.laidOut.inScene.wired flow).inside
    rw [flow.unique (run.laidOut.hasFlow inside), run.laidOut.simulator, s.pending_simulator]
    exact ⟨nofun, nofun⟩
  | @execute ms sim w entry rest before pending ih =>
    have scene := run.inScene before
    have inside := ((run.inScene (before.execute pending)).wired flow).inside
    rcases scene.exists_flow inside with ⟨g, flow'⟩
    have timed := ih (run.sound_of_pending before pending) flow'
    rw [pending, pendingTimers_cons] at timed
    have perm := pendingTimers_perm (k := k) (run.perm_pending before pending sound)
    rw [pendingTimers_append, pendingTimers_entries] at perm
    rw [flow.unique (scene.hasFlow_act flow' sound)]
    refine (timed.step (g.senderStep_next entry.event)).perm ?_
    rw [← scene.timers_act flow' sound]
    exact perm
  | settle limit _ _ ih =>
    have timed := ih sound flow
    unfold Simulator.settle
    split <;> exact timed

/-- A timer that is out of date stays so in every continuation of a run. -/
theorem Built.outOfDate {g : Nat} (run : Built spec s outputs r)
    (history : History World.behaviour r.simulator r.world ms sim w)
    (flow : w.HasFlow k f) (old : f.OutOfDate g)
    (later : History World.behaviour sim w ms' sim' w') (sound : w'.fatal = none)
    (flow' : w'.HasFlow k f') : f'.OutOfDate g := by
  induction later generalizing f' with
  | start => exact flow'.unique flow ▸ old
  | @execute ms' sim' w' entry rest before pending ih =>
    have whole := history.trans before
    have scene := run.inScene whole
    have inside := ((run.inScene history).wired flow).inside
    rcases scene.exists_flow inside with ⟨f₁, flow₁⟩
    rw [flow'.unique (scene.hasFlow_act flow₁ sound)]
    exact (ih (run.sound_of_pending whole pending) flow₁).step (f₁.senderStep_next entry.event)
  | settle _ _ _ ih => exact ih sound flow'

/-- As long as the simulator is not stopped, a sender that runs has exactly one pending timer of its
generation.  Every other pending timer of a sender changes nothing and asks for nothing when it is
executed, in every continuation of the run. -/
theorem Built.timers_in_force (run : Built spec s outputs r)
    (history : History World.behaviour r.simulator r.world ms sim w)
    (running : sim.stopped = false) {id : SenderId} {sd : Sender}
    (sender : w.network.apps.senders[id]? = some sd) :
    (sd.running = true →
        (sim.pending.filter fun e => e.event = .sendTimer id sd.generation).length = 1) ∧
      ∀ e ∈ sim.pending, ∀ g, e.event = .sendTimer id g →
        ¬ (sd.running = true ∧ g = sd.generation) →
        ∀ ms' sim' w' rest, History World.behaviour sim w ms' sim' w' →
          sim'.pending = e :: rest → Moment.Idle ⟨sim', w', e, rest⟩ := by
  have sound := run.sound_of_running history running
  have scene := run.inScene history
  have inside := scene.of_getElem?_senders sender
  obtain ⟨f, flow⟩ := scene.exists_flow inside
  cases Option.some.inj (flow.sender.symm.trans sender)
  have timed := run.timed history sound flow
  refine ⟨fun runs => (count_pendingTimers ..).symm.trans (timed.one runs), ?_⟩
  intro e mem g timer stale ms' sim' w' rest later pending
  have old : f.OutOfDate g := by
    have listed : g ∈ pendingTimers id sim.pending :=
      List.mem_filterMap.2 ⟨e, mem, by simp [timer, NetworkEvent.timer?]⟩
    refine ⟨timed.reached g listed, ?_⟩
    rw [Sender.isCurrent, Bool.eq_false_iff, ne_eq, Bool.and_eq_true, beq_iff_eq]
    exact fun current => stale ⟨current.1, current.2.symm⟩
  have whole := history.trans later
  have sound' := run.sound_of_pending whole pending
  obtain ⟨f', flow'⟩ := (run.inScene whole).exists_flow inside
  have old' := run.outOfDate history flow old later sound' flow'
  refine Moment.idle_of_act sound' ?_
  rw [timer, World.act, World.sendPacket, flow'.sender]
  exact if_pos (by rw [old'.2]; rfl)

/-- A lone station has just associated: its sender runs, with one timer in force. -/
theorem timers_in_force_lone :
    ∃ sd, (Lone.world 6).network.apps.senders[0]? = some sd ∧ sd.running = true ∧
      ((Lone.agenda 6).pending.filter
        fun e => e.event = .sendTimer 0 sd.generation).length = 1 := by
  have running : (Lone.agenda 6).stopped = false := by decide +kernel
  have some : 0 < (Lone.world 6).network.apps.senders.size := by decide +kernel
  have runs : ∀ sd ∈ (Lone.world 6).network.apps.senders, sd.running = true := by decide +kernel
  have sender := Array.getElem?_eq_getElem some
  have runs := runs _ (Array.getElem_mem some)
  obtain ⟨one, -⟩ := Lone.built.timers_in_force (Lone.history 6) running sender
  exact ⟨_, sender, runs, one runs⟩

end DenseRun

end DenseDmg
