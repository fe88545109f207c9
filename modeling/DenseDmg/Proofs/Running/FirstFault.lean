import DenseDmg.Dense
import DenseDmg.Proofs.Engine.Stopping
import DenseDmg.Proofs.Engine.Timeline
import DenseDmg.Proofs.World.Deeds

/-!
# The first fault wins

A world keeps its first fault.  From then on nothing is handed to the experiment any more, and the
loop ends after the event that it is at.

A session is a world and its simulator, driven by anyone: requests are made, events are executed by
the loop or by hand, and things are done to the world between events.

* `World.Breaks`: an event brings a fault, with its first few deeds; the rest of them cannot change
  that, nor the experiment as it was then.
* `Session.Frozen`: what can still happen to a session.
* `Session.first_fault_wins`: faulty sessions are frozen, and so are those whose loop has executed
  an event that brings a fault; a run ends with the fault and without a report.
-/

namespace DenseDmg

/-- An event brings a fault: after some of its deeds the world has the fault `f`, and the experiment
is `x`. -/
def World.Breaks (w : World) (now : Time) (event : NetworkEvent) (f : Fault) (x : Experiment) :
    Prop :=
  ∃ before after, w.deeds now event = before ++ after ∧
    (before.foldl (Deed.perform now) w).fatal = some f ∧
    (before.foldl (Deed.perform now) w).experiment = x

namespace World

variable {w : World} {now : Time} {event : NetworkEvent} {f : Fault} {x : Experiment}

/-- What an event does after a fault changes neither the fault nor the experiment. -/
theorem Breaks.act (breaks : w.Breaks now event f x) :
    (w.act now event).1.fatal = some f ∧ (w.act now event).1.experiment = x := by
  obtain ⟨before, after, deeds, fatal, rfl⟩ := breaks
  rw [act_eq_foldl, deeds, List.foldl_append]
  exact Deed.foldl_of_fatal fatal now after

/-- In a faulty world events bring nothing but the fault that there is. -/
theorem breaks_of_fatal (fatal : w.fatal = some f) (now : Time) (event : NetworkEvent) :
    w.Breaks now event f w.experiment :=
  ⟨[], w.deeds now event, rfl, fatal, rfl⟩

end World

/-! ## Sessions -/

/-- A world, and the simulator whose events act on it. -/
structure Session where
  simulator : Simulator NetworkEvent
  world : World

namespace Session

/-- A deed by hand. -/
def perform (σ : Session) (d : Deed) : Session where
  simulator := (d.requests σ.simulator.now σ.world).foldl Simulator.serve σ.simulator
  world := d.perform σ.simulator.now σ.world

/-- An event by hand. -/
def act (σ : Session) (event : NetworkEvent) : Session :=
  let (world, requests) := σ.world.act σ.simulator.now event
  ⟨requests.foldl Simulator.serve σ.simulator, world⟩

/-- The loop executes the first entry of the agenda. -/
def execute (σ : Session) (entry : Entry NetworkEvent) (rest : List (Entry NetworkEvent)) :
    Session :=
  let (simulator, world) := σ.simulator.step World.behaviour entry rest σ.world
  ⟨simulator, world⟩

/-- One step of a session.  The loop executes what is first in the agenda, and moves the clock on
when it ends. -/
inductive Step (σ : Session) : Session → Prop
  | ask (r : Request NetworkEvent) : Step σ { σ with simulator := σ.simulator.serve r }
  | perform (d : Deed) : Step σ (σ.perform d)
  | act (event : NetworkEvent) : Step σ (σ.act event)
  | execute {entry : Entry NetworkEvent} {rest : List (Entry NetworkEvent)} :
    σ.simulator.pending = entry :: rest → Step σ (σ.execute entry rest)
  | settle (limit : Time) : Step σ { σ with simulator := σ.simulator.settle limit }

def Reaches : Session → Session → Prop := Relation.ReflTransGen Step

variable {σ τ : Session} {f : Fault} {x : Experiment}

/-- A call of the loop with a limit is made of steps. -/
theorem reaches_of_runUntil {limit : Time} {fuel : Nat} {s : Simulator NetworkEvent} {w : World}
    (ended : Simulator.runUntil World.behaviour limit fuel σ.simulator σ.world = some (s, w)) :
    Reaches σ ⟨s, w⟩ := by
  have reaches {ms : List (Moment NetworkEvent World)} {s : Simulator NetworkEvent} {w : World}
      (history : History World.behaviour σ.simulator σ.world ms s w) : Reaches σ ⟨s, w⟩ := by
    induction history with
    | start => exact .refl
    | execute _ pending ih => exact .tail ih (.execute pending)
    | settle limit _ _ ih => exact .tail ih (.settle limit)
  rcases History.of_runUntil ended with ⟨ms, history⟩
  exact reaches history

/-- A call of the loop without a limit is made of steps. -/
theorem reaches_of_run {fuel : Nat} {s : Simulator NetworkEvent} {w : World}
    (ended : Simulator.run World.behaviour fuel σ.simulator σ.world = some (s, w)) :
    Reaches σ ⟨s, w⟩ := by
  induction fuel generalizing σ with
  | zero =>
    unfold Simulator.run at ended
    split at ended
    next =>
      cases ended
      exact .refl
    next => cases ended
  | succ fuel ih =>
    unfold Simulator.run at ended
    split at ended
    next =>
      cases ended
      exact .refl
    next entry rest pending =>
      have first : Step σ (σ.execute entry rest) := .execute pending
      dsimp only at ended
      split at ended
      next =>
        cases ended
        exact .single first
      next => exact .head first (ih ended)

theorem world_execute (σ : Session) (entry : Entry NetworkEvent)
    (rest : List (Entry NetworkEvent)) :
    (σ.execute entry rest).world = (σ.world.act entry.due entry.event).1 := by
  rw [Session.execute, Simulator.step_eq]
  rfl

/-- An event that brings a fault stops the loop. -/
theorem of_breaks {entry : Entry NetworkEvent} (rest : List (Entry NetworkEvent))
    (breaks : σ.world.Breaks entry.due entry.event f x) :
    (σ.execute entry rest).world.fatal = some f ∧ (σ.execute entry rest).world.experiment = x ∧
      (σ.execute entry rest).simulator.Spent := by
  have world := σ.world_execute entry rest
  obtain ⟨fatal, experiment⟩ := breaks.act
  rw [← world] at fatal experiment
  refine ⟨fatal, experiment, Simulator.spent_step_of_halted ?_⟩
  show (σ.execute entry rest).world.halted = true
  rw [World.halted, fatal]
  rfl

/-! ## After a fault -/

/-- In a faulty session a step changes neither the fault nor the experiment. -/
theorem Step.world_of_fatal (step : Step σ τ) (fatal : σ.world.fatal = some f) :
    τ.world.fatal = some f ∧ τ.world.experiment = σ.world.experiment := by
  cases step with
  | ask r => exact ⟨fatal, rfl⟩
  | perform d =>
    obtain ⟨fatal', experiment, -⟩ := d.of_fatal fatal σ.simulator.now
    exact ⟨fatal', experiment⟩
  | act event => exact (World.breaks_of_fatal fatal σ.simulator.now event).act
  | @execute entry rest pending =>
    rw [world_execute]
    exact (World.breaks_of_fatal fatal entry.due entry.event).act
  | settle limit => exact ⟨fatal, rfl⟩

/-- A step does not change a simulator that is spent. -/
theorem Step.of_spent (step : Step σ τ) (spent : σ.simulator.Spent) :
    τ.simulator = σ.simulator := by
  cases step with
  | ask r => exact spent.serve r
  | perform d => exact spent.foldl_serve _
  | act event => exact spent.foldl_serve _
  | execute pending => cases pending.symm.trans spent.pending
  | settle limit => exact Simulator.settle_of_stopped spent.stopped limit

/-- A step executes an event or none, and in a faulty session an event is the last one. -/
theorem Step.executed_of_fatal (step : Step σ τ) (fatal : σ.world.fatal = some f) :
    τ.simulator.executed = σ.simulator.executed ∨
      τ.simulator.executed = σ.simulator.executed + 1 ∧ τ.simulator.Spent := by
  cases step with
  | ask r => exact .inl (Simulator.executed_foldl_serve [r])
  | perform d => exact .inl (Simulator.executed_foldl_serve _)
  | act event => exact .inl (Simulator.executed_foldl_serve _)
  | @execute entry rest pending =>
    obtain ⟨-, -, spent⟩ := of_breaks rest (World.breaks_of_fatal fatal entry.due entry.event)
    exact .inr ⟨Simulator.executed_step entry rest, spent⟩
  | settle limit => exact .inl (Simulator.executed_settle limit)

theorem Reaches.world_of_fatal (reaches : Reaches σ τ) (fatal : σ.world.fatal = some f) :
    τ.world.fatal = some f ∧ τ.world.experiment = σ.world.experiment := by
  induction reaches with
  | refl => exact ⟨fatal, rfl⟩
  | tail _ step ih =>
    obtain ⟨fatal', experiment⟩ := step.world_of_fatal ih.1
    exact ⟨fatal', experiment.trans ih.2⟩

theorem Reaches.of_spent (reaches : Reaches σ τ) (spent : σ.simulator.Spent) :
    τ.simulator = σ.simulator := by
  induction reaches with
  | refl => rfl
  | tail _ step ih => exact (step.of_spent (ih ▸ spent)).trans ih

/-- In a faulty session one event is executed at most, whatever the loop is called for. -/
theorem Reaches.executed_of_fatal (reaches : Reaches σ τ) (fatal : σ.world.fatal = some f) :
    τ.simulator.executed = σ.simulator.executed ∨
      τ.simulator.executed = σ.simulator.executed + 1 ∧ τ.simulator.Spent := by
  induction reaches with
  | refl => exact .inl rfl
  | tail before step ih =>
    -- A first event leaves the simulator spent, and then no step counts another one.
    rcases ih with none | ⟨one, spent⟩
    · rw [← none]
      exact step.executed_of_fatal (Reaches.world_of_fatal before fatal).1
    · rw [step.of_spent spent]
      exact .inr ⟨one, spent⟩

/-- For good, the fault of a session is `f` and its experiment is `x`, and at most `n` more events
are executed. -/
structure Frozen (σ : Session) (f : Fault) (x : Experiment) (n : Nat) : Prop where
  later : ∀ τ, Reaches σ τ → τ.world.fatal = some f ∧ τ.world.experiment = x ∧
    τ.simulator.executed ≤ σ.simulator.executed + n
  /-- So it is after a call of the loop, with or without a limit. -/
  loop : ∀ limit fuel s w,
    Simulator.runUntil World.behaviour limit fuel σ.simulator σ.world = some (s, w) ∨
      Simulator.run World.behaviour fuel σ.simulator σ.world = some (s, w) →
    w.fatal = some f ∧ w.experiment = x ∧ s.executed ≤ σ.simulator.executed + n

theorem frozen_of_executed_le {n : Nat} (fatal : σ.world.fatal = some f)
    (bounded : ∀ τ, Reaches σ τ → τ.simulator.executed ≤ σ.simulator.executed + n) :
    σ.Frozen f σ.world.experiment n := by
  have later (τ : Session) (reaches : Reaches σ τ) : τ.world.fatal = some f ∧
      τ.world.experiment = σ.world.experiment ∧
      τ.simulator.executed ≤ σ.simulator.executed + n := by
    obtain ⟨fatal', experiment⟩ := reaches.world_of_fatal fatal
    exact ⟨fatal', experiment, bounded τ reaches⟩
  refine ⟨later, ?_⟩
  rintro limit fuel s w (ended | ended)
  · exact later ⟨s, w⟩ (reaches_of_runUntil ended)
  · exact later ⟨s, w⟩ (reaches_of_run ended)

theorem frozen_of_fatal (fatal : σ.world.fatal = some f) : σ.Frozen f σ.world.experiment 1 := by
  apply frozen_of_executed_le fatal
  intro τ reaches
  have count := Reaches.executed_of_fatal reaches fatal
  omega

theorem frozen_of_spent (fatal : σ.world.fatal = some f) (spent : σ.simulator.Spent) :
    σ.Frozen f σ.world.experiment 0 := by
  apply frozen_of_executed_le fatal
  intro τ reaches
  rw [Reaches.of_spent reaches spent]
  exact Nat.le_refl _

/-! ## Inside a call of the loop -/

/-- `Inside limit σ n τ`: a call of the loop in `σ` has executed `n` events, which led to `τ`, and
it goes on if something is due. -/
inductive Inside (limit : Time) (σ : Session) : Nat → Session → Prop
  | enter : Inside limit σ 0 σ
  | execute {n : Nat} {τ : Session} {entry : Entry NetworkEvent}
    {rest : List (Entry NetworkEvent)} :
    Inside limit σ n τ → τ.simulator.pending = entry :: rest → ¬ limit < entry.due →
    (τ.execute entry rest).simulator.stopped = false → Inside limit σ (n + 1) (τ.execute entry rest)

/-- What is left of a call is a call. -/
theorem Inside.runUntil_eq {limit : Time} {n : Nat} (inside : Inside limit σ n τ) (fuel : Nat) :
    Simulator.runUntil World.behaviour limit (n + fuel) σ.simulator σ.world =
      Simulator.runUntil World.behaviour limit fuel τ.simulator τ.world := by
  induction inside generalizing fuel with
  | enter => rw [Nat.zero_add]
  | @execute n τ entry rest _ pending due running ih =>
    rw [Nat.add_assoc, Nat.add_comm 1 fuel, ih, Simulator.runUntil_of_due pending due]
    exact if_neg (Bool.eq_false_iff.1 running)

/-- A call ends with the event that brings a fault. -/
theorem runUntil_of_breaks {limit : Time} {entry : Entry NetworkEvent}
    {rest : List (Entry NetworkEvent)} (pending : σ.simulator.pending = entry :: rest)
    (due : ¬ limit < entry.due) (breaks : σ.world.Breaks entry.due entry.event f x) (fuel : Nat) :
    Simulator.runUntil World.behaviour limit (fuel + 1) σ.simulator σ.world =
      some ((σ.execute entry rest).simulator, (σ.execute entry rest).world) := by
  obtain ⟨-, -, spent⟩ := of_breaks rest breaks
  rw [Simulator.runUntil_of_due pending due]
  exact if_pos spent.stopped

/-! ## The end of a run -/

/-- A run whose loop has ended with a fault ends with it, and nothing is written any more. -/
theorem run_of_fatal {r : DenseRun} {fuel : Nat} {s : Simulator NetworkEvent} {w : World}
    (ended : Simulator.runUntil World.behaviour r.stopAt fuel r.simulator r.world = some (s, w))
    (fatal : w.fatal = some f) (experiment : w.experiment = x) :
    ∃ w', r.run fuel = some (w', .error f) ∧ w'.experiment = x := by
  refine ⟨{ w with fatal := none }, ?_, experiment⟩
  rw [DenseRun.run, ended]
  simp only [Option.map_some, DenseRun.conclude, fatal]

/-- A run whose loop comes to an event that brings a fault ends there. -/
theorem run_of_breaks {r : DenseRun} {n : Nat} {entry : Entry NetworkEvent}
    {rest : List (Entry NetworkEvent)} (inside : Inside r.stopAt ⟨r.simulator, r.world⟩ n σ)
    (pending : σ.simulator.pending = entry :: rest) (due : ¬ r.stopAt < entry.due)
    (breaks : σ.world.Breaks entry.due entry.event f x) (fuel : Nat) :
    ∃ w, r.run (n + (fuel + 1)) = some (w, .error f) ∧ w.experiment = x := by
  obtain ⟨fatal, experiment, -⟩ := of_breaks rest breaks
  have ended := (inside.runUntil_eq (fuel + 1)).trans (runUntil_of_breaks pending due breaks fuel)
  exact run_of_fatal ended fatal experiment

/-- A run that begins with a fault executes one event at most. -/
theorem run_of_faulty_start {r : DenseRun} (fatal : r.world.fatal = some f) (fuel : Nat) :
    ∃ w, r.run (fuel + 1) = some (w, .error f) ∧ w.experiment = r.world.experiment := by
  by_cases idle : ∀ entry ∈ r.simulator.pending.head?, r.stopAt < entry.due
  · exact run_of_fatal (Simulator.runUntil_of_idle idle) fatal rfl
  · rcases Simulator.exists_due_of_not_idle idle with ⟨entry, rest, pending, due⟩
    have breaks := World.breaks_of_fatal fatal entry.due entry.event
    -- The first event finds the fault there, which is a way to bring it.
    rw [← Nat.zero_add (fuel + 1)]
    exact run_of_breaks .enter pending due breaks fuel

/-- The first fault wins.  A world keeps the fault that it has, or takes the one that a deed brings;
the deeds of an event are what it does.  In a faulty session neither the fault nor the experiment
changes any more, whatever is done, and one more event is executed at most.  An event that brings a
fault, with the last of its deeds or long before that, leaves the experiment as it was when the
fault came up; in the loop it is the last event.  A run with a fault ends with it and writes nothing
after that, neither a report nor anything else. -/
theorem first_fault_wins :
    (∀ (w : World) (now : Time) (d : Deed),
        (d.perform now w).fatal = w.fatal.or (d.fault? now w)) ∧
      (∀ (w : World) (now : Time) (event : NetworkEvent),
        (w.act now event).1 = (w.deeds now event).foldl (Deed.perform now) w) ∧
      (∀ (σ : Session) (f : Fault), σ.world.fatal = some f → σ.Frozen f σ.world.experiment 1) ∧
      (∀ (σ : Session) (event : NetworkEvent) (f : Fault) (x : Experiment),
        σ.world.Breaks σ.simulator.now event f x → (σ.act event).Frozen f x 1) ∧
      (∀ (σ : Session) (entry : Entry NetworkEvent) (rest : List (Entry NetworkEvent)) (f : Fault)
        (x : Experiment), σ.world.Breaks entry.due entry.event f x →
          (σ.execute entry rest).Frozen f x 0) ∧
      ∀ (r : DenseRun) (f : Fault),
        (r.world.fatal = some f → ∀ fuel, ∃ w, r.run (fuel + 1) = some (w, .error f) ∧
          w.experiment = r.world.experiment) ∧
        ∀ (n : Nat) (σ : Session) (entry : Entry NetworkEvent) (rest : List (Entry NetworkEvent))
          (x : Experiment), Inside r.stopAt ⟨r.simulator, r.world⟩ n σ →
            σ.simulator.pending = entry :: rest → ¬ r.stopAt < entry.due →
            σ.world.Breaks entry.due entry.event f x →
            ∀ fuel, ∃ w, r.run (n + (fuel + 1)) = some (w, .error f) ∧ w.experiment = x := by
  refine ⟨Deed.fatal_perform, World.act_eq_foldl, fun σ f => frozen_of_fatal, ?_, ?_,
    fun r f => ⟨run_of_faulty_start, ?_⟩⟩
  · intro σ event f x breaks
    obtain ⟨fatal, rfl⟩ := breaks.act
    exact frozen_of_fatal fatal
  · intro σ entry rest f x breaks
    obtain ⟨fatal, rfl, spent⟩ := of_breaks rest breaks
    exact frozen_of_spent fatal spent
  · intro n σ entry rest x inside pending due breaks
    exact run_of_breaks inside pending due breaks

/-! ### A station without traffic -/

namespace Stranger

/-- A station that is associated with node 0 and cut off from it. -/
def station (node : NodeId) : Device :=
  { (default : Device) with
    node := node
    address := Network.addressOf node
    role := .station
    aid := some node }

/-- Of two stations that are both cut off, only the second one has a pair. -/
def world : World :=
  .ofNetwork
    { (default : Network) with
      devices := #[{ (default : Device) with role := .accessPoint }, station 1, station 2]
      accessPoint := some 0
      blockages := .ofList [⟨1, .zero, .ofSecs 1⟩, ⟨2, .zero, .ofSecs 1⟩] }
    { (default : Experiment) with
      pairs := ⟨[.idle 2 0 0 (Network.addressOf 2) (Network.addressOf 0)]⟩ }

/-- A beacon interval begins, and a sample follows. -/
def run : DenseRun where
  simulator := (Simulator.fresh.schedule .zero (.beaconInterval 0)).schedule (.ofMillis 1)
    (.sampleDue (.ofMillis 1))
  world := world
  accessPoint := 0
  stations := [1, 2]
  simulationTime := .ofSecs 1
  stopAt := .ofSecs 1

/-- The report for the first station fails, after its notice has been written.  That of the second
one is not heard, and the sample is not taken. -/
theorem first_fault_wins_stranger :
    ∃ x, world.Breaks .zero (.beaconInterval 0) (.missingTraffic 1) x ∧
      (world.deeds .zero (.beaconInterval 0)).length = 4 ∧ x.outputs.console.lines = 1 ∧
      ∀ fuel, ∃ w, run.run (fuel + 1) = some (w, .error (.missingTraffic 1)) ∧
        w.experiment = x := by
  have breaks : world.Breaks .zero (.beaconInterval 0) (.missingTraffic 1) _ :=
    ⟨world.lossDeeds (station 1), world.lossDeeds (station 2), rfl, rfl, rfl⟩
  refine ⟨_, breaks, rfl, rfl, fun fuel => ?_⟩
  obtain ⟨-, -, -, -, -, runs⟩ := first_fault_wins
  obtain ⟨w, ended, experiment⟩ := (runs run (.missingTraffic 1)).2 0 ⟨run.simulator, run.world⟩
    ⟨.zero, 0, .beaconInterval 0⟩ _ _ .enter rfl (by decide) breaks fuel
  exact ⟨w, Nat.zero_add (fuel + 1) ▸ ended, experiment⟩

end Stranger

end Session

end DenseDmg
