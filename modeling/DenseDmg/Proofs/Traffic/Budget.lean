import DenseDmg.Proofs.Traffic.Schedule

/-!
# The budget of a sender

A budget and a time to stop are looked at whenever a timer of a sender is executed, against a count
of bytes that outlasts every stop and start.  So they hold for all activations of a sender together:
an activation that begins when the budget is used up has a timer that finds it so.

* `Moment.Spending`: what one event may do to what a sender has sent, with a fault or without.
* `Built.doneAt_of_endsItself`: a sender that has ended by itself has nothing to send ever after.
* `Built.within_budget`: packets, bytes and stop calls of a sender in every reached state.
-/

namespace DenseDmg

variable {s : Scenario} {outputs : Outputs} {w : World} {k : Nat} {sd sd' : Sender}

/-! ## Packets that fit into a budget -/

/-- As long as the bytes of `p` packets are less than a budget, one more is no packet too many. -/
theorem succ_le_ceilDiv {p b m : Nat} (pos : 0 < b) (less : p * b < m) : p + 1 ≤ ceilDiv m b := by
  rw [ceilDiv, Nat.le_div_iff_mul_le pos, Nat.succ_mul]
  omega

/-- Packets that are not too many exceed a budget by less than one packet. -/
theorem mul_lt_of_le_ceilDiv {p b m : Nat} (pos : 0 < b) (few : p ≤ ceilDiv m b) :
    p * b < m + b := by
  rw [ceilDiv, Nat.le_div_iff_mul_le pos] at few
  omega

namespace SenderConfig

variable {c : SenderConfig} {bytes bytes' t t' : Nat}

/-- Who has nothing to send has nothing to send with more bytes sent or at a later instant. -/
theorem DoneAt.mono (done : c.DoneAt bytes t) (more : bytes ≤ bytes') (later : t ≤ t') :
    c.DoneAt bytes' t' :=
  done.imp (fun ⟨limited, spent⟩ => ⟨limited, Nat.le_trans spent more⟩)
    fun ⟨stop, set, passed⟩ => ⟨stop, set, Nat.le_trans passed later⟩

/-- Whole packets were counted, and no more of them than the budget allows. -/
structure Keeps (c : SenderConfig) (sent : Counters) : Prop where
  bytes : sent.bytes = sent.packets * c.packetBytes
  packets : 0 < c.maxBytes → sent.packets ≤ ceilDiv c.maxBytes c.packetBytes

theorem Keeps.add {sent : Counters} (keeps : c.Keeps sent) (pos : 0 < c.packetBytes)
    (more : ¬ c.DoneAt sent.bytes t) : c.Keeps (sent.add c.packetBytes) where
  bytes := Packets.bytes_add keeps.bytes
  packets limited := by
    have less : sent.bytes < c.maxBytes :=
      Nat.lt_of_not_le fun spent => more (.inl ⟨limited, spent⟩)
    rw [keeps.bytes] at less
    exact succ_le_ceilDiv pos less

end SenderConfig

/-! ## One event -/

namespace Moment

/-- What a moment does to what the sender at position `k` has sent: nothing, or it counts a packet
while the sender is not done. -/
inductive Spending (s : Scenario) (k : Nat) (m : Moment NetworkEvent World) (after : Counters) :
    Prop
  | rests : m.countsPacket k = false → after = m.world.network.apps.sent k → Spending s k m after
  | sends : m.countsPacket k = true →
    after = (m.world.network.apps.sent k).add s.sender.packetBytes →
    ¬ s.sender.DoneAt (m.world.network.apps.sent k).bytes m.entry.due.nanos → Spending s k m after

/-- The sender at position `k` ends by itself: it runs until a timer of its own is executed, and
does not run any more then. -/
structure EndsItself (k : Nat) (m : Moment NetworkEvent World) : Prop where
  timer : ∃ g, m.entry.event = .sendTimer k g
  before : ∃ sd, m.world.network.apps.senders[k]? = some sd ∧ sd.running = true
  after : ∃ sd, (m.outcome World.behaviour).2.network.apps.senders[k]? = some sd ∧
    sd.running = false

end Moment

/-- Whether a station loses its association is read off its device. -/
theorem Moment.loses_eq {m : Moment NetworkEvent World} {f f' : Flow} (flow : m.world.HasFlow k f)
    (flow' : (m.outcome World.behaviour).2.HasFlow k f') :
    m.loses (k + 1) = (f.device.isAssociated && !f'.device.isAssociated) := by
  rw [loses, World.isAssociated, World.isAssociated, flow.device, flow'.device]
  rfl

/-- An event tells a sender to stop if its station loses its association, and not otherwise. -/
theorem Flow.Agrees.stopCalls_next {f : Flow} (agrees : f.Agrees) (n : Network) (now : Time)
    (k : Nat) (event : NetworkEvent) :
    (f.next n now k event).sender.stopCalls = f.sender.stopCalls +
      if f.device.isAssociated && !(f.next n now k event).device.isAssociated then 1 else 0 := by
  have still {f' : Flow} (device : f'.device = f.device)
      (calls : f'.sender.stopCalls = f.sender.stopCalls) :
      f'.sender.stopCalls = f.sender.stopCalls +
        if f.device.isAssociated && !f'.device.isAssociated then 1 else 0 := by
    rw [device, calls, Bool.and_not_self]
    rfl
  cases event with
  | beaconInterval index =>
    rw [Flow.next, Flow.cutOff]
    split
    next lost =>
      have associated := (Bool.and_eq_true_iff.1 lost).2
      rw [Flow.leave, ← agrees.associated, associated]
      rfl
    next => exact still rfl rfl
  | associationComplete station =>
    rw [Flow.next]
    split
    next joins =>
      rw [joins.2.2, Flow.join]
      dsimp only
      split
      · rfl
      · unfold Sender.start
        dsimp only
        split <;> rfl
    next => exact still rfl rfl
  | sendTimer sender generation =>
    rw [Flow.next]
    split
    · rw [Flow.tick]
      split
      · exact still rfl rfl
      · split <;> exact still rfl rfl
    · exact still rfl rfl
  | transferInterval duration => exact still rfl rfl
  | trainingRequested initiator responder => exact still rfl rfl
  | trainingDone initiator responder period => exact still rfl rfl
  | frameArrives tx rx kind bytes sink => exact still rfl rfl
  | sampleDue period => exact still rfl rfl

namespace DenseRun

variable {spec : ScenarioSpec} {r : DenseRun} {sim : Simulator NetworkEvent}
  {ms : List (Moment NetworkEvent World)} {m : Moment NetworkEvent World} {f : Flow}

/-- What a timer does to a sender.  It brings no fault, so that flows tell it. -/
theorem Built.senderChange_of_timer (run : Built spec s outputs r)
    (history : History World.behaviour r.simulator r.world ms m.simulator m.world)
    (pending : m.simulator.pending = m.entry :: m.rest) {j g : Nat}
    (timer : m.entry.event = .sendTimer j g) (flow : m.world.HasFlow k f) :
    ∃ f', (m.outcome World.behaviour).2.HasFlow k f' ∧
      f.SenderChange m.world.network m.entry.due k m.entry.event f'.sender := by
  have sound : (m.world.act m.entry.due m.entry.event).1.fatal = none := by
    rw [timer]
    exact World.InScene.fatal_sendPacket (run.sound_of_pending history pending) j g
  exact ⟨_, (run.inScene history).hasFlow_act flow sound, f.senderChange_next m.entry.event⟩

theorem Built.spending (run : Built spec s outputs r)
    (history : History World.behaviour r.simulator r.world ms m.simulator m.world)
    (pending : m.simulator.pending = m.entry :: m.rest) (inside : k < s.numStas) :
    m.Spending s k ((m.outcome World.behaviour).2.network.apps.sent k) := by
  have scene := run.inScene history
  have resting (same : (m.outcome World.behaviour).2.network.apps.sent k =
      m.world.network.apps.sent k) :
      m.Spending s k ((m.outcome World.behaviour).2.network.apps.sent k) := by
    refine .rests ?_ same
    rw [Moment.countsPacket, same]
    exact decide_eq_false (Nat.lt_irrefl _)
  by_cases timer : ∃ j g, m.entry.event = .sendTimer j g
  · obtain ⟨j, g, timer⟩ := timer
    obtain ⟨f, flow⟩ := scene.exists_flow inside
    obtain ⟨f', flow', change⟩ := run.senderChange_of_timer history pending timer flow
    have earlier := World.sent_of_hasFlow flow
    have later := World.sent_of_hasFlow flow'
    have counts := (Moment.of_flows flow flow').1
    generalize f'.sender = sd' at change later counts
    generalize m.entry.event = ev at change
    cases change with
    | none | stop | finish => exact resting (later.trans earlier.symm)
    | start => exact resting (later.trans (f.sender.sent_start.trans earlier.symm))
    | send sends =>
      have config := (scene.of_sender flow.sender).2.2.2.2
      have more := sends.2
      rw [Bool.eq_false_iff, ne_eq, Sender.isFinished_iff, config, ← earlier] at more
      refine .sends (counts.trans (decide_eq_true (Nat.lt_succ_self _))) ?_ more
      rw [later, earlier, ← config]
      rfl
  · have same := World.sent_act (fun j g event => timer ⟨j, g, event⟩) m.world m.entry.due
    exact resting (congrFun same k)

/-- A sender that ends by itself is told nothing, and has nothing to send. -/
theorem Built.of_endsItself (run : Built spec s outputs r)
    (history : History World.behaviour r.simulator r.world ms m.simulator m.world)
    (pending : m.simulator.pending = m.entry :: m.rest) (ends : m.EndsItself k) :
    m.starts k = false ∧ m.stops k = false ∧
      (m.outcome World.behaviour).2.network.apps.sent k = m.world.network.apps.sent k ∧
      s.sender.DoneAt (m.world.network.apps.sent k).bytes m.entry.due.nanos := by
  obtain ⟨⟨g, timer⟩, ⟨sd, at_k, running⟩, ⟨sd', at_k', rests⟩⟩ := ends
  have scene := run.inScene history
  obtain ⟨f, flow⟩ := scene.exists_flow (scene.of_getElem?_senders at_k)
  obtain ⟨f', flow', change⟩ := run.senderChange_of_timer history pending timer flow
  obtain ⟨-, starts, stops⟩ := Moment.of_flows flow flow'
  have later := World.sent_of_hasFlow flow'
  rw [starts, stops, later, World.sent_of_hasFlow flow]
  cases Option.some.inj (flow.sender.symm.trans at_k)
  cases Option.some.inj (flow'.sender.symm.trans at_k')
  rw [timer] at change
  generalize f'.sender = sd' at change rests
  cases change with
  | none => exact absurd (running.symm.trans rests) nofun
  | send => exact absurd (running.symm.trans rests) nofun
  | finish current finished =>
    rw [Sender.isFinished_iff, (scene.of_sender flow.sender).2.2.2.2] at finished
    exact ⟨decide_eq_false (Nat.lt_irrefl _), decide_eq_false (Nat.lt_irrefl _), rfl, finished⟩

/-! ## Along a run -/

/-- Whole packets within the budget have been counted, one at each moment that sent one, and all of
them before the time to stop. -/
theorem Built.keeps (run : Built spec s outputs r)
    (history : History World.behaviour r.simulator r.world ms sim w) (inside : k < s.numStas) :
    s.sender.Keeps (w.network.apps.sent k) ∧
      (ms.filter (Moment.countsPacket k)).length = (w.network.apps.sent k).packets ∧
      ∀ m ∈ ms, m.countsPacket k = true → m.entry.due < s.simulationTime := by
  induction history with
  | start =>
    have none : r.world.network.apps.sent k = .zero :=
      World.sent_of_hasFlow (run.laidOut.hasFlow inside)
    rw [none]
    exact ⟨⟨(Nat.zero_mul _).symm, fun _ => Nat.zero_le _⟩, rfl, by simp⟩
  | @execute ms sim w entry rest before pending ih =>
    obtain ⟨keeps, counted, timely⟩ := ih
    cases run.spending (m := ⟨sim, w, entry, rest⟩) before pending inside with
    | rests silent same =>
      rw [show (sim.step World.behaviour entry rest w).2.network.apps.sent k = _ from same,
        List.filter_cons_of_neg (by simp [silent])]
      refine ⟨keeps, counted, fun m mem counts => ?_⟩
      rcases List.mem_cons.1 mem with rfl | mem
      · exact absurd (silent.symm.trans counts) nofun
      · exact timely m mem counts
    | sends counts same more =>
      rw [show (sim.step World.behaviour entry rest w).2.network.apps.sent k = _ from same,
        List.filter_cons_of_pos counts, List.length_cons, counted]
      refine ⟨keeps.add (ScenarioSpec.paced_of_resolve run.accepted).packet more, rfl,
        fun m mem counts => ?_⟩
      rcases List.mem_cons.1 mem with rfl | mem
      · exact Nat.lt_of_not_le fun passed =>
          more (.inr ⟨_, ScenarioSpec.stopAt_of_resolve run.accepted, passed⟩)
      · exact timely m mem counts
  | settle _ _ _ ih => exact ih

/-- Once a sender has ended by itself it is done for good, however often it is told to start. -/
theorem Built.doneAt_of_endsItself (run : Built spec s outputs r)
    (history : History World.behaviour r.simulator r.world ms sim w) (inside : k < s.numStas)
    (ended : ∃ m ∈ ms, m.EndsItself k) :
    s.sender.DoneAt (w.network.apps.sent k).bytes sim.now.nanos := by
  induction history with
  | start =>
    obtain ⟨m, mem, -⟩ := ended
    cases mem
  | @execute ms sim w entry rest before pending ih =>
    obtain ⟨m, mem, ends⟩ := ended
    rw [Simulator.now_step]
    rcases List.mem_cons.1 mem with rfl | mem
    · obtain ⟨-, -, same, done⟩ :=
        run.of_endsItself (m := ⟨sim, w, entry, rest⟩) before pending ends
      exact same ▸ done
    · have now := (run.inOrder before).now_le entry (by simp [pending])
      have done := (ih ⟨m, mem, ends⟩).mono (Nat.le_refl _) now
      cases run.spending (m := ⟨sim, w, entry, rest⟩) before pending inside with
      | rests _ same => exact same ▸ done
      | sends _ _ more => exact absurd done more
  | settle limit _ _ ih =>
    exact (ih ended).mono (Nat.le_refl _) (Simulator.now_le_settle _ limit)

theorem Built.silent_of_endsItself (run : Built spec s outputs r)
    (history : History World.behaviour r.simulator r.world ms sim w) (inside : k < s.numStas)
    {m' : Moment NetworkEvent World} {later earlier : List (Moment NetworkEvent World)}
    (split : ms = later ++ m :: earlier) (ends : m.EndsItself k) (mem : m' ∈ later) :
    m'.countsPacket k = false := by
  obtain ⟨after, between, rfl⟩ := List.append_of_mem mem
  rw [List.append_assoc, List.cons_append] at split
  obtain ⟨before, pending⟩ := history.of_mem split
  have ended : ∃ m₀ ∈ between ++ m :: earlier, m₀.EndsItself k := ⟨m, by simp, ends⟩
  have done := run.doneAt_of_endsItself before inside ended
  have now := (run.inOrder before).now_le m'.entry (by simp [pending])
  cases run.spending before pending inside with
  | rests silent => exact silent
  | sends _ _ more => exact absurd (done.mono (Nat.le_refl _) now) more

/-- A sender is told to stop when its station loses its association, and not otherwise. -/
theorem Built.stopCalls_eq (run : Built spec s outputs r)
    (history : History World.behaviour r.simulator r.world ms sim w) (sound : w.fatal = none)
    (flow : w.HasFlow k f) :
    f.sender.stopCalls = (ms.filter (Moment.loses (k + 1))).length := by
  induction history generalizing f with
  | start =>
    have inside := (run.laidOut.inScene.wired flow).inside
    rw [flow.unique (run.laidOut.hasFlow inside)]
    rfl
  | @execute ms sim w entry rest before pending ih =>
    have scene := run.inScene before
    have inside := ((run.inScene (before.execute pending)).wired flow).inside
    obtain ⟨g, flow'⟩ := scene.exists_flow inside
    have intact := run.sound_of_pending before pending
    have next := flow.unique (scene.hasFlow_act flow' sound)
    have loses := Moment.loses_eq (m := ⟨sim, w, entry, rest⟩) flow' flow
    have told := (run.agrees before intact flow').stopCalls_next w.network entry.due k entry.event
    rw [← show f = _ from next, ih intact flow'] at told
    rw [told, List.filter_cons, loses]
    split <;> rfl
  | settle _ _ _ ih => exact ih sound flow

end DenseRun

/-- What the sender at position `k` has done, all its activations together, in a state that the
moments `ms` have led to. -/
structure WithinBudget (s : Scenario) (ms : List (Moment NetworkEvent World)) (w : World) (k : Nat)
    (sd : Sender) : Prop where
  config : sd.config = s.sender
  bytes : sd.sent.bytes = sd.sent.packets * sd.config.packetBytes
  packets : 0 < sd.config.maxBytes →
    sd.sent.packets ≤ ceilDiv sd.config.maxBytes sd.config.packetBytes
  /-- The budget is exceeded by less than one packet. -/
  overrun : 0 < sd.config.maxBytes → sd.sent.bytes < sd.config.maxBytes + sd.config.packetBytes
  /-- As many packets have been counted as moments have sent one. -/
  counted : (ms.filter (Moment.countsPacket k)).length = sd.sent.packets
  /-- None of them was sent at the time to stop or after it. -/
  timely : ∃ stop, sd.config.stopAt = some stop ∧
    ∀ m ∈ ms, m.countsPacket k = true → m.entry.due < stop
  /-- Where the sender ended by itself it was not told to stop, and no packet was sent after
  that. -/
  ended : ∀ later m earlier, ms = later ++ m :: earlier → m.EndsItself k →
    m.stops k = false ∧ ∀ m' ∈ later, m'.countsPacket k = false
  /-- It has been told to stop as often as its station has lost its association. -/
  stopCalls : w.fatal = none → sd.stopCalls = (ms.filter (Moment.loses (k + 1))).length

namespace DenseRun

/-- In every state of a run every sender keeps to its budget and to the time to stop, however often
its station has associated.  If it has ended by itself it was not told to stop, and sends nothing
any more. -/
theorem Built.within_budget {spec : ScenarioSpec} {r : DenseRun} {sim : Simulator NetworkEvent}
    {ms : List (Moment NetworkEvent World)} (run : Built spec s outputs r)
    (history : History World.behaviour r.simulator r.world ms sim w)
    (sender : w.network.apps.senders[k]? = some sd) : WithinBudget s ms w k sd := by
  have scene := run.inScene history
  obtain ⟨inside, -, -, -, config⟩ := scene.of_sender sender
  obtain ⟨⟨bytes, packets⟩, counted, timely⟩ := run.keeps history inside
  rw [Applications.sent_eq sender] at bytes packets counted
  have pos := (ScenarioSpec.paced_of_resolve run.accepted).packet
  rw [← config] at bytes packets pos
  exact {
    config := config
    bytes := bytes
    packets := packets
    overrun := fun limited => bytes ▸ mul_lt_of_le_ceilDiv pos (packets limited)
    counted := counted
    timely := by
      rw [config]
      exact ⟨_, ScenarioSpec.stopAt_of_resolve run.accepted, timely⟩
    ended := fun later m earlier split ends => by
      obtain ⟨before, pending⟩ := history.of_mem split
      exact ⟨(run.of_endsItself before pending ends).2.1,
        fun m' mem => run.silent_of_endsItself history inside split ends mem⟩
    stopCalls := fun sound => by
      obtain ⟨f, flow⟩ := scene.exists_flow inside
      cases Option.some.inj (flow.sender.symm.trans sender)
      exact run.stopCalls_eq history sound flow }

end DenseRun

/-! ### A budget of less than two packets -/

namespace Thrifty

/-- The lone station, which sends two thousand bytes in all. -/
def spec : ScenarioSpec := { Lone.spec with application := { maxBytes := 2000 } }

def scenario : Scenario :=
  match spec.resolve with
  | .ok s => s
  | .error _ => default

def run : DenseRun :=
  match DenseRun.build scenario Lone.outputs with
  | .ok r => r
  | .error _ => default

theorem built : DenseRun.Built spec scenario Lone.outputs run := ⟨rfl, rfl⟩

/-- The first event of the run. -/
def start : Moment NetworkEvent World :=
  ⟨run.simulator, run.world, ⟨.zero, 0, .beaconInterval 0⟩,
    [⟨scenario.samplePeriod, 1, .sampleDue scenario.samplePeriod⟩]⟩

/-- The simulator after the first event, which leaves the world as it is. -/
def simulator : Simulator NetworkEvent :=
  Lone.requests.foldl .serve (run.simulator.taking start.entry start.rest)

theorem step_start : run.simulator.step World.behaviour start.entry start.rest run.world =
    (simulator, run.world) := by
  have at_zero : run.world.network.devices[0]? = some scenario.accessPointDevice := by rfl
  have stations : run.world.network.stations = [scenario.stationDevice 0] := by rfl
  have up : run.world.network.linkUp 0 1 .zero = true := by rfl
  have begun : run.world.beginInterval 0 .zero = (run.world, Lone.requests) :=
    World.beginInterval_solo rfl at_zero stations rfl (by decide) up rfl 0
  exact Simulator.step_of_act begun rfl

/-- The first twelve events of the run, the latest one first. -/
def moments : List (Moment NetworkEvent World) :=
  (Simulator.replay World.behaviour 11 simulator run.world).1 ++ [start]

def agenda : Simulator NetworkEvent :=
  (Simulator.replay World.behaviour 11 simulator run.world).2.1

def world : World := (Simulator.replay World.behaviour 11 simulator run.world).2.2

theorem history : History World.behaviour run.simulator run.world moments agenda world := by
  have pending : run.simulator.pending = start.entry :: start.rest := by rfl
  have first : History World.behaviour run.simulator run.world _ _ _ := .execute .start pending
  rw [step_start] at first
  dsimp only at first
  exact first.trans (History.of_replay World.behaviour 11 simulator run.world)

/-- The last of these events is a timer that ends the sender. -/
theorem ends : ∃ m earlier, moments = m :: earlier ∧ m.EndsItself 0 := by
  have some : moments ≠ [] := by decide +kernel
  obtain ⟨m, earlier, split⟩ := List.exists_cons_of_ne_nil some
  have timer : ∀ m ∈ moments.head?, m.entry.event = .sendTimer 0 1 := by decide +kernel
  have before : ∀ m ∈ moments.head?,
      m.world.network.apps.senders[0]?.map Sender.running = .some true := by decide +kernel
  have after : ∀ m ∈ moments.head?,
      (m.outcome World.behaviour).2.network.apps.senders[0]?.map Sender.running = .some false := by
    decide +kernel
  rw [split] at timer before after
  exact ⟨m, earlier, split, ⟨1, timer m rfl⟩, Option.map_eq_some_iff.1 (before m rfl),
    Option.map_eq_some_iff.1 (after m rfl)⟩

end Thrifty

/-- A station that may send two thousand bytes sends two packets of 1448 bytes, and its sender ends
by itself without being told to. -/
theorem DenseRun.within_budget_thrifty : ∃ sd, Thrifty.world.network.apps.senders[0]? = some sd ∧
    sd.config.maxBytes = 2000 ∧ sd.sent.packets = 2 ∧ sd.sent.bytes = 2896 ∧ sd.stopCalls = 0 ∧
    ∃ m earlier, Thrifty.moments = m :: earlier ∧ m.EndsItself 0 ∧ m.stops 0 = false := by
  have packets : (Thrifty.world.network.apps.sent 0).packets = 2 := by decide +kernel
  have size : Thrifty.scenario.sender.packetBytes = 1448 := by decide +kernel
  have budget : Thrifty.scenario.sender.maxBytes = 2000 := by decide +kernel
  have sound : Thrifty.world.fatal = none := by decide +kernel
  have kept : (Thrifty.moments.filter (Moment.loses 1)).length = 0 := by decide +kernel
  obtain ⟨sd, sender, -⟩ :=
    (Thrifty.built.inScene Thrifty.history).exists_sender (k := 0) (by decide +kernel)
  have within := Thrifty.built.within_budget Thrifty.history sender
  obtain ⟨m, earlier, split, ends⟩ := Thrifty.ends
  rw [Applications.sent_eq sender] at packets
  refine ⟨sd, sender, by rw [within.config, budget], packets, ?_,
    (within.stopCalls sound).trans kept, m, earlier, split, ends,
    (within.ended [] m earlier split ends).1⟩
  rw [within.bytes, packets, within.config, size]

end DenseDmg
