import DenseDmg.Proofs.Association.Slots
import DenseDmg.Proofs.Scene.Reports

/-!
# Trainings before associations

A station is to be trained before it associates.  An association that is due only looks at the link
at that instant: it does not ask whether the training in the slot before it was a success.  That
training looks at the link when the slot is over.

* `Built.associated_after_slot`: before every association a slot of its station is over, and in
  beacon intervals of the usual length since the station lost its association.  A training has been
  completed since then if and only if a slot was over while the station was not cut off.
* `associated_without_training`: a station associates without having been trained.
-/

namespace DenseDmg

/-! ## What happens to a station at a moment -/

/-- Whether the device of a node is associated. -/
def World.isAssociated (w : World) (node : NodeId) : Bool :=
  w.network.devices[node]?.any Device.isAssociated

/-- Whether a station is cut off at an instant. -/
def Scenario.BlockedAt (s : Scenario) (station : NodeId) (now : Time) : Prop :=
  ∃ b ∈ s.blockages, b.1 = station ∧ b.2.1 ≤ now ∧ now < b.2.2

namespace Moment

/-- The slot of a station is over. -/
def EndsSlot (station : NodeId) (m : Moment NetworkEvent World) : Prop :=
  m.entry.event = .slotEnd station

/-- The training of a station in its slot is completed: its slot is over, the link is up, and the
access point and the station both have it reported. -/
structure CompletesTraining (station : NodeId) (m : Moment NetworkEvent World) : Prop where
  ends : m.EndsSlot station
  up : m.world.network.linkUp 0 station m.entry.due = true
  reported : ∃ first second : TrainingRecord, (first.source = 0 ∧ first.peer = station) ∧
    (second.source = station ∧ second.peer = 0) ∧
    (m.outcome World.behaviour).2.experiment.history =
      (m.world.experiment.history.push (.training first)).push (.training second)

/-- The completion of an association makes a station associated. -/
structure Associates (station : NodeId) (m : Moment NetworkEvent World) : Prop where
  event : m.entry.event = .associationComplete station
  before : m.world.isAssociated station = false
  after : (m.outcome World.behaviour).2.isAssociated station = true

/-- Whether a station loses its association. -/
def loses (station : NodeId) (m : Moment NetworkEvent World) : Bool :=
  m.world.isAssociated station && !(m.outcome World.behaviour).2.isAssociated station

end Moment

/-- The moments since a station lost its association most recently, all of them if it never did. -/
def sinceLost (station : NodeId) (ms : List (Moment NetworkEvent World)) :
    List (Moment NetworkEvent World) :=
  ms.takeWhile fun m => !m.loses station

theorem sinceLost_subset {station : NodeId} {ms : List (Moment NetworkEvent World)}
    {m : Moment NetworkEvent World} (mem : m ∈ sinceLost station ms) : m ∈ ms :=
  (List.takeWhile_sublist _).subset mem

theorem mem_sinceLost_cons {station : NodeId} {ms : List (Moment NetworkEvent World)}
    {m m' : Moment NetworkEvent World} (keeps : m.loses station = false) :
    m' ∈ sinceLost station (m :: ms) ↔ m' = m ∨ m' ∈ sinceLost station ms := by
  rw [sinceLost, List.takeWhile_cons, if_pos (by simp [keeps]), List.mem_cons]
  rfl

namespace World

variable {w : World} {now : Time} {event : NetworkEvent} {node : NodeId}

theorem isAssociated_setAid {n : Network} {aid : Nat} {other : NodeId}
    (associated : n.devices[node]?.any Device.isAssociated = true) :
    (n.setAid other (some aid)).devices[node]?.any Device.isAssociated = true := by
  rw [Network.setAid, Array.getElem?_modify]
  split
  · cases at_node : n.devices[node]? with
    | none =>
      rw [at_node] at associated
      cases associated
    | some d => rfl
  · exact associated

/-- Only a beacon interval takes associations away. -/
theorem isAssociated_act (other : ∀ i, event ≠ .beaconInterval i)
    (associated : w.isAssociated node = true) : (w.act now event).1.isAssociated node = true := by
  have same {w' : World} (flows : w'.flows = w.flows) : w'.isAssociated node = true := by
    rw [isAssociated, show w'.network.devices = w.network.devices from congrArg Prod.fst flows]
    exact associated
  cases event with
  | beaconInterval index => exact absurd rfl (other index)
  | transferInterval duration => exact same (w.flows_beginTransfer ..)
  | associationComplete station =>
    simp only [act, completeAssociation]
    split
    · split
      · exact associated
      · rw [isAssociated, devices_dispatch]
        exact isAssociated_setAid associated
    · exact associated
  | trainingRequested initiator responder =>
    exact same (congrArg World.flows (w.fst_beginTraining ..))
  | trainingDone initiator responder period => exact same (w.flows_endTraining ..)
  | frameArrives tx rx kind bytes sink => exact same (w.flows_receiveFrame ..)
  | sendTimer sender generation =>
    simp only [act, sendPacket]
    split
    · exact associated
    · split
      · exact associated
      · split <;> exact associated
  | sampleDue period => exact same (w.flows_takeSample ..)

/-- The blockages of the network are those of the scenario. -/
theorem InScene.isBlocked_iff {s : Scenario} {outputs : Outputs} (scene : w.InScene s outputs)
    (accepted : s.Accepted) : w.network.isBlocked node now = true ↔ s.BlockedAt node now := by
  rw [Network.isBlocked, scene.blockages, BlockageTable.covers_ofList, List.any_eq_true]
  have at_node : ∀ b ∈ s.blockages, s.stationNodes[b.1 - 1]? = some b.1 := by
    intro b mem
    rcases accepted.blockages b mem with ⟨first, last⟩
    rw [Scenario.stationNodes, List.getElem?_range' (by omega)]
    congr 1
    omega
  constructor
  · rintro ⟨⟨node', start, finish⟩, mem, inside⟩
    rcases List.mem_filterMap.1 mem with ⟨b, memb, entered⟩
    dsimp only at entered
    rw [at_node b memb] at entered
    cases entered
    simp only [Blockage.covers, Bool.and_eq_true, beq_iff_eq, decide_eq_true_eq] at inside
    exact ⟨b, memb, inside.1, inside.2.1, inside.2.2⟩
  · rintro ⟨b, memb, rfl, start, finish⟩
    refine ⟨⟨b.1, b.2.1, b.2.2⟩, List.mem_filterMap.2 ⟨b, memb, ?_⟩, ?_⟩
    · dsimp only
      rw [at_node b memb]
      rfl
    · simp [Blockage.covers, start, finish]

/-- The access point is never cut off, so that a link is up unless its station is cut off. -/
theorem InScene.linkUp_iff {s : Scenario} {outputs : Outputs} (scene : w.InScene s outputs)
    (accepted : s.Accepted) : w.network.linkUp 0 node now = true ↔ ¬ s.BlockedAt node now := by
  have free : w.network.isBlocked 0 now = false := by
    rw [Bool.eq_false_iff, ne_eq, scene.isBlocked_iff accepted]
    rintro ⟨b, memb, zero, -⟩
    have first := (accepted.blockages b memb).1
    omega
  rw [Network.linkUp, free, Bool.not_false, Bool.true_and, Bool.not_eq_true', Bool.eq_false_iff,
    ne_eq, scene.isBlocked_iff accepted]

end World

/-! ## A station that is cut off while its slot ends -/

namespace Lone

/-- The association is the seventh event.  The slot was over before while the link was down. -/
theorem associates : ∃ m earlier, moments 6 = m :: earlier ∧ m.Associates 1 ∧
    ∀ m' ∈ earlier, ¬ m'.CompletesTraining 1 := by
  have associates : ∀ m ∈ (moments 6).head?, m.entry.event = .associationComplete 1 ∧
      m.world.isAssociated 1 = false ∧ (m.outcome World.behaviour).2.isAssociated 1 = true := by
    decide +kernel
  have down : ∀ m ∈ (moments 6).tail, m.entry.event = .slotEnd 1 →
      m.world.network.linkUp 0 1 m.entry.due = false := by
    decide +kernel
  have some : (moments 6).length = 7 := by decide +kernel
  cases split : moments 6 with
  | nil =>
    rw [split] at some
    cases some
  | cons m earlier =>
    rw [split] at associates down
    rcases associates m rfl with ⟨event, before, after⟩
    refine ⟨m, earlier, rfl, ⟨event, before, after⟩, fun m' mem completes => ?_⟩
    have up := completes.up
    rw [down m' mem completes.ends] at up
    cases up

end Lone

/-- An association does not need a training: a station may associate that was never trained. -/
theorem associated_without_training : ¬ ∀ (spec : ScenarioSpec) (s : Scenario) (outputs : Outputs)
    (r : DenseRun) (sim : Simulator NetworkEvent) (w : World) (k : Nat)
    (m : Moment NetworkEvent World) (ms later earlier : List (Moment NetworkEvent World)),
    DenseRun.Built spec s outputs r → outputs.Reliable →
      History World.behaviour r.simulator r.world ms sim w → ms = later ++ m :: earlier →
        k < s.numStas → m.Associates (k + 1) →
          ∃ m' ∈ sinceLost (k + 1) earlier, m'.CompletesTraining (k + 1) := by
  intro claim
  obtain ⟨m, earlier, split, associates, untrained⟩ := Lone.associates
  obtain ⟨m', mem, completes⟩ := claim Lone.spec Lone.scenario Lone.outputs Lone.run _ _ 0 m
    (Lone.moments 6) [] earlier Lone.built Lone.reliable (Lone.history 6) split Nat.zero_lt_one
    associates
  exact untrained m' (sinceLost_subset mem) completes

/-! ## Along a run -/

theorem Moment.keeps_of_ne_interval {m : Moment NetworkEvent World}
    (other : ∀ i, m.entry.event ≠ .beaconInterval i) (station : NodeId) :
    m.loses station = false := by
  rw [loses, Bool.and_eq_false_iff, Bool.not_eq_false']
  cases before : m.world.isAssociated station with
  | false => exact .inl rfl
  | true => exact .inr (World.isAssociated_act other before)

namespace DenseRun

variable {spec : ScenarioSpec} {s : Scenario} {outputs : Outputs} {r : DenseRun}
  {sim : Simulator NetworkEvent} {w : World} {ms : List (Moment NetworkEvent World)}

theorem not_association_of_mem_simulator {e : Entry NetworkEvent} (mem : e ∈ s.simulator.pending) :
    (∀ station, e.event ≠ .associationComplete station) := by
  rw [s.pending_simulator] at mem
  rcases List.mem_cons.1 mem with rfl | mem
  · exact nofun
  · rw [List.mem_singleton.1 mem]
    exact nofun

/-- In every state of a run without a fault the slot of a pending association is ahead or over. -/
theorem Built.slotsAhead (run : Built spec s outputs r)
    (history : History World.behaviour r.simulator r.world ms sim w) (sound : w.fatal = none) :
    SlotsAhead (fun station => ∃ m ∈ ms, m.EndsSlot station) sim.pending := by
  induction history with
  | start =>
    rw [run.laidOut.simulator]
    exact fun e mem station association =>
      absurd association (not_association_of_mem_simulator mem station)
  | @execute ms sim w entry rest before pending ih =>
    have ahead := ih (run.sound_of_pending before pending)
    rw [pending] at ahead
    refine ahead.step (run.inScene before) ?_ ?_ (run.perm_pending before pending sound)
    · rintro e - station - ⟨m, mem, slot⟩
      exact ⟨m, List.mem_cons_of_mem _ mem, slot⟩
    · exact fun station slot => ⟨_, List.mem_cons_self, slot⟩
  | settle limit _ _ ih =>
    have ahead := ih sound
    unfold Simulator.settle
    split <;> exact ahead

/-- In beacon intervals of the usual length, it is over since the station lost its association. -/
theorem Built.slotsAhead_sinceLost (run : Built spec s outputs r)
    (long : associationSpan ≤ s.beaconInterval)
    (history : History World.behaviour r.simulator r.world ms sim w) (sound : w.fatal = none) :
    AssociationsFirst sim.pending ∧
      SlotsAhead (fun station => ∃ m ∈ sinceLost station ms, m.EndsSlot station) sim.pending := by
  induction history with
  | start =>
    rw [run.laidOut.simulator]
    refine ⟨⟨?_, fun e mem _ _ station _ association =>
        absurd association (not_association_of_mem_simulator mem station)⟩,
      fun e mem station association =>
        absurd association (not_association_of_mem_simulator mem station)⟩
    rw [s.pending_simulator]
    have is_first : ∀ b ∈ [⟨.zero, 0, .beaconInterval 0⟩,
        (⟨s.samplePeriod, 1, .sampleDue s.samplePeriod⟩ : Entry NetworkEvent)],
        ∀ i, b.event = .beaconInterval i → b = ⟨.zero, 0, .beaconInterval 0⟩ := by
      intro b mem i event
      rcases List.mem_cons.1 mem with rfl | mem
      · rfl
      · rw [List.mem_singleton.1 mem] at event
        cases event
    intro b mem b' mem' i j event event'
    rw [is_first b mem i event, is_first b' mem' j event']
  | @execute ms sim w entry rest before pending ih =>
    rcases ih (run.sound_of_pending before pending) with ⟨first, ahead⟩
    have scene := run.inScene before
    have sorted : ∀ e ∈ rest, entry.Before e := fun e mem =>
      (run.inOrder before).before_of_mem pending mem
    have perm := run.perm_pending before pending sound
    rw [pending] at first ahead
    refine ⟨first.step scene long sorted perm, ahead.step scene ?_ ?_ perm⟩
    · rintro e mem station association ⟨m, memm, slot⟩
      have other : ∀ i, entry.event ≠ .beaconInterval i := fun i interval =>
        (first.isOther sorted interval e mem).ne_associationComplete association
      have keeps : Moment.loses station ⟨sim, w, entry, rest⟩ = false :=
        Moment.keeps_of_ne_interval other station
      exact ⟨m, (mem_sinceLost_cons keeps).2 (.inr memm), slot⟩
    · intro station slot
      have other : ∀ i, entry.event ≠ .beaconInterval i := fun i interval => by
        rw [slot] at interval
        cases interval
      have keeps : Moment.loses station ⟨sim, w, entry, rest⟩ = false :=
        Moment.keeps_of_ne_interval other station
      exact ⟨_, (mem_sinceLost_cons keeps).2 (.inl rfl), slot⟩
  | settle limit _ _ ih =>
    have both := ih sound
    unfold Simulator.settle
    split <;> exact both

/-- The training in a slot is completed if its station is not cut off when the slot is over. -/
theorem Built.completesTraining_iff (run : Built spec s outputs r) (reliable : outputs.Reliable)
    {m : Moment NetworkEvent World}
    (history : History World.behaviour r.simulator r.world ms m.simulator m.world)
    (pending : m.simulator.pending = m.entry :: m.rest) {k : Nat} (inside : k < s.numStas) :
    m.CompletesTraining (k + 1) ↔ m.EndsSlot (k + 1) ∧ ¬ s.BlockedAt (k + 1) m.entry.due := by
  have scene := run.inScene history
  have accepted := ScenarioSpec.accepted_of_resolve run.accepted
  constructor
  · intro completes
    exact ⟨completes.ends, (scene.linkUp_iff accepted).1 completes.up⟩
  · rintro ⟨ends, free⟩
    have up := (scene.linkUp_iff accepted).2 free
    rcases scene.exists_accessPoint with ⟨ap, at_zero, -⟩
    rcases scene.exists_device inside with ⟨d, at_k, -⟩
    refine ⟨ends, up, ?_⟩
    have act : (m.outcome World.behaviour).2 =
        (m.world.endTraining 0 (k + 1) .associationTraining m.entry.due).1 := by
      show (m.world.act m.entry.due m.entry.event).1 = _
      rw [ends]
      rfl
    rw [act]
    obtain ⟨first, second, atAccessPoint, atStation, logged, -⟩ := scene.endTraining accepted
      reliable (run.sound_of_pending history pending) at_zero at_k up .associationTraining
    exact ⟨first, second, atAccessPoint, atStation, logged⟩

/-- Whenever the completion of an association makes a station associated, a slot of the station is
over; and if beacon intervals are long enough for all associations of one to be over before the
next one, it is over since the station lost its association most recently.  A training of the
station has been completed since then if and only if one of its slots was over while it was not cut
off. -/
theorem Built.associated_after_slot (run : Built spec s outputs r) (reliable : outputs.Reliable)
    (history : History World.behaviour r.simulator r.world ms sim w)
    {m : Moment NetworkEvent World} {later earlier : List (Moment NetworkEvent World)}
    (split : ms = later ++ m :: earlier) {k : Nat} (inside : k < s.numStas)
    (associates : m.Associates (k + 1)) :
    (∃ m' ∈ earlier, m'.EndsSlot (k + 1)) ∧
      (associationSpan ≤ s.beaconInterval → ∃ m' ∈ sinceLost (k + 1) earlier, m'.EndsSlot (k + 1)) ∧
      ((∃ m' ∈ sinceLost (k + 1) earlier, m'.CompletesTraining (k + 1)) ↔
        ∃ m' ∈ sinceLost (k + 1) earlier,
          m'.EndsSlot (k + 1) ∧ ¬ s.BlockedAt (k + 1) m'.entry.due) := by
  obtain ⟨before, pending⟩ := history.of_mem split
  have sound := run.sound_of_pending before pending
  have sorted : ∀ e ∈ m.rest, m.entry.Before e := fun e mem =>
    (run.inOrder before).before_of_mem pending mem
  refine ⟨?_, ?_, ?_⟩
  · have ahead := run.slotsAhead before sound
    rw [pending] at ahead
    exact ahead.slot_ended sorted associates.event
  · intro long
    have ahead := (run.slotsAhead_sinceLost long before sound).2
    rw [pending] at ahead
    exact ahead.slot_ended sorted associates.event
  · have iff : ∀ m' ∈ sinceLost (k + 1) earlier, m'.CompletesTraining (k + 1) ↔
        m'.EndsSlot (k + 1) ∧ ¬ s.BlockedAt (k + 1) m'.entry.due := by
      intro m' mem
      rcases List.append_of_mem (sinceLost_subset mem) with ⟨later', earlier', split'⟩
      rcases before.of_mem split' with ⟨before', pending'⟩
      exact run.completesTraining_iff reliable before' pending' inside
    exact exists_congr fun m' => and_congr_right fun mem => iff m' mem

/-- The slot of a lone station is over before it associates, and was not over while the station was
within reach. -/
theorem associated_after_slot_lone : ∃ m earlier, Lone.moments 6 = m :: earlier ∧
    m.Associates 1 ∧ (∃ m' ∈ sinceLost 1 earlier, m'.EndsSlot 1) ∧
      ¬ ∃ m' ∈ sinceLost 1 earlier, m'.EndsSlot 1 ∧ ¬ Lone.scenario.BlockedAt 1 m'.entry.due := by
  obtain ⟨m, earlier, split, associates, untrained⟩ := Lone.associates
  have split' : Lone.moments 6 = [] ++ m :: earlier := split
  have inside : 0 < Lone.scenario.numStas := by decide +kernel
  have long : associationSpan ≤ Lone.scenario.beaconInterval := by decide +kernel
  obtain ⟨-, slot, trained⟩ :=
    Lone.built.associated_after_slot Lone.reliable (Lone.history 6) split' inside associates
  refine ⟨m, earlier, split, associates, slot long, fun reached => ?_⟩
  obtain ⟨m', mem, completes⟩ := trained.2 reached
  exact untrained m' (sinceLost_subset mem) completes

end DenseRun

end DenseDmg
