import DenseDmg.Proofs.Running.RetrainingRounds
import Mathlib.Data.List.Basic

/-!
# The log of trainings

A training has two ends, the access point and a station, and is logged at both of them if the link is
still up when it is over.  The two records stand one behind the other and mirror each other.  In a
slot of an association training the access point begins, on demand the station does.

* `InScene.trains_of_mem_act`: every training is one of a station with its access point.
* `InScene.mirrored`: the two records of a training.
* `Built.trainingLog`: the log as it stands between two events.
-/

namespace DenseDmg

/-! ## The ends of trainings -/

/-- Which ends a training has in a part of a beacon interval: the one that begins and the other. -/
def AccessPeriod.Trains (s : Scenario) (initiator responder : NodeId) : AccessPeriod → Prop
  | .beaconTransmission => False
  | .associationTraining => initiator = 0 ∧ 1 ≤ responder ∧ responder ≤ s.numStas
  | .dataTransfer => (1 ≤ initiator ∧ initiator ≤ s.numStas) ∧ responder = 0

/-- Whether a training that an event is about has such ends. -/
def NetworkEvent.Trains (s : Scenario) : NetworkEvent → Prop
  | .trainingRequested initiator responder => AccessPeriod.dataTransfer.Trains s initiator responder
  | .trainingDone initiator responder period => period.Trains s initiator responder
  | _ => True

namespace World

variable {s : Scenario} {outputs : Outputs} {w : World} {now : Time} {event : NetworkEvent}
  {r : NetworkRequest}

/-- The trainings in the slots of a beacon interval are begun by the access point. -/
theorem InScene.trains_of_mem_beginInterval (scene : w.InScene s outputs) {index : Nat}
    (mem : r ∈ (w.beginInterval index now).2) : ∃ e, r.event? = some e ∧ e.Trains s := by
  obtain ⟨ap, reachable, trained, -, -, -, -, stations, requests⟩ :=
    scene.exists_reachable index now
  rw [requests] at mem
  simp only [List.mem_append, List.mem_singleton] at mem
  rcases mem with (((beacon | slot) | rfl) | association) | rfl
  · obtain ⟨d, -, rfl⟩ := List.mem_map.1 beacon
    exact ⟨_, rfl, trivial⟩
  · obtain ⟨⟨d, k⟩, memd, slot⟩ := List.mem_flatMap.1 slot
    simp only [slotRequests, List.mem_cons, List.not_mem_nil, or_false] at slot
    rcases slot with rfl | rfl | rfl
    · exact ⟨_, rfl, trivial⟩
    · exact ⟨_, rfl, trivial⟩
    · exact ⟨_, rfl, rfl, stations d (List.fst_mem_of_mem_zipIdx memd)⟩
  · exact ⟨_, rfl, trivial⟩
  · obtain ⟨⟨d, k⟩, -, rfl⟩ := List.mem_map.1 association
    exact ⟨_, rfl, trivial⟩
  · exact ⟨_, rfl, trivial⟩

/-- The trainings that are due when a data transfer interval begins are those of stations. -/
theorem InScene.trains_of_mem_beginTransfer (scene : w.InScene s outputs) (accepted : s.Accepted)
    (sound : w.fatal = none) {duration : Time} (mem : r ∈ (w.beginTransfer duration now).2) :
    ∃ e, r.event? = some e ∧ e.Trains s := by
  rw [scene.beginTransfer_eq accepted sound] at mem
  obtain ⟨e, due, rfl⟩ := List.mem_map.1 mem
  obtain ⟨k, inside, node, -⟩ :=
    scene.of_mem_transferReports (RetrainingTrigger.mem_handleAll due)
  refine ⟨_, rfl, ?_, rfl⟩
  rw [node]
  exact ⟨Nat.succ_pos k, inside⟩

/-- A training that has begun is over at the ends that it began at. -/
theorem InScene.trains_of_mem_beginTraining (scene : w.InScene s outputs)
    {initiator responder : NodeId} (trains : AccessPeriod.dataTransfer.Trains s initiator responder)
    (mem : r ∈ (w.beginTraining initiator responder now).2) :
    ∃ e, r.event? = some e ∧ e.Trains s := by
  unfold beginTraining at mem
  split at mem
  next a b at_initiator at_responder =>
    split at mem
    · simp only [trainingRequests, List.mem_cons, List.not_mem_nil, or_false] at mem
      rcases mem with rfl | rfl | rfl | rfl | rfl
      · exact ⟨_, rfl, trivial⟩
      · exact ⟨_, rfl, trivial⟩
      · exact ⟨_, rfl, trivial⟩
      · exact ⟨_, rfl, trivial⟩
      · refine ⟨_, rfl, ?_⟩
        rw [scene.node_eq at_initiator, scene.node_eq at_responder]
        exact trains
    · cases mem
  next => cases mem

/-- Events whose trainings are those of stations with their access point ask for such events. -/
theorem InScene.trains_of_mem_act (scene : w.InScene s outputs) (accepted : s.Accepted)
    (sound : w.fatal = none) (trains : event.Trains s) (mem : r ∈ (w.act now event).2) :
    ∃ e, r.event? = some e ∧ e.Trains s := by
  cases event with
  | beaconInterval index => exact scene.trains_of_mem_beginInterval mem
  | transferInterval duration => exact scene.trains_of_mem_beginTransfer accepted sound mem
  | trainingRequested initiator responder => exact scene.trains_of_mem_beginTraining trains mem
  | associationComplete | trainingDone | frameArrives | sendTimer | sampleDue =>
    -- What the others may ask for are no trainings.
    obtain ⟨e, asks, caused⟩ := causes_of_mem_act mem
    refine ⟨e, asks, ?_⟩
    cases caused <;> trivial

end World

/-! ## The records of a training -/

/-- The records of a training, that of the end that began first. -/
structure LoggedTraining where
  period : AccessPeriod
  first : TrainingRecord
  second : TrainingRecord

def LoggedTraining.records (t : LoggedTraining) : List TrainingRecord := [t.first, t.second]

/-- The channel of a scenario. -/
def Scenario.channel (s : Scenario) : ChannelConfig := ⟨s.numTraces, s.tracePeriod, s.txPower, 10.0⟩

/-- Two records of one training, each seen from its end. -/
structure LoggedTraining.Mirrored (s : Scenario) (t : LoggedTraining) : Prop where
  time : t.first.time = t.second.time
  /-- Both name the trace that is in force at that time. -/
  trace : t.first.traceIndex = Channel.traceIndex s.channel t.first.time ∧
    t.second.traceIndex = t.first.traceIndex
  traces : t.first.traceIndex < s.numTraces
  network : loggedNode t.first.accessPoint = 1 ∧ loggedNode t.second.accessPoint = 1
  ends : t.second.source = t.first.peer ∧ t.second.peer = t.first.source
  /-- One end is the access point: the first in a slot, the second on demand. -/
  roles : (t.period = .associationTraining ∧ loggedNode t.first.source = 1 ∧
      t.first.role = .accessPoint ∧ t.second.role = .station) ∨
    (t.period = .dataTransfer ∧ loggedNode t.second.source = 1 ∧
      t.first.role = .station ∧ t.second.role = .accessPoint)
  /-- The sector is one of the codebook of the device that the record comes from. -/
  sectors : ∀ record ∈ t.records, ∃ d, s.devices[record.source]? = some d ∧
    record.role = d.role ∧ 1 ≤ record.sector ∧ record.sector ≤ d.sectors

namespace Channel

theorem traceIndex_mono (c : ChannelConfig) {t u : Time} (le : t ≤ u) :
    traceIndex c t ≤ traceIndex c u := by
  have quotients := Nat.div_le_div_right (c := max c.tracePeriod.nanos 1) (Time.le_def.1 le)
  unfold traceIndex
  omega

theorem traceIndex_lt {c : ChannelConfig} (some_trace : 0 < c.numTraces) (now : Time) :
    traceIndex c now < c.numTraces := by
  unfold traceIndex
  omega

theorem bestSector_mem (origin target : Position) {sectors : Nat} (some_sector : 0 < sectors) :
    1 ≤ bestSector origin target sectors ∧ bestSector origin target sectors ≤ sectors := by
  unfold bestSector
  dsimp only
  omega

end Channel

namespace World

variable {s : Scenario} {outputs : Outputs} {w : World} {i j : NodeId} {a b : Device}

theorem InScene.channel (scene : w.InScene s outputs) : w.network.channel = s.channel :=
  congrArg (·.network.channel) scene

/-- The device of a record is there, and its codebook has the sector. -/
theorem InScene.sector_trainingRecord (scene : w.InScene s outputs) (positive : s.Positive)
    (at_i : w.network.devices[i]? = some a) (b : Device) (now : Time) :
    ∃ d, s.devices[(w.trainingRecord a b now).source]? = some d ∧
      (w.trainingRecord a b now).role = d.role ∧ 1 ≤ (w.trainingRecord a b now).sector ∧
      (w.trainingRecord a b now).sector ≤ d.sectors := by
  have setup := scene.getElem?_setup i
  rw [at_i] at setup
  have some_sector : 0 < a.sectors := by
    rcases scene.of_getElem? at_i with ⟨-, same⟩ | ⟨k, -, -, same⟩
    · rw [show a.sectors = s.apSectors from congrArg Device.sectors same]
      exact positive.apSectors
    · rw [show a.sectors = s.staSectors from congrArg Device.sectors same]
      exact positive.staSectors
  refine ⟨a.setup, ?_, rfl, Channel.bestSector_mem _ _ some_sector⟩
  rw [trainingRecord, scene.node_eq at_i]
  exact setup.symm

theorem InScene.role_eq (scene : w.InScene s outputs) (at_i : w.network.devices[i]? = some a) :
    a.role = if i = 0 then .accessPoint else .station := by
  rcases scene.of_getElem? at_i with ⟨rfl, same⟩ | ⟨k, -, rfl, same⟩
  · exact congrArg Device.role same
  · exact congrArg Device.role same

/-- The records of a training of a station with its access point mirror each other. -/
theorem InScene.mirrored (scene : w.InScene s outputs) (positive : s.Positive)
    {period : AccessPeriod} (trains : period.Trains s i j)
    (at_i : w.network.devices[i]? = some a) (at_j : w.network.devices[j]? = some b) (now : Time) :
    LoggedTraining.Mirrored s
      ⟨period, w.trainingRecord a b now, w.trainingRecord b a now⟩ where
  time := rfl
  trace := ⟨congrArg (Channel.traceIndex · now) scene.channel, rfl⟩
  traces := by
    show Channel.traceIndex w.network.channel now < _
    rw [scene.channel]
    exact Channel.traceIndex_lt positive.traces now
  network := ⟨rfl, rfl⟩
  ends := ⟨rfl, rfl⟩
  roles := by
    have role := scene.role_eq at_i
    have role' := scene.role_eq at_j
    dsimp only [trainingRecord, loggedNode]
    rw [scene.node_eq at_i, scene.node_eq at_j]
    cases period with
    | beaconTransmission => cases trains
    | associationTraining =>
      obtain ⟨rfl, first, -⟩ := trains
      rw [if_neg (Nat.ne_of_gt first)] at role'
      exact .inl ⟨rfl, rfl, role, role'⟩
    | dataTransfer =>
      obtain ⟨⟨first, -⟩, rfl⟩ := trains
      rw [if_neg (Nat.ne_of_gt first)] at role
      exact .inr ⟨rfl, rfl, role, role'⟩
  sectors := by
    intro record mem
    simp only [LoggedTraining.records, List.mem_cons, List.not_mem_nil, or_false] at mem
    rcases mem with rfl | rfl
    · exact scene.sector_trainingRecord positive at_i b now
    · exact scene.sector_trainingRecord positive at_j a now

end World

/-! ## Along a run -/

/-- The training that is logged at a moment, if it is over then with its link up. -/
def Moment.training? (m : Moment NetworkEvent World) : Option LoggedTraining :=
  match m.entry.event with
  | .trainingDone i j period =>
    match m.world.network.devices[i]?, m.world.network.devices[j]? with
    | some a, some b =>
      if m.world.network.linkUp i j m.entry.due then
        some ⟨period, m.world.trainingRecord a b m.entry.due,
          m.world.trainingRecord b a m.entry.due⟩
      else none
    | _, _ => none
  | _ => none

/-- The trainings that were logged, the earliest one first. -/
def loggedTrainings (ms : List (Moment NetworkEvent World)) : List LoggedTraining :=
  ms.reverse.filterMap Moment.training?

/-- Only the end of a training is logged as one. -/
theorem World.trainings_written {event : NetworkEvent}
    (other : ∀ i j period, event ≠ .trainingDone i j period) (w : World) (now : Time) :
    (w.written now event).trainings = [] := by
  cases event with
  | trainingDone i j period => exact absurd rfl (other i j period)
  | associationComplete station =>
    simp only [written, writtenAssociation]
    split
    · rfl
    · split <;> rfl
  | frameArrives tx rx kind bytes sink =>
    simp only [written, writtenArrival]
    split
    · split <;> rfl
    · rfl
  | sampleDue period =>
    simp only [written, writtenSample]
    split <;> rfl
  | beaconInterval | transferInterval | trainingRequested | sendTimer => rfl

/-- What a moment adds to the log are the records of its training. -/
theorem Moment.trainings_written (m : Moment NetworkEvent World) :
    m.written.trainings = m.training?.toList.flatMap LoggedTraining.records := by
  unfold written training?
  split
  next i j period event =>
    rw [event]
    simp only [World.written, World.writtenTraining]
    cases m.world.network.devices[i]? with
    | none => rfl
    | some a =>
      cases m.world.network.devices[j]? with
      | none => rfl
      | some b =>
        dsimp only
        split <;> rfl
  next other => exact World.trainings_written other _ _

theorem trainings_ofMoments (ms : List (Moment NetworkEvent World)) :
    (Written.ofMoments ms).trainings = (loggedTrainings ms).flatMap LoggedTraining.records := by
  rw [loggedTrainings, List.filterMap_eq_flatMap_toList, List.flatMap_assoc]
  exact congrArg (ms.reverse.flatMap ·) (funext Moment.trainings_written)

namespace DenseRun

variable {spec : ScenarioSpec} {s : Scenario} {outputs : Outputs} {r : DenseRun}
  {sim : Simulator NetworkEvent} {w : World} {ms : List (Moment NetworkEvent World)}

/-- Every training that is pending is one of a station with its access point. -/
theorem Built.trains (run : Built spec s outputs r)
    (history : History World.behaviour r.simulator r.world ms sim w) :
    ∀ e ∈ sim.pending, e.event.Trains s := by
  refine history.forall_pending run.laidOut.inOrder World.schedules_of_mem_act ?_ ?_
  · rw [run.laidOut.simulator, s.pending_simulator]
    intro e mem
    simp only [List.mem_cons, List.not_mem_nil, or_false] at mem
    rcases mem with rfl | rfl
    · trivial
    · trivial
  · intro _ _ w entry _ before pending trains r memr e asked
    obtain ⟨event, asks, trains'⟩ := (run.inScene before).trains_of_mem_act
      (ScenarioSpec.accepted_of_resolve run.accepted) (run.sound_of_pending before pending) trains
      memr
    rw [(Request.of_entry? asked).2, Option.some_inj] at asks
    exact asks ▸ trains'

theorem Built.mirrored_of_mem (run : Built spec s outputs r)
    (history : History World.behaviour r.simulator r.world ms sim w) :
    ∀ t ∈ loggedTrainings ms, t.Mirrored s := by
  intro t mem
  obtain ⟨m, memm, logged⟩ := List.mem_filterMap.1 mem
  obtain ⟨later, earlier, split⟩ := List.append_of_mem (List.mem_reverse.1 memm)
  obtain ⟨before, pending⟩ := history.of_mem split
  have trains := run.trains before m.entry (by simp [pending])
  unfold Moment.training? at logged
  split at logged
  next i j period event =>
    rw [event] at trains
    split at logged
    next a b at_i at_j =>
      split at logged
      · cases logged
        exact (run.inScene before).mirrored (ScenarioSpec.positive_of_resolve run.accepted) trains
          at_i at_j _
      · cases logged
    next => cases logged
  next => cases logged

/-- Between two events of a run without a fault the log of trainings holds pairs of records that
mirror each other.  From one record to the next neither the time nor the trace goes back. -/
theorem Built.trainingLog (run : Built spec s outputs r) (unused : outputs.Unused)
    (history : History World.behaviour r.simulator r.world ms sim w) (sound : w.fatal = none) :
    w.experiment.outputs.training.Holds (trainingHeader ::
        ((loggedTrainings ms).flatMap LoggedTraining.records).map TrainingRecord.text) ∧
      (∀ t ∈ loggedTrainings ms, t.Mirrored s) ∧
      ((loggedTrainings ms).flatMap LoggedTraining.records).Pairwise fun earlier later =>
        earlier.time ≤ later.time ∧ earlier.traceIndex ≤ later.traceIndex := by
  have mirrored := run.mirrored_of_mem history
  refine ⟨?_, mirrored, ?_⟩
  · rw [← trainings_ofMoments]
    exact (run.shows unused history sound).fills.training
  · have trace : ∀ record ∈ (loggedTrainings ms).flatMap LoggedTraining.records,
        record.traceIndex = Channel.traceIndex s.channel record.time := by
      intro record mem
      obtain ⟨t, memt, memr⟩ := List.mem_flatMap.1 mem
      obtain ⟨time, ⟨first, second⟩, -⟩ := mirrored t memt
      simp only [LoggedTraining.records, List.mem_cons, List.not_mem_nil, or_false] at memr
      rcases memr with rfl | rfl
      · exact first
      · rw [second, first, time]
    have ordered : ((loggedTrainings ms).flatMap LoggedTraining.records).Pairwise
        fun earlier later => earlier.time ≤ later.time := by
      rw [← trainings_ofMoments]
      exact pairwise_flatMap_moments _ TrainingRecord.time
        (history.pairwise_due run.laidOut.inOrder)
        fun m mem => (run.dated history sound m mem).trainings
    refine ordered.imp_of_mem fun {earlier later} mem mem' le => ⟨le, ?_⟩
    rw [trace earlier mem, trace later mem']
    exact Channel.traceIndex_mono _ le

end DenseRun

/-! ### A training in a slot -/

namespace Slow

/-- The first events of the run, up to the end of the slot of its station. -/
theorem exists_history : ∃ ms sim w,
    History World.behaviour run.simulator run.world ms sim w ∧ w.fatal = none ∧
      (loggedTrainings ms).map LoggedTraining.period = [.associationTraining] := by
  have first : History World.behaviour run.simulator run.world _ _ _ :=
    .execute .start pending_start
  rw [step_start] at first
  dsimp only at first
  exact ⟨_, _, _, first.trans (History.of_replay World.behaviour 4 simulator run.world),
    by decide +kernel, by decide +kernel⟩

end Slow

/-- A run that has logged one training: its records mirror each other. -/
theorem DenseRun.trainingLog_slow : ∃ ms sim w, Lone.outputs.Unused ∧
    History World.behaviour Slow.run.simulator Slow.run.world ms sim w ∧ w.fatal = none ∧
    (loggedTrainings ms).map LoggedTraining.period = [.associationTraining] ∧
    ∀ t ∈ loggedTrainings ms, t.Mirrored Slow.scenario := by
  obtain ⟨ms, sim, w, history, sound, periods⟩ := Slow.exists_history
  obtain ⟨-, mirrored, -⟩ := Slow.built.trainingLog Lone.unused history sound
  exact ⟨ms, sim, w, Lone.unused, history, sound, periods, mirrored⟩

end DenseDmg
