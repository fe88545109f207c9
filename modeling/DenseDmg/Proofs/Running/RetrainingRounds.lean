import DenseDmg.Proofs.Document.Words
import DenseDmg.Proofs.Measurement.Retraining
import DenseDmg.Proofs.Running.BeaconClock

/-!
# Retrainings of a run

At the start of a data transfer interval every station within reach is reported once, and no other
station.  The reports of the stations that are associated are counted, and each time the count of a
station reaches the threshold a training of it is requested.

* `InScene.beginTransfer_eq`: what a data transfer interval does, and what it asks for.
* `trigger_act`: no other event touches the counts.
* `ScenarioSpec.threshold_le_maxCount`: the threshold of a document is within reach of the counts.
* `Built.beaconClock`: the clock of beacon intervals, the reports and the retrainings that they bring.
-/

namespace DenseDmg

/-- There is one element of a key where the keys are all different. -/
theorem filter_key_eq {α κ : Type} [DecidableEq κ] {key : α → κ} {xs : List α} {x : α}
    (distinct : (xs.map key).Nodup) (mem : x ∈ xs) :
    xs.filter (fun y => key y == key x) = [x] := by
  induction xs with
  | nil => cases mem
  | cons y ys ih =>
    rw [List.map_cons, List.nodup_cons] at distinct
    rw [List.filter_cons]
    rcases List.mem_cons.1 mem with rfl | mem
    · rw [if_pos (beq_self_eq_true _), List.cons.injEq, List.filter_eq_nil_iff]
      refine ⟨rfl, fun z memz same => distinct.1 ?_⟩
      exact List.mem_map.2 ⟨z, memz, beq_iff_eq.1 same⟩
    · have other : ¬ (key y == key x) = true := by
        rw [beq_iff_eq]
        intro same
        exact distinct.1 (same ▸ List.mem_map_of_mem mem)
      rw [if_neg other, ih distinct.2 mem]

namespace World

variable {s : Scenario} {outputs : Outputs} {w : World} {now duration : Time} {k : Nat}

/-! ## What is reported -/

/-- What a device is told when a data transfer interval begins. -/
def transferReport (duration : Time) (d : Device) : TransferStarted :=
  ⟨d.node, d.address, d.bssid, d.isAssociated, duration⟩

/-- What is reported when a data transfer interval begins. -/
def transferReports (w : World) (duration now : Time) : List TransferStarted :=
  (w.network.stations.filter fun d => w.network.linkUp 0 d.node now).map
    (transferReport duration)

/-- A station that is within reach is reported once, and no other station is. -/
theorem InScene.filter_transferReports (scene : w.InScene s outputs) (inside : k < s.numStas) :
    (w.transferReports duration now).filter (fun e => e.node == k + 1) =
      if w.network.linkUp 0 (k + 1) now then
        [⟨k + 1, Network.addressOf (k + 1), Network.addressOf 0, w.isAssociated (k + 1), duration⟩]
      else [] := by
  obtain ⟨d, mem, node⟩ := List.mem_map.1 (scene.mem_map_node_stations inside)
  obtain ⟨at_d, j, -, node', setup⟩ := scene.mem_stations mem
  cases Nat.succ.inj (node.symm.trans node')
  rw [node] at at_d
  have one : w.network.stations.filter (fun d => d.node == k + 1) = [d] := by
    have one := filter_key_eq scene.nodup_stations mem
    rwa [node] at one
  have report : transferReport duration d =
      ⟨k + 1, Network.addressOf (k + 1), Network.addressOf 0, w.isAssociated (k + 1), duration⟩ := by
    have address : d.address = Network.addressOf (k + 1) := congrArg Device.address setup
    have bssid : d.bssid = Network.addressOf 0 := congrArg Device.bssid setup
    rw [transferReport, node, address, bssid, isAssociated, at_d]
    rfl
  have reached : (w.network.stations.filter fun d => w.network.linkUp 0 d.node now).filter
      (fun d => d.node == k + 1) = if w.network.linkUp 0 (k + 1) now then [d] else [] := by
    rw [List.filter_filter]
    simp only [Bool.and_comm (_ == _)]
    rw [← List.filter_filter, one, List.filter_cons, List.filter_nil, node]
  rw [transferReports, List.filter_map]
  change List.map _ (List.filter (fun d : Device => d.node == k + 1) _) = _
  rw [reached]
  split
  · rw [List.map_singleton, report]
  · rfl

/-- Reports are those of stations that belong to the access point. -/
theorem InScene.of_mem_transferReports (scene : w.InScene s outputs) {e : TransferStarted}
    (mem : e ∈ w.transferReports duration now) :
    ∃ k < s.numStas, e.node = k + 1 ∧ e.address = Network.addressOf (k + 1) ∧
      e.bssid = Network.addressOf 0 := by
  obtain ⟨d, memd, rfl⟩ := List.mem_map.1 mem
  obtain ⟨-, k, inside, node, setup⟩ := scene.mem_stations (List.mem_filter.1 memd).1
  exact ⟨k, inside, node, congrArg Device.address setup, congrArg Device.bssid setup⟩

/-! ## What the reports bring -/

/-- The node of a device is found by its address. -/
theorem InScene.nodeOf?_eq (scene : w.InScene s outputs) (accepted : s.Accepted) {i : NodeId}
    (inside : i ≤ s.numStas) : w.network.nodeOf? (Network.addressOf i) = some i := by
  have few := accepted.stations
  rw [maxStations] at few
  refine (scene.numbered.nodeOf?_eq_some_iff ?_).2 (scene.numbered.exists_device ?_)
  · rw [scene.size_devices]
    omega
  · rw [scene.size_devices]
    exact Nat.lt_succ_of_le inside

/-- A trigger in place of that of a world. -/
def withTrigger (w : World) (t : RetrainingTrigger) : World :=
  { w with experiment := { w.experiment with trigger := t } }

/-- The report of a station is counted, and a training is requested if that makes one due. -/
theorem InScene.dispatch_transferStarted (scene : w.InScene s outputs) (accepted : s.Accepted)
    (sound : w.fatal = none) (inside : k < s.numStas) {e : TransferStarted}
    (node : e.node = k + 1) (address : e.address = Network.addressOf (k + 1))
    (bssid : e.bssid = Network.addressOf 0) :
    w.dispatch (.transferStarted e) now =
      (w.withTrigger (w.experiment.trigger.onTransferStarted e).1,
        if (w.experiment.trigger.onTransferStarted e).2 then
          [.afterDelay w.network.mac.accessDelay (.trainingRequested e.node 0)]
        else []) := by
  have station := scene.nodeOf?_eq accepted (i := k + 1) inside
  have ap := scene.nodeOf?_eq accepted (i := 0) (Nat.zero_le _)
  unfold dispatch Experiment.handle Handled.ignore Experiment.onTransferStarted
  rw [if_neg (by simp [halted, sound])]
  dsimp only
  cases (w.experiment.trigger.onTransferStarted e).2 with
  | false => rfl
  | true =>
    rw [if_pos rfl, if_pos rfl, address, bssid, node]
    simp only [obeyAll, World.obey, requestTraining, check, Except.map, station, ap]
    rfl

/-- The reports of stations are counted one after the other. -/
theorem InScene.announceTransfer_eq (scene : w.InScene s outputs) (accepted : s.Accepted)
    (sound : w.fatal = none) {ds : List Device}
    (stations : ∀ d ∈ ds, ∃ k < s.numStas, d.setup = s.stationDevice k) :
    w.announceTransfer duration now ds =
      (w.withTrigger (w.experiment.trigger.handleAll (ds.map (transferReport duration))).1,
        (w.experiment.trigger.handleAll (ds.map (transferReport duration))).2.map fun e =>
          .afterDelay w.network.mac.accessDelay (.trainingRequested e.node 0)) := by
  induction ds generalizing w with
  | nil => rfl
  | cons d ds ih =>
    obtain ⟨k, inside, setup⟩ := stations d List.mem_cons_self
    have first : w.dispatch (.transferStarted (transferReport duration d)) now = _ :=
      scene.dispatch_transferStarted accepted sound inside (congrArg Device.node setup)
        (congrArg Device.address setup) (congrArg Device.bssid setup)
    have scene' : (w.withTrigger
        (w.experiment.trigger.onTransferStarted (transferReport duration d)).1).InScene s
        outputs := by
      have setup := w.setup_dispatch (.transferStarted (transferReport duration d)) now
      rw [first] at setup
      exact setup.trans scene
    have others := ih scene' sound fun d' mem => stations d' (List.mem_cons_of_mem _ mem)
    change (let out := w.dispatch (.transferStarted (transferReport duration d)) now
      let later := out.1.announceTransfer duration now ds
      (later.1, out.2 ++ later.2)) = _
    rw [first]
    dsimp only
    rw [others, List.map_cons]
    refine Prod.ext rfl ?_
    simp only [RetrainingTrigger.handleAll]
    cases (w.experiment.trigger.onTransferStarted (transferReport duration d)).2 with
    | false => rfl
    | true => rfl

/-- The start of a data transfer interval is reported to the stations within reach and to nobody else,
and every report that makes a retraining due requests it. -/
theorem InScene.beginTransfer_eq (scene : w.InScene s outputs) (accepted : s.Accepted)
    (sound : w.fatal = none) (duration now : Time) :
    w.beginTransfer duration now =
      (w.withTrigger (w.experiment.trigger.handleAll (w.transferReports duration now)).1,
        (w.experiment.trigger.handleAll (w.transferReports duration now)).2.map fun e =>
          .afterDelay w.network.mac.accessDelay (.trainingRequested e.node 0)) := by
  unfold beginTransfer
  rw [scene.accessPoint]
  refine scene.announceTransfer_eq accepted sound fun d mem => ?_
  obtain ⟨-, k, inside, -, setup⟩ := scene.mem_stations (List.mem_filter.1 mem).1
  exact ⟨k, inside, setup⟩

end World

/-! ## Other events -/

namespace World

variable {s : Scenario} {outputs : Outputs} {w : World} {now : Time} {event : NetworkEvent}

theorem trigger_dispatch (w : World) {event : LinkEvent} (uncounted : event.IsUncounted)
    (now : Time) : (w.dispatch event now).1.experiment.trigger = w.experiment.trigger := by
  unfold dispatch
  split
  · rfl
  · dsimp only
    rw [experiment_obeyAll, (sameParts_check _ _).experiment]
    exact w.experiment.trigger_handle uncounted _ now

theorem trigger_beginInterval (w : World) (index : Nat) (now : Time) :
    (w.beginInterval index now).1.experiment.trigger = w.experiment.trigger := by
  have all (ds : List Device) (w : World) :
      (ds.foldl (loseStation now) w).experiment.trigger = w.experiment.trigger := by
    induction ds generalizing w with
    | nil => rfl
    | cons d ds ih =>
      refine (ih _).trans ?_
      unfold loseStation
      split
      · exact trigger_dispatch _ (by trivial) now
      · rfl
  unfold beginInterval
  split
  · rfl
  · exact all _ w

theorem trigger_endTraining (w : World) (initiator responder : NodeId) (period : AccessPeriod)
    (now : Time) :
    (w.endTraining initiator responder period now).1.experiment.trigger = w.experiment.trigger := by
  have report (w : World) (a b : Device) (side : TrainingSide) :
      (w.reportTraining a b period side now).1.experiment.trigger = w.experiment.trigger := by
    unfold reportTraining
    split
    · rfl
    · exact w.trigger_dispatch (by trivial) now
  unfold endTraining
  split
  · split
    · exact (report ..).trans (report ..)
    · rfl
  · rfl

/-- No event but the start of a data transfer interval touches the counts. -/
theorem trigger_act (other : ∀ duration, event ≠ .transferInterval duration) :
    (w.act now event).1.experiment.trigger = w.experiment.trigger := by
  cases event with
  | beaconInterval index => exact w.trigger_beginInterval index now
  | transferInterval duration => exact absurd rfl (other duration)
  | associationComplete station =>
    unfold act completeAssociation
    dsimp only
    split
    · split
      · rfl
      · exact trigger_dispatch _ (by trivial) now
    · rfl
  | trainingRequested initiator responder => rw [act, fst_beginTraining]
  | trainingDone initiator responder period => exact w.trigger_endTraining ..
  | frameArrives tx rx kind bytes sink =>
    unfold act receiveFrame
    dsimp only
    split
    · split
      · refine (trigger_dispatch _ (by trivial) now).trans ?_
        cases sink <;> rfl
      · rfl
    · rfl
  | sendTimer sender generation => rw [act, experiment_sendPacket]
  | sampleDue period =>
    unfold act takeSample sampleThroughput
    dsimp only
    split
    · rfl
    · rw [(sameParts_check _ _).experiment]
      exact w.experiment.trigger_sample ..

end World

/-! ## One event -/

/-- How often requests ask for a training of the station counted `k` from zero with its access
point. -/
def askedTrainings (k : Nat) (rs : List NetworkRequest) : Nat :=
  rs.countP fun r => r.event? == some (.trainingRequested (k + 1) 0)

/-- Whether the start of a data transfer interval finds a station within reach and associated. -/
def Moment.ticks (k : Nat) (m : Moment NetworkEvent World) : Bool :=
  match m.entry.event with
  | .transferInterval _ =>
    m.world.network.linkUp 0 (k + 1) m.entry.due && m.world.isAssociated (k + 1)
  | _ => false

theorem RetrainingTrigger.mem_handleAll {t : RetrainingTrigger} {events : List TransferStarted}
    {e : TransferStarted} (mem : e ∈ (t.handleAll events).2) : e ∈ events := by
  induction events generalizing t with
  | nil => exact mem
  | cons event rest ih =>
    simp only [handleAll] at mem
    split at mem
    · rcases List.mem_cons.1 mem with rfl | mem
      · exact List.mem_cons_self
      · exact List.mem_cons_of_mem _ (ih mem)
    · exact List.mem_cons_of_mem _ (ih mem)

namespace World

variable {s : Scenario} {outputs : Outputs} {w : World} {now : Time} {k : Nat}

theorem InScene.threshold (scene : w.InScene s outputs) :
    w.experiment.trigger.threshold = max s.biThreshold 1 :=
  congrArg (·.experiment.trigger.threshold) scene

/-- Among the reports of a scene the address of a station tells its node. -/
theorem InScene.beq_address (scene : w.InScene s outputs) (accepted : s.Accepted)
    (inside : k < s.numStas) {duration : Time} {e : TransferStarted}
    (mem : e ∈ w.transferReports duration now) :
    (e.address == Network.addressOf (k + 1)) = (e.node == k + 1) := by
  obtain ⟨j, inside', node, address, -⟩ := scene.of_mem_transferReports mem
  rw [node, address]
  by_cases same : j = k
  · rw [same, beq_self_eq_true, beq_self_eq_true]
  · have other : Network.addressOf (j + 1) ≠ Network.addressOf (k + 1) := fun eq =>
      same (Nat.succ.inj (accepted.addressOf_inj inside' inside eq))
    rw [beq_false_of_ne other, beq_false_of_ne fun eq => same (Nat.succ.inj eq)]

/-- The start of a data transfer interval counts for a station that is within reach and associated,
and requests a training of it for each threshold. -/
theorem InScene.balance_beginTransfer (scene : w.InScene s outputs) (accepted : s.Accepted)
    (sound : w.fatal = none) (range : w.experiment.trigger.InRange) (inside : k < s.numStas)
    (below : w.experiment.trigger.count (Network.addressOf (k + 1)) <
      w.experiment.trigger.threshold) (duration now : Time) :
    (w.beginTransfer duration now).1.experiment.trigger.count (Network.addressOf (k + 1)) <
        w.experiment.trigger.threshold ∧
      (w.beginTransfer duration now).1.experiment.trigger.count (Network.addressOf (k + 1)) +
          w.experiment.trigger.threshold * askedTrainings k (w.beginTransfer duration now).2 =
        w.experiment.trigger.count (Network.addressOf (k + 1)) +
          if w.network.linkUp 0 (k + 1) now && w.isAssociated (k + 1) then 1 else 0 := by
  obtain ⟨below', balance⟩ := RetrainingTrigger.balance_handleAll range below
    (w.transferReports duration now)
  have counted : (w.transferReports duration now).countP
      (fun e => e.associated && e.address == Network.addressOf (k + 1)) =
        if w.network.linkUp 0 (k + 1) now && w.isAssociated (k + 1) then 1 else 0 := by
    have byNode : (w.transferReports duration now).countP
        (fun e => e.associated && e.address == Network.addressOf (k + 1)) =
          ((w.transferReports duration now).filter fun e => e.node == k + 1).countP
            TransferStarted.associated := by
      rw [List.countP_filter]
      exact List.countP_congr fun e mem => by rw [scene.beq_address accepted inside mem]
    rw [byNode, scene.filter_transferReports inside]
    cases w.network.linkUp 0 (k + 1) now with
    | false => rfl
    | true => exact List.countP_singleton
  have asked : askedTrainings k (w.beginTransfer duration now).2 =
      (w.experiment.trigger.handleAll (w.transferReports duration now)).2.countP
        fun e => e.address == Network.addressOf (k + 1) := by
    rw [scene.beginTransfer_eq accepted sound, askedTrainings, List.countP_map]
    refine List.countP_congr fun e mem => ?_
    rw [scene.beq_address accepted inside (RetrainingTrigger.mem_handleAll mem)]
    simp [Request.event?]
  rw [asked, scene.beginTransfer_eq accepted sound, ← counted]
  exact ⟨below', balance⟩

end World

/-! ## Along a run -/

/-- What the event of a moment asks for. -/
def Moment.requests (m : Moment NetworkEvent World) : List NetworkRequest :=
  (m.world.act m.entry.due m.entry.event).2

theorem askedTrainings_append (k : Nat) (rs rs' : List NetworkRequest) :
    askedTrainings k (rs ++ rs') = askedTrainings k rs + askedTrainings k rs' :=
  List.countP_append

/-- Trainings on demand are asked for when a data transfer interval begins. -/
theorem World.askedTrainings_act {w : World} {now : Time} {event : NetworkEvent}
    (other : ∀ duration, event ≠ .transferInterval duration) (k : Nat) :
    askedTrainings k (w.act now event).2 = 0 := by
  refine List.countP_eq_zero.2 fun r mem asked => ?_
  obtain ⟨e, asks, caused⟩ := causes_of_mem_act mem
  rw [beq_iff_eq, asks, Option.some_inj] at asked
  subst asked
  cases caused with
  | retraining duration => exact other duration rfl

/-- Stations that are registered begin at zero. -/
theorem RetrainingTrigger.count_foldl_register {t : RetrainingTrigger} {address : MacAddress}
    (zero : t.count address = 0) (nodes : List NodeId) :
    (nodes.foldl (fun t sta => t.register (Network.addressOf sta)) t).count address = 0 := by
  induction nodes generalizing t with
  | nil => exact zero
  | cons node rest ih =>
    refine ih ((count_setCount ..).trans ?_)
    split
    · rfl
    · exact zero

/-- The start of a data transfer interval is told to one station after the other. -/
theorem World.fst_announceTransfer (w : World) (duration now : Time) (ds : List Device) :
    (w.announceTransfer duration now ds).1 =
      (ds.map (transferReport duration)).foldl
        (fun w e => (w.dispatch (.transferStarted e) now).1) w := by
  induction ds generalizing w with
  | nil => rfl
  | cons d ds ih => exact ih _

/-- The threshold of a document can be counted up to, as the runs below ask for. -/
theorem ScenarioSpec.threshold_le_maxCount {raw : String} {spec : ScenarioSpec} {s : Scenario}
    (read : ScenarioSpec.ofDocument raw = .ok spec) (resolved : spec.resolve = .ok s) :
    s.biThreshold ≤ maxCount := by
  rw [ScenarioSpec.biThreshold_of_resolve resolved]
  exact (ScenarioSpec.fits_of_document read).mac.biThreshold

namespace DenseRun

variable {spec : ScenarioSpec} {s : Scenario} {outputs : Outputs} {r : DenseRun}
  {sim : Simulator NetworkEvent} {w : World} {ms : List (Moment NetworkEvent World)}

theorem Built.count_start (run : Built spec s outputs r) (address : MacAddress) :
    r.world.experiment.trigger.count address = 0 := by
  obtain ⟨x, begun, rfl⟩ := exists_start_of_build run.built
  obtain ⟨-, -, -, -, trigger, -, -⟩ := Experiment.of_start begun
  exact RetrainingTrigger.count_foldl_register (by rw [trigger]; rfl) _

/-- What is counted for a station, and the trainings that were asked for, each of them worth a
threshold, are the data transfer intervals in which it was within reach and associated. -/
theorem Built.balance (run : Built spec s outputs r) (reliable : outputs.Reliable)
    (word : s.biThreshold ≤ maxCount)
    (history : History World.behaviour r.simulator r.world ms sim w) {k : Nat}
    (inside : k < s.numStas) :
    w.experiment.trigger.count (Network.addressOf (k + 1)) < s.biThreshold ∧
      w.experiment.trigger.count (Network.addressOf (k + 1)) +
          s.biThreshold * askedTrainings k (ms.flatMap Moment.requests) =
        ms.countP (Moment.ticks k) := by
  have positive := (ScenarioSpec.positive_of_resolve run.accepted).threshold
  induction history with
  | start =>
    rw [run.count_start]
    exact ⟨positive, rfl⟩
  | @execute ms sim w entry rest before _ ih =>
    obtain ⟨below, balance⟩ := ih
    have scene := run.inScene before
    have threshold : w.experiment.trigger.threshold = s.biThreshold :=
      scene.threshold.trans (Nat.max_eq_left positive)
    rw [List.flatMap_cons, askedTrainings_append, List.countP_cons, Nat.mul_add]
    change (w.act entry.due entry.event).1.experiment.trigger.count _ < _ ∧
      (w.act entry.due entry.event).1.experiment.trigger.count _ +
        (s.biThreshold * askedTrainings k (w.act entry.due entry.event).2 + _) = _
    by_cases transfer : ∃ duration, entry.event = .transferInterval duration
    · obtain ⟨duration, event⟩ := transfer
      have range := RetrainingTrigger.inRange_of_threshold word scene.threshold
      obtain ⟨below', balance'⟩ := scene.balance_beginTransfer
        (ScenarioSpec.accepted_of_resolve run.accepted) (run.healthy reliable before).sound range
        inside (threshold ▸ below) duration entry.due
      rw [threshold] at below' balance'
      simp only [event, World.act, Moment.ticks]
      exact ⟨below', by omega⟩
    · have other : ∀ duration, entry.event ≠ .transferInterval duration :=
        fun duration event => transfer ⟨duration, event⟩
      have still : Moment.ticks k ⟨sim, w, entry, rest⟩ = false := by
        unfold Moment.ticks
        split
        next duration event => exact absurd event (other duration)
        next => rfl
      rw [World.trigger_act other, World.askedTrainings_act other, still]
      exact ⟨below, by rw [Nat.mul_zero, Nat.zero_add]; exact balance⟩
  | settle limit _ _ ih => exact ih

end DenseRun

/-- What the clock of beacon intervals has done when `n` of them have begun. -/
structure BeaconClock (s : Scenario) (n : Nat) (ms : List (Moment NetworkEvent World))
    (sim : Simulator NetworkEvent) (w : World) : Prop where
  begun : (executedEntries ms).filterMap Entry.interval? =
    (List.range n).map fun i => (i, s.intervalStart i)
  /-- One beacon interval is pending, the next one. -/
  next : sim.pending.filterMap Entry.interval? = [(n, s.intervalStart n)]
  /-- Each that has begun has had its data transfer interval or has it pending. -/
  transfers : (executedEntries ms).filterMap Entry.transfer? ++
    sim.pending.filterMap Entry.transfer? = (List.range n).map s.transferStart
  elapsed : ∀ i, s.transferStart i < sim.now →
    ((executedEntries ms).filterMap Entry.transfer?)[i]? = some (s.transferStart i)
  /-- A data transfer interval is told once to each station that is within reach, and to nobody
  else. -/
  reported : ∀ m ∈ ms, ∀ duration, m.entry.event = .transferInterval duration →
    ∃ reports : List TransferStarted,
      (m.world.act m.entry.due m.entry.event).1 =
        reports.foldl (fun w e => (w.dispatch (.transferStarted e) m.entry.due).1) m.world ∧
      (∀ e ∈ reports, ∃ k < s.numStas, e.node = k + 1) ∧
      ∀ k < s.numStas, reports.filter (fun e => e.node == k + 1) =
        if m.world.network.linkUp 0 (k + 1) m.entry.due then
          [⟨k + 1, Network.addressOf (k + 1), Network.addressOf 0, m.world.isAssociated (k + 1),
            duration⟩]
        else []
  /-- The intervals that counted for a station are those counted since its last retraining and a
  threshold for each retraining of it that was asked for. -/
  counted : ∀ k < s.numStas,
    w.experiment.trigger.count (Network.addressOf (k + 1)) +
        s.biThreshold * askedTrainings k (ms.flatMap Moment.requests) =
      ms.countP (Moment.ticks k)

namespace DenseRun

variable {spec : ScenarioSpec} {s : Scenario} {outputs : Outputs} {r : DenseRun}
  {sim : Simulator NetworkEvent} {w : World} {ms : List (Moment NetworkEvent World)}

/-- A data transfer interval whose time has passed has been executed in its turn. -/
theorem Built.transfer_executed (run : Built spec s outputs r)
    (history : History World.behaviour r.simulator r.world ms sim w) {n i : Nat}
    (ticking : Ticking s n (executedEntries ms) sim.pending) (passed : s.transferStart i < sim.now) :
    ((executedEntries ms).filterMap Entry.transfer?)[i]? = some (s.transferStart i) := by
  have order := run.inOrder history
  have all := run.transfers_eq history ticking
  rw [Time.lt_def] at passed
  have inside : i < n := by
    apply Nat.lt_of_not_le
    intro outside
    have next : (n, s.intervalStart n) ∈ sim.pending.filterMap Entry.interval? := by
      rw [ticking.next]
      exact List.mem_singleton_self _
    obtain ⟨e, mem, interval⟩ := List.mem_filterMap.1 next
    have due := Entry.due_of_interval? interval
    have now_le := order.now_le e mem
    have later : s.intervalStart n ≤ s.intervalStart i :=
      Scenario.intervalStart_mono outside
    have behind : s.intervalStart i ≤ s.transferStart i := Time.le_add_right ..
    rw [Time.le_def] at now_le later behind
    rw [due] at now_le
    omega
  have turn : ((executedEntries ms).filterMap Entry.transfer? ++
      sim.pending.filterMap Entry.transfer?)[i]? = some (s.transferStart i) := by
    rw [all, List.getElem?_map, List.getElem?_range inside]
    rfl
  rw [List.getElem?_append] at turn
  split at turn
  · exact turn
  · obtain ⟨e, mem, transfer⟩ := List.mem_filterMap.1 (List.mem_of_getElem? turn)
    have now_le := order.now_le e mem
    rw [Entry.due_of_transfer? transfer, Time.le_def] at now_le
    omega

/-- In every state between two events some number of beacon intervals has begun, each at its multiple
of the beacon interval and with its data transfer interval behind it.  The stations within reach are
told of it, and are retrained when a threshold of those intervals counted for them. -/
theorem Built.beaconClock (run : Built spec s outputs r) (reliable : outputs.Reliable)
    (word : s.biThreshold ≤ maxCount)
    (history : History World.behaviour r.simulator r.world ms sim w) :
    (∀ i, (s.intervalStart i).nanos = min (s.beaconInterval.nanos * i) lastWord ∧
      (s.transferStart i).nanos = min
        (s.beaconInterval.nanos * i + MacParams.standard.transferOffset.nanos) lastWord) ∧
      ∃ n, BeaconClock s n ms sim w := by
  obtain ⟨n, ticking⟩ := run.ticking reliable history
  refine ⟨fun i => ⟨s.nanos_intervalStart i, s.nanos_transferStart i⟩, n, ?_⟩
  refine {
    begun := ticking.begun
    next := ticking.next
    transfers := run.transfers_eq history ticking
    elapsed := fun i => run.transfer_executed history ticking
    reported := fun m mem duration event => ?_
    counted := fun k inside => (run.balance reliable word history inside).2 }
  obtain ⟨later, earlier, split⟩ := List.append_of_mem mem
  have scene := run.inScene (history.of_mem split).1
  refine ⟨m.world.transferReports duration m.entry.due, ?_, fun e mem => ?_, fun k inside => ?_⟩
  · rw [event, World.act, World.beginTransfer, scene.accessPoint]
    exact World.fst_announceTransfer ..
  · obtain ⟨k, inside, node, -⟩ := scene.of_mem_transferReports mem
    exact ⟨k, inside, node⟩
  · exact scene.filter_transferReports inside

/-- A lone station that is told of its first data transfer interval before it is associated. -/
theorem beaconClock_lone : Lone.outputs.Reliable ∧ Lone.scenario.biThreshold ≤ maxCount ∧
    (∃ n, BeaconClock Lone.scenario n (Lone.moments 5) (Lone.agenda 5) (Lone.world 5)) ∧
    (executedEntries (Lone.moments 5)).filterMap Entry.transfer? =
      [Lone.scenario.transferStart 0] := by
  have word : Lone.scenario.biThreshold ≤ maxCount := by decide +kernel
  obtain ⟨-, clock⟩ := Lone.built.beaconClock Lone.reliable word (Lone.history 5)
  exact ⟨Lone.reliable, word, clock, by decide +kernel⟩

end DenseRun

end DenseDmg
