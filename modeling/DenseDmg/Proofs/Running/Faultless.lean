import DenseDmg.Proofs.Scene.Belonging
import DenseDmg.Proofs.Scene.Building
import DenseDmg.Proofs.World.Counters

/-!
# Runs without faults

A fault halts a world and ends its run.  Handlers give one for an address that was not registered,
for a training that nobody subscribed to, for a node without a pair, for a receive counter that
shrank and for a stream that fails.  In the scene of an accepted scenario, with streams that do not
fail, there is none of that.

* `InScene.fatal_act`: no event of the scene brings a fault.
* `Built.healthy`: what every state between two events has in common.
* `Built.exists_summary`: a run that ends gives its figures.
* `ScenarioSpec.faultless_of_resolve`: an accepted scenario can be built, and no run of it brings a
  fault or looks up what is not there.
-/

namespace DenseDmg

variable {s : Scenario} {outputs : Outputs} {now : Time}

/-! ## Handlers -/

namespace Experiment

variable {x : Experiment}

theorem answer_onAssociated (reliable : x.outputs.Reliable) {event : Associated} {p : Pair}
    (known : x.pairs.get? event.node = some p) (now : Time) :
    (x.onAssociated event now).answer = .ok () := by
  have told := notify_of_reliable reliable event.notice
  have kept := x.pairs_notify event.notice
  unfold onAssociated PairRegistry.get
  dsimp only
  rw [told, kept, known]
  rfl

theorem answer_onDeassociated (reliable : x.outputs.Reliable) {event : Deassociated} {p : Pair}
    (known : x.pairs.get? event.node = some p) : (x.onDeassociated event).answer = .ok () := by
  have told := notify_of_reliable reliable event.notice
  have kept := x.pairs_notify event.notice
  unfold onDeassociated PairRegistry.get
  dsimp only
  rw [told, kept, known]
  rfl

theorem logQuality_of_reliable (reliable : x.outputs.Reliable) (record : QualityRecord) :
    (x.logQuality record).2 = true :=
  reliable.quality.writeLine record.text

/-- The report is written and the streams are flushed unless one of them fails. -/
theorem finish_of_reliable (reliable : x.outputs.Reliable) (summary : Summary) :
    (x.finish summary).2 = .ok () := by
  have written := reliable.console.writeLines (if x.config.csv then [] else summary.report)
  have console := reliable.console.of_setup_eq
    (x.outputs.console.setup_writeLines (if x.config.csv then [] else summary.report))
  have flush {s : Stream} (reliable : s.Reliable) : s.flush.2 = true := by
    rw [Stream.flush, reliable]
    rfl
  unfold finish
  dsimp only
  rw [written, flush console, flush reliable.training, flush reliable.quality]
  rfl

theorem answer_onFrameReceived (reliable : x.outputs.Reliable) (event : FrameReceived) :
    ∃ record, (x.onFrameReceived event now).answer = .ok record := by
  unfold onFrameReceived
  split
  · exact ⟨none, rfl⟩
  · dsimp only
    rw [logQuality_of_reliable reliable]
    exact ⟨_, rfl⟩

end Experiment

/-! ## Reports -/

namespace World

variable {w : World}

/-- Whether an order can be carried out: the addresses of a training belong to devices. -/
def CanObey (w : World) (order : Order) : Prop :=
  ∀ a b, order = .train a b → (w.network.nodeOf? a).isSome ∧ (w.network.nodeOf? b).isSome

theorem fatal_obey {order : Order} (can : w.CanObey order) : (w.obey order).1.fatal = w.fatal := by
  cases order with
  | startSender sender => rfl
  | stopSender sender => rfl
  | train a b =>
    obtain ⟨ofA, ofB⟩ := can a b rfl
    obtain ⟨i, ofA⟩ := Option.isSome_iff_exists.1 ofA
    obtain ⟨j, ofB⟩ := Option.isSome_iff_exists.1 ofB
    simp only [obey, requestTraining, ofA, ofB]

/-- Carrying out an order leaves the devices, and so what orders can be carried out. -/
theorem CanObey.obey {order other : Order} (can : w.CanObey other) :
    (w.obey order).1.CanObey other := by
  have devices : (w.obey order).1.network.devices = w.network.devices := w.devices_obeyAll [order]
  intro a b train
  rw [Network.nodeOf?, Network.nodeOf?, devices]
  exact can a b train

theorem fatal_obeyAll {orders : List Order} (can : ∀ order ∈ orders, w.CanObey order) :
    (w.obeyAll orders).1.fatal = w.fatal := by
  induction orders generalizing w with
  | nil => rfl
  | cons order rest ih =>
    have others : ∀ other ∈ rest, (w.obey order).1.CanObey other :=
      fun other mem => (can other (List.mem_cons_of_mem _ mem)).obey
    exact (ih others).trans (fatal_obey (can order List.mem_cons_self))

/-- A report that is handled brings no fault if its orders can be carried out. -/
theorem fatal_dispatch {event : LinkEvent} (sound : w.fatal = none)
    (handled : (w.experiment.handle event (w.network.traceIndex now) now).answer = .ok ())
    (can : ∀ order ∈ (w.experiment.handle event (w.network.traceIndex now) now).orders,
      w.CanObey order) :
    (w.dispatch event now).1.fatal = none := by
  unfold dispatch
  rw [if_neg (by simp [halted, sound])]
  generalize w.experiment.handle event (w.network.traceIndex now) now = h at handled can ⊢
  dsimp only
  rw [handled]
  exact (fatal_obeyAll (w := { w with experiment := h.experiment }) can).trans sound

namespace InScene

/-- The address of a device of the scene is found. -/
theorem isSome_nodeOf? (scene : w.InScene s outputs) {i : NodeId} (inside : i ≤ s.numStas) :
    (w.network.nodeOf? (Network.addressOf i)).isSome := by
  have bound : i < w.network.devices.size := by
    rw [scene.size_devices]
    exact Nat.lt_succ_of_le inside
  obtain ⟨d, at_i, address⟩ := scene.numbered.exists_device bound
  rw [Network.nodeOf?, Array.findIdx?_isSome, Array.any_eq_true']
  exact ⟨d, Array.mem_of_getElem? at_i, beq_iff_eq.2 address⟩

theorem exists_pair_of_station (scene : w.InScene s outputs) {station : NodeId}
    (inside : 1 ≤ station ∧ station ≤ s.numStas) :
    ∃ p, w.experiment.pairs.get? station = some p := by
  obtain ⟨k, rfl⟩ := Nat.exists_eq_add_of_le' inside.1
  obtain ⟨p, -, -, -, found⟩ := scene.exists_pair inside.2
  exact ⟨p, found⟩

theorem fatal_dispatch_associated (scene : w.InScene s outputs) (reliable : outputs.Reliable)
    (sound : w.fatal = none) {event : Associated}
    (inside : 1 ≤ event.node ∧ event.node ≤ s.numStas) :
    (w.dispatch (.associated event) now).1.fatal = none := by
  obtain ⟨p, found⟩ := scene.exists_pair_of_station inside
  have handled := Experiment.answer_onAssociated (scene.reliable reliable) found now
  refine fatal_dispatch sound handled fun order mem a b train => ?_
  obtain ⟨p, -, -, orders⟩ := Experiment.of_onAssociated handled
  rw [Experiment.handle, orders, train] at mem
  split at mem
  · cases mem
  · cases List.mem_singleton.1 mem

theorem fatal_dispatch_deassociated (scene : w.InScene s outputs) (reliable : outputs.Reliable)
    (sound : w.fatal = none) {event : Deassociated}
    (inside : 1 ≤ event.node ∧ event.node ≤ s.numStas) :
    (w.dispatch (.deassociated event) now).1.fatal = none := by
  obtain ⟨p, found⟩ := scene.exists_pair_of_station inside
  have handled := Experiment.answer_onDeassociated (scene.reliable reliable) found
  refine fatal_dispatch sound handled fun order mem a b train => ?_
  obtain ⟨p, -, -, orders⟩ := Experiment.of_onDeassociated handled
  rw [Experiment.handle, orders, train] at mem
  split at mem
  · cases List.mem_singleton.1 mem
  · cases mem

/-- A retraining that is due is that of a station with its access point, and both are found. -/
theorem fatal_dispatch_transferStarted (scene : w.InScene s outputs) (sound : w.fatal = none)
    {event : TransferStarted} {k : Nat} (inside : k < s.numStas)
    (address : event.address = Network.addressOf (k + 1))
    (bssid : event.bssid = Network.addressOf 0) :
    (w.dispatch (.transferStarted event) now).1.fatal = none := by
  refine fatal_dispatch sound rfl fun order mem a b train => ?_
  obtain ⟨_, same, ordered⟩ := w.experiment.orders_handle (by trivial) _ now order mem
  cases same
  cases ordered.symm.trans train
  rw [address, bssid]
  exact ⟨scene.isSome_nodeOf? inside, scene.isSome_nodeOf? (Nat.zero_le _)⟩

theorem fatal_dispatch_frameReceived (scene : w.InScene s outputs) (reliable : outputs.Reliable)
    (sound : w.fatal = none) (event : FrameReceived) :
    (w.dispatch (.frameReceived event) now).1.fatal = none := by
  obtain ⟨record, answer⟩ :
      ∃ record, (w.experiment.onFrameReceived event now).answer = .ok record :=
    Experiment.answer_onFrameReceived (scene.reliable reliable) event
  refine fatal_dispatch sound ?_ fun order mem => ?_
  · rw [Experiment.handle, Handled.ignore, answer]
    rfl
  · obtain ⟨_, other, -⟩ := w.experiment.orders_handle (by trivial) _ now order mem
    cases other

/-! ## Events -/

theorem fatal_loseStation (scene : w.InScene s outputs) (reliable : outputs.Reliable)
    (sound : w.fatal = none) {d : Device} (inside : 1 ≤ d.node ∧ d.node ≤ s.numStas) :
    (loseStation now w d).fatal = none := by
  have lost := scene.withNetwork (w.network.setup_deassociate d)
  unfold loseStation
  split
  · exact lost.fatal_dispatch_deassociated reliable sound inside
  · exact sound

theorem fatal_beginInterval (scene : w.InScene s outputs) (reliable : outputs.Reliable)
    (sound : w.fatal = none) (index : Nat) : (w.beginInterval index now).1.fatal = none := by
  have all (ds : List Device) (inside : ∀ d ∈ ds, 1 ≤ d.node ∧ d.node ≤ s.numStas) :
      (ds.foldl (loseStation now) w).fatal = none := by
    induction ds generalizing w with
    | nil => exact sound
    | cons d ds ih =>
      exact ih ((setup_loseStation ..).trans scene)
        (scene.fatal_loseStation reliable sound (inside d List.mem_cons_self))
        fun d' mem => inside d' (List.mem_cons_of_mem _ mem)
  unfold beginInterval
  split
  · exact sound
  · exact all _ fun d => scene.bounds_of_mem_stations

theorem fatal_beginTransfer (scene : w.InScene s outputs) (sound : w.fatal = none)
    (duration : Time) : (w.beginTransfer duration now).1.fatal = none := by
  have all (ds : List Device)
      (stations : ∀ d ∈ ds, ∃ k < s.numStas, d.setup = s.stationDevice k) :
      (w.announceTransfer duration now ds).1.fatal = none := by
    induction ds generalizing w with
    | nil => exact sound
    | cons d ds ih =>
      obtain ⟨k, inside, setup⟩ := stations d List.mem_cons_self
      have first : (w.dispatch (.transferStarted
          ⟨d.node, d.address, d.bssid, d.isAssociated, duration⟩) now).1.fatal = none :=
        scene.fatal_dispatch_transferStarted sound inside (congrArg Device.address setup)
          (congrArg Device.bssid setup)
      exact ih ((setup_dispatch ..).trans scene) first
        fun d' mem => stations d' (List.mem_cons_of_mem _ mem)
  unfold beginTransfer
  split
  · exact sound
  · refine all _ fun d mem => ?_
    obtain ⟨-, k, inside, -, setup⟩ := scene.mem_stations (List.mem_filter.1 mem).1
    exact ⟨k, inside, setup⟩

theorem fatal_completeAssociation (scene : w.InScene s outputs) (reliable : outputs.Reliable)
    (sound : w.fatal = none) {station : NodeId} (inside : 1 ≤ station ∧ station ≤ s.numStas) :
    (w.completeAssociation station now).1.fatal = none := by
  unfold completeAssociation
  split
  next d _ at_station =>
    have joined := scene.withNetwork (w.network.setup_associate d)
    split
    · exact sound
    · rw [← scene.node_eq at_station] at inside
      exact joined.fatal_dispatch_associated reliable sound inside
  next => exact sound

theorem fatal_endTraining (scene : w.InScene s outputs) (accepted : s.Accepted)
    (reliable : outputs.Reliable) (sound : w.fatal = none) (initiator responder : NodeId)
    (period : AccessPeriod) : (w.endTraining initiator responder period now).1.fatal = none := by
  cases at_initiator : w.network.devices[initiator]? with
  | none => simpa only [World.endTraining, at_initiator] using sound
  | some a =>
    cases at_responder : w.network.devices[responder]? with
    | none => simpa only [World.endTraining, at_initiator, at_responder] using sound
    | some b =>
      by_cases up : w.network.linkUp initiator responder now = true
      · obtain ⟨-, -, -, -, -, intact⟩ :=
          scene.endTraining accepted reliable sound at_initiator at_responder up period
        exact intact
      · simpa only [World.endTraining, at_initiator, at_responder, if_neg up] using sound

theorem fatal_receiveFrame (scene : w.InScene s outputs) (reliable : outputs.Reliable)
    (sound : w.fatal = none) (tx rx : NodeId) (kind : FrameKind) (bytes : Nat)
    (sink : Option SinkId) : (w.receiveFrame tx rx kind bytes sink now).1.fatal = none := by
  unfold receiveFrame
  split
  · split
    · cases sink with
      | none => exact scene.fatal_dispatch_frameReceived reliable sound _
      | some id =>
        have counted : (w.updateApps fun apps => apps.recordReceived id bytes).setup = w.setup :=
          w.setup_withApps (Applications.setup_recordReceived ..)
        have scene' : (w.updateApps fun apps => apps.recordReceived id bytes).InScene s outputs :=
          counted.trans scene
        exact scene'.fatal_dispatch_frameReceived reliable sound _
    · exact sound
  · exact sound

theorem fatal_sendPacket (sound : w.fatal = none) (sender : SenderId) (generation : Nat) :
    (w.sendPacket sender generation now).1.fatal = none := by
  unfold sendPacket
  split
  · exact sound
  · split
    · exact sound
    · split <;> exact sound

/-- A sample finds no counter that shrank. -/
theorem fatal_takeSample (scene : w.InScene s outputs) (reliable : outputs.Reliable)
    (sound : w.fatal = none) (counted : w.Counted) (period : Time) :
    (w.takeSample period now).1.fatal = none := by
  obtain ⟨-, row, sampled⟩ := w.experiment.sample_of_counted now
    (fun sink => (w.network.apps.received sink).bytes) counted.le
  rw [(scene.reliable reliable).console.writeLine] at sampled
  unfold takeSample sampleThroughput
  rw [if_neg (by simp [halted, sound])]
  dsimp only
  rw [sampled]
  exact sound

/-- No event of the scene brings a fault. -/
theorem fatal_act (scene : w.InScene s outputs) (accepted : s.Accepted)
    (reliable : outputs.Reliable) (sound : w.fatal = none) (counted : w.Counted)
    {event : NetworkEvent} (belongs : event.Belongs s) : (w.act now event).1.fatal = none := by
  cases event with
  | beaconInterval index => exact scene.fatal_beginInterval reliable sound index
  | transferInterval duration => exact scene.fatal_beginTransfer sound duration
  | associationComplete station => exact scene.fatal_completeAssociation reliable sound belongs
  | trainingRequested initiator responder =>
    exact (congrArg fatal (w.fst_beginTraining initiator responder now)).trans sound
  | trainingDone initiator responder period =>
    exact scene.fatal_endTraining accepted reliable sound initiator responder period
  | frameArrives tx rx kind bytes sink =>
    exact scene.fatal_receiveFrame reliable sound tx rx kind bytes sink
  | sendTimer sender generation => exact fatal_sendPacket sound sender generation
  | sampleDue period => exact scene.fatal_takeSample reliable sound counted period

end InScene

end World

/-! ## Runs -/

namespace DenseRun

variable {spec : ScenarioSpec} {r : DenseRun} {sim : Simulator NetworkEvent} {w : World}
  {ms : List (Moment NetworkEvent World)} {entry : Entry NetworkEvent}
  {rest : List (Entry NetworkEvent)}

/-- What every state between two events of a run has in common: the simulator goes on, there is no
fault, no counter shrank, and what is pending belongs to the scene. -/
structure Healthy (s : Scenario) (sim : Simulator NetworkEvent) (w : World) : Prop where
  running : sim.stopped = false
  sound : w.fatal = none
  counted : w.Counted
  belongs : ∀ e ∈ sim.pending, e.event.Belongs s

theorem LaidOut.healthy (run : LaidOut s outputs r) : Healthy s r.simulator r.world where
  running := by
    rw [run.simulator]
    rfl
  sound := run.fatal
  counted := by
    refine ⟨fun p mem => ?_⟩
    rw [run.pairs] at mem
    obtain ⟨k, -, rfl⟩ := List.mem_map.1 mem
    exact Nat.zero_le _
  belongs := by
    rw [run.simulator, s.pending_simulator]
    intro e mem
    simp only [List.mem_cons, List.not_mem_nil, or_false] at mem
    rcases mem with rfl | rfl
    · trivial
    · rfl

/-- Executing an event of the scene leaves everything in order. -/
theorem Healthy.step (healthy : Healthy s sim w) (scene : w.InScene s outputs)
    (accepted : s.Accepted) (reliable : outputs.Reliable) (pending : sim.pending = entry :: rest) :
    Healthy s (sim.step World.behaviour entry rest w).1
      (sim.step World.behaviour entry rest w).2 := by
  have belongs := healthy.belongs entry (by simp [pending])
  have sound : (w.act entry.due entry.event).1.fatal = none :=
    scene.fatal_act accepted reliable healthy.sound healthy.counted belongs
  have goesOn : World.behaviour.halted (sim.step World.behaviour entry rest w).2 = false := by
    show (w.act entry.due entry.event).1.fatal.isSome = false
    rw [sound]
    rfl
  refine ⟨Simulator.stopped_step healthy.running World.schedules_of_mem_act goesOn, sound,
    World.counted_act healthy.counted _ _, fun e mem => ?_⟩
  have perm := Simulator.perm_pending_step healthy.running World.schedules_of_mem_act goesOn
  rcases List.mem_append.1 (perm.mem_iff.1 mem) with asked | before
  · obtain ⟨⟨r, memr, asked⟩, -, -⟩ := Request.of_mem_entries asked
    obtain ⟨event, asks, here⟩ := scene.belongs_of_mem_act belongs memr
    rw [(Request.of_entry? asked).2, Option.some_inj] at asks
    exact asks ▸ here
  · exact healthy.belongs e (by rw [pending]; exact List.mem_cons_of_mem _ before)

theorem Built.healthy (run : Built spec s outputs r) (reliable : outputs.Reliable)
    (history : History World.behaviour r.simulator r.world ms sim w) : Healthy s sim w := by
  have accepted := ScenarioSpec.accepted_of_resolve run.accepted
  induction history with
  | start => exact run.laidOut.healthy
  | execute before pending ih => exact ih.step (run.inScene before) accepted reliable pending
  | settle limit before idle ih =>
    refine ⟨?_, ih.sound, ih.counted, by simpa using ih.belongs⟩
    rw [Simulator.settle_of_running ih.running]
    exact ih.running

/-- A run that ends gives its figures. -/
theorem Built.exists_summary (run : Built spec s outputs r) (reliable : outputs.Reliable)
    {fuel : Nat} {out : World × Except Fault Summary} (ended : r.run fuel = some out) :
    ∃ summary, out.2 = .ok summary := by
  obtain ⟨⟨sim, w⟩, loop, rfl⟩ := Option.map_eq_some_iff.1 ended
  obtain ⟨ms, history⟩ := History.of_runUntil loop
  have sound := (run.healthy reliable history).sound
  have finished := Experiment.finish_of_reliable ((run.inScene history).reliable reliable)
  unfold conclude
  dsimp only
  rw [sound]
  dsimp only
  rw [finished]
  exact ⟨_, rfl⟩

end DenseRun

/-- The scene of an accepted scenario is set up unless a stream fails, with every blockage at one of
its stations.  Then no state that a run reaches has a fault, and neither the parts of its world nor
its pending events name a position that is not taken. -/
theorem ScenarioSpec.faultless_of_resolve {spec : ScenarioSpec} (resolved : spec.resolve = .ok s)
    (reliable : outputs.Reliable) :
    ∃ r, DenseRun.build s outputs = .ok r ∧
      (∀ b ∈ s.blockages, 1 ≤ b.1 ∧ b.1 - 1 < r.stations.length) ∧
      ∀ ms sim w, History World.behaviour r.simulator r.world ms sim w →
        w.fatal = none ∧ w.Connected ∧ ∀ e ∈ sim.pending, e.event.Inside w := by
  have accepted := ScenarioSpec.accepted_of_resolve resolved
  obtain ⟨r, built, stations⟩ := DenseRun.exists_build accepted reliable
  have run : DenseRun.Built spec s outputs r := ⟨resolved, built⟩
  refine ⟨r, built, fun b mem => ?_, fun ms sim w history => ?_⟩
  · obtain ⟨first, last⟩ := accepted.blockages b mem
    rw [stations, Scenario.stationNodes, List.length_range']
    omega
  · have healthy := run.healthy reliable history
    have scene := run.inScene history
    exact ⟨healthy.sound, scene.connected,
      fun e mem => scene.inside_of_belongs (healthy.belongs e mem)⟩

/-- A lone station that is cut off, associates and sends: twenty events without a fault. -/
theorem faultless_lone : Lone.spec.resolve = .ok Lone.scenario ∧ Lone.outputs.Reliable ∧
    (∀ b ∈ Lone.scenario.blockages, 1 ≤ b.1 ∧ b.1 - 1 < Lone.run.stations.length) ∧
    (Lone.world 20).fatal = none ∧ (Lone.world 20).Connected ∧
    ∀ e ∈ (Lone.agenda 20).pending, e.event.Inside (Lone.world 20) := by
  obtain ⟨r, built, blockages, reached⟩ :=
    ScenarioSpec.faultless_of_resolve Lone.built.accepted Lone.reliable
  cases built.symm.trans Lone.built.built
  exact ⟨Lone.built.accepted, Lone.reliable, blockages, reached _ _ _ (Lone.history 20)⟩

end DenseDmg
