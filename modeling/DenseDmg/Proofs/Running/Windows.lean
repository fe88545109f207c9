import DenseDmg.Proofs.Engine.History
import DenseDmg.Proofs.Scenario.Accepted
import DenseDmg.Proofs.Scene.Layout
import Mathlib.Data.List.Basic

/-!
# Blockage windows

A document cuts stations off in windows: it counts the stations from one and the windows in
milliseconds, in whatever order and as often as it likes.  The network asks one question about them,
whether a node is cut off at an instant, and this is all that a run ever learns of them.

* `Scenario.isBlocked_eq`: the network answers as the windows of the document do.
* `World.act_withBlockages`: an event does the same in a network with other windows that give the
  same answers.
* `ScenarioSpec.windows_of_resolve`: so documents whose windows cover the same instants have the
  same runs.
-/

namespace DenseDmg

/-! ## Windows of a document -/

/-- A window covers an instant of a station, the instant being counted in nanoseconds of any
size. -/
def BlockageSpec.Covers (b : BlockageSpec) (sta nanos : Nat) : Prop :=
  b.sta = sta ∧ b.start * 1000000 ≤ nanos ∧ nanos < b.finish * 1000000

/-- One of the windows of a document covers an instant of a station. -/
def ScenarioSpec.CutsOff (spec : ScenarioSpec) (sta nanos : Nat) : Prop :=
  ∃ b ∈ spec.blockages, b.Covers sta nanos

/-- The window of a document as a scenario has it. -/
def BlockageSpec.window (b : BlockageSpec) : Nat × Time × Time :=
  (b.sta, .ofMillis b.start, .ofMillis b.finish)

/-- Documents that differ in their windows only, which cover the same instants of every station up
to the last one that a clock can show. -/
structure ScenarioSpec.SameWindows (spec spec' : ScenarioSpec) : Prop where
  others : spec' = { spec with blockages := spec'.blockages }
  covers : ∀ sta nanos, 1 ≤ sta → sta ≤ spec.numStas → nanos < lastWord →
    (spec.CutsOff sta nanos ↔ spec'.CutsOff sta nanos)

namespace BlockageSpec

theorem eq_window_of_resolve {numStas : Nat} {b : BlockageSpec} {window : Nat × Time × Time}
    (accepted : b.resolve numStas = .ok window) : window = b.window := by
  unfold resolve at accepted
  split at accepted
  next => cases accepted
  next =>
    split at accepted
    next => cases accepted
    next =>
      cases accepted
      rfl

/-- Windows that are accepted belong to stations of the scenario and are taken over one by one. -/
theorem of_mapM_resolve {numStas : Nat} {bs : List BlockageSpec}
    {windows : List (Nat × Time × Time)} (accepted : bs.mapM (resolve numStas) = .ok windows) :
    windows = bs.map window ∧ ∀ b ∈ bs, 1 ≤ b.sta ∧ b.sta ≤ numStas := by
  induction bs generalizing windows with
  | nil =>
    cases accepted
    exact ⟨rfl, nofun⟩
  | cons b bs ih =>
    rw [List.mapM_cons] at accepted
    obtain ⟨first, resolved, accepted⟩ := exists_of_bind_eq_ok accepted
    obtain ⟨others, rest, accepted⟩ := exists_of_bind_eq_ok accepted
    cases accepted
    obtain ⟨same, inside⟩ := ih rest
    have window := eq_window_of_resolve resolved
    refine ⟨by rw [window, same, List.map_cons], fun b' mem => ?_⟩
    rcases List.mem_cons.1 mem with rfl | mem
    · have bounds := of_resolve resolved
      rwa [window] at bounds
    · exact inside b' mem

end BlockageSpec

namespace ScenarioSpec

variable {spec spec' : ScenarioSpec} {s s' : Scenario}

/-- A scenario has the stations and the windows of its document. -/
theorem blockages_of_resolve (resolved : spec.resolve = .ok s) :
    s.numStas = spec.numStas ∧ s.blockages = spec.blockages.map BlockageSpec.window ∧
      ∀ b ∈ spec.blockages, 1 ≤ b.sta ∧ b.sta ≤ spec.numStas := by
  unfold resolve at resolved
  iterate 14 obtain ⟨_, -, resolved⟩ := exists_of_bind_eq_ok resolved
  obtain ⟨blockages, windows, resolved⟩ := exists_of_bind_eq_ok resolved
  obtain ⟨_, -, resolved⟩ := exists_of_bind_eq_ok resolved
  cases resolved
  exact ⟨rfl, BlockageSpec.of_mapM_resolve windows⟩

/-- Documents that differ in their windows only are resolved to scenarios that do. -/
theorem resolve_eq_of_others (others : spec' = { spec with blockages := spec'.blockages })
    (resolved : spec.resolve = .ok s) (resolved' : spec'.resolve = .ok s') :
    s' = { s with blockages := s'.blockages } := by
  generalize spec'.blockages = windows at others
  subst others
  unfold resolve at resolved resolved'
  -- The checks and conversions before the windows, which are the same for both documents.
  iterate 14
    obtain ⟨_, first, resolved⟩ := exists_of_bind_eq_ok resolved
    obtain ⟨_, first', resolved'⟩ := exists_of_bind_eq_ok resolved'
    cases first.symm.trans first'
  obtain ⟨_, -, resolved⟩ := exists_of_bind_eq_ok resolved
  obtain ⟨_, -, resolved'⟩ := exists_of_bind_eq_ok resolved'
  obtain ⟨_, radius, resolved⟩ := exists_of_bind_eq_ok resolved
  obtain ⟨_, radius', resolved'⟩ := exists_of_bind_eq_ok resolved'
  cases radius.symm.trans radius'
  cases resolved
  cases resolved'
  rfl

end ScenarioSpec

/-! ## Windows of a network -/

/-- Before the last instant a window of the network covers what the window of the document does; the
last instant is not covered by any. -/
theorem Blockage.covers_window (node : NodeId) (b : BlockageSpec) (t : Time) :
    (⟨node, .ofMillis b.start, .ofMillis b.finish⟩ : Blockage).covers t = true ↔
      t.nanos < lastWord ∧ b.start * 1000000 ≤ t.nanos ∧ t.nanos < b.finish * 1000000 := by
  simp only [covers, Bool.and_eq_true, decide_eq_true_eq, Time.le_def, Time.lt_def, Time.ofMillis,
    Time.nanos_ofNanos]
  omega

namespace Scenario

variable {spec spec' : ScenarioSpec} {s s' : Scenario}

/-- Every window stands at the node of its station. -/
theorem networkBlockages_eq (resolved : spec.resolve = .ok s) :
    s.networkBlockages =
      spec.blockages.map fun b => ⟨b.sta, .ofMillis b.start, .ofMillis b.finish⟩ := by
  obtain ⟨stations, windows, inside⟩ := spec.blockages_of_resolve resolved
  unfold networkBlockages
  rw [windows, List.filterMap_map, List.filterMap_eq_map_iff_forall_eq_some]
  intro b mem
  obtain ⟨first, last⟩ := inside b mem
  have at_sta : s.stationNodes[b.sta - 1]? = some b.sta := by
    rw [stationNodes, List.getElem?_range' (by omega)]
    exact congrArg some (by omega)
  simp only [Function.comp_apply, BlockageSpec.window, at_sta, Option.map_some]

/-- The network cuts a node off before the last instant when a window of the document does, and
never at the last instant. -/
theorem isBlocked_eq (resolved : spec.resolve = .ok s) (node : NodeId) (t : Time) :
    s.network.isBlocked node t = true ↔ t.nanos < lastWord ∧ spec.CutsOff node t.nanos := by
  have covers : s.network.isBlocked node t =
      s.networkBlockages.any fun b => b.node == node && b.covers t :=
    BlockageTable.covers_ofList ..
  rw [covers, networkBlockages_eq resolved, List.any_map, List.any_eq_true]
  simp only [Function.comp_apply, Bool.and_eq_true, beq_iff_eq, Blockage.covers_window,
    ScenarioSpec.CutsOff, BlockageSpec.Covers]
  constructor
  · rintro ⟨b, mem, owner, early, window⟩
    exact ⟨early, b, mem, owner, window⟩
  · rintro ⟨early, b, mem, owner, window⟩
    exact ⟨b, mem, owner, early, window⟩

/-- Windows that cover the same instants give the same answers. -/
theorem isBlocked_congr (same : spec.SameWindows spec') (resolved : spec.resolve = .ok s)
    (resolved' : spec'.resolve = .ok s') : s'.network.isBlocked = s.network.isBlocked := by
  have inside {p : ScenarioSpec} {x : Scenario} (accepted : p.resolve = .ok x)
      (stations : p.numStas = spec.numStas) {node nanos : Nat} (cut : p.CutsOff node nanos) :
      1 ≤ node ∧ node ≤ spec.numStas := by
    obtain ⟨b, mem, rfl, -⟩ := cut
    rw [← stations]
    exact (p.blockages_of_resolve accepted).2.2 b mem
  have others := same.others
  have stations : spec'.numStas = spec.numStas := by
    generalize spec'.blockages = windows at others
    rw [others]
  funext node t
  rw [Bool.eq_iff_iff, isBlocked_eq resolved, isBlocked_eq resolved']
  refine and_congr_right fun early => ⟨fun cut => ?_, fun cut => ?_⟩
  · obtain ⟨first, last⟩ := inside resolved' stations cut
    exact (same.covers node t.nanos first last early).2 cut
  · obtain ⟨first, last⟩ := inside resolved rfl cut
    exact (same.covers node t.nanos first last early).1 cut

end Scenario

/-! ## Worlds with other windows -/

/-- A world in which other windows are in force. -/
def World.withBlockages (w : World) (t : BlockageTable) : World :=
  { w with network := { w.network with blockages := t } }

namespace World

variable {w : World} {t : BlockageTable} {now : Time}

/-- An outcome in whose world other windows are in force. -/
def exchange (t : BlockageTable) (out : World × List NetworkRequest) :
    World × List NetworkRequest :=
  (out.1.withBlockages t, out.2)

theorem obey_withBlockages (w : World) (t : BlockageTable) (order : Order) :
    (w.withBlockages t).obey order = exchange t (w.obey order) := by
  cases order with
  | startSender sender => rfl
  | stopSender sender => rfl
  | train initiator peer =>
    have asked : (w.withBlockages t).requestTraining initiator peer =
        w.requestTraining initiator peer := rfl
    unfold obey
    dsimp only
    rw [asked]
    cases w.requestTraining initiator peer <;> rfl

theorem obeyAll_withBlockages (w : World) (t : BlockageTable) (orders : List Order) :
    (w.withBlockages t).obeyAll orders = exchange t (w.obeyAll orders) := by
  induction orders generalizing w with
  | nil => rfl
  | cons order rest ih =>
    unfold obeyAll
    rw [obey_withBlockages]
    dsimp only [exchange]
    rw [ih]
    rfl

theorem check_withBlockages (w : World) (t : BlockageTable) (answer : Except Fault Unit) :
    (w.withBlockages t).check answer = (w.check answer).withBlockages t := by
  cases answer <;> rfl

/-- The experiment is told of an event, but of no window. -/
theorem dispatch_withBlockages (w : World) (t : BlockageTable) (event : LinkEvent) (now : Time) :
    (w.withBlockages t).dispatch event now = exchange t (w.dispatch event now) := by
  have halted : (w.withBlockages t).halted = w.halted := rfl
  unfold dispatch
  rw [halted]
  split
  · rfl
  · dsimp only
    rw [← obeyAll_withBlockages, ← check_withBlockages]
    rfl

theorem sampleThroughput_withBlockages (w : World) (t : BlockageTable) (now : Time) :
    (w.withBlockages t).sampleThroughput now = (w.sampleThroughput now).withBlockages t := by
  have halted : (w.withBlockages t).halted = w.halted := rfl
  unfold sampleThroughput
  rw [halted]
  split
  · rfl
  · dsimp only
    rw [← check_withBlockages]
    rfl

/-! ### Windows with the same answers -/

/-- Other windows that give the same answers. -/
def Exchangeable (w : World) (t : BlockageTable) : Prop := t.covers = w.network.blockages.covers

theorem Exchangeable.of_setup_eq {w' : World} (same : w.Exchangeable t)
    (setup : w'.setup = w.setup) : w'.Exchangeable t := by
  have blockages := congrArg (fun w : World => w.network.blockages) setup
  exact same.trans (congrArg BlockageTable.covers blockages.symm)

theorem Exchangeable.isBlocked (same : w.Exchangeable t) :
    (w.withBlockages t).network.isBlocked = w.network.isBlocked := same

theorem Exchangeable.linkUp (same : w.Exchangeable t) :
    (w.withBlockages t).network.linkUp = w.network.linkUp := by
  unfold Network.linkUp
  rw [same.isBlocked]

theorem loseStation_withBlockages (same : w.Exchangeable t) (d : Device) :
    loseStation now (w.withBlockages t) d = (loseStation now w d).withBlockages t := by
  unfold loseStation
  rw [same.isBlocked]
  split
  · exact congrArg Prod.fst
      (dispatch_withBlockages { w with network := (w.network.deassociate d).1 } t
        (.deassociated (w.network.deassociate d).2) now)
  · rfl

theorem foldl_loseStation_withBlockages (now : Time) (same : w.Exchangeable t) (ds : List Device) :
    ds.foldl (loseStation now) (w.withBlockages t) =
      (ds.foldl (loseStation now) w).withBlockages t := by
  induction ds generalizing w with
  | nil => rfl
  | cons d ds ih =>
    rw [List.foldl_cons, loseStation_withBlockages same]
    exact ih (same.of_setup_eq (setup_loseStation now w d))

theorem beginInterval_withBlockages (same : w.Exchangeable t) (index : Nat) :
    (w.withBlockages t).beginInterval index now = exchange t (w.beginInterval index now) := by
  have devices : (w.withBlockages t).network.devices = w.network.devices := rfl
  have accessPoint : (w.withBlockages t).network.accessPoint = w.network.accessPoint := rfl
  have stations : (w.withBlockages t).network.stations = w.network.stations := rfl
  unfold beginInterval
  rw [devices, accessPoint, stations]
  cases w.network.accessPoint.bind fun node => w.network.devices[node]? with
  | none => rfl
  | some ap =>
    have left := foldl_loseStation_withBlockages now same w.network.stations
    have same' := same.of_setup_eq (setup_foldl_loseStation now w w.network.stations)
    dsimp only
    rw [left, same'.linkUp]
    rfl

theorem announceTransfer_withBlockages (w : World) (t : BlockageTable) (duration : Time)
    (ds : List Device) :
    (w.withBlockages t).announceTransfer duration now ds =
      exchange t (w.announceTransfer duration now ds) := by
  induction ds generalizing w with
  | nil => rfl
  | cons d ds ih =>
    unfold announceTransfer
    rw [dispatch_withBlockages]
    dsimp only [exchange]
    rw [ih]
    rfl

theorem beginTransfer_withBlockages (same : w.Exchangeable t) (duration : Time) :
    (w.withBlockages t).beginTransfer duration now = exchange t (w.beginTransfer duration now) := by
  have accessPoint : (w.withBlockages t).network.accessPoint = w.network.accessPoint := rfl
  unfold beginTransfer
  rw [accessPoint, same.linkUp]
  cases w.network.accessPoint with
  | none => rfl
  | some ap => exact announceTransfer_withBlockages ..

theorem completeAssociation_withBlockages (same : w.Exchangeable t) (station : NodeId) :
    (w.withBlockages t).completeAssociation station now =
      exchange t (w.completeAssociation station now) := by
  have accessPoint : (w.withBlockages t).network.accessPoint = w.network.accessPoint := rfl
  have devices : (w.withBlockages t).network.devices = w.network.devices := rfl
  unfold completeAssociation
  rw [accessPoint, devices, same.linkUp]
  split
  next ap d _ _ =>
    split
    · rfl
    · exact dispatch_withBlockages { w with network := (w.network.associate d).1 } t
        (.associated (w.network.associate d).2) now
  next => rfl

theorem beginTraining_withBlockages (same : w.Exchangeable t) (initiator responder : NodeId) :
    (w.withBlockages t).beginTraining initiator responder now =
      exchange t (w.beginTraining initiator responder now) := by
  have devices : (w.withBlockages t).network.devices = w.network.devices := rfl
  unfold beginTraining
  rw [devices, same.linkUp]
  split
  · split <;> rfl
  · rfl

theorem reportTraining_withBlockages (w : World) (t : BlockageTable) (reporter peer : Device)
    (period : AccessPeriod) (side : TrainingSide) :
    (w.withBlockages t).reportTraining reporter peer period side now =
      exchange t (w.reportTraining reporter peer period side now) := by
  have known : (w.withBlockages t).trainingContext = w.trainingContext := rfl
  unfold reportTraining
  rw [known]
  split
  · rfl
  · exact dispatch_withBlockages ..

theorem endTraining_withBlockages (same : w.Exchangeable t) (initiator responder : NodeId)
    (period : AccessPeriod) :
    (w.withBlockages t).endTraining initiator responder period now =
      exchange t (w.endTraining initiator responder period now) := by
  have devices : (w.withBlockages t).network.devices = w.network.devices := rfl
  unfold endTraining
  rw [devices, same.linkUp]
  split
  · split
    · rw [reportTraining_withBlockages]
      dsimp only [exchange]
      rw [reportTraining_withBlockages]
      rfl
    · rfl
  · rfl

theorem receiveFrame_withBlockages (same : w.Exchangeable t) (tx rx : NodeId) (kind : FrameKind)
    (bytes : Nat) (sink : Option SinkId) :
    (w.withBlockages t).receiveFrame tx rx kind bytes sink now =
      exchange t (w.receiveFrame tx rx kind bytes sink now) := by
  have devices : (w.withBlockages t).network.devices = w.network.devices := rfl
  unfold receiveFrame
  rw [devices, same.linkUp]
  split
  next a b _ _ =>
    split
    · cases sink with
      | none => exact dispatch_withBlockages ..
      | some id =>
        exact dispatch_withBlockages (w.updateApps fun apps => apps.recordReceived id bytes) t ..
    · rfl
  next => rfl

theorem sendPacket_withBlockages (same : w.Exchangeable t) (sender : SenderId) (generation : Nat) :
    (w.withBlockages t).sendPacket sender generation now =
      exchange t (w.sendPacket sender generation now) := by
  have apps : (w.withBlockages t).network.apps = w.network.apps := rfl
  unfold sendPacket
  rw [apps, same.linkUp]
  split
  · rfl
  · split
    · rfl
    · split <;> rfl

theorem takeSample_withBlockages (w : World) (t : BlockageTable) (period : Time) :
    (w.withBlockages t).takeSample period now = exchange t (w.takeSample period now) := by
  unfold takeSample
  dsimp only
  rw [sampleThroughput_withBlockages]
  rfl

/-- An event asks for the same and leaves the same if other windows give the same answers. -/
theorem act_withBlockages (now : Time) (same : w.Exchangeable t) (event : NetworkEvent) :
    (w.withBlockages t).act now event = exchange t (w.act now event) := by
  cases event with
  | beaconInterval index => exact beginInterval_withBlockages same index
  | transferInterval duration => exact beginTransfer_withBlockages same duration
  | associationComplete station => exact completeAssociation_withBlockages same station
  | trainingRequested initiator responder =>
    exact beginTraining_withBlockages same initiator responder
  | trainingDone initiator responder period =>
    exact endTraining_withBlockages same initiator responder period
  | frameArrives tx rx kind bytes sink =>
    exact receiveFrame_withBlockages same tx rx kind bytes sink
  | sendTimer sender generation => exact sendPacket_withBlockages same sender generation
  | sampleDue period => exact takeSample_withBlockages w t period

end World

/-! ## Runs with other windows -/

/-- A state of the event loop in whose world other windows are in force. -/
def World.exchangeState (t : BlockageTable) (state : Simulator NetworkEvent × World) :
    Simulator NetworkEvent × World :=
  (state.1, state.2.withBlockages t)

/-- A moment in whose world other windows are in force. -/
def Moment.withBlockages (t : BlockageTable) (m : Moment NetworkEvent World) :
    Moment NetworkEvent World :=
  { m with world := m.world.withBlockages t }

namespace Simulator

variable {sim : Simulator NetworkEvent} {w : World} {t : BlockageTable}
  {entry : Entry NetworkEvent} {rest : List (Entry NetworkEvent)}

theorem step_withBlockages (same : w.Exchangeable t) :
    sim.step World.behaviour entry rest (w.withBlockages t) =
      World.exchangeState t (sim.step World.behaviour entry rest w) := by
  have acted := World.act_withBlockages entry.due same entry.event
  unfold step
  simp only [World.behaviour, acted]
  rfl

theorem setup_step (sim : Simulator NetworkEvent) (entry : Entry NetworkEvent)
    (rest : List (Entry NetworkEvent)) (w : World) :
    (sim.step World.behaviour entry rest w).2.setup = w.setup := World.setup_act ..

theorem runUntil_withBlockages {limit : Time} {fuel : Nat} (same : w.Exchangeable t) :
    runUntil World.behaviour limit fuel sim (w.withBlockages t) =
      (runUntil World.behaviour limit fuel sim w).map (World.exchangeState t) := by
  induction fuel generalizing sim w with
  | zero =>
    by_cases idle : ∀ entry ∈ sim.pending.head?, limit < entry.due
    · rw [runUntil_of_idle idle, runUntil_of_idle idle]
      rfl
    · obtain ⟨entry, rest, pending, due⟩ := exists_due_of_not_idle idle
      rw [runUntil_zero_of_due pending due, runUntil_zero_of_due pending due]
      rfl
  | succ fuel ih =>
    by_cases idle : ∀ entry ∈ sim.pending.head?, limit < entry.due
    · rw [runUntil_of_idle idle, runUntil_of_idle idle]
      rfl
    · obtain ⟨entry, rest, pending, due⟩ := exists_due_of_not_idle idle
      rw [runUntil_of_due pending due, runUntil_of_due pending due, step_withBlockages same]
      have same' := same.of_setup_eq (setup_step sim entry rest w)
      generalize sim.step World.behaviour entry rest w = state at same' ⊢
      obtain ⟨sim', w'⟩ := state
      change (if sim'.stopped then some (sim', w'.withBlockages t)
        else runUntil World.behaviour limit fuel sim' (w'.withBlockages t)) = _
      split
      · rfl
      · exact ih same'

end Simulator

theorem History.withBlockages {s₀ sim : Simulator NetworkEvent} {w₀ w : World}
    {ms : List (Moment NetworkEvent World)} {t : BlockageTable} (same : w₀.Exchangeable t)
    (history : History World.behaviour s₀ w₀ ms sim w) :
    History World.behaviour s₀ (w₀.withBlockages t) (ms.map (Moment.withBlockages t)) sim
        (w.withBlockages t) ∧ w.Exchangeable t := by
  induction history with
  | start => exact ⟨.start, same⟩
  | execute _ pending ih =>
    obtain ⟨history, same⟩ := ih
    have next := history.execute pending
    rw [Simulator.step_withBlockages same] at next
    exact ⟨next, same.of_setup_eq (Simulator.setup_step ..)⟩
  | settle limit _ idle ih => exact ⟨ih.1.settle limit idle, ih.2⟩

namespace DenseRun

/-- A run in whose world other windows are in force. -/
def withBlockages (r : DenseRun) (t : BlockageTable) : DenseRun :=
  { r with world := r.world.withBlockages t }

/-- Setting a scene up comes down to registering the addresses and beginning the experiment. -/
theorem build_eq (s : Scenario) (outputs : Outputs) :
    build s outputs =
      (AddressBook.ofList (s.devices.toList.map fun d => (d.address, d.node))).bind fun book =>
        (Experiment.start (experimentConfig s) book s.pairs outputs).map fun x =>
          ⟨s.simulator,
            ⟨s.network,
              { x with
                trigger := s.stationNodes.foldl (fun t sta => t.register (Network.addressOf sta))
                  x.trigger },
              s.subscriptions, none⟩, 0, s.stationNodes, s.simulationTime, s.stopTime⟩ := by
  have ap : (emptyNetwork s).addAccessPoint ⟨0.0, 0.0, deviceHeight⟩ s.apSectors =
      ({ emptyNetwork s with devices := #[s.accessPointDevice], accessPoint := some 0 }, 0) := rfl
  unfold build
  rw [ap]
  simp only [bind, addStations_all, addBlockages_eq, Except.bind]
  cases AddressBook.ofList (s.devices.toList.map fun d => (d.address, d.node)) with
  | error f => rfl
  | ok book =>
    rw [installFlows_all _ _ rfl]
    dsimp only
    cases Experiment.start (experimentConfig s) book s.pairs outputs with
    | error f => rfl
    | ok x =>
      refine congrArg Except.ok ?_
      exact congrArg (DenseRun.mk s.simulator · 0 s.stationNodes s.simulationTime s.stopTime)
        (subscribed_all s _)

/-- Nothing but the windows of a scene depends on the windows of a scenario. -/
theorem build_withBlockages (s : Scenario) (windows : List (Nat × Time × Time))
    (outputs : Outputs) :
    build { s with blockages := windows } outputs =
      (build s outputs).map fun r => r.withBlockages
        (Scenario.network { s with blockages := windows }).blockages := by
  rw [build_eq, build_eq]
  change (AddressBook.ofList (s.devices.toList.map fun d => (d.address, d.node))).bind _ = _
  cases AddressBook.ofList (s.devices.toList.map fun d => (d.address, d.node)) with
  | error f => rfl
  | ok book =>
    change (Experiment.start (experimentConfig s) book s.pairs outputs).map _ = _
    dsimp only [Except.bind]
    cases Experiment.start (experimentConfig s) book s.pairs outputs <;> rfl

theorem run_withBlockages {r : DenseRun} {t : BlockageTable} (same : r.world.Exchangeable t)
    (fuel : Nat) :
    (r.withBlockages t).run fuel =
      (r.run fuel).map fun (w, answer) => (w.withBlockages t, answer) := by
  have loop : Simulator.runUntil World.behaviour r.stopAt fuel r.simulator
      (r.world.withBlockages t) =
        (Simulator.runUntil World.behaviour r.stopAt fuel r.simulator r.world).map
          (World.exchangeState t) := Simulator.runUntil_withBlockages same
  unfold run
  change (Simulator.runUntil World.behaviour r.stopAt fuel r.simulator
    (r.world.withBlockages t)).map _ = _
  rw [loop]
  cases Simulator.runUntil World.behaviour r.stopAt fuel r.simulator r.world with
  | none => rfl
  | some state =>
    obtain ⟨sim, w⟩ := state
    have concluded :
        { r.withBlockages t with simulator := sim, world := w.withBlockages t }.conclude =
        ({ r with simulator := sim, world := w }.conclude.1.withBlockages t,
          { r with simulator := sim, world := w }.conclude.2) := by
      have fatal : (w.withBlockages t).fatal = w.fatal := rfl
      unfold conclude
      dsimp only
      rw [fatal]
      cases w.fatal <;> rfl
    exact congrArg some concluded

/-- Runs that are the same but for their windows, which give the same answers. -/
structure SameButWindows (r r' : DenseRun) : Prop where
  isBlocked : r'.world.network.isBlocked = r.world.network.isBlocked
  start : r' = r.withBlockages r'.world.network.blockages
  /-- Every state that one of them reaches is reached by the other through the same events. -/
  histories : ∀ ms sim w, History World.behaviour r.simulator r.world ms sim w →
    History World.behaviour r'.simulator r'.world
      (ms.map (Moment.withBlockages r'.world.network.blockages)) sim
      (w.withBlockages r'.world.network.blockages)
  /-- They end after as many events, with the same answer and the same outputs, or neither ends. -/
  ends : ∀ fuel, r'.run fuel =
    (r.run fuel).map fun (w, answer) => (w.withBlockages r'.world.network.blockages, answer)

theorem SameButWindows.of_exchangeable {r : DenseRun} {t : BlockageTable}
    (same : r.world.Exchangeable t) : r.SameButWindows (r.withBlockages t) where
  isBlocked := same.isBlocked
  start := rfl
  histories _ _ _ history := (history.withBlockages same).1
  ends := run_withBlockages same

end DenseRun

/-! ## Documents and runs -/

/-- In the network that is built for a document a station is cut off at an instant before the last
one exactly if a window of the document covers the instant, and the access point never is.  For
documents whose windows cover the same instants either no scene is built, for the same reason, or
their runs are the same but for the windows. -/
theorem ScenarioSpec.windows_of_resolve {spec : ScenarioSpec} {s : Scenario}
    (resolved : spec.resolve = .ok s) (outputs : Outputs) :
    (∀ r, DenseRun.build s outputs = .ok r →
      r.stations.length = spec.numStas ∧
      (∀ k node, r.stations[k]? = some node → ∀ t : Time, t.nanos < lastWord →
        (r.world.network.isBlocked node t = true ↔ spec.CutsOff (k + 1) t.nanos)) ∧
      ∀ t, r.world.network.isBlocked r.accessPoint t = false) ∧
    ∀ spec' s', spec'.resolve = .ok s' → spec.SameWindows spec' →
      (∀ f, DenseRun.build s outputs = .error f → DenseRun.build s' outputs = .error f) ∧
      ∀ r, DenseRun.build s outputs = .ok r →
        ∃ r', DenseRun.build s' outputs = .ok r' ∧ r.SameButWindows r' := by
  refine ⟨fun r built => ?_, fun spec' s' resolved' same => ?_⟩
  · obtain ⟨stations, -, inside⟩ := spec.blockages_of_resolve resolved
    obtain ⟨x, -, rfl⟩ := DenseRun.exists_start_of_build built
    refine ⟨?_, fun k node at_k t early => ?_, fun t => ?_⟩
    · exact (List.length_range' ..).trans stations
    · have at_k : (List.range' 1 s.numStas)[k]? = some node := at_k
      obtain ⟨-, rfl⟩ := List.getElem?_eq_some_iff.1 at_k
      rw [List.getElem_range', Nat.add_comm, Nat.one_mul]
      exact (Scenario.isBlocked_eq resolved (k + 1) t).trans (and_iff_right early)
    · change s.network.isBlocked 0 t = false
      rw [← Bool.not_eq_true, Scenario.isBlocked_eq resolved]
      rintro ⟨-, b, mem, owner, -⟩
      have := (inside b mem).1
      omega
  · have others := ScenarioSpec.resolve_eq_of_others same.others resolved resolved'
    have built' := DenseRun.build_withBlockages s s'.blockages outputs
    rw [← others] at built'
    refine ⟨fun f failed => ?_, fun r built => ?_⟩
    · rw [built', failed]
      rfl
    · rw [built] at built'
      refine ⟨_, built', .of_exchangeable ?_⟩
      obtain ⟨x, -, rfl⟩ := DenseRun.exists_start_of_build built
      exact Scenario.isBlocked_congr same resolved resolved'

namespace Pieces

/-- One station, cut off in two windows that overlap. -/
def spec : ScenarioSpec :=
  { numStas := 1
    channel := { apSectors := 1, staSectors := 1 }
    output := { csv := true }
    blockages := [⟨1, 1, 3⟩, ⟨1, 2, 4⟩] }

/-- The same time in windows that follow each other, the later one first and the other one twice. -/
def spec' : ScenarioSpec := { spec with blockages := [⟨1, 3, 4⟩, ⟨1, 1, 3⟩, ⟨1, 1, 3⟩] }

def scenario : Scenario :=
  match spec.resolve with
  | .ok s => s
  | .error _ => default

def scenario' : Scenario :=
  match spec'.resolve with
  | .ok s => s
  | .error _ => default

def outputs : Outputs := ⟨.fresh "console", .fresh "sls", .fresh "snr"⟩

theorem sameWindows : spec.SameWindows spec' where
  others := rfl
  covers sta nanos _ _ _ := by
    simp only [ScenarioSpec.CutsOff, BlockageSpec.Covers, spec, spec', List.mem_cons,
      List.not_mem_nil, or_false, exists_eq_or_imp, exists_eq_left]
    omega

end Pieces

/-- Overlapping windows and adjacent ones have the same runs, in which the station is cut off where
one window ends within the other. -/
theorem ScenarioSpec.windows_of_resolve_pieces :
    Pieces.spec.resolve = .ok Pieces.scenario ∧ Pieces.spec'.resolve = .ok Pieces.scenario' ∧
      Pieces.spec.SameWindows Pieces.spec' ∧
      ∃ r r', DenseRun.build Pieces.scenario Pieces.outputs = .ok r ∧
        DenseRun.build Pieces.scenario' Pieces.outputs = .ok r' ∧ r.SameButWindows r' ∧
        r.world.network.isBlocked 1 (.ofMillis 3) = true ∧
        r.world.network.isBlocked 1 (.ofMillis 4) = false := by
  have resolved : Pieces.spec.resolve = .ok Pieces.scenario := by rfl
  have resolved' : Pieces.spec'.resolve = .ok Pieces.scenario' := by rfl
  have built : ∃ r, DenseRun.build Pieces.scenario Pieces.outputs = .ok r ∧
      r.stations[0]? = some 1 := ⟨_, rfl, rfl⟩
  obtain ⟨r, built, station⟩ := built
  obtain ⟨windows, runs⟩ := windows_of_resolve resolved Pieces.outputs
  obtain ⟨-, answers, -⟩ := windows r built
  obtain ⟨-, same⟩ := runs Pieces.spec' Pieces.scenario' resolved' Pieces.sameWindows
  obtain ⟨r', built', same⟩ := same r built
  refine ⟨resolved, resolved', Pieces.sameWindows, r, r', built, built', same, ?_, ?_⟩
  · exact (answers 0 1 station _ (by decide)).2
      ⟨⟨1, 2, 4⟩, List.mem_cons_of_mem _ List.mem_cons_self, rfl, by decide, by decide⟩
  · rw [← Bool.not_eq_true, answers 0 1 station _ (by decide)]
    simp only [CutsOff, BlockageSpec.Covers, Pieces.spec, List.mem_cons, List.not_mem_nil, or_false,
      exists_eq_or_imp, exists_eq_left]
    decide

end DenseDmg
