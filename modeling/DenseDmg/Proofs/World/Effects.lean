import DenseDmg.Proofs.Engine.Order
import DenseDmg.Proofs.World.Setup

/-!
# What events do to stations, senders and pairs

Associations and traffic are kept in three places: the devices of the network, the senders of the
applications and the pairs of the experiment.  `World.flows` puts them together, apart from what is
measured of the pairs.  Only four kinds of event touch them: the begin of a beacon interval, a
completed association and a send timer, of which this module says what they do, and no other.

* `dispatch_quiet`, `flows_dispatch`: quiet link events, and the events that bring nothing else,
  leave the flows alone.
* `dispatch_associated`, `dispatch_deassociated`: what reports of an association and of its loss do
  where they bring no fault.
* `NetworkEvent.Causes`, `causes_of_mem_act`: which events ask for which.
-/

namespace DenseDmg

/-- A pair apart from what has been measured of it. -/
def Pair.unmeasured (p : Pair) : Pair :=
  { p with lastTotal := 0, throughputSum := 0.0, samples := 0 }

/-- Devices, senders, and pairs apart from measurements. -/
def World.flows (w : World) : Array Device × Array Sender × List Pair :=
  (w.network.devices, w.network.apps.senders, w.experiment.pairs.pairs.map Pair.unmeasured)

/-- Link events that tell of no association and of no loss of one. -/
def LinkEvent.IsQuiet : LinkEvent → Prop
  | .associated _ | .deassociated _ => False
  | .trainingCompleted _ | .transferStarted _ | .frameReceived _ => True

/-- What is found for a node is a pair of that node. -/
theorem PairRegistry.of_get? {registry : PairRegistry} {node : NodeId} {p : Pair}
    (found : registry.get? node = some p) : p ∈ registry.pairs ∧ p.node = node := by
  rw [get?, List.find?_eq_some_iff_append] at found
  obtain ⟨same, before, after, split, -⟩ := found
  refine ⟨?_, beq_iff_eq.1 same⟩
  rw [split]
  exact List.mem_append_right _ List.mem_cons_self

/-! ## Handlers -/

namespace Experiment

@[simp] theorem pairs_notify (x : Experiment) (notice : String) :
    (x.notify notice).1.pairs = x.pairs := by
  unfold notify
  split <;> rfl

@[simp] theorem pairs_remember (x : Experiment) (record : LogRecord) (ok : Bool) :
    (x.remember record ok).pairs = x.pairs := by
  unfold remember
  split <;> rfl

@[simp] theorem pairs_logTraining (x : Experiment) (record : TrainingRecord) :
    (x.logTraining record).1.pairs = x.pairs := by
  simp only [logTraining, pairs_remember]

@[simp] theorem pairs_logQuality (x : Experiment) (record : QualityRecord) :
    (x.logQuality record).1.pairs = x.pairs := by
  simp only [logQuality, pairs_remember]

theorem pairs_onTrainingCompleted (x : Experiment) (event : TrainingCompleted) (traceIndex : Nat)
    (now : Time) : (x.onTrainingCompleted event traceIndex now).experiment.pairs = x.pairs := by
  unfold onTrainingCompleted
  split
  · rfl
  · dsimp only
    split <;> simp only [pairs_notify, pairs_logTraining]

theorem pairs_onFrameReceived (x : Experiment) (event : FrameReceived) (now : Time) :
    (x.onFrameReceived event now).experiment.pairs = x.pairs := by
  unfold onFrameReceived
  split
  · rfl
  · exact x.pairs_logQuality _

/-- Quiet events leave the pairs alone. -/
theorem pairs_handle (x : Experiment) {event : LinkEvent} (quiet : event.IsQuiet)
    (traceIndex : Nat) (now : Time) :
    (x.handle event traceIndex now).experiment.pairs = x.pairs := by
  cases event with
  | associated e => cases quiet
  | deassociated e => cases quiet
  | trainingCompleted e => exact x.pairs_onTrainingCompleted e traceIndex now
  | transferStarted e => rfl
  | frameReceived e => exact x.pairs_onFrameReceived e now

theorem orders_onTrainingCompleted (x : Experiment) (event : TrainingCompleted) (traceIndex : Nat)
    (now : Time) : (x.onTrainingCompleted event traceIndex now).orders = [] := by
  unfold onTrainingCompleted
  split
  · rfl
  · dsimp only
    split <;> rfl

theorem orders_onFrameReceived (x : Experiment) (event : FrameReceived) (now : Time) :
    (x.onFrameReceived event now).orders = [] := by
  unfold onFrameReceived
  split <;> rfl

/-- The only order that follows a quiet event is to train, when a data transfer interval begins. -/
theorem orders_handle (x : Experiment) {event : LinkEvent} (quiet : event.IsQuiet)
    (traceIndex : Nat) (now : Time) :
    ∀ order ∈ (x.handle event traceIndex now).orders,
      ∃ e, event = .transferStarted e ∧ order = .train e.address e.bssid := by
  cases event with
  | associated e => cases quiet
  | deassociated e => cases quiet
  | trainingCompleted e =>
    intro order mem
    rw [handle, Handled.ignore, orders_onTrainingCompleted] at mem
    cases mem
  | transferStarted e =>
    intro order mem
    simp only [handle, Handled.ignore, onTransferStarted] at mem
    split at mem
    · exact ⟨e, rfl, List.mem_singleton.1 mem⟩
    · cases mem
  | frameReceived e =>
    intro order mem
    rw [handle, Handled.ignore, orders_onFrameReceived] at mem
    cases mem

/-- An association that is handled without a fault makes the pair of the station active, and starts
its sender unless the pair was active before. -/
theorem of_onAssociated {x : Experiment} {event : Associated} {now : Time}
    (handled : (x.onAssociated event now).answer = .ok ()) :
    ∃ p, x.pairs.get? event.node = some p ∧
      (x.onAssociated event now).experiment.pairs =
        x.pairs.update event.node (fun p => p.activate now) ∧
      (x.onAssociated event now).orders = if p.active then [] else [.startSender p.sender] := by
  have kept := x.pairs_notify event.notice
  unfold onAssociated PairRegistry.get at handled ⊢
  dsimp only at handled ⊢
  rw [kept] at handled ⊢
  split at handled
  next => cases handled
  next ok =>
    rw [if_neg ok]
    cases found : x.pairs.get? event.node with
    | none => rw [found] at handled; cases handled
    | some p => exact ⟨p, rfl, rfl, rfl⟩

/-- A loss that is handled without a fault makes the pair of the station idle, and stops its sender
if the pair was active before. -/
theorem of_onDeassociated {x : Experiment} {event : Deassociated}
    (handled : (x.onDeassociated event).answer = .ok ()) :
    ∃ p, x.pairs.get? event.node = some p ∧
      (x.onDeassociated event).experiment.pairs = x.pairs.update event.node Pair.deactivate ∧
      (x.onDeassociated event).orders = if p.active then [.stopSender p.sender] else [] := by
  have kept := x.pairs_notify event.notice
  unfold onDeassociated PairRegistry.get at handled ⊢
  dsimp only at handled ⊢
  rw [kept] at handled ⊢
  split at handled
  next => cases handled
  next ok =>
    rw [if_neg ok]
    cases found : x.pairs.get? event.node with
    | none => rw [found] at handled; cases handled
    | some p => exact ⟨p, rfl, rfl, rfl⟩

theorem pairs_sample (x : Experiment) (now : Time) (received : SinkId → Nat) :
    (x.sample now received).1.pairs = (x.sampler.sample now x.pairs received).2.1 := by
  unfold sample
  split
  next taken => rw [taken]
  next taken => rw [taken]; rfl

/-- A sample leaves the pairs alone, apart from what it measures. -/
theorem unmeasured_sample (x : Experiment) (now : Time) (received : SinkId → Nat) :
    (x.sample now received).1.pairs.pairs.map Pair.unmeasured =
      x.pairs.pairs.map Pair.unmeasured := by
  rw [pairs_sample, Sampler.pairs_sample]
  exact map_samplePairs (f := Pair.unmeasured) (fun _ _ _ => rfl) ..

end Experiment

/-! ## Reports -/

namespace World

/-- Worlds with the same network and the same experiment may differ in what has gone wrong. -/
structure SameParts (w w' : World) : Prop where
  network : w'.network = w.network
  experiment : w'.experiment = w.experiment
  subscriptions : w'.subscriptions = w.subscriptions

theorem SameParts.refl (w : World) : SameParts w w := ⟨rfl, rfl, rfl⟩

theorem SameParts.trans {w₁ w₂ w₃ : World} (first : SameParts w₁ w₂) (second : SameParts w₂ w₃) :
    SameParts w₁ w₃ :=
  ⟨second.network.trans first.network, second.experiment.trans first.experiment,
    second.subscriptions.trans first.subscriptions⟩

theorem SameParts.flows {w w' : World} (same : SameParts w w') : w'.flows = w.flows := by
  rw [World.flows, World.flows, same.network, same.experiment]

theorem sameParts_fail (w : World) (f : Fault) : SameParts w (w.fail f) := ⟨rfl, rfl, rfl⟩

theorem sameParts_check (w : World) (answer : Except Fault Unit) :
    SameParts w (w.check answer) := by
  cases answer <;> exact ⟨rfl, rfl, rfl⟩

/-- An order to train changes nothing, and what it asks for is the training. -/
theorem obey_train (w : World) (initiator peer : MacAddress) :
    SameParts w (w.obey (.train initiator peer)).1 ∧
      ∀ r ∈ (w.obey (.train initiator peer)).2,
        ∃ a b, r = .afterDelay w.network.mac.accessDelay (.trainingRequested a b) := by
  simp only [obey, requestTraining]
  split
  next answer =>
    split at answer
    next => cases answer
    next a _ =>
      split at answer
      next => cases answer
      next b _ =>
        cases answer
        exact ⟨.refl w, fun r mem => ⟨a, b, List.mem_singleton.1 mem⟩⟩
  next => exact ⟨w.sameParts_fail _, by simp⟩

theorem obeyAll_train (w : World) (orders : List Order)
    (train : ∀ order ∈ orders, ∃ a b, order = .train a b) :
    SameParts w (w.obeyAll orders).1 ∧
      ∀ r ∈ (w.obeyAll orders).2,
        ∃ a b, r = .afterDelay w.network.mac.accessDelay (.trainingRequested a b) := by
  induction orders generalizing w with
  | nil => exact ⟨.refl w, by simp [obeyAll]⟩
  | cons order rest ih =>
    rcases train order List.mem_cons_self with ⟨a, b, rfl⟩
    rcases w.obey_train a b with ⟨first, asked⟩
    obtain ⟨others, asked'⟩ := ih (w.obey (.train a b)).1
      fun order mem => train order (List.mem_cons_of_mem _ mem)
    constructor
    · exact first.trans others
    · intro r mem
      rcases List.mem_append.1 mem with mem | mem
      · exact asked r mem
      · rw [first.network] at asked'
        exact asked' r mem

/-- A quiet event changes nothing but what is measured, logged and counted. -/
theorem dispatch_quiet (w : World) (event : LinkEvent) (quiet : event.IsQuiet) (now : Time) :
    (w.dispatch event now).1.network = w.network ∧
      (w.dispatch event now).1.experiment.pairs = w.experiment.pairs ∧
      ∀ r ∈ (w.dispatch event now).2, ∃ e a b, event = .transferStarted e ∧
        r = .afterDelay w.network.mac.accessDelay (.trainingRequested a b) := by
  unfold dispatch
  split
  · exact ⟨rfl, rfl, by simp⟩
  · dsimp only
    have orders := w.experiment.orders_handle quiet (w.network.traceIndex now) now
    generalize handled : w.experiment.handle event (w.network.traceIndex now) now = h at orders ⊢
    have pairs : h.experiment.pairs = w.experiment.pairs := by
      rw [← handled]
      exact w.experiment.pairs_handle quiet _ now
    have checked := sameParts_check { w with experiment := h.experiment } h.answer
    obtain ⟨obeyed, asked⟩ := obeyAll_train
      (({ w with experiment := h.experiment } : World).check h.answer) h.orders fun order mem => by
        rcases orders order mem with ⟨e, -, rfl⟩
        exact ⟨_, _, rfl⟩
    have same := checked.trans obeyed
    refine ⟨same.network, (congrArg Experiment.pairs same.experiment).trans pairs, fun r mem => ?_⟩
    rcases asked r mem with ⟨a, b, rfl⟩
    have some_order : h.orders ≠ [] := by
      intro none
      rw [none] at mem
      cases mem
    rcases List.exists_mem_of_ne_nil _ some_order with ⟨order, mem⟩
    rcases orders order mem with ⟨e, rfl, -⟩
    rw [checked.network]
    exact ⟨e, a, b, rfl, rfl⟩

theorem flows_dispatch (w : World) (event : LinkEvent) (quiet : event.IsQuiet) (now : Time) :
    (w.dispatch event now).1.flows = w.flows := by
  obtain ⟨network, pairs, -⟩ := w.dispatch_quiet event quiet now
  rw [flows, flows, network, pairs]

/-- Orders change nothing about the network but its applications. -/
theorem exists_apps_obeyAll (w : World) (orders : List Order) :
    ∃ apps, (w.obeyAll orders).1.network = { w.network with apps := apps } := by
  induction orders generalizing w with
  | nil => exact ⟨w.network.apps, rfl⟩
  | cons order rest ih =>
    obtain ⟨apps, network⟩ := ih (w.obey order).1
    refine ⟨apps, network.trans ?_⟩
    cases order with
    | startSender sender => rfl
    | stopSender sender => rfl
    | train initiator peer => rw [(w.obey_train initiator peer).1.network]

theorem devices_obeyAll (w : World) (orders : List Order) :
    (w.obeyAll orders).1.network.devices = w.network.devices := by
  obtain ⟨apps, network⟩ := w.exists_apps_obeyAll orders
  rw [network]

theorem exists_apps_dispatch (w : World) (event : LinkEvent) (now : Time) :
    ∃ apps, (w.dispatch event now).1.network = { w.network with apps := apps } := by
  unfold dispatch
  split
  · exact ⟨w.network.apps, rfl⟩
  · obtain ⟨apps, network⟩ := exists_apps_obeyAll _ _
    exact ⟨apps, network.trans (by rw [(sameParts_check { w with experiment := _ } _).network])⟩

theorem devices_dispatch (w : World) (event : LinkEvent) (now : Time) :
    (w.dispatch event now).1.network.devices = w.network.devices := by
  obtain ⟨apps, network⟩ := w.exists_apps_dispatch event now
  rw [network]

theorem nextAid_dispatch (w : World) (event : LinkEvent) (now : Time) :
    (w.dispatch event now).1.network.nextAid = w.network.nextAid := by
  obtain ⟨apps, network⟩ := w.exists_apps_dispatch event now
  rw [network]

/-! ## Associations and their loss -/

/-- A fault stays: worlds in which orders were carried out without one were sound before. -/
theorem fatal_of_obeyAll {w : World} {orders : List Order}
    (sound : (w.obeyAll orders).1.fatal = none) : w.fatal = none := by
  induction orders generalizing w with
  | nil => exact sound
  | cons order rest ih =>
    have first : (w.obey order).1.fatal = none := ih sound
    cases order with
    | startSender sender => exact first
    | stopSender sender => exact first
    | train initiator peer =>
      unfold obey at first
      dsimp only at first
      split at first
      · exact first
      · cases first

/-- A report that brings no fault reaches a sound world, is handled, and its orders are carried
out. -/
theorem of_dispatch {w : World} {event : LinkEvent} {now : Time}
    (sound : (w.dispatch event now).1.fatal = none) :
    let h := w.experiment.handle event (w.network.traceIndex now) now
    w.fatal = none ∧ h.answer = .ok () ∧
      w.dispatch event now = ({ w with experiment := h.experiment } : World).obeyAll h.orders := by
  intro h
  have intact : w.fatal = none := by
    cases fatal : w.fatal with
    | none => rfl
    | some f =>
      rw [dispatch, if_pos (by rw [halted, fatal]; rfl), fatal] at sound
      cases sound
  unfold dispatch at sound ⊢
  rw [if_neg (by simp [halted, intact])] at sound ⊢
  cases answer : h.answer with
  | error f =>
    have failed := fatal_of_obeyAll sound
    rw [show (w.experiment.handle event (w.network.traceIndex now) now).answer = .error f from
      answer] at failed
    cases failed
  | ok u =>
    refine ⟨intact, rfl, ?_⟩
    dsimp only
    rw [show (w.experiment.handle event (w.network.traceIndex now) now).answer = .ok () from
      answer]
    rfl

/-- An association that brings no fault makes the pair of the station active, and starts its sender
unless the pair was active before. -/
theorem dispatch_associated {w : World} {event : Associated} {now : Time}
    (sound : (w.dispatch (.associated event) now).1.fatal = none) :
    ∃ p, w.experiment.pairs.get? event.node = some p ∧
      (w.dispatch (.associated event) now).1.experiment.pairs =
        w.experiment.pairs.update event.node (fun p => p.activate now) ∧
      (w.dispatch (.associated event) now).1.network =
        (if p.active then w.network else (w.startSender p.sender).1.network) ∧
      (w.dispatch (.associated event) now).2 =
        (if p.active then [] else (w.startSender p.sender).2) := by
  obtain ⟨-, handled, dispatched⟩ := of_dispatch sound
  obtain ⟨p, found, pairs, orders⟩ := Experiment.of_onAssociated handled
  refine ⟨p, found, ?_⟩
  rw [dispatched]
  unfold Experiment.handle
  dsimp only
  rw [orders]
  cases p.active with
  | false => exact ⟨pairs, rfl, List.append_nil _⟩
  | true => exact ⟨pairs, rfl, rfl⟩

/-- A loss that brings no fault makes the pair of the station idle, and stops its sender if the
pair was active before. -/
theorem dispatch_deassociated {w : World} {event : Deassociated} {now : Time}
    (sound : (w.dispatch (.deassociated event) now).1.fatal = none) :
    ∃ p, w.experiment.pairs.get? event.node = some p ∧
      (w.dispatch (.deassociated event) now).1.experiment.pairs =
        w.experiment.pairs.update event.node Pair.deactivate ∧
      (w.dispatch (.deassociated event) now).1.network =
        (if p.active then (w.stopSender p.sender).network else w.network) := by
  obtain ⟨-, handled, dispatched⟩ := of_dispatch sound
  obtain ⟨p, found, pairs, orders⟩ := Experiment.of_onDeassociated handled
  refine ⟨p, found, ?_⟩
  rw [dispatched]
  unfold Experiment.handle
  dsimp only
  rw [orders]
  cases p.active with
  | false => exact ⟨pairs, rfl⟩
  | true => exact ⟨pairs, rfl⟩

/-- A station that loses its association without a fault loses it in a sound world. -/
theorem fatal_of_loseStation {now : Time} {w : World} {d : Device}
    (sound : (loseStation now w d).fatal = none) : w.fatal = none := by
  unfold loseStation at sound
  split at sound
  · exact (of_dispatch sound).1
  · exact sound

theorem fatal_of_foldl_loseStation {now : Time} {w : World} {ds : List Device}
    (sound : (ds.foldl (loseStation now) w).fatal = none) : w.fatal = none := by
  induction ds generalizing w with
  | nil => exact sound
  | cons d ds ih => exact fatal_of_loseStation (ih sound)

/-! ## Events that bring neither associations nor packets -/

theorem flows_announceTransfer (w : World) (duration now : Time) (ds : List Device) :
    (w.announceTransfer duration now ds).1.flows = w.flows := by
  induction ds generalizing w with
  | nil => rfl
  | cons d ds ih => exact (ih _).trans (w.flows_dispatch (.transferStarted _) trivial now)

theorem flows_beginTransfer (w : World) (duration now : Time) :
    (w.beginTransfer duration now).1.flows = w.flows := by
  unfold beginTransfer
  split
  · rfl
  · exact w.flows_announceTransfer ..

theorem flows_reportTraining (w : World) (reporter peer : Device) (period : AccessPeriod)
    (side : TrainingSide) (now : Time) :
    (w.reportTraining reporter peer period side now).1.flows = w.flows := by
  unfold reportTraining
  split
  · rfl
  · exact w.flows_dispatch (.trainingCompleted _) trivial now

theorem flows_endTraining (w : World) (initiator responder : NodeId) (period : AccessPeriod)
    (now : Time) : (w.endTraining initiator responder period now).1.flows = w.flows := by
  unfold endTraining
  split
  · split
    · exact (flows_reportTraining ..).trans (flows_reportTraining ..)
    · rfl
  · rfl

theorem flows_receiveFrame (w : World) (tx rx : NodeId) (kind : FrameKind) (bytes : Nat)
    (sink : Option SinkId) (now : Time) :
    (w.receiveFrame tx rx kind bytes sink now).1.flows = w.flows := by
  unfold receiveFrame
  split
  · split
    · dsimp only
      rw [flows_dispatch _ _ (by trivial)]
      split <;> rfl
    · rfl
  · rfl

theorem flows_takeSample (w : World) (period now : Time) :
    (w.takeSample period now).1.flows = w.flows := by
  unfold takeSample sampleThroughput
  dsimp only
  split
  · rfl
  · rw [(sameParts_check _ _).flows, flows, flows]
    dsimp only
    rw [Experiment.unmeasured_sample]

end World

/-! ## What events ask for -/

/-- Which events an event may ask for. -/
inductive NetworkEvent.Causes : NetworkEvent → NetworkEvent → Prop
  | controlFrame (index : Nat) (tx rx : NodeId) (kind : FrameKind) :
    Causes (.beaconInterval index) (.controlFrame tx rx kind)
  | slot (index : Nat) (ap station : NodeId) :
    Causes (.beaconInterval index) (.trainingDone ap station .associationTraining)
  | transfer (index : Nat) (duration : Time) :
    Causes (.beaconInterval index) (.transferInterval duration)
  | association (index : Nat) (station : NodeId) :
    Causes (.beaconInterval index) (.associationComplete station)
  | interval (index : Nat) : Causes (.beaconInterval index) (.beaconInterval (index + 1))
  | retraining (duration : Time) (a b : NodeId) :
    Causes (.transferInterval duration) (.trainingRequested a b)
  | start (station : NodeId) (sender : SenderId) (generation : Nat) :
    Causes (.associationComplete station) (.sendTimer sender generation)
  | trainingFrame (a b tx rx : NodeId) (kind : FrameKind) :
    Causes (.trainingRequested a b) (.controlFrame tx rx kind)
  | training (a b initiator responder : NodeId) :
    Causes (.trainingRequested a b) (.trainingDone initiator responder .dataTransfer)
  | packet (sender : SenderId) (generation : Nat) (tx rx : NodeId) (bytes : Nat) (sink : SinkId) :
    Causes (.sendTimer sender generation) (.frameArrives tx rx .data bytes (some sink))
  | timer (sender : SenderId) (generation : Nat) :
    Causes (.sendTimer sender generation) (.sendTimer sender generation)
  | sample (period : Time) : Causes (.sampleDue period) (.sampleDue period)

namespace World

/-- Starting senders asks for nothing but timers. -/
theorem obeyAll_startSender {w : World} {orders : List Order}
    (starts : ∀ order ∈ orders, ∃ id, order = .startSender id) :
    ∀ r ∈ (w.obeyAll orders).2, ∃ id g, r = .afterDelay .zero (.sendTimer id g) := by
  induction orders generalizing w with
  | nil => simp [obeyAll]
  | cons order rest ih =>
    rcases starts order List.mem_cons_self with ⟨id, rfl⟩
    intro r mem
    rcases List.mem_append.1 mem with mem | mem
    · change r ∈ (w.startSender id).2 at mem
      unfold startSender at mem
      dsimp only at mem
      split at mem
      · exact ⟨id, _, List.mem_singleton.1 mem⟩
      · cases mem
    · exact ih (fun order mem => starts order (List.mem_cons_of_mem _ mem)) r mem

theorem requests_dispatch_associated (w : World) (event : Associated) (now : Time) :
    ∀ r ∈ (w.dispatch (.associated event) now).2,
      ∃ id g, r = .afterDelay .zero (.sendTimer id g) := by
  unfold dispatch
  split
  · intro r mem
    cases mem
  · refine obeyAll_startSender fun order mem => ?_
    unfold Experiment.handle Experiment.onAssociated at mem
    dsimp only at mem
    split at mem
    · cases mem
    · split at mem
      · cases mem
      · split at mem
        · cases mem
        · exact ⟨_, List.mem_singleton.1 mem⟩

theorem requests_announceTransfer (w : World) (duration now : Time) (ds : List Device) :
    ∀ r ∈ (w.announceTransfer duration now ds).2,
      ∃ delay a b, r = .afterDelay delay (.trainingRequested a b) := by
  induction ds generalizing w with
  | nil => simp [announceTransfer]
  | cons d ds ih =>
    intro r mem
    rcases List.mem_append.1 mem with mem | mem
    · obtain ⟨-, -, asked⟩ := w.dispatch_quiet
        (.transferStarted ⟨d.node, d.address, d.bssid, d.isAssociated, duration⟩) trivial now
      rcases asked r mem with ⟨_, a, b, -, rfl⟩
      exact ⟨_, a, b, rfl⟩
    · exact ih _ r mem

theorem requests_reportTraining (w : World) (reporter peer : Device) (period : AccessPeriod)
    (side : TrainingSide) (now : Time) :
    (w.reportTraining reporter peer period side now).2 = [] := by
  unfold reportTraining
  split
  next => rfl
  next context _ =>
    obtain ⟨-, -, asked⟩ := w.dispatch_quiet (.trainingCompleted ⟨context, peer.address,
      period, side, true, true, Network.bestSector reporter peer, reporter.antenna⟩) trivial now
    apply List.eq_nil_iff_forall_not_mem.2
    intro r mem
    rcases asked r mem with ⟨_, _, _, other, -⟩
    cases other

theorem requests_endTraining (w : World) (initiator responder : NodeId) (period : AccessPeriod)
    (now : Time) : (w.endTraining initiator responder period now).2 = [] := by
  unfold endTraining
  split
  · split
    · dsimp only
      rw [requests_reportTraining, requests_reportTraining]
      rfl
    · rfl
  · rfl

theorem requests_receiveFrame (w : World) (tx rx : NodeId) (kind : FrameKind) (bytes : Nat)
    (sink : Option SinkId) (now : Time) :
    (w.receiveFrame tx rx kind bytes sink now).2 = [] := by
  unfold receiveFrame
  split
  · split
    · apply List.eq_nil_iff_forall_not_mem.2
      intro r mem
      rcases dispatch_quiet _ (.frameReceived _) trivial now with ⟨-, -, asked⟩
      rcases asked r mem with ⟨_, _, _, other, -⟩
      cases other
    · rfl
  · rfl

open NetworkEvent (Causes)

theorem causes_of_mem_beginInterval {w : World} {index : Nat} {now : Time} {r : NetworkRequest}
    (mem : r ∈ (w.beginInterval index now).2) :
    ∃ e, r.event? = some e ∧ Causes (.beaconInterval index) e := by
  unfold beginInterval at mem
  split at mem
  next => cases mem
  next ap _ =>
    simp only [beaconRequests, slotRequests, associationRequests, List.mem_append, List.mem_map,
      List.mem_flatMap, List.mem_cons, List.not_mem_nil, or_false] at mem
    rcases mem with (((beacon | slot) | rfl) | association) | rfl
    · rcases beacon with ⟨d, -, rfl⟩
      exact ⟨_, rfl, .controlFrame ..⟩
    · obtain ⟨⟨d, k⟩, -, rfl | rfl | rfl⟩ := slot
      · exact ⟨_, rfl, .controlFrame ..⟩
      · exact ⟨_, rfl, .controlFrame ..⟩
      · exact ⟨_, rfl, .slot ..⟩
    · exact ⟨_, rfl, .transfer ..⟩
    · rcases association with ⟨⟨d, k⟩, -, rfl⟩
      exact ⟨_, rfl, .association ..⟩
    · exact ⟨_, rfl, .interval ..⟩

theorem causes_of_mem_beginTraining {w : World} {initiator responder : NodeId} {now : Time}
    {r : NetworkRequest} (mem : r ∈ (w.beginTraining initiator responder now).2) :
    ∃ e, r.event? = some e ∧ Causes (.trainingRequested initiator responder) e := by
  unfold beginTraining at mem
  split at mem
  next =>
    split at mem
    · simp only [trainingRequests, List.mem_cons, List.not_mem_nil, or_false] at mem
      rcases mem with rfl | rfl | rfl | rfl | rfl
      · exact ⟨_, rfl, .trainingFrame ..⟩
      · exact ⟨_, rfl, .trainingFrame ..⟩
      · exact ⟨_, rfl, .trainingFrame ..⟩
      · exact ⟨_, rfl, .trainingFrame ..⟩
      · exact ⟨_, rfl, .training ..⟩
    · cases mem
  next => cases mem

theorem causes_of_mem_sendPacket {w : World} {sender : SenderId} {generation : Nat} {now : Time}
    {r : NetworkRequest} (mem : r ∈ (w.sendPacket sender generation now).2) :
    ∃ e, r.event? = some e ∧ Causes (.sendTimer sender generation) e := by
  unfold sendPacket at mem
  split at mem
  · cases mem
  · split at mem
    · cases mem
    · split at mem
      · cases mem
      · dsimp only at mem
        rcases List.mem_append.1 mem with frame | timer
        · split at frame
          · cases List.mem_singleton.1 frame
            exact ⟨_, rfl, .packet ..⟩
          · cases frame
        · cases List.mem_singleton.1 timer
          exact ⟨_, rfl, .timer ..⟩

/-- What an event asks for is an event of a kind that it may cause. -/
theorem causes_of_mem_act {w : World} {now : Time} {event : NetworkEvent} {r : NetworkRequest}
    (mem : r ∈ (w.act now event).2) : ∃ e, r.event? = some e ∧ event.Causes e := by
  cases event with
  | beaconInterval index => exact causes_of_mem_beginInterval mem
  | transferInterval duration =>
    simp only [act, beginTransfer] at mem
    split at mem
    · cases mem
    · rcases w.requests_announceTransfer _ _ _ r mem with ⟨_, a, b, rfl⟩
      exact ⟨_, rfl, .retraining ..⟩
  | associationComplete station =>
    simp only [act, completeAssociation] at mem
    split at mem
    · split at mem
      · cases mem
      · rcases requests_dispatch_associated _ _ _ r mem with ⟨id, g, rfl⟩
        exact ⟨_, rfl, .start ..⟩
    · cases mem
  | trainingRequested initiator responder => exact causes_of_mem_beginTraining mem
  | trainingDone initiator responder period =>
    simp only [act, requests_endTraining] at mem
    cases mem
  | frameArrives tx rx kind bytes sink =>
    simp only [act, requests_receiveFrame] at mem
    cases mem
  | sendTimer sender generation => exact causes_of_mem_sendPacket mem
  | sampleDue period =>
    simp only [act, takeSample] at mem
    split at mem
    · cases mem
    · cases List.mem_singleton.1 mem
      exact ⟨_, rfl, .sample period⟩

theorem schedules_of_mem_act {w : World} {now : Time} {event : NetworkEvent} :
    ∀ r ∈ (w.act now event).2, r.Schedules := fun _ mem => by
  obtain ⟨e, asks, -⟩ := causes_of_mem_act mem
  exact Request.schedules_of_event? asks

end World

end DenseDmg
