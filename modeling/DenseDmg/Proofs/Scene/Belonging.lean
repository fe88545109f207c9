import DenseDmg.Proofs.Association.Slots
import DenseDmg.Proofs.Scene.Reports

/-!
# Events that belong to a scene

An event names nodes, senders and sinks by their positions.  In the scene of a scenario it belongs
to the scene if all of them are there: then whatever it looks up in executing is found.

* `InScene.belongs_of_mem_act`: events that belong to the scene ask for events that do.
* `InScene.connected`: devices, senders and pairs of a scene name what is there.
-/

namespace DenseDmg

/-- Whether everything that an event names is in the scene of a scenario.  Associations are those of
stations, and samples have the period of the scenario. -/
def NetworkEvent.Belongs (s : Scenario) : NetworkEvent → Prop
  | .beaconInterval _ | .transferInterval _ => True
  | .associationComplete station => 1 ≤ station ∧ station ≤ s.numStas
  | .trainingRequested initiator responder => initiator ≤ s.numStas ∧ responder ≤ s.numStas
  | .trainingDone initiator responder _ => initiator ≤ s.numStas ∧ responder ≤ s.numStas
  | .frameArrives tx rx _ _ sink => (tx ≤ s.numStas ∧ rx ≤ s.numStas) ∧ ∀ id ∈ sink, id < s.numStas
  | .sendTimer sender _ => sender < s.numStas
  | .sampleDue period => period = s.samplePeriod

/-- A request for an event that belongs to the scene of a scenario. -/
def Request.Belongs (s : Scenario) (r : NetworkRequest) : Prop :=
  ∃ e, r.event? = some e ∧ e.Belongs s

/-- A frame that no sink counts belongs to the scene if its two nodes do. -/
theorem NetworkEvent.belongs_of_nodes {s : Scenario} {tx rx : NodeId} {kind : FrameKind}
    {bytes : Nat} (sends : tx ≤ s.numStas) (receives : rx ≤ s.numStas) :
    (NetworkEvent.frameArrives tx rx kind bytes none).Belongs s :=
  ⟨⟨sends, receives⟩, nofun⟩

namespace World.InScene

variable {s : Scenario} {outputs : Outputs} {w : World} {r : NetworkRequest} {now : Time}

/-! ## Orders -/

/-- A network that was set up in the same way makes the same scene. -/
theorem withNetwork (scene : w.InScene s outputs) {n : Network}
    (same : n.setup = w.network.setup) : ({ w with network := n } : World).InScene s outputs := by
  have setup : ({ w with network := n } : World).setup = w.setup := setup_congr same rfl rfl
  exact setup.trans scene

theorem obey (scene : w.InScene s outputs) (order : Order) : (w.obey order).1.InScene s outputs :=
  (w.setup_obey order).trans scene

/-- A node that an address is found for is in the scene. -/
theorem le_of_nodeOf? (scene : w.InScene s outputs) {address : MacAddress} {i : NodeId}
    (found : w.network.nodeOf? address = some i) : i ≤ s.numStas := by
  obtain ⟨inside, -⟩ := Array.findIdx?_eq_some_iff_getElem.1 found
  rw [scene.size_devices] at inside
  exact Nat.le_of_lt_succ inside

/-- Training names nodes that were found, and starting a sender its timer. -/
theorem belongs_of_mem_obey (scene : w.InScene s outputs) {order : Order}
    (starts : ∀ id, order = .startSender id → id < s.numStas) (mem : r ∈ (w.obey order).2) :
    r.Belongs s := by
  cases order with
  | startSender id =>
    simp only [World.obey, startSender] at mem
    split at mem
    · cases List.mem_singleton.1 mem
      exact ⟨_, rfl, starts id rfl⟩
    · cases mem
  | stopSender id => cases mem
  | train initiator peer =>
    simp only [World.obey, requestTraining] at mem
    split at mem
    next answer =>
      split at answer
      next => cases answer
      next a ofInitiator =>
        split at answer
        next => cases answer
        next b ofPeer =>
          cases answer
          cases List.mem_singleton.1 mem
          exact ⟨_, rfl, scene.le_of_nodeOf? ofInitiator, scene.le_of_nodeOf? ofPeer⟩
    next => cases mem

theorem belongs_of_mem_obeyAll (scene : w.InScene s outputs) {orders : List Order}
    (starts : ∀ id, .startSender id ∈ orders → id < s.numStas) (mem : r ∈ (w.obeyAll orders).2) :
    r.Belongs s := by
  induction orders generalizing w with
  | nil => cases mem
  | cons order rest ih =>
    rcases List.mem_append.1 mem with first | others
    · exact scene.belongs_of_mem_obey (fun id same => starts id (same ▸ List.mem_cons_self)) first
    · exact ih (scene.obey order) (fun id mem => starts id (List.mem_cons_of_mem _ mem)) others

/-! ## Reports -/

/-- The senders that are to be started are those of pairs. -/
theorem exists_pair_of_startSender {x : Experiment} {event : LinkEvent} {traceIndex : Nat}
    {id : SenderId} (mem : .startSender id ∈ (x.handle event traceIndex now).orders) :
    ∃ p ∈ x.pairs.pairs, p.sender = id := by
  by_cases quiet : event.IsQuiet
  · obtain ⟨_, -, other⟩ := x.orders_handle quiet traceIndex now _ mem
    cases other
  · cases event with
    | associated e =>
      have kept := x.pairs_notify e.notice
      unfold Experiment.handle Experiment.onAssociated PairRegistry.get at mem
      dsimp only at mem
      rw [kept] at mem
      split at mem
      · cases mem
      · cases found : x.pairs.get? e.node with
        | none => rw [found] at mem; cases mem
        | some p =>
          rw [found] at mem
          dsimp only at mem
          split at mem
          · cases mem
          · cases List.mem_singleton.1 mem
            exact ⟨p, (PairRegistry.of_get? found).1, rfl⟩
    | deassociated e =>
      unfold Experiment.handle Experiment.onDeassociated at mem
      dsimp only at mem
      split at mem
      · cases mem
      · split at mem
        · cases mem
        · dsimp only at mem
          split at mem
          · cases List.mem_singleton.1 mem
          · cases mem
    | trainingCompleted e => exact absurd trivial quiet
    | transferStarted e => exact absurd trivial quiet
    | frameReceived e => exact absurd trivial quiet

theorem belongs_of_mem_dispatch (scene : w.InScene s outputs) {event : LinkEvent}
    (mem : r ∈ (w.dispatch event now).2) : r.Belongs s := by
  unfold dispatch at mem
  split at mem
  · cases mem
  · have starts : ∀ id, .startSender id ∈
        (w.experiment.handle event (w.network.traceIndex now) now).orders → id < s.numStas := by
      intro id started
      obtain ⟨p, memp, rfl⟩ := exists_pair_of_startSender started
      obtain ⟨k, inside, -, -, sender, -⟩ := scene.of_mem_pairs memp
      exact sender ▸ inside
    have kept := w.experiment.setup_handle event (w.network.traceIndex now) now
    generalize w.experiment.handle event (w.network.traceIndex now) now = h at starts kept mem
    have handled : ({ w with experiment := h.experiment } : World).setup = w.setup :=
      setup_congr rfl kept rfl
    have scene' : (({ w with experiment := h.experiment } : World).check h.answer).InScene s
        outputs := (setup_check ..).trans (handled.trans scene)
    exact scene'.belongs_of_mem_obeyAll starts mem

/-! ## Events -/

theorem belongs_of_mem_beginInterval (scene : w.InScene s outputs) {index : Nat}
    (mem : r ∈ (w.beginInterval index now).2) : r.Belongs s := by
  obtain ⟨ap, reachable, trained, node, -, -, reached, few, requests⟩ :=
    scene.exists_reachable index now
  rw [requests] at mem
  simp only [List.mem_append, List.mem_singleton] at mem
  rcases mem with (((beacon | slot) | rfl) | association) | rfl
  · obtain ⟨d, memd, rfl⟩ := List.mem_map.1 beacon
    exact ⟨_, rfl, NetworkEvent.belongs_of_nodes (node ▸ Nat.zero_le _) (reached d memd).2⟩
  · obtain ⟨⟨d, k⟩, memd, slot⟩ := List.mem_flatMap.1 slot
    have inside := (few d (List.fst_mem_of_mem_zipIdx memd)).2
    simp only [slotRequests, List.mem_cons, List.not_mem_nil, or_false] at slot
    rcases slot with rfl | rfl | rfl
    · exact ⟨_, rfl, NetworkEvent.belongs_of_nodes inside (Nat.zero_le _)⟩
    · exact ⟨_, rfl, NetworkEvent.belongs_of_nodes (Nat.zero_le _) inside⟩
    · exact ⟨_, rfl, Nat.zero_le _, inside⟩
  · exact ⟨_, rfl, trivial⟩
  · obtain ⟨⟨d, k⟩, memd, rfl⟩ := List.mem_map.1 association
    exact ⟨_, rfl, few d (List.fst_mem_of_mem_zipIdx memd)⟩
  · exact ⟨_, rfl, trivial⟩

theorem belongs_of_mem_announceTransfer (scene : w.InScene s outputs) {duration : Time}
    {ds : List Device} (mem : r ∈ (w.announceTransfer duration now ds).2) : r.Belongs s := by
  induction ds generalizing w with
  | nil => cases mem
  | cons d ds ih =>
    rcases List.mem_append.1 mem with first | others
    · exact scene.belongs_of_mem_dispatch first
    · exact ih ((w.setup_dispatch ..).trans scene) others

theorem belongs_of_mem_completeAssociation (scene : w.InScene s outputs) {station : NodeId}
    (mem : r ∈ (w.completeAssociation station now).2) : r.Belongs s := by
  unfold completeAssociation at mem
  split at mem
  · split at mem
    · cases mem
    · exact (scene.withNetwork (Network.setup_associate ..)).belongs_of_mem_dispatch mem
  · cases mem

theorem node_le (scene : w.InScene s outputs) {i : NodeId} {d : Device}
    (at_i : w.network.devices[i]? = some d) : d.node ≤ s.numStas := by
  have inside := (Array.getElem?_eq_some_iff.1 at_i).1
  rw [scene.size_devices] at inside
  rw [scene.node_eq at_i]
  exact Nat.le_of_lt_succ inside

theorem belongs_of_mem_beginTraining (scene : w.InScene s outputs) {initiator responder : NodeId}
    (mem : r ∈ (w.beginTraining initiator responder now).2) : r.Belongs s := by
  unfold beginTraining at mem
  split at mem
  next a b at_initiator at_responder =>
    have first := scene.node_le at_initiator
    have second := scene.node_le at_responder
    split at mem
    · simp only [trainingRequests, List.mem_cons, List.not_mem_nil, or_false] at mem
      rcases mem with rfl | rfl | rfl | rfl | rfl
      · exact ⟨_, rfl, NetworkEvent.belongs_of_nodes first second⟩
      · exact ⟨_, rfl, NetworkEvent.belongs_of_nodes second first⟩
      · exact ⟨_, rfl, NetworkEvent.belongs_of_nodes first second⟩
      · exact ⟨_, rfl, NetworkEvent.belongs_of_nodes second first⟩
      · exact ⟨_, rfl, first, second⟩
    · cases mem
  next => cases mem

/-- A sender sends to the access point and is counted by the sink at its own position. -/
theorem of_sender (scene : w.InScene s outputs) {k : SenderId} {sd : Sender}
    (at_k : w.network.apps.senders[k]? = some sd) :
    k < s.numStas ∧ sd.node = k + 1 ∧ sd.peer = 0 ∧ sd.sink = k ∧ sd.config = s.sender := by
  have inside := scene.of_getElem?_senders at_k
  obtain ⟨sd', at_k', setup⟩ := scene.exists_sender inside
  cases Option.some.inj (at_k.symm.trans at_k')
  exact ⟨inside, congrArg Sender.node setup, congrArg Sender.peer setup,
    congrArg Sender.sink setup, congrArg Sender.config setup⟩

theorem belongs_of_mem_sendPacket (scene : w.InScene s outputs) {sender : SenderId}
    {generation : Nat} (mem : r ∈ (w.sendPacket sender generation now).2) : r.Belongs s := by
  unfold sendPacket at mem
  split at mem
  next => cases mem
  next sd at_sender =>
    obtain ⟨inside, node, peer, sink, -⟩ := scene.of_sender at_sender
    split at mem
    · cases mem
    · split at mem
      · cases mem
      · dsimp only at mem
        rcases List.mem_append.1 mem with frame | timer
        · split at frame
          · cases List.mem_singleton.1 frame
            refine ⟨_, rfl, ⟨node ▸ inside, peer ▸ Nat.zero_le _⟩, ?_⟩
            rintro _ ⟨⟩
            exact sink ▸ inside
          · cases frame
        · cases List.mem_singleton.1 timer
          exact ⟨_, rfl, inside⟩

/-- Events that belong to the scene ask for events that do. -/
theorem belongs_of_mem_act (scene : w.InScene s outputs) {event : NetworkEvent}
    (belongs : event.Belongs s) (mem : r ∈ (w.act now event).2) : r.Belongs s := by
  cases event with
  | beaconInterval index => exact scene.belongs_of_mem_beginInterval mem
  | transferInterval duration =>
    simp only [act, beginTransfer, scene.accessPoint] at mem
    exact scene.belongs_of_mem_announceTransfer mem
  | associationComplete station => exact scene.belongs_of_mem_completeAssociation mem
  | trainingRequested initiator responder => exact scene.belongs_of_mem_beginTraining mem
  | trainingDone initiator responder period =>
    simp only [act, requests_endTraining] at mem
    cases mem
  | frameArrives tx rx kind bytes sink =>
    simp only [act, requests_receiveFrame] at mem
    cases mem
  | sendTimer sender generation => exact scene.belongs_of_mem_sendPacket mem
  | sampleDue period =>
    simp only [act, takeSample] at mem
    split at mem
    · cases mem
    · cases List.mem_singleton.1 mem
      exact ⟨_, rfl, belongs⟩

end World.InScene

/-! ## Positions -/

/-- Whether every position that an event looks up is taken. -/
def NetworkEvent.Inside (w : World) : NetworkEvent → Prop
  | .beaconInterval _ | .transferInterval _ | .sampleDue _ => True
  | .associationComplete station => station < w.network.devices.size
  | .trainingRequested initiator responder =>
    initiator < w.network.devices.size ∧ responder < w.network.devices.size
  | .trainingDone initiator responder _ =>
    initiator < w.network.devices.size ∧ responder < w.network.devices.size
  | .frameArrives tx rx _ _ sink =>
    (tx < w.network.devices.size ∧ rx < w.network.devices.size) ∧
      ∀ id ∈ sink, id < w.network.apps.sinks.size
  | .sendTimer sender _ => sender < w.network.apps.senders.size

/-- Every position that a part of the world names is taken: the access point, the node of a device,
the ends and the sink of a sender, the sender and the sink of a pair. -/
structure World.Connected (w : World) : Prop where
  accessPoint : ∃ ap, w.network.accessPoint = some ap ∧ ap < w.network.devices.size
  devices : ∀ d ∈ w.network.devices, d.node < w.network.devices.size
  senders : ∀ sd ∈ w.network.apps.senders, sd.node < w.network.devices.size ∧
    sd.peer < w.network.devices.size ∧ sd.sink < w.network.apps.sinks.size
  pairs : ∀ p ∈ w.experiment.pairs.pairs, p.node < w.network.devices.size ∧
    p.sender < w.network.apps.senders.size ∧ p.sink < w.network.apps.sinks.size

namespace World.InScene

variable {s : Scenario} {outputs : Outputs} {w : World}

theorem size_senders (scene : w.InScene s outputs) : w.network.apps.senders.size = s.numStas := by
  have size := congrArg Array.size scene.map_senders
  rw [Array.size_map] at size
  simpa [Scenario.flows] using size

theorem size_sinks (scene : w.InScene s outputs) : w.network.apps.sinks.size = s.numStas := by
  have sinks : w.network.apps.sinks.map Sink.setup = s.flows.sinks :=
    congrArg (·.network.apps.sinks) scene
  have size := congrArg Array.size sinks
  rw [Array.size_map] at size
  simpa [Scenario.flows] using size

/-- Everything in a scene names what is there. -/
theorem connected (scene : w.InScene s outputs) : w.Connected where
  accessPoint := ⟨0, scene.accessPoint, by rw [scene.size_devices]; exact Nat.succ_pos _⟩
  devices := by
    intro d mem
    obtain ⟨i, at_i⟩ := Array.mem_iff_getElem?.1 mem
    rw [scene.size_devices]
    exact Nat.lt_succ_of_le (scene.node_le at_i)
  senders := by
    intro sd mem
    obtain ⟨k, at_k⟩ := Array.mem_iff_getElem?.1 mem
    obtain ⟨inside, node, peer, sink, -⟩ := scene.of_sender at_k
    rw [scene.size_devices, scene.size_sinks, node, peer, sink]
    exact ⟨Nat.succ_lt_succ inside, Nat.succ_pos _, inside⟩
  pairs := by
    intro p mem
    obtain ⟨k, inside, -, node, sender, sink⟩ := scene.of_mem_pairs mem
    rw [scene.size_devices, scene.size_senders, scene.size_sinks, node, sender, sink]
    exact ⟨Nat.succ_lt_succ inside, inside, inside⟩

/-- An event that belongs to the scene looks up nothing that is not there. -/
theorem inside_of_belongs (scene : w.InScene s outputs) {event : NetworkEvent}
    (belongs : event.Belongs s) : event.Inside w := by
  have node : ∀ {i}, i ≤ s.numStas → i < w.network.devices.size := fun le => by
    rw [scene.size_devices]
    exact Nat.lt_succ_of_le le
  cases event with
  | beaconInterval | transferInterval | sampleDue => trivial
  | associationComplete station => exact node belongs.2
  | trainingRequested initiator responder => exact ⟨node belongs.1, node belongs.2⟩
  | trainingDone initiator responder period => exact ⟨node belongs.1, node belongs.2⟩
  | frameArrives tx rx kind bytes sink =>
    refine ⟨⟨node belongs.1.1, node belongs.1.2⟩, fun id mem => ?_⟩
    rw [scene.size_sinks]
    exact belongs.2 id mem
  | sendTimer sender generation =>
    show sender < w.network.apps.senders.size
    rw [scene.size_senders]
    exact belongs

end World.InScene

end DenseDmg
