import DenseDmg.Proofs.Association.Agreement
import DenseDmg.Proofs.Association.Training
import DenseDmg.Proofs.Engine.Timeline
import DenseDmg.Proofs.Scene.Belonging
import DenseDmg.Proofs.World.Counters

/-!
# Where the packets of a flow are

A packet is counted by its sender, is on its way for as long as it takes the air, and is counted by
its sink when it arrives.  It is dropped if its station is cut off at either end of the way.
`Packets` puts the three places together, `Packets.Next` says what one event does to them, and no
event does anything else.

* `InScene.requests_sendPacket`: the one place where packets are sent.
* `packets_next`: every event of a run takes the packets of every flow to the next ones.
* `Built.packets_conserved`: no packet is received that was not sent, and none gets lost but those
  that were dropped.
-/

namespace DenseDmg

/-! ## Packets among the events -/

/-- The sink that counts a frame when it arrives. -/
def NetworkEvent.sink? : NetworkEvent → Option SinkId
  | .frameArrives _ _ _ _ sink => sink
  | _ => none

/-- The arrival of data for a sink. -/
def NetworkEvent.delivers (sink : SinkId) : NetworkEvent → Bool
  | .frameArrives _ _ kind _ counted => kind.isData && counted == some sink
  | _ => false

/-- The arrival of a packet from the station counted `k` from zero. -/
def Scenario.packet (s : Scenario) (k : Nat) : NetworkEvent :=
  .frameArrives (k + 1) 0 .data s.sender.packetBytes (some k)

/-- How long a packet is on its way. -/
def Scenario.packetAirtime (s : Scenario) : Time := .ofNanos (s.phy.airtime s.sender.packetBytes)

/-- An event that a sink counts is the arrival of a packet. -/
def NetworkEvent.Carries (s : Scenario) (event : NetworkEvent) : Prop :=
  ∀ sink, event.sink? = some sink → sink < s.numStas ∧ event = s.packet sink

/-- How many requests ask for data to arrive at a sink. -/
def askedPackets (sink : SinkId) (rs : List NetworkRequest) : Nat :=
  (rs.filterMap Request.event?).countP (NetworkEvent.delivers sink)

variable {s : Scenario} {outputs : Outputs} {w : World} {k : Nat} {f : Flow} {now : Time}
  {event : NetworkEvent}

theorem NetworkEvent.delivers_packet (sink : SinkId) :
    (s.packet k).delivers sink = decide (k = sink) := by
  show (true && (some k == some sink)) = decide (k = sink)
  rw [Bool.true_and, Option.some_beq_some]
  rfl

theorem NetworkEvent.Carries.eq_packet (carries : event.Carries s)
    (delivers : event.delivers k = true) : event = s.packet k := by
  cases event with
  | frameArrives tx rx kind bytes sink =>
    simp only [NetworkEvent.delivers, Bool.and_eq_true, beq_iff_eq] at delivers
    exact (carries k delivers.2).2
  | _ => cases delivers

theorem NetworkEvent.carries_of_sink? (none : event.sink? = none) : event.Carries s := by
  intro sink some
  rw [none] at some
  cases some

theorem NetworkEvent.not_delivers_of_sink? (none : event.sink? = none) (sink : SinkId) :
    event.delivers sink = false := by
  cases event with
  | frameArrives tx rx kind bytes counted =>
    cases (show counted = _ from none)
    simp [delivers]
  | _ => rfl

/-- Nothing but a send timer causes the arrival of a packet. -/
theorem NetworkEvent.Causes.sink? {e : NetworkEvent} (caused : event.Causes e)
    (untimed : ∀ sender generation, event ≠ .sendTimer sender generation) : e.sink? = none := by
  cases caused with
  | packet sender generation => exact absurd rfl (untimed sender generation)
  | _ => rfl

/-! ## Sending -/

namespace World

theorem InScene.phy (scene : w.InScene s outputs) : w.network.phy = s.phy :=
  congrArg (·.network.phy) scene

/-- A send timer sends one packet if it is in force and the link is up, and sets itself again. -/
theorem InScene.requests_sendPacket (scene : w.InScene s outputs) (flow : w.HasFlow k f)
    (generation : Nat) :
    (w.sendPacket k generation now).2 =
      if f.Sends now generation then
        (if w.network.linkUp (k + 1) 0 now then [.afterDelay s.packetAirtime (s.packet k)]
          else []) ++
          [.afterDelay (.ofNanos (f.sender.interval (s.phy.airtime s.sender.packetBytes)))
            (.sendTimer k generation)]
      else [] := by
  obtain ⟨-, node, peer, sink, config⟩ := scene.of_sender flow.sender
  unfold sendPacket
  rw [flow.sender]
  cases current : f.sender.isCurrent generation with
  | false => simp [Flow.Sends, current]
  | true =>
    cases finished : f.sender.isFinished now with
    | true => simp [Flow.Sends, current, finished]
    | false =>
      rw [if_pos ⟨current, finished⟩]
      simp only [current, finished, node, peer, sink, config, scene.phy]
      rfl

/-- What sending asks for arrives at the sink of its own flow only. -/
theorem InScene.askedPackets_sendPacket (scene : w.InScene s outputs) (flow : w.HasFlow k f)
    (generation : Nat) (sink : SinkId) :
    askedPackets sink (w.sendPacket k generation now).2 =
      if sink = k ∧ f.Sends now generation ∧ w.network.linkUp (k + 1) 0 now = true then 1
      else 0 := by
  rw [scene.requests_sendPacket flow, askedPackets]
  by_cases sends : f.Sends now generation
  · rw [if_pos sends]
    by_cases up : w.network.linkUp (k + 1) 0 now = true
    · simp [sends, up, Request.event?, NetworkEvent.delivers_packet, List.countP_cons,
        show (NetworkEvent.sendTimer k generation).delivers sink = false from rfl, eq_comm]
    · simp [sends, up, Request.event?, NetworkEvent.delivers]
  · simp [sends]

theorem sendPacket_of_none {sender : SenderId} (none : w.network.apps.senders[sender]? = none)
    (generation : Nat) : w.sendPacket sender generation now = (w, []) := by
  simp only [sendPacket, none]

/-- The flow of a sender that there is. -/
theorem InScene.exists_flow_of_sender (scene : w.InScene s outputs) {sender : SenderId}
    {sd : Sender} (at_sender : w.network.apps.senders[sender]? = some sd) :
    ∃ f, w.HasFlow sender f ∧ f.sender = sd := by
  obtain ⟨f, flow⟩ := scene.exists_flow (scene.of_getElem?_senders at_sender)
  exact ⟨f, flow, Option.some.inj (flow.sender.symm.trans at_sender)⟩

/-- An event asks for something that a sink counts only if it is a send timer in force, and then for
the arrival of a packet. -/
theorem InScene.of_sink?_of_mem_act (scene : w.InScene s outputs) {r : NetworkRequest}
    (mem : r ∈ (w.act now event).2) {e : NetworkEvent} (asks : r.event? = some e) {sink : SinkId}
    (counted : e.sink? = some sink) :
    ∃ f generation, w.HasFlow sink f ∧ event = .sendTimer sink generation ∧
      f.Sends now generation ∧ r = .afterDelay s.packetAirtime (s.packet sink) := by
  obtain ⟨e', asks', caused⟩ := causes_of_mem_act mem
  obtain rfl := Option.some.inj (asks'.symm.trans asks)
  by_cases timer : ∃ sender generation, event = .sendTimer sender generation
  · obtain ⟨sender, generation, rfl⟩ := timer
    cases at_sender : w.network.apps.senders[sender]? with
    | none =>
      rw [show w.act now (.sendTimer sender generation) = (w, []) from
        sendPacket_of_none at_sender generation] at mem
      cases mem
    | some sd =>
      obtain ⟨f, flow, -⟩ := scene.exists_flow_of_sender at_sender
      rw [act, scene.requests_sendPacket flow] at mem
      split at mem
      next sends =>
        rcases List.mem_append.1 mem with packet | timer
        · split at packet
          · obtain rfl := List.mem_singleton.1 packet
            cases asks
            cases counted
            exact ⟨f, generation, flow, rfl, sends, rfl⟩
          · cases packet
        · obtain rfl := List.mem_singleton.1 timer
          cases asks
          cases counted
      next => cases mem
  · rw [caused.sink? fun sender generation same => timer ⟨sender, generation, same⟩] at counted
    cases counted

/-- Whatever a sink counts that an event asks for is a packet. -/
theorem InScene.carries_of_mem_act (scene : w.InScene s outputs) {r : NetworkRequest}
    (mem : r ∈ (w.act now event).2) {e : NetworkEvent} (asks : r.event? = some e) :
    e.Carries s := by
  intro sink counted
  obtain ⟨f, -, flow, -, -, rfl⟩ := scene.of_sink?_of_mem_act mem asks counted
  exact ⟨(scene.of_sender flow.sender).1, (Option.some.inj asks).symm⟩

end World

/-- What the sender of a flow has sent after an event: one packet more if the event is a timer of
the sender that is in force. -/
theorem Flow.sent_next (f : Flow) (n : Network) (now : Time) (k : Nat) (event : NetworkEvent) :
    (f.next n now k event).sender.sent =
      match event with
      | .sendTimer sender generation =>
        if sender = k ∧ f.Sends now generation then f.sender.sent.add f.sender.config.packetBytes
        else f.sender.sent
      | _ => f.sender.sent := by
  have change : f.SenderChange n now k event _ := f.senderChange_next event
  generalize (f.next n now k event).sender = sd at change ⊢
  cases change with
  | none stale =>
    cases event with
    | sendTimer sender generation =>
      refine (if_neg ?_).symm
      rintro ⟨rfl, current, -⟩
      rw [stale generation rfl] at current
      cases current
    | _ => rfl
  | start => exact f.sender.sent_start
  | stop => rfl
  | send sends => exact (if_pos ⟨rfl, sends⟩).symm
  | finish current finished =>
    refine (if_neg ?_).symm
    rintro ⟨-, -, unfinished⟩
    rw [finished] at unfinished
    cases unfinished

/-! ## Receiving -/

/-- What the sinks count after one of them has counted a packet. -/
theorem Applications.received_recordReceived_eq (a : Applications) (id sink : SinkId) (bytes : Nat)
    (inside : id < a.sinks.size) :
    (a.recordReceived id bytes).received sink =
      if sink = id then (a.received sink).add bytes else a.received sink := by
  unfold received recordReceived updateSink
  dsimp only
  rw [Array.getElem?_modify]
  by_cases same : id = sink
  · subst same
    rw [if_pos rfl, if_pos rfl, Array.getElem?_eq_getElem inside]
    rfl
  · rw [if_neg same, if_neg (Ne.symm same)]

namespace World

theorem network_takeSample (w : World) (period now : Time) :
    (w.takeSample period now).1.network = w.network := by
  unfold takeSample sampleThroughput
  dsimp only
  split
  · rfl
  · exact (sameParts_check _ _).network

/-- An event that no sink counts leaves what they have counted. -/
theorem received_act (w : World) (now : Time) (none : event.sink? = none) :
    (w.act now event).1.network.apps.received = w.network.apps.received := by
  cases event with
  | beaconInterval index => exact received_congr (w.readings_beginInterval index now)
  | transferInterval duration => exact received_congr (w.readings_beginTransfer duration now)
  | associationComplete station => exact received_congr (w.readings_completeAssociation station now)
  | trainingRequested initiator responder =>
    exact received_congr (congrArg readings (w.fst_beginTraining initiator responder now))
  | trainingDone initiator responder period =>
    exact received_congr (w.readings_endTraining initiator responder period now)
  | frameArrives tx rx kind bytes sink =>
    cases (show sink = Option.none from none)
    unfold act receiveFrame
    dsimp only
    split
    · split
      · exact received_congr (readings_dispatch ..)
      · rfl
    · rfl
  | sendTimer sender generation =>
    exact received_congr (w.readings_sendPacket sender generation now)
  | sampleDue period => rw [act, network_takeSample]

/-- A packet that arrives is counted by its own sink if the link is up, and otherwise by none. -/
theorem InScene.received_packet (scene : w.InScene s outputs) (inside : k < s.numStas)
    (sink : SinkId) :
    (w.act now (s.packet k)).1.network.apps.received sink =
      if sink = k ∧ w.network.linkUp (k + 1) 0 now = true then
        (w.network.apps.received sink).add s.sender.packetBytes
      else w.network.apps.received sink := by
  obtain ⟨station, at_station, -⟩ := scene.exists_device inside
  obtain ⟨ap, at_zero, -⟩ := scene.exists_accessPoint
  have size : k < w.network.apps.sinks.size := scene.size_sinks ▸ inside
  unfold Scenario.packet act receiveFrame
  dsimp only
  rw [at_station, at_zero]
  dsimp only
  split
  next up =>
    simp only [up, and_true]
    rw [received_congr (readings_dispatch ..)]
    exact w.network.apps.received_recordReceived_eq k sink _ size
  next down => rw [if_neg fun both => down both.2]

end World

/-! ## One event -/

/-- The packets of a flow: those that its sender has counted, those that its sink has counted, and
how many are on their way. -/
structure Packets where
  sent : Counters
  received : Counters
  onTheWay : Nat

namespace Packets

/-- The packets of the flow at position `k`. -/
def ofFlow (k : Nat) (sim : Simulator NetworkEvent) (w : World) : Packets where
  sent := w.network.apps.sent k
  received := w.network.apps.received k
  onTheWay := sim.pending.countP fun e => e.event.delivers k

/-- What one event does to the packets of a flow.  A packet is on its way from when it is sent until
it arrives; it is dropped if the link is down at the one instant or at the other. -/
inductive Next (bytes : Nat) : (sends arrives up : Bool) → Packets → Packets → Prop
  | other {up : Bool} {sent received : Counters} {n : Nat} :
    Next bytes false false up ⟨sent, received, n⟩ ⟨sent, received, n⟩
  | sent {sent received : Counters} {n : Nat} :
    Next bytes true false true ⟨sent, received, n⟩ ⟨sent.add bytes, received, n + 1⟩
  | droppedAtOnce {sent received : Counters} {n : Nat} :
    Next bytes true false false ⟨sent, received, n⟩ ⟨sent.add bytes, received, n⟩
  | received {sent received : Counters} {n : Nat} :
    Next bytes false true true ⟨sent, received, n + 1⟩ ⟨sent, received.add bytes, n⟩
  | droppedAtEnd {sent received : Counters} {n : Nat} :
    Next bytes false true false ⟨sent, received, n + 1⟩ ⟨sent, received, n⟩

/-- Every packet that was sent has been received, is on its way or was dropped, and all packets are
of one size. -/
structure Conserved (bytes dropped : Nat) (p : Packets) : Prop where
  packets : p.received.packets + p.onTheWay + dropped = p.sent.packets
  sent : p.sent.bytes = p.sent.packets * bytes
  received : p.received.bytes = p.received.packets * bytes

theorem bytes_add {c : Counters} {bytes : Nat} (all : c.bytes = c.packets * bytes) :
    (c.add bytes).bytes = (c.add bytes).packets * bytes := by
  show c.bytes + bytes = (c.packets + 1) * bytes
  rw [all, Nat.succ_mul]

/-- No event loses a packet but one that it drops. -/
theorem Conserved.next {bytes dropped : Nat} {sends arrives up : Bool} {p p' : Packets}
    (conserved : p.Conserved bytes dropped) (next : Next bytes sends arrives up p p') :
    p'.Conserved bytes (if (sends || arrives) && !up then dropped + 1 else dropped) := by
  obtain ⟨packets, sentBytes, receivedBytes⟩ := conserved
  cases next with
  | other => exact ⟨packets, sentBytes, receivedBytes⟩
  | @sent sent received n =>
    refine ⟨?_, bytes_add sentBytes, receivedBytes⟩
    change received.packets + (n + 1) + dropped = sent.packets + 1
    change received.packets + n + dropped = sent.packets at packets
    omega
  | @droppedAtOnce sent received n =>
    refine ⟨?_, bytes_add sentBytes, receivedBytes⟩
    change received.packets + n + (dropped + 1) = sent.packets + 1
    change received.packets + n + dropped = sent.packets at packets
    omega
  | @received sent received n =>
    refine ⟨?_, sentBytes, bytes_add receivedBytes⟩
    change received.packets + 1 + n + dropped = sent.packets
    change received.packets + (n + 1) + dropped = sent.packets at packets
    omega
  | @droppedAtEnd sent received n =>
    refine ⟨?_, sentBytes, receivedBytes⟩
    change received.packets + n + (dropped + 1) = sent.packets
    change received.packets + (n + 1) + dropped = sent.packets at packets
    omega

end Packets

theorem Applications.sent_eq {a : Applications} {id : SenderId} {sd : Sender}
    (at_id : a.senders[id]? = some sd) : a.sent id = sd.sent := by
  rw [sent, at_id]

theorem Applications.received_eq {a : Applications} {id : SinkId} {sink : Sink}
    (at_id : a.sinks[id]? = some sink) : a.received id = sink.received := by
  rw [received, at_id]

namespace World

theorem sent_of_hasFlow (flow : w.HasFlow k f) : w.network.apps.sent k = f.sender.sent :=
  Applications.sent_eq flow.sender

/-- What an event of the scene does to the packets of a flow, and how many it asks to arrive: a send
timer in force counts a packet, and asks for its arrival if the link is up; an arrival is counted if
the link is up. -/
theorem InScene.packets_act (scene : w.InScene s outputs) (flow : w.HasFlow k f)
    (carries : event.Carries s) (sound : (w.act now event).1.fatal = none) :
    let up := w.network.linkUp (k + 1) 0 now
    let apps := (w.act now event).1.network.apps
    let asked := askedPackets k (w.act now event).2
    (event.delivers k = false ∧ apps.sent k = w.network.apps.sent k ∧
        apps.received k = w.network.apps.received k ∧ asked = 0) ∨
      (event.delivers k = false ∧
        apps.sent k = (w.network.apps.sent k).add s.sender.packetBytes ∧
        apps.received k = w.network.apps.received k ∧ asked = if up then 1 else 0) ∨
      (event.delivers k = true ∧ apps.sent k = w.network.apps.sent k ∧
        apps.received k = (if up then (w.network.apps.received k).add s.sender.packetBytes
          else w.network.apps.received k) ∧ asked = 0) := by
  intro up apps asked
  have config := (scene.of_sender flow.sender).2.2.2.2
  have sent : apps.sent k = (f.next w.network now k event).sender.sent :=
    sent_of_hasFlow (scene.hasFlow_act flow sound)
  rw [f.sent_next, config] at sent
  rw [sent_of_hasFlow flow]
  by_cases timer : ∃ sender generation, event = .sendTimer sender generation
  · obtain ⟨sender, generation, rfl⟩ := timer
    have received : apps.received k = w.network.apps.received k :=
      congrFun (w.received_act now rfl) k
    dsimp only at sent
    cases at_sender : w.network.apps.senders[sender]? with
    | none =>
      have other : sender ≠ k := by
        rintro rfl
        rw [flow.sender] at at_sender
        cases at_sender
      rw [if_neg fun both => other both.1] at sent
      refine .inl ⟨rfl, sent, received, ?_⟩
      show askedPackets k (w.sendPacket sender generation now).2 = 0
      rw [sendPacket_of_none at_sender]
      rfl
    | some sd =>
      obtain ⟨g, flow', -⟩ := scene.exists_flow_of_sender at_sender
      have counts : asked = _ := scene.askedPackets_sendPacket flow' generation k
      by_cases sends : sender = k ∧ f.Sends now generation
      · obtain ⟨rfl, sends⟩ := sends
        obtain rfl := flow.unique flow'
        rw [if_pos ⟨rfl, sends⟩] at sent
        simp only [sends, true_and] at counts
        exact .inr (.inl ⟨rfl, sent, received, counts⟩)
      · rw [if_neg sends] at sent
        refine .inl ⟨rfl, sent, received, counts.trans (if_neg ?_)⟩
        rintro ⟨rfl, sends', -⟩
        obtain rfl := flow.unique flow'
        exact sends ⟨rfl, sends'⟩
  · have untimed : ∀ sender generation, event ≠ .sendTimer sender generation :=
      fun sender generation same => timer ⟨sender, generation, same⟩
    have sent : apps.sent k = f.sender.sent := by
      cases event with
      | sendTimer sender generation => exact absurd rfl (untimed sender generation)
      | _ => exact sent
    have asked : asked = 0 := by
      refine List.countP_eq_zero.2 fun e mem => ?_
      obtain ⟨r, memr, asks⟩ := List.mem_filterMap.1 mem
      obtain ⟨e', asks', caused⟩ := causes_of_mem_act memr
      obtain rfl := Option.some.inj (asks.symm.trans asks')
      rw [NetworkEvent.not_delivers_of_sink? (caused.sink? untimed)]
      exact nofun
    cases counted : event.sink? with
    | none =>
      have received : apps.received k = w.network.apps.received k :=
        congrFun (w.received_act now counted) k
      exact .inl ⟨NetworkEvent.not_delivers_of_sink? counted k, sent, received, asked⟩
    | some sink =>
      obtain ⟨inside, rfl⟩ := carries sink counted
      have received : apps.received k = _ := scene.received_packet inside k
      rw [NetworkEvent.delivers_packet]
      by_cases same : sink = k
      · subst same
        simp only [true_and] at received
        exact .inr (.inr ⟨decide_eq_true rfl, sent, received, asked⟩)
      · rw [if_neg fun both => same both.1.symm] at received
        exact .inl ⟨decide_eq_false same, sent, received, asked⟩

end World

/-! ## Along a run -/

/-- The link of the station counted `k` from zero is up when a moment is executed. -/
def Moment.hasLink (k : Nat) (m : Moment NetworkEvent World) : Bool :=
  m.world.network.linkUp (k + 1) 0 m.entry.due

/-- A moment sends a packet of the flow at position `k`, or one arrives. -/
def Moment.movesPacket (k : Nat) (m : Moment NetworkEvent World) : Bool :=
  m.countsPacket k || m.entry.event.delivers k

/-- A moment drops a packet of the flow at position `k`. -/
def Moment.dropsPacket (k : Nat) (m : Moment NetworkEvent World) : Bool :=
  m.movesPacket k && !m.hasLink k

namespace DenseRun

variable {spec : ScenarioSpec} {r : DenseRun} {sim : Simulator NetworkEvent}
  {ms : List (Moment NetworkEvent World)} {entry : Entry NetworkEvent}
  {rest : List (Entry NetworkEvent)}

/-- At first no sink has counted anything. -/
theorem LaidOut.received (run : LaidOut s outputs r) (inside : k < s.numStas) :
    r.world.network.apps.received k = .zero := by
  have at_sink : r.world.network.apps.sinks[k]? = some ⟨0, .zero⟩ := by
    rw [run.network]
    simp only [Scenario.network, Scenario.flows, List.getElem?_toArray, List.getElem?_map,
      List.getElem?_range' inside, Option.map_some]
  exact Applications.received_eq at_sink

/-- Whatever a sink is to count is a packet. -/
theorem Built.carries (run : Built spec s outputs r)
    (history : History World.behaviour r.simulator r.world ms sim w) :
    ∀ e ∈ sim.pending, e.event.Carries s := by
  refine history.forall_pending run.laidOut.inOrder World.schedules_of_mem_act ?_ ?_
  · rw [run.laidOut.simulator, s.pending_simulator]
    intro e mem
    simp only [List.mem_cons, List.not_mem_nil, or_false] at mem
    rcases mem with rfl | rfl
    · exact NetworkEvent.carries_of_sink? rfl
    · exact NetworkEvent.carries_of_sink? rfl
  · intro _ _ _ _ _ before _ _ r memr e asked
    exact (run.inScene before).carries_of_mem_act memr (Request.of_entry? asked).2

/-- Every event takes the packets of every flow to the next ones. -/
theorem Built.packets_next (run : Built spec s outputs r)
    (history : History World.behaviour r.simulator r.world ms sim w)
    (pending : sim.pending = entry :: rest) (inside : k < s.numStas)
    (sound : (w.act entry.due entry.event).1.fatal = none) :
    Packets.Next s.sender.packetBytes (Moment.countsPacket k ⟨sim, w, entry, rest⟩)
      (entry.event.delivers k) (Moment.hasLink k ⟨sim, w, entry, rest⟩) (.ofFlow k sim w)
      (.ofFlow k (sim.step World.behaviour entry rest w).1
        (sim.step World.behaviour entry rest w).2) := by
  have scene := run.inScene history
  obtain ⟨f, flow⟩ := scene.exists_flow inside
  have carries := run.carries history entry (by simp [pending])
  -- What is on the way before the event, and after it.
  have before : (Packets.ofFlow k sim w).onTheWay =
      rest.countP (fun e => e.event.delivers k) + if entry.event.delivers k then 1 else 0 := by
    rw [Packets.ofFlow, pending, List.countP_cons]
  have after : (sim.step World.behaviour entry rest w).1.pending.countP
      (fun e => e.event.delivers k) =
        askedPackets k (w.act entry.due entry.event).2 +
          rest.countP (fun e => e.event.delivers k) := by
    rw [(run.perm_pending history pending sound).countP_eq, List.countP_append, askedPackets,
      ← Request.map_event_entries entry.due sim.nextSeq, List.countP_map]
    rfl
  have counts : Moment.countsPacket k ⟨sim, w, entry, rest⟩ =
      decide ((w.network.apps.sent k).packets <
        ((w.act entry.due entry.event).1.network.apps.sent k).packets) := rfl
  rw [counts]
  change Packets.Next _ _ _ (w.network.linkUp (k + 1) 0 entry.due)
    ⟨w.network.apps.sent k, w.network.apps.received k, (Packets.ofFlow k sim w).onTheWay⟩
    ⟨(w.act entry.due entry.event).1.network.apps.sent k,
      (w.act entry.due entry.event).1.network.apps.received k, _⟩
  rw [before, after]
  obtain ⟨quiet, sent, received, asked⟩ | ⟨quiet, sent, received, asked⟩ |
      ⟨arrives, sent, received, asked⟩ := scene.packets_act flow carries sound
  · rw [quiet, sent, received, asked, Nat.zero_add, decide_eq_false (Nat.lt_irrefl _)]
    exact .other
  · have more : (w.network.apps.sent k).packets <
        ((w.network.apps.sent k).add s.sender.packetBytes).packets := Nat.lt_succ_self _
    rw [quiet, sent, received, asked, decide_eq_true more]
    cases w.network.linkUp (k + 1) 0 entry.due with
    | true =>
      rw [if_pos rfl, Nat.add_comm 1]
      exact .sent
    | false =>
      rw [if_neg nofun, Nat.zero_add]
      exact .droppedAtOnce
  · rw [arrives, sent, received, asked, Nat.zero_add, decide_eq_false (Nat.lt_irrefl _)]
    cases w.network.linkUp (k + 1) 0 entry.due with
    | true => exact .received
    | false => exact .droppedAtEnd

/-- In every reached world without a fault, every packet that was sent has been received, is on its
way or was dropped. -/
theorem Built.conserved (run : Built spec s outputs r)
    (history : History World.behaviour r.simulator r.world ms sim w) (sound : w.fatal = none)
    (inside : k < s.numStas) :
    (Packets.ofFlow k sim w).Conserved s.sender.packetBytes
      (ms.filter (Moment.dropsPacket k)).length := by
  induction history with
  | start =>
    have flow := run.laidOut.hasFlow inside
    have sent : r.world.network.apps.sent k = .zero := World.sent_of_hasFlow flow
    have received : r.world.network.apps.received k = .zero := run.laidOut.received inside
    have idle : r.simulator.pending.countP (fun e => e.event.delivers k) = 0 := by
      rw [run.laidOut.simulator, s.pending_simulator]
      rfl
    unfold Packets.ofFlow
    rw [sent, received, idle]
    exact ⟨rfl, (Nat.zero_mul _).symm, (Nat.zero_mul _).symm⟩
  | @execute ms sim w entry rest before pending ih =>
    have conserved := (ih (run.sound_of_pending before pending)).next
      (run.packets_next before pending inside sound)
    change Packets.Conserved _
      (if Moment.dropsPacket k ⟨sim, w, entry, rest⟩ = true then _ else _) _ at conserved
    by_cases drops : Moment.dropsPacket k ⟨sim, w, entry, rest⟩ = true
    · rw [List.filter_cons_of_pos drops, List.length_cons]
      rwa [if_pos drops] at conserved
    · rw [List.filter_cons_of_neg drops]
      rwa [if_neg drops] at conserved
  | settle limit _ _ ih =>
    have conserved := ih sound
    unfold Packets.ofFlow at conserved ⊢
    rwa [Simulator.pending_settle]

/-- What the packets of a flow add up to in a state that a history leads to. -/
structure PacketBalance (s : Scenario) (ms : List (Moment NetworkEvent World))
    (sim : Simulator NetworkEvent) (k : Nat) (sd : Sender) (sink : Sink) : Prop where
  /-- Nothing is received, or going to be received, that was not sent. -/
  le : sink.received.packets + (sim.pending.filter fun e => e.event.delivers sd.sink).length ≤
    sd.sent.packets
  /-- Nothing gets lost if the station was never cut off when a packet was sent or arrived. -/
  eq : (∀ m ∈ ms, m.countsPacket k = true ∨ m.entry.event.delivers sd.sink = true →
      ¬ s.BlockedAt (k + 1) m.entry.due) →
    sink.received.packets + (sim.pending.filter fun e => e.event.delivers sd.sink).length =
      sd.sent.packets
  sentBytes : sd.sent.bytes = sd.sent.packets * s.sender.packetBytes
  receivedBytes : sink.received.bytes = sink.received.packets * s.sender.packetBytes

/-- In every state that a run reaches without being stopped, the packets of the flow of every
station add up: those that its sink has counted and those that are on their way are all of those
that its sender has counted, but for the ones that were dropped. -/
theorem Built.packets_conserved (run : Built spec s outputs r)
    (history : History World.behaviour r.simulator r.world ms sim w)
    (running : sim.stopped = false) (inside : k < s.numStas) :
    ∃ sd sink, w.network.apps.senders[k]? = some sd ∧ sd.node = k + 1 ∧
      w.network.apps.sinks[sd.sink]? = some sink ∧ PacketBalance s ms sim k sd sink := by
  have accepted := ScenarioSpec.accepted_of_resolve run.accepted
  have scene := run.inScene history
  obtain ⟨f, flow⟩ := scene.exists_flow inside
  obtain ⟨-, node, -, position, -⟩ := scene.of_sender flow.sender
  have size : k < w.network.apps.sinks.size := scene.size_sinks ▸ inside
  have at_sink : w.network.apps.sinks[k]? = some w.network.apps.sinks[k] :=
    Array.getElem?_eq_getElem size
  obtain ⟨packets, sent, received⟩ :=
    run.conserved history (run.sound_of_running history running) inside
  have sender : (Packets.ofFlow k sim w).sent = f.sender.sent := World.sent_of_hasFlow flow
  have sink : (Packets.ofFlow k sim w).received = w.network.apps.sinks[k].received :=
    Applications.received_eq at_sink
  have onTheWay : (Packets.ofFlow k sim w).onTheWay =
      (sim.pending.filter fun e => e.event.delivers k).length := List.countP_eq_length_filter
  rw [sender, sink, onTheWay] at packets
  rw [sender] at sent
  rw [sink] at received
  refine ⟨f.sender, w.network.apps.sinks[k], flow.sender, node, by rw [position]; exact at_sink, ?_⟩
  constructor
  · rw [position]
    omega
  · rw [position]
    intro free
    have none : ms.filter (Moment.dropsPacket k) = [] := by
      refine List.filter_eq_nil_iff.2 fun m mem drops => ?_
      obtain ⟨moves, down⟩ := Bool.and_eq_true_iff.1 drops
      obtain ⟨later, earlier, split⟩ := List.append_of_mem mem
      obtain ⟨before, -⟩ := history.of_mem split
      have up := (((run.inScene before).linkUp_iff accepted).2
        (free m mem (Bool.or_eq_true_iff.1 moves)))
      rw [Network.linkUp, Bool.and_comm, ← Network.linkUp] at up
      rw [Moment.hasLink, up] at down
      cases down
    rw [none] at packets
    exact packets
  · exact sent
  · exact received

/-- A lone station is cut off before it sends anything.  Of its first two packets one has arrived
and the other one is on its way. -/
theorem packets_conserved_lone :
    ∃ sd sink, (Lone.world 9).network.apps.senders[0]? = some sd ∧ sd.sent.packets = 2 ∧
      (Lone.world 9).network.apps.sinks[sd.sink]? = some sink ∧ sink.received.packets = 1 ∧
      sink.received.bytes = Lone.scenario.sender.packetBytes ∧
      ((Lone.agenda 9).pending.filter fun e => e.event.delivers sd.sink).length = 1 := by
  have running : (Lone.agenda 9).stopped = false := by decide +kernel
  have sent : ((Lone.world 9).network.apps.sent 0).packets = 2 := by decide +kernel
  have onTheWay : ((Lone.agenda 9).pending.filter fun e => e.event.delivers 0).length = 1 := by
    decide +kernel
  have late : ∀ m ∈ Lone.moments 9, (m.countsPacket 0 || m.entry.event.delivers 0) = true →
      2000000 ≤ m.entry.due.nanos := by
    decide +kernel
  obtain ⟨sd, sink, at_sender, -, at_sink, balance⟩ :=
    Lone.built.packets_conserved (k := 0) (Lone.history 9) running (by decide +kernel)
  have position : sd.sink = 0 :=
    ((Lone.built.inScene (Lone.history 9)).of_sender at_sender).2.2.2.1
  rw [Applications.sent_eq at_sender] at sent
  have free : ∀ m ∈ Lone.moments 9,
      m.countsPacket 0 = true ∨ m.entry.event.delivers sd.sink = true →
        ¬ Lone.scenario.BlockedAt (0 + 1) m.entry.due := by
    rintro m mem moves ⟨b, memb, -, -, finish⟩
    rw [position, ← Bool.or_eq_true_iff] at moves
    have passed : ∀ b ∈ Lone.scenario.blockages, b.2.2.nanos ≤ 2000000 := by decide +kernel
    exact absurd (Nat.lt_of_lt_of_le finish (passed b memb)) (Nat.not_lt.2 (late m mem moves))
  have all := balance.eq free
  have bytes := balance.receivedBytes
  rw [← position] at onTheWay
  rw [onTheWay, sent] at all
  have received : sink.received.packets = 1 := Nat.succ.inj all
  rw [received, Nat.one_mul] at bytes
  exact ⟨sd, sink, at_sender, sent, at_sink, received, bytes, onTheWay⟩

end DenseRun

end DenseDmg
