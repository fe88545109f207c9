import DenseDmg.Proofs.Scene.Flow

/-!
# Device, pair and sender agree

Whether a station is associated is written down three times: its device carries an association
identifier, its pair is active, and its sender has been started once more than it has been stopped.
The three are changed by different events.  `Flow.Agrees` is the invariant of a flow, `Agrees.next`
its step.

* `DenseRun.Built.agreement`: the three agree in every reached world without a fault, a sender runs
  for an active pair only, and every packet was sent while its station was associated.
-/

namespace DenseDmg

/-- The device, the sender and the pair of a flow agree on whether the station is associated. -/
structure Flow.Agrees (f : Flow) : Prop where
  associated : f.device.isAssociated = f.pair.active
  starts : f.sender.startCalls = f.pair.activations
  stops : f.sender.stopCalls + (if f.pair.active then 1 else 0) = f.pair.activations
  running : f.sender.running = true → f.pair.active = true

namespace Flow.Agrees

variable {f : Flow} {n : Network} {now : Time} {k : Nat}

theorem initial (s : Scenario) (k : Nat) : (Flow.initial s k).Agrees :=
  ⟨rfl, rfl, rfl, nofun⟩

theorem join (agrees : f.Agrees) (idle : f.device.isAssociated = false) (aid : Nat) :
    (f.join aid now).Agrees := by
  have inactive : f.pair.active = false := agrees.associated.symm.trans idle
  have rest : f.sender.running = false :=
    Bool.eq_false_iff.2 fun running => by simp [agrees.running running] at inactive
  have stops := agrees.stops
  rw [inactive] at stops
  unfold Flow.join Sender.start Pair.activate
  simp only [inactive, rest]
  exact ⟨rfl, congrArg (· + 1) agrees.starts, congrArg (· + 1) stops, fun _ => rfl⟩

theorem leave (agrees : f.Agrees) (associated : f.device.isAssociated = true) : f.leave.Agrees := by
  have active : f.pair.active = true := agrees.associated.symm.trans associated
  have stops := agrees.stops
  rw [active] at stops
  unfold Flow.leave Sender.stop Pair.deactivate
  simp only [active]
  exact ⟨rfl, agrees.starts, stops, nofun⟩

theorem tick (agrees : f.Agrees) (generation : Nat) : (f.tick now generation).Agrees := by
  unfold Flow.tick
  split
  · exact ⟨agrees.associated, agrees.starts, agrees.stops, agrees.running⟩
  · split
    · exact ⟨agrees.associated, agrees.starts, agrees.stops, nofun⟩
    · exact agrees

/-- Events keep the agreement. -/
theorem next (agrees : f.Agrees) (event : NetworkEvent) : (f.next n now k event).Agrees := by
  cases event with
  | beaconInterval index =>
    rw [Flow.next, Flow.cutOff]
    split
    next lost => exact agrees.leave (Bool.and_eq_true_iff.1 lost).2
    next => exact agrees
  | associationComplete station =>
    rw [Flow.next]
    split
    next joins => exact agrees.join joins.2.2 _
    next => exact agrees
  | sendTimer sender generation =>
    rw [Flow.next]
    split
    · exact agrees.tick generation
    · exact agrees
  | transferInterval duration => exact agrees
  | trainingRequested initiator responder => exact agrees
  | trainingDone initiator responder period => exact agrees
  | frameArrives tx rx kind bytes sink => exact agrees
  | sampleDue period => exact agrees

/-- An event sends no packet, or one of a station that is associated. -/
theorem packets_next (agrees : f.Agrees) (n : Network) (now : Time) (k : Nat)
    (event : NetworkEvent) :
    (f.next n now k event).sender.sent.packets = f.sender.sent.packets ∨
      (f.next n now k event).sender.sent.packets = f.sender.sent.packets + 1 ∧
        f.device.isAssociated = true := by
  have change : f.SenderChange n now k event _ := f.senderChange_next event
  generalize (f.next n now k event).sender = sd at change ⊢
  cases change with
  | none | stop | finish => exact .inl rfl
  | start => exact .inl (congrArg Counters.packets f.sender.sent_start)
  | send sends =>
    have running : f.sender.running = true := (Bool.and_eq_true_iff.1 sends.1).1
    exact .inr ⟨rfl, agrees.associated.trans (agrees.running running)⟩

end Flow.Agrees

/-! ## Along a run -/

/-- Whether executing the event of a moment counts a packet of the sender at a position. -/
def Moment.countsPacket (sender : SenderId) (m : Moment NetworkEvent World) : Bool :=
  decide ((m.world.network.apps.sent sender).packets <
    ((m.outcome World.behaviour).2.network.apps.sent sender).packets)

/-- The device, the pair and the sender of a station agree in a world that a history leads to. -/
structure Agreement (ms : List (Moment NetworkEvent World)) (w : World) (d : Device) (p : Pair)
    (sd : Sender) : Prop where
  pair : w.experiment.pairs.get? d.node = some p
  sender : w.network.apps.senders[p.sender]? = some sd
  node : sd.node = d.node
  associated : d.isAssociated = true ↔ p.active = true
  idle : p.active = false → (sd.startCalls, sd.stopCalls) = (p.activations, p.activations)
  active : p.active = true →
    1 ≤ p.activations ∧ (sd.startCalls, sd.stopCalls) = (p.activations, p.activations - 1)
  running : sd.running = true → p.active = true
  /-- As many packets have been counted as moments have counted one. -/
  counted : (ms.filter (Moment.countsPacket p.sender)).length = sd.sent.packets
  /-- They were moments at which the station was associated. -/
  sent : ∀ m ∈ ms, m.countsPacket p.sender = true →
    ∃ d', m.world.network.devices[d.node]? = some d' ∧ d'.isAssociated = true

namespace DenseRun

variable {spec : ScenarioSpec} {s : Scenario} {outputs : Outputs} {r : DenseRun}
  {sim : Simulator NetworkEvent} {w : World} {ms : List (Moment NetworkEvent World)} {k : Nat}
  {f : Flow}

/-- The flows of every reached world agree, as long as there is no fault. -/
theorem Built.agrees (run : Built spec s outputs r)
    (history : History World.behaviour r.simulator r.world ms sim w) (sound : w.fatal = none)
    (flow : w.HasFlow k f) : f.Agrees := by
  induction history generalizing f with
  | start =>
    have inside := (run.laidOut.inScene.wired flow).inside
    rw [flow.unique (run.laidOut.hasFlow inside)]
    exact .initial s k
  | @execute ms sim w entry rest before pending ih =>
    have scene := run.inScene before
    have inside := ((run.inScene (before.execute pending)).wired flow).inside
    rcases scene.exists_flow inside with ⟨g, flow'⟩
    rw [flow.unique (scene.hasFlow_act flow' sound)]
    exact (ih (run.sound_of_pending before pending) flow').next _
  | settle _ _ _ ih => exact ih sound flow

/-- Packets are counted one at a time, at moments at which the station is associated. -/
theorem Built.counted (run : Built spec s outputs r)
    (history : History World.behaviour r.simulator r.world ms sim w) (sound : w.fatal = none)
    (flow : w.HasFlow k f) :
    (ms.filter (Moment.countsPacket k)).length = f.sender.sent.packets ∧
      ∀ m ∈ ms, m.countsPacket k = true →
        ∃ d, m.world.network.devices[k + 1]? = some d ∧ d.isAssociated = true := by
  induction history generalizing f with
  | start =>
    have inside := (run.laidOut.inScene.wired flow).inside
    rw [flow.unique (run.laidOut.hasFlow inside)]
    exact ⟨rfl, by simp⟩
  | @execute ms sim w entry rest before pending ih =>
    have scene := run.inScene before
    have inside := ((run.inScene (before.execute pending)).wired flow).inside
    rcases scene.exists_flow inside with ⟨g, flow'⟩
    have intact := run.sound_of_pending before pending
    rcases ih intact flow' with ⟨counted, sent⟩
    have next := flow.unique (scene.hasFlow_act flow' sound)
    have earlier : (w.network.apps.sent k).packets = g.sender.sent.packets := by
      rw [Applications.sent, flow'.sender]
    have later : ((Moment.outcome World.behaviour ⟨sim, w, entry, rest⟩).2.network.apps.sent
        k).packets = f.sender.sent.packets := by
      rw [Applications.sent, Moment.outcome, flow.sender]
    have counts : Moment.countsPacket k ⟨sim, w, entry, rest⟩ =
        decide (g.sender.sent.packets < f.sender.sent.packets) := by
      rw [Moment.countsPacket, earlier, later]
    rcases (run.agrees before intact flow').packets_next w.network entry.due k entry.event with
      same | ⟨more, associated⟩
    · rw [← show f = _ from next] at same
      have silent : Moment.countsPacket k ⟨sim, w, entry, rest⟩ = false := by
        rw [counts, same]
        exact decide_eq_false (Nat.lt_irrefl _)
      constructor
      · rw [List.filter_cons_of_neg (by simp [silent]), counted, same]
      · intro m mem sends
        rcases List.mem_cons.1 mem with rfl | mem
        · rw [silent] at sends
          cases sends
        · exact sent m mem sends
    · rw [← show f = _ from next] at more
      have speaks : Moment.countsPacket k ⟨sim, w, entry, rest⟩ = true := by
        rw [counts, more]
        exact decide_eq_true (Nat.lt_succ_self _)
      constructor
      · rw [List.filter_cons_of_pos speaks, List.length_cons, counted, more]
      · intro m mem sends
        rcases List.mem_cons.1 mem with rfl | mem
        · exact ⟨g.device, flow'.device, associated⟩
        · exact sent m mem sends
  | settle _ _ _ ih => exact ih sound flow

theorem Built.agreement_of_mem (run : Built spec s outputs r)
    (history : History World.behaviour r.simulator r.world ms sim w) (sound : w.fatal = none)
    {d : Device} (mem : d ∈ w.network.stations) :
    ∃ p sd, p.sender + 1 = d.node ∧ Agreement ms w d p sd := by
  have scene := run.inScene history
  obtain ⟨at_d, k, inside, node, -⟩ := scene.mem_stations mem
  obtain ⟨p, memp, -, sender, found⟩ := scene.exists_pair inside
  obtain ⟨f, flow⟩ := scene.exists_flow inside
  have setup := (scene.wired flow).node
  have pair := scene.unmeasured_of_get? flow found
  have active : f.pair.active = p.active := by rw [← pair]; rfl
  have activations : f.pair.activations = p.activations := by rw [← pair]; rfl
  rw [node, flow.device] at at_d
  cases Option.some.inj at_d
  obtain ⟨associated, starts, stops, running⟩ := run.agrees history sound flow
  obtain ⟨counted, sent⟩ := run.counted history sound flow
  rw [active] at associated stops running
  rw [activations] at starts stops
  rw [← sender] at counted sent
  refine ⟨p, f.sender, by rw [sender, node], ?_⟩
  exact {
    pair := by rw [node]; exact found
    sender := by rw [sender]; exact flow.sender
    node := by rw [node]; exact setup
    associated := by rw [associated]
    idle := fun idle => by
      rw [idle] at stops
      rw [starts, ← stops]
      rfl
    active := fun busy => by
      rw [busy] at stops
      rw [starts, ← stops]
      exact ⟨Nat.le_add_left .., rfl⟩
    running := running
    counted := counted
    sent := by rw [node, ← sender]; exact sent }

/-- In every world that a run reaches without a fault, the device, the pair and the sender of every
station agree on whether it is associated, and its packets were sent while it was.  Every sender is
the sender of a station. -/
theorem Built.agreement (run : Built spec s outputs r)
    (history : History World.behaviour r.simulator r.world ms sim w) (sound : w.fatal = none) :
    (∀ d ∈ w.network.stations, ∃ p sd, Agreement ms w d p sd) ∧
      ∀ id sd, w.network.apps.senders[id]? = some sd →
        ∃ d ∈ w.network.stations, ∃ p, p.sender = id ∧ Agreement ms w d p sd := by
  constructor
  · intro d mem
    rcases run.agreement_of_mem history sound mem with ⟨p, sd, -, agreement⟩
    exact ⟨p, sd, agreement⟩
  · intro id sd at_id
    have scene := run.inScene history
    have inside := scene.of_getElem?_senders at_id
    rcases List.mem_map.1 (scene.mem_map_node_stations inside) with ⟨d, mem, node⟩
    rcases run.agreement_of_mem history sound mem with ⟨p, sd', sender, agreement⟩
    have same : p.sender = id := Nat.succ.inj (sender.trans node)
    have at_id' := agreement.sender
    rw [same, at_id] at at_id'
    cases at_id'
    exact ⟨d, mem, p, same, agreement⟩

/-- A lone station that has just associated: its sender was started once and not stopped. -/
theorem agreement_lone :
    ∃ d ∈ (Lone.world 6).network.stations, d.isAssociated = true ∧
      ∃ p sd, Agreement (Lone.moments 6) (Lone.world 6) d p sd ∧ p.active = true ∧
        sd.startCalls = 1 := by
  have sound : (Lone.world 6).fatal = none := by decide +kernel
  have some : (Lone.world 6).network.stations ≠ [] := by decide +kernel
  have associated : ∀ d ∈ (Lone.world 6).network.stations, d.isAssociated = true := by
    decide +kernel
  have starts : ∀ sd ∈ (Lone.world 6).network.apps.senders, sd.startCalls = 1 := by
    decide +kernel
  obtain ⟨d, mem⟩ := List.exists_mem_of_ne_nil _ some
  obtain ⟨p, sd, agreement⟩ := (Lone.built.agreement (Lone.history 6) sound).1 d mem
  have active := agreement.associated.1 (associated d mem)
  have started := starts sd (Array.mem_of_getElem? agreement.sender)
  exact ⟨d, mem, associated d mem, p, sd, agreement, active, started⟩

end DenseRun

end DenseDmg
