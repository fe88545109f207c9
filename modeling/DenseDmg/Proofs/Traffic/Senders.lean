import DenseDmg.Proofs.Running.Faultless
import DenseDmg.Proofs.Traffic.Packets
import DenseDmg.Proofs.World.Deeds

/-!
# Intervals and timers of senders

A running sender has one timer in the queue, and a packet sets the next one an interval later.

* `Scenario.sendInterval`: the time from one packet to the next, and how a sender computes it.
* `InScene.of_timer_mem_act`: the timers that an event asks for, and when they are due.
* `World.sent_act`: nothing but a send timer sends a packet, whether or not there is a fault.
-/

namespace DenseDmg

variable {s : Scenario} {outputs : Outputs} {w : World} {k : Nat} {f : Flow} {now : Time}
  {event : NetworkEvent} {sd : Sender}

/-! ## From one packet to the next -/

theorem le_ceilDiv_mul {b : Nat} (pos : 0 < b) (a : Nat) : a ≤ ceilDiv a b * b := by
  have whole := Nat.div_add_mod (a + b - 1) b
  have part := Nat.mod_lt (a + b - 1) pos
  unfold ceilDiv
  rw [Nat.mul_comm]
  omega

/-- From one packet of a station to the next, in nanoseconds: as long as its bits take at the rate
of the sender, rounded up, or as long as it is on the air. -/
def Scenario.sendInterval (s : Scenario) : Nat :=
  match s.sender.kind with
  | .onOff => ceilDiv (s.sender.packetBytes * 8 * 1000000000) (max s.sender.rate.bps 1)
  | .bulk => s.phy.airtime s.sender.packetBytes

theorem Scenario.sendInterval_onOff (kind : s.sender.kind = .onOff) :
    s.sendInterval =
      ceilDiv (s.sender.packetBytes * 8 * 1000000000) (max s.sender.rate.bps 1) := by
  rw [sendInterval, kind]

theorem PhyMode.airtime_pos (m : PhyMode) (bytes : Nat) : 0 < m.airtime bytes := by
  unfold airtime capped frameOverhead lastWord
  omega

/-- The products in it fit into a word for every packet that may be sent. -/
theorem Sender.interval_eq (small : s.sender.packetBytes ≤ maxPacketBytes)
    (config : sd.config = s.sender) :
    sd.interval (s.phy.airtime s.sender.packetBytes) = s.sendInterval := by
  have fits : capped (s.sender.packetBytes * 8 * 1000000000) =
      s.sender.packetBytes * 8 * 1000000000 := by
    unfold maxPacketBytes at small
    unfold capped lastWord
    omega
  have airtime := s.phy.airtime_pos s.sender.packetBytes
  unfold interval Scenario.sendInterval
  rw [config]
  cases s.sender.kind with
  | onOff =>
    dsimp only
    rw [transferNanos, fits]
  | bulk =>
    dsimp only
    omega

/-- A sender has nothing to send at an instant when it has sent so many bytes: its budget is used up
or the time to stop has come. -/
def SenderConfig.DoneAt (c : SenderConfig) (bytes instant : Nat) : Prop :=
  (0 < c.maxBytes ∧ c.maxBytes ≤ bytes) ∨ ∃ t, c.stopAt = some t ∧ t.nanos ≤ instant

theorem Sender.isFinished_iff :
    sd.isFinished now = true ↔ sd.config.DoneAt sd.sent.bytes now.nanos := by
  simp [isFinished, budgetExhausted, SenderConfig.DoneAt, Option.any_eq_true, Time.le_def]

/-! ## Starting and running -/

theorem Sender.start_of_rest (rests : sd.running = false) :
    sd.start = { sd with
      startCalls := sd.startCalls + 1, running := true, generation := sd.generation + 1 } := by
  unfold start
  dsimp only
  rw [if_neg (by simp [rests])]

theorem Sender.running_of_isCurrent {g : Nat} (current : sd.isCurrent g = true) :
    sd.running = true ∧ sd.generation = g := by
  obtain ⟨running, same⟩ := Bool.and_eq_true_iff.1 current
  exact ⟨running, beq_iff_eq.1 same⟩

/-! ## Timers -/

namespace World

/-- The timers of a sender that an event asks for: the first one at once, when the sender begins to
run, and the next one an interval later, when a packet is sent. -/
theorem InScene.of_timer_mem_act (scene : w.InScene s outputs) (flow : w.HasFlow k f)
    (small : s.sender.packetBytes ≤ maxPacketBytes) (sound : (w.act now event).1.fatal = none)
    {r : NetworkRequest} {g : Nat} (mem : r ∈ (w.act now event).2)
    (asks : r.event? = some (.sendTimer k g)) :
    (g = f.sender.generation + 1 ∧ f.sender.running = false ∧
        r = .afterDelay .zero (.sendTimer k g)) ∨
      (event = .sendTimer k g ∧ f.Sends now g ∧
        r = .afterDelay (.ofNanos s.sendInterval) (.sendTimer k g)) := by
  have asked : g ∈ f.timers w.network now k event := by
    rw [← scene.timers_act flow sound, askedTimers, List.mem_filterMap]
    exact ⟨r, mem, by simp [asks, NetworkEvent.timer?]⟩
  obtain ⟨e, asks', caused⟩ := causes_of_mem_act mem
  obtain rfl := Option.some.inj (asks.symm.trans asks')
  cases caused with
  | start station =>
    rw [Flow.timers] at asked
    split at asked
    next begins =>
      refine .inl ⟨List.mem_singleton.1 asked, begins.2.2.2, ?_⟩
      simp only [act, completeAssociation] at mem
      split at mem
      · split at mem
        · cases mem
        · obtain ⟨id, g', rfl⟩ := requests_dispatch_associated _ _ _ r mem
          cases asks
          rfl
      · cases mem
    next => cases asked
  | timer =>
    rw [act, scene.requests_sendPacket flow, Sender.interval_eq small
      (scene.of_sender flow.sender).2.2.2.2] at mem
    split at mem
    next sends =>
      refine .inr ⟨rfl, sends, ?_⟩
      rcases List.mem_append.1 mem with packet | timer
      · split at packet
        · obtain rfl := List.mem_singleton.1 packet
          cases asks
        · cases packet
      · exact List.mem_singleton.1 timer
    next => cases mem

end World

/-! ## What senders have sent -/

theorem Applications.sent_updateSender (a : Applications) (id : SenderId) {g : Sender → Sender}
    (same : ∀ sd, (g sd).sent = sd.sent) : (a.updateSender id g).sent = a.sent := by
  funext j
  unfold sent updateSender
  dsimp only
  rw [Array.getElem?_modify]
  by_cases here : id = j
  · rw [if_pos here]
    cases a.senders[j]? with
    | none => rfl
    | some sd => exact same sd
  · rw [if_neg here]

namespace World

theorem sent_obeyAll (w : World) (orders : List Order) :
    (w.obeyAll orders).1.network.apps.sent = w.network.apps.sent := by
  induction orders generalizing w with
  | nil => rfl
  | cons order rest ih =>
    refine (ih _).trans ?_
    cases order with
    | startSender sender => exact w.network.apps.sent_updateSender sender Sender.sent_start
    | stopSender sender => exact w.network.apps.sent_updateSender sender fun _ => rfl
    | train initiator peer =>
      exact congrArg (·.apps.sent) (w.obey_train initiator peer).1.network

theorem sent_dispatch (w : World) (e : LinkEvent) (now : Time) :
    (w.dispatch e now).1.network.apps.sent = w.network.apps.sent := by
  unfold dispatch
  split
  · rfl
  · dsimp only
    rw [sent_obeyAll, (sameParts_check _ _).network]

/-- Nothing but a send timer sends a packet. -/
theorem sent_act (untimed : ∀ sender generation, event ≠ .sendTimer sender generation) (w : World)
    (now : Time) : (w.act now event).1.network.apps.sent = w.network.apps.sent := by
  refine act_keeps (fun w => w.network.apps.sent) (fun d does w => ?_) w
  cases does with
  | report e => exact w.sent_dispatch e now
  | loss | association | stranger | arrival => rfl
  | finish sender generation => exact absurd rfl (untimed sender generation)
  | send sender generation => exact absurd rfl (untimed sender generation)
  | sample period => exact congrArg (·.apps.sent) (w.network_takeSample period now)

end World

/-- No event that counts a packet brings a fault. -/
theorem Moment.sound_of_countsPacket {m : Moment NetworkEvent World} (sound : m.world.fatal = none)
    (counts : m.countsPacket k = true) : (m.outcome World.behaviour).2.fatal = none := by
  have more : (m.world.network.apps.sent k).packets <
      ((m.world.act m.entry.due m.entry.event).1.network.apps.sent k).packets :=
    of_decide_eq_true counts
  show (m.world.act m.entry.due m.entry.event).1.fatal = none
  by_cases timer : ∃ sender generation, m.entry.event = .sendTimer sender generation
  · obtain ⟨sender, generation, event⟩ := timer
    rw [event]
    exact World.InScene.fatal_sendPacket sound sender generation
  · rw [World.sent_act fun sender generation event => timer ⟨sender, generation, event⟩] at more
    exact absurd more (Nat.lt_irrefl _)

end DenseDmg
