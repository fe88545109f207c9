import DenseDmg.Proofs.Engine.Ending
import DenseDmg.Proofs.Running.Faultless
import Mathlib.Algebra.GroupWithZero.Nat

/-!
# When runs end

Beacon intervals, samples and send timers ask for themselves again, each a while later.  Up to a
limit before the last instant that can be told, this happens finitely often: every event has a
weight, made from the instants that are left to the limit, and weighs more than all that it asks
for.  At the last instant time stands still, and the next beacon interval begins at once, again and
again.

* `InScene.load_act_lt`: what an event asks for weighs less than the event.
* `Built.not_ends`: a run up to the last instant does not end.
* `Built.exists_run_iff`: a run ends if and only if it is to stop before the last instant.
-/

namespace DenseDmg

/-! ## Few requests -/

theorem Experiment.length_orders_handle (x : Experiment) (event : LinkEvent) (traceIndex : Nat)
    (now : Time) : (x.handle event traceIndex now).orders.length ≤ 1 := by
  cases event with
  | associated e =>
    unfold handle onAssociated
    dsimp only
    split
    · exact Nat.zero_le _
    · split
      · exact Nat.zero_le _
      · dsimp only
        split <;> simp
  | deassociated e =>
    unfold handle onDeassociated
    dsimp only
    split
    · exact Nat.zero_le _
    · split
      · exact Nat.zero_le _
      · dsimp only
        split <;> simp
  | trainingCompleted e => simp [handle, Handled.ignore, orders_onTrainingCompleted]
  | transferStarted e =>
    simp only [handle, Handled.ignore, onTransferStarted]
    split <;> simp
  | frameReceived e => simp [handle, Handled.ignore, orders_onFrameReceived]

namespace World

theorem length_obey (w : World) (order : Order) : (w.obey order).2.length ≤ 1 := by
  cases order with
  | startSender sender =>
    simp only [obey, startSender]
    split <;> simp
  | stopSender sender => exact Nat.zero_le _
  | train initiator peer =>
    simp only [obey, requestTraining]
    split
    next answer =>
      split at answer
      next => cases answer
      next =>
        split at answer
        next => cases answer
        next => cases answer; exact Nat.le_refl _
    next => exact Nat.zero_le _

theorem length_obeyAll (w : World) (orders : List Order) :
    (w.obeyAll orders).2.length ≤ orders.length := by
  induction orders generalizing w with
  | nil => exact Nat.zero_le _
  | cons order rest ih =>
    have first := w.length_obey order
    have others := ih (w.obey order).1
    simp only [obeyAll, List.length_append, List.length_cons]
    omega

/-- What follows from a report is one request at most. -/
theorem length_dispatch (w : World) (event : LinkEvent) (now : Time) :
    (w.dispatch event now).2.length ≤ 1 := by
  unfold dispatch
  split
  · exact Nat.zero_le _
  · exact Nat.le_trans (length_obeyAll ..) (w.experiment.length_orders_handle ..)

theorem length_announceTransfer (w : World) (duration now : Time) (ds : List Device) :
    (w.announceTransfer duration now ds).2.length ≤ ds.length := by
  induction ds generalizing w with
  | nil => exact Nat.zero_le _
  | cons d ds ih =>
    have first := w.length_dispatch
      (.transferStarted ⟨d.node, d.address, d.bssid, d.isAssociated, duration⟩) now
    have others := ih (w.dispatch
      (.transferStarted ⟨d.node, d.address, d.bssid, d.isAssociated, duration⟩) now).1
    simp only [announceTransfer, List.length_append, List.length_cons]
    omega

theorem length_trainingSlots (mac : MacParams) (start : Time) (trained : List Device) :
    (trainingSlots mac start trained).length = 3 * trained.length := by
  have each : (fun x : Device × Nat => (slotRequests mac 0 start x.2 x.1).length) = fun _ => 3 :=
    rfl
  rw [trainingSlots, List.length_flatMap, each, List.map_const', List.sum_replicate_nat,
    List.length_zipIdx, Nat.mul_comm]

end World

/-! ## Weights -/

/-- The instants from one on, up to and including a limit. -/
def instantsLeft (limit now : Time) : Nat := limit.nanos + 1 - now.nanos

/-- What a beacon interval asks for besides the next one: beacons, slots, the data transfer
interval and associations. -/
def Scenario.brood (s : Scenario) (horizon : Nat) : Nat :=
  s.numStas + 24 + (1 + 6 * s.numStas) + 8 * (1 + 2 * horizon)

/-- How much an event can still bring about, itself included, with so many instants left of a whole
horizon.  A send timer may send a frame at each of them, and sets itself again at a later one. -/
def NetworkEvent.weight (s : Scenario) (horizon left : Nat) : NetworkEvent → Nat
  | .frameArrives .. | .trainingDone .. => 1
  | .trainingRequested .. => 6
  | .transferInterval _ => 1 + 6 * s.numStas
  | .sendTimer .. => 2 * left
  | .associationComplete _ => 1 + 2 * horizon
  | .sampleDue _ => left
  | .beaconInterval _ => (1 + s.brood horizon) * left

theorem NetworkEvent.weight_mono (s : Scenario) (horizon : Nat) {left left' : Nat}
    (le : left ≤ left') (event : NetworkEvent) :
    event.weight s horizon left ≤ event.weight s horizon left' := by
  cases event with
  | sendTimer | beaconInterval => exact Nat.mul_le_mul_left _ le
  | sampleDue => exact le
  | _ => exact Nat.le_refl _

/-- Entries that are not due up to the limit weigh nothing. -/
def Entry.weight (s : Scenario) (limit : Time) (e : Entry NetworkEvent) : Nat :=
  if limit < e.due then 0
  else e.event.weight s (limit.nanos + 1) (instantsLeft limit e.due)

/-- How much requests weigh together. -/
def load (s : Scenario) (limit now : Time) (rs : List NetworkRequest) : Nat :=
  ((Request.entries now 0 rs).map (Entry.weight s limit)).sum

section Load

variable {s : Scenario} {limit now : Time} {r : NetworkRequest} {rs : List NetworkRequest}
  {event : NetworkEvent} {c : Nat}

/-- The weight of entries does not depend on where they stand in the order of scheduling. -/
theorem map_weight_entries (s : Scenario) (limit now : Time) (seq seq' : Nat)
    (rs : List NetworkRequest) :
    (Request.entries now seq rs).map (Entry.weight s limit) =
      (Request.entries now seq' rs).map (Entry.weight s limit) := by
  induction rs generalizing seq seq' with
  | nil => rfl
  | cons r rs ih =>
    rw [Request.entries, Request.entries, List.map_append, List.map_append,
      ih (seq + 1) (seq' + 1)]
    cases r <;> rfl

theorem load_append (s : Scenario) (limit now : Time) (rs rs' : List NetworkRequest) :
    load s limit now (rs ++ rs') = load s limit now rs + load s limit now rs' := by
  rw [load, Request.entries_append, List.map_append, List.sum_append,
    map_weight_entries s limit now _ 0 rs']
  rfl

theorem exists_entry? (now : Time) (seq : Nat) (asks : r.event? = some event) :
    ∃ due, r.entry? now seq = some ⟨due, seq, event⟩ := by
  cases r with
  | atTime | afterDelay => cases asks; exact ⟨_, rfl⟩
  | stop => cases asks

theorem load_singleton {due : Time} (asked : r.entry? now 0 = some ⟨due, 0, event⟩) :
    load s limit now [r] = Entry.weight s limit ⟨due, 0, event⟩ := by
  simp [load, Request.entries, asked]

/-- A request weighs no more than its event at the beginning. -/
theorem load_singleton_le (asks : r.event? = some event)
    (little : event.weight s (limit.nanos + 1) (limit.nanos + 1) ≤ c) :
    load s limit now [r] ≤ c := by
  obtain ⟨due, asked⟩ := exists_entry? now 0 asks
  rw [load_singleton asked, Entry.weight]
  split
  · exact Nat.zero_le _
  · exact Nat.le_trans (NetworkEvent.weight_mono s _ (Nat.sub_le ..) _) little

/-- Requests for events of little weight weigh little together. -/
theorem load_le (light : ∀ r ∈ rs, ∃ e, r.event? = some e ∧
      e.weight s (limit.nanos + 1) (limit.nanos + 1) ≤ c) :
    load s limit now rs ≤ rs.length * c := by
  induction rs with
  | nil => exact Nat.zero_le _
  | cons r rs ih =>
    obtain ⟨event, asks, little⟩ := light r List.mem_cons_self
    have first : load s limit now [r] ≤ c := load_singleton_le asks little
    have others := ih fun r' mem => light r' (List.mem_cons_of_mem _ mem)
    have all := load_append s limit now [r] rs
    rw [List.singleton_append] at all
    rw [all, List.length_cons, Nat.succ_mul]
    omega

theorem load_atTime_add (delay : Time) :
    load s limit now [.atTime (now + delay) event] = load s limit now [.afterDelay delay event] :=
  rfl

/-- Before the last instant there is a later one, so that an event that is to follow after a while
has at least one instant less to come. -/
theorem load_afterDelay {delay : Time} (early : now.nanos < lastWord) (long : 0 < delay.nanos) :
    load s limit now [.afterDelay delay event] ≤
      event.weight s (limit.nanos + 1) (instantsLeft limit now - 1) := by
  have asked : Request.entry? now 0 (.afterDelay delay event : NetworkRequest) =
      some ⟨max (now + delay) now, 0, event⟩ := rfl
  rw [load_singleton asked, Entry.weight]
  split
  · exact Nat.zero_le _
  · refine NetworkEvent.weight_mono s _ ?_ event
    simp only [instantsLeft, Time.nanos_max, Time.nanos_add]
    omega

end Load

/-! ## What events ask for -/

namespace World.InScene

variable {s : Scenario} {outputs : Outputs} {w : World} {limit now : Time}

theorem load_beginInterval (scene : w.InScene s outputs) (paced : s.Paced)
    (early : now.nanos < lastWord) (index : Nat) :
    load s limit now (w.beginInterval index now).2 ≤
      s.brood (limit.nanos + 1) +
        (1 + s.brood (limit.nanos + 1)) * (instantsLeft limit now - 1) := by
  obtain ⟨ap, reachable, trained, -, many, few, -, -, requests⟩ :=
    scene.exists_reachable index now
  have beacons : load s limit now (beaconRequests w.network.mac ap now reachable) ≤
      reachable.length * 1 := by
    refine Nat.le_trans (load_le (c := 1) fun r mem => ?_) (by simp [beaconRequests])
    obtain ⟨d, -, rfl⟩ := List.mem_map.1 mem
    exact ⟨_, rfl, Nat.le_refl _⟩
  have slots : load s limit now
      (trainingSlots w.network.mac (now + w.network.mac.bti) trained) ≤ 3 * trained.length * 1 := by
    refine Nat.le_trans (load_le (c := 1) fun r mem => ?_)
      (Nat.le_of_eq (by rw [length_trainingSlots]))
    obtain ⟨⟨d, k⟩, -, slot⟩ := List.mem_flatMap.1 mem
    simp only [slotRequests, List.mem_cons, List.not_mem_nil, or_false] at slot
    rcases slot with rfl | rfl | rfl <;> exact ⟨_, rfl, Nat.le_refl _⟩
  have transfer : load s limit now [.atTime (now + w.network.mac.transferOffset)
      (.transferInterval w.network.mac.transferDuration)] ≤ 1 + 6 * s.numStas :=
    load_singleton_le rfl (Nat.le_refl _)
  have associations : load s limit now
      (associationRequests w.network.mac (now + w.network.mac.transferOffset) trained) ≤
        trained.length * (1 + 2 * (limit.nanos + 1)) := by
    refine Nat.le_trans (load_le (c := 1 + 2 * (limit.nanos + 1)) fun r mem => ?_)
      (by simp [associationRequests])
    obtain ⟨⟨d, k⟩, -, rfl⟩ := List.mem_map.1 mem
    exact ⟨_, rfl, Nat.le_refl _⟩
  have next : load s limit now [.afterDelay s.beaconInterval (.beaconInterval (index + 1))] ≤
      (1 + s.brood (limit.nanos + 1)) * (instantsLeft limit now - 1) :=
    load_afterDelay early paced.intervals
  rw [← load_atTime_add] at next
  have trained_le : trained.length * (1 + 2 * (limit.nanos + 1)) ≤
      8 * (1 + 2 * (limit.nanos + 1)) := Nat.mul_le_mul_right _ few
  rw [requests, load_append, load_append, load_append, load_append]
  unfold Scenario.brood at next ⊢
  omega

theorem load_beginTransfer (scene : w.InScene s outputs) (duration : Time) :
    load s limit now (w.beginTransfer duration now).2 ≤ s.numStas * 6 := by
  unfold beginTransfer
  split
  · exact Nat.zero_le _
  · refine Nat.le_trans (load_le (c := 6) fun r mem => ?_) (Nat.mul_le_mul_right _ ?_)
    · obtain ⟨delay, a, b, rfl⟩ := w.requests_announceTransfer _ _ _ r mem
      exact ⟨_, rfl, Nat.le_refl _⟩
    · refine Nat.le_trans (length_announceTransfer ..) ?_
      exact scene.length_stations ▸ List.length_filter_le ..

theorem load_dispatch_associated (event : Associated) :
    load s limit now (w.dispatch (.associated event) now).2 ≤ 2 * (limit.nanos + 1) := by
  have few := Nat.mul_le_mul_right (2 * (limit.nanos + 1))
    (w.length_dispatch (.associated event) now)
  rw [Nat.one_mul] at few
  refine Nat.le_trans (load_le fun r mem => ?_) few
  obtain ⟨id, g, rfl⟩ := w.requests_dispatch_associated event now r mem
  exact ⟨_, rfl, Nat.le_refl _⟩

theorem load_completeAssociation (station : NodeId) :
    load s limit now (w.completeAssociation station now).2 ≤ 2 * (limit.nanos + 1) := by
  unfold completeAssociation
  split
  · split
    · exact Nat.zero_le _
    · exact load_dispatch_associated _
  · exact Nat.zero_le _

theorem load_beginTraining (initiator responder : NodeId) :
    load s limit now (w.beginTraining initiator responder now).2 ≤ 5 := by
  unfold beginTraining
  split
  · split
    · refine Nat.le_trans (load_le (c := 1) fun r mem => ?_) (Nat.le_refl 5)
      simp only [trainingRequests, List.mem_cons, List.not_mem_nil, or_false] at mem
      rcases mem with rfl | rfl | rfl | rfl | rfl <;> exact ⟨_, rfl, Nat.le_refl _⟩
    · exact Nat.zero_le _
  · exact Nat.zero_le _

/-- From one packet to the next it is at least a nanosecond, at any rate. -/
theorem interval_pos {sd : Sender} (packet : 0 < sd.config.packetBytes) (airtime : Nat) :
    0 < (Time.ofNanos (sd.interval airtime)).nanos := by
  have long : 0 < sd.interval airtime := by
    unfold Sender.interval
    split
    · refine Nat.div_pos ?_ (by omega)
      unfold capped lastWord
      omega
    · omega
  rw [Time.nanos_ofNanos]
  unfold lastWord
  omega

theorem load_sendPacket (scene : w.InScene s outputs) (paced : s.Paced)
    (early : now.nanos < lastWord) (sender : SenderId) (generation : Nat) :
    load s limit now (w.sendPacket sender generation now).2 ≤
      1 + 2 * (instantsLeft limit now - 1) := by
  unfold sendPacket
  split
  next => exact Nat.zero_le _
  next sd at_sender =>
    split
    · exact Nat.zero_le _
    · split
      · exact Nat.zero_le _
      · dsimp only
        have packet : 0 < sd.config.packetBytes := by
          rw [(scene.of_sender at_sender).2.2.2.2]
          exact paced.packet
        rw [load_append]
        refine Nat.add_le_add ?_ (load_afterDelay early (interval_pos packet _))
        split
        · exact load_singleton_le rfl (Nat.le_refl _)
        · exact Nat.zero_le _

theorem load_takeSample (early : now.nanos < lastWord) {period : Time} (long : 0 < period.nanos) :
    load s limit now (w.takeSample period now).2 ≤ instantsLeft limit now - 1 := by
  unfold takeSample
  dsimp only
  split
  · exact Nat.zero_le _
  · exact load_afterDelay early long

/-- What an event asks for weighs less than the event. -/
theorem load_act_lt (scene : w.InScene s outputs) (paced : s.Paced) (due : now ≤ limit)
    (early : limit.nanos < lastWord) {event : NetworkEvent} (belongs : event.Belongs s) :
    load s limit now (w.act now event).2 <
      event.weight s (limit.nanos + 1) (instantsLeft limit now) := by
  have early : now.nanos < lastWord := Nat.lt_of_le_of_lt due early
  have left : instantsLeft limit now = instantsLeft limit now - 1 + 1 := by
    rw [Time.le_def] at due
    simp only [instantsLeft]
    omega
  cases event with
  | beaconInterval index =>
    have bound : load s limit now (w.beginInterval index now).2 ≤ _ :=
      scene.load_beginInterval paced early index
    simp only [act, NetworkEvent.weight]
    rw [left, Nat.mul_succ]
    omega
  | transferInterval duration =>
    have bound : load s limit now (w.beginTransfer duration now).2 ≤ _ :=
      scene.load_beginTransfer duration
    simp only [act, NetworkEvent.weight]
    omega
  | associationComplete station =>
    have bound : load s limit now (w.completeAssociation station now).2 ≤ _ :=
      load_completeAssociation station
    simp only [act, NetworkEvent.weight]
    omega
  | trainingRequested initiator responder =>
    exact Nat.lt_succ_of_le (load_beginTraining initiator responder)
  | trainingDone initiator responder period =>
    simp only [act, requests_endTraining]
    exact Nat.one_pos
  | frameArrives tx rx kind bytes sink =>
    simp only [act, requests_receiveFrame]
    exact Nat.one_pos
  | sendTimer sender generation =>
    have bound : load s limit now (w.sendPacket sender generation now).2 ≤ _ :=
      scene.load_sendPacket paced early sender generation
    simp only [act, NetworkEvent.weight]
    omega
  | sampleDue period =>
    have period_eq : period = s.samplePeriod := belongs
    have bound : load s limit now (w.takeSample period now).2 ≤ _ :=
      load_takeSample early (period_eq ▸ paced.samples)
    simp only [act, NetworkEvent.weight]
    omega

end World.InScene

/-! ## Runs -/

namespace DenseRun

open Simulator (Ends)

variable {spec : ScenarioSpec} {s : Scenario} {outputs : Outputs} {r : DenseRun}
  {sim : Simulator NetworkEvent} {w : World} {ms : List (Moment NetworkEvent World)}
  {entry : Entry NetworkEvent} {rest : List (Entry NetworkEvent)} {limit : Time}

/-- How much all that is pending weighs. -/
def pendingWeight (s : Scenario) (limit : Time) (sim : Simulator NetworkEvent) : Nat :=
  (sim.pending.map (Entry.weight s limit)).sum

/-- Executing an event replaces it by what it asks for. -/
theorem Built.perm_pending_of_reliable (run : Built spec s outputs r) (reliable : outputs.Reliable)
    (history : History World.behaviour r.simulator r.world ms sim w)
    (pending : sim.pending = entry :: rest) :
    (sim.step World.behaviour entry rest w).1.pending.Perm
      (Request.entries entry.due sim.nextSeq (w.act entry.due entry.event).2 ++ rest) :=
  run.perm_pending history pending (run.healthy reliable (history.execute pending)).sound

/-- Up to a limit before the last instant every event leaves less to do. -/
theorem Built.pendingWeight_step (run : Built spec s outputs r) (reliable : outputs.Reliable)
    (early : limit.nanos < lastWord)
    (history : History World.behaviour r.simulator r.world ms sim w)
    (pending : sim.pending = entry :: rest) (due : ¬ limit < entry.due) :
    pendingWeight s limit (sim.step World.behaviour entry rest w).1 <
      pendingWeight s limit sim := by
  have belongs := (run.healthy reliable history).belongs entry (by simp [pending])
  have paced := ScenarioSpec.paced_of_resolve run.accepted
  have asked : load s limit entry.due (w.act entry.due entry.event).2 < entry.weight s limit := by
    rw [Entry.weight, if_neg due]
    exact (run.inScene history).load_act_lt paced (Nat.not_lt.1 due) early belongs
  have perm := run.perm_pending_of_reliable reliable history pending
  have entries : ((Request.entries entry.due sim.nextSeq (w.act entry.due entry.event).2).map
      (Entry.weight s limit)).sum = load s limit entry.due (w.act entry.due entry.event).2 :=
    congrArg List.sum (map_weight_entries s limit _ _ 0 _)
  rw [pendingWeight, pendingWeight, (perm.map _).sum_nat, List.map_append, List.sum_append, entries,
    pending, List.map_cons, List.sum_cons]
  omega

/-- A run up to a limit before the last instant ends. -/
theorem Built.ends (run : Built spec s outputs r) (reliable : outputs.Reliable)
    (early : limit.nanos < lastWord) :
    ∃ out, Ends World.behaviour limit r.simulator r.world out := by
  refine Simulator.ends_of_weight
    (fun sim w => ∃ ms, History World.behaviour r.simulator r.world ms sim w)
    (pendingWeight s limit) ?_ ⟨[], .start⟩
  rintro sim w entry rest ⟨ms, history⟩ pending due
  exact ⟨⟨_, history.execute pending⟩,
    run.pendingWeight_step reliable early history pending due⟩

/-- A run that is to stop before the last instant gives its figures. -/
theorem Built.exists_figures (run : Built spec s outputs r) (reliable : outputs.Reliable)
    (early : s.stopTime.nanos < lastWord) :
    ∃ fuel final summary, r.run fuel = some (final, .ok summary) := by
  obtain ⟨out, ends⟩ := run.ends reliable early
  obtain ⟨fuel, loop⟩ := ends.exists_runUntil
  obtain ⟨final, answer, ended⟩ : ∃ final answer, r.run fuel = some (final, answer) := by
    rw [DenseRun.run, run.laidOut.stopAt, loop]
    exact ⟨_, _, rfl⟩
  obtain ⟨summary, rfl⟩ := run.exists_summary reliable ended
  exact ⟨fuel, final, summary, ended⟩

/-- There is always a beacon interval to come. -/
theorem Built.exists_interval (run : Built spec s outputs r) (reliable : outputs.Reliable)
    (history : History World.behaviour r.simulator r.world ms sim w) :
    ∃ e ∈ sim.pending, ∃ index, e.event = .beaconInterval index := by
  induction history with
  | start =>
    rw [run.laidOut.simulator, s.pending_simulator]
    exact ⟨_, List.mem_cons_self, 0, rfl⟩
  | @execute ms sim w entry rest before pending ih =>
    have perm := run.perm_pending_of_reliable reliable before pending
    obtain ⟨e, mem, index, interval⟩ := ih
    rw [pending] at mem
    rcases List.mem_cons.1 mem with rfl | mem
    · -- A beacon interval that begins asks for the next one.
      obtain ⟨ap, reachable, trained, -, -, -, -, -, requests⟩ :=
        (run.inScene before).exists_reachable index e.due
      have next : .atTime (e.due + s.beaconInterval) (.beaconInterval (index + 1)) ∈
          (w.act e.due e.event).2 := by
        rw [interval]
        show _ ∈ (w.beginInterval index e.due).2
        rw [requests]
        exact List.mem_append_right _ (List.mem_singleton.2 rfl)
      obtain ⟨e', mem', -, event⟩ := Request.exists_mem_entries e.due sim.nextSeq next
      exact ⟨e', perm.mem_iff.2 (List.mem_append_left _ mem'), index + 1, event⟩
    · exact ⟨e, perm.mem_iff.2 (List.mem_append_right _ mem), index, interval⟩
  | settle limit _ _ ih => simpa using ih

/-- A run up to the last instant does not end: it is not stopped, and the next beacon interval is
due. -/
theorem Built.not_ends (run : Built spec s outputs r) (reliable : outputs.Reliable)
    (late : limit.nanos = lastWord) {out : Simulator NetworkEvent × World}
    (history : History World.behaviour r.simulator r.world ms sim w) :
    ¬ Ends World.behaviour limit sim w out := by
  intro ends
  induction ends generalizing ms with
  | @idle sim w idle =>
    obtain ⟨e, mem, -⟩ := run.exists_interval reliable history
    cases pending : sim.pending with
    | nil =>
      rw [pending] at mem
      cases mem
    | cons entry rest =>
      have after := idle entry (by simp [pending])
      rw [Time.lt_def, late] at after
      exact absurd entry.due.nanos_le (Nat.not_le.2 after)
  | stops pending due stopped =>
    have running := (run.healthy reliable (history.execute pending)).running
    rw [stopped] at running
    cases running
  | goes pending due running _ ih => exact ih (history.execute pending)

/-- A run ends if and only if it is to stop before the last instant. -/
theorem Built.exists_run_iff (run : Built spec s outputs r) (reliable : outputs.Reliable) :
    (∃ fuel out, r.run fuel = some out) ↔ s.stopTime.nanos < lastWord := by
  have loop : (∃ fuel out, r.run fuel = some out) ↔
      ∃ out, Ends World.behaviour s.stopTime r.simulator r.world out := by
    simp only [DenseRun.run, Option.map_eq_some_iff, run.laidOut.stopAt,
      ← Simulator.exists_runUntil_iff]
    constructor
    · rintro ⟨fuel, -, out, ended, -⟩
      exact ⟨out, fuel, ended⟩
    · rintro ⟨out, fuel, ended⟩
      exact ⟨fuel, _, out, ended, rfl⟩
  rw [loop]
  constructor
  · rintro ⟨out, ends⟩
    exact Nat.lt_of_le_of_ne s.stopTime.nanos_le
      fun late => run.not_ends reliable late .start ends
  · exact run.ends reliable

end DenseRun

/-! ### A run without an end -/

namespace Endless

/-- One station, and a sample period that no time is long enough for. -/
def spec : ScenarioSpec := { Lone.spec with output := { csv := true, samplePeriod := lastWord } }

def scenario : Scenario :=
  match spec.resolve with
  | .ok s => s
  | .error _ => default

def run : DenseRun :=
  match DenseRun.build scenario Lone.outputs with
  | .ok r => r
  | .error _ => default

theorem built : DenseRun.Built spec scenario Lone.outputs run := ⟨rfl, rfl⟩

end Endless

/-- A run that is to stop at the last instant has no end. -/
theorem not_exists_run_endless : ¬ ∃ fuel out, Endless.run.run fuel = some out := by
  have long : Endless.scenario.samplePeriod = .ofMillis lastWord := rfl
  have period : Endless.scenario.samplePeriod.nanos = lastWord := by
    rw [long, Time.ofMillis, Time.nanos_ofNanos]
    decide
  rw [Endless.built.exists_run_iff Lone.reliable, Scenario.stopTime, Time.nanos_add,
    Time.nanos_add, period]
  omega

end DenseDmg
