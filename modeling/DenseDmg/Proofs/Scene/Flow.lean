import DenseDmg.Proofs.Scene.Wiring

/-!
# The flow of a station

A station, its sender and its pair are kept in three tables of the world.  `World.HasFlow w k f`
picks the three that belong to the station counted `k` from zero, and `Flow.next` says what an event
does to them.  Events reach the flow of a station only through this automaton:

* `hasFlow_act`: in the scene of a scenario, an event that brings no fault takes every flow to the
  next one.
* `timers_act`: the send timers that the event asks for.
* `Flow.senderChange_next`: an event starts a sender, stops it, lets it send a packet or end, or
  passes it by.

What is said about associations and traffic is proved of `Flow.next` and `Flow.timers`, and not of
the handlers and orders behind them.
-/

namespace DenseDmg

/-- The device, the sender and the pair of one station, the pair apart from what is measured. -/
structure Flow where
  device : Device
  sender : Sender
  pair : Pair

namespace Flow

/-- The station associates: its pair becomes active, and its sender is started unless the pair was
active before. -/
def join (f : Flow) (aid : Nat) (now : Time) : Flow where
  device := { f.device with aid := some aid }
  sender := if f.pair.active then f.sender else f.sender.start
  pair := f.pair.activate now

/-- The station loses its association: its pair becomes idle, and its sender is stopped if the pair
was active before. -/
def leave (f : Flow) : Flow where
  device := { f.device with aid := none }
  sender := if f.pair.active then f.sender.stop else f.sender
  pair := f.pair.deactivate

/-- A station that is cut off loses its association. -/
def cutOff (n : Network) (now : Time) (k : Nat) (f : Flow) : Flow :=
  if n.isBlocked (k + 1) now && f.device.isAssociated then f.leave else f

/-- Whether a station that completes its association gets it. -/
def Joins (n : Network) (now : Time) (k : Nat) (f : Flow) : Prop :=
  n.linkUp 0 (k + 1) now = true ∧ f.device.isAssociated = false

instance (n : Network) (now : Time) (k : Nat) (f : Flow) : Decidable (f.Joins n now k) :=
  inferInstanceAs (Decidable (_ ∧ _))

/-- Whether a send timer of a given generation sends a packet. -/
def Sends (now : Time) (generation : Nat) (f : Flow) : Prop :=
  f.sender.isCurrent generation = true ∧ f.sender.isFinished now = false

instance (now : Time) (generation : Nat) (f : Flow) : Decidable (f.Sends now generation) :=
  inferInstanceAs (Decidable (_ ∧ _))

/-- The timer of a sender sends a packet, ends a sender that has finished, or is out of date. -/
def tick (now : Time) (generation : Nat) (f : Flow) : Flow :=
  if f.Sends now generation then
    { f with sender := f.sender.recordSent f.sender.config.packetBytes }
  else if f.sender.isCurrent generation then { f with sender := f.sender.finish }
  else f

/-- What an event does to the flow of the station counted `k` from zero. -/
def next (n : Network) (now : Time) (k : Nat) (f : Flow) : NetworkEvent → Flow
  | .beaconInterval _ => f.cutOff n now k
  | .associationComplete station =>
    if station = k + 1 ∧ f.Joins n now k then f.join n.nextAid now else f
  | .sendTimer sender generation => if sender = k then f.tick now generation else f
  | _ => f

/-- The generations of the send timers that an event asks for, of the sender at position `k`. -/
def timers (n : Network) (now : Time) (k : Nat) (f : Flow) : NetworkEvent → List Nat
  | .associationComplete station =>
    if station = k + 1 ∧ f.Joins n now k ∧ f.pair.active = false ∧ f.sender.running = false then
      [f.sender.generation + 1]
    else []
  | .sendTimer sender generation =>
    if sender = k ∧ f.Sends now generation then [generation] else []
  | _ => []

end Flow

/-- The flow of the station counted `k` from zero. -/
structure World.HasFlow (w : World) (k : Nat) (f : Flow) : Prop where
  device : w.network.devices[k + 1]? = some f.device
  sender : w.network.apps.senders[k]? = some f.sender
  pair : w.experiment.pairs.pairs[k]?.map Pair.unmeasured = some f.pair

/-- The generation of a send timer of the sender at position `k`. -/
def NetworkEvent.timer? (k : Nat) : NetworkEvent → Option Nat
  | .sendTimer sender generation => if sender = k then some generation else none
  | _ => none

/-- The generations of the send timers, of the sender at position `k`, that requests ask for. -/
def askedTimers (k : Nat) (rs : List NetworkRequest) : List Nat :=
  rs.filterMap fun r => r.event?.bind (NetworkEvent.timer? k)

/-- The parts of a flow stand where the scene has put them. -/
structure Flow.Wired (s : Scenario) (k : Nat) (f : Flow) : Prop where
  inside : k < s.numStas
  device : f.device.node = k + 1
  node : f.sender.node = k + 1
  sender : f.pair.sender = k
  pair : f.pair.node = k + 1

/-! ## What an event does to a sender -/

theorem Sender.sent_start (sd : Sender) : sd.start.sent = sd.sent := by
  unfold start
  dsimp only
  split <;> rfl

theorem Sender.startCalls_start (sd : Sender) : sd.start.startCalls = sd.startCalls + 1 := by
  unfold start
  dsimp only
  split <;> rfl

namespace Flow

/-- What an event can do to the sender of a flow. -/
inductive SenderChange (n : Network) (now : Time) (k : Nat) (f : Flow) :
    NetworkEvent → Sender → Prop
  /-- Nothing; if the event is a timer of the sender, it is out of date. -/
  | none {event : NetworkEvent} :
    (∀ g, event = .sendTimer k g → f.sender.isCurrent g = false) →
    SenderChange n now k f event f.sender
  | start : f.Joins n now k → f.pair.active = false →
    SenderChange n now k f (.associationComplete (k + 1)) f.sender.start
  | stop {index : Nat} : n.isBlocked (k + 1) now = true → f.pair.active = true →
    SenderChange n now k f (.beaconInterval index) f.sender.stop
  | send {g : Nat} : f.Sends now g →
    SenderChange n now k f (.sendTimer k g) (f.sender.recordSent f.sender.config.packetBytes)
  | finish {g : Nat} : f.sender.isCurrent g = true → f.sender.isFinished now = true →
    SenderChange n now k f (.sendTimer k g) f.sender.finish

variable {f : Flow} {n : Network} {now : Time} {k : Nat}

theorem senderChange_tick (g : Nat) :
    f.SenderChange n now k (.sendTimer k g) (f.tick now g).sender := by
  unfold tick
  split
  next sends => exact .send sends
  next rests =>
    split
    next current =>
      refine .finish current ?_
      simpa [Sends, current] using rests
    next stale =>
      refine .none fun g' same => ?_
      cases same
      simpa using stale

/-- An event changes the sender of a flow in one of these ways. -/
theorem senderChange_next (event : NetworkEvent) :
    f.SenderChange n now k event (f.next n now k event).sender := by
  have untimed (other : event.timer? k = .none) : f.SenderChange n now k event f.sender := by
    refine .none fun g timer => ?_
    rw [timer, NetworkEvent.timer?, if_pos rfl] at other
    cases other
  cases event with
  | beaconInterval index =>
    simp only [next, cutOff, leave]
    split
    next lost =>
      dsimp only
      split
      next active => exact .stop (Bool.and_eq_true_iff.1 lost).1 active
      next => exact untimed rfl
    next => exact untimed rfl
  | associationComplete station =>
    simp only [next, join]
    split
    next joins =>
      obtain ⟨rfl, joins⟩ := joins
      dsimp only
      split
      next => exact untimed rfl
      next idle => exact .start joins (by simpa using idle)
    next => exact untimed rfl
  | sendTimer sender generation =>
    by_cases same : sender = k
    · rw [next, if_pos same, same]
      exact f.senderChange_tick generation
    · rw [next, if_neg same]
      refine .none fun g timer => ?_
      cases timer
      exact absurd rfl same
  | transferInterval duration => exact untimed rfl
  | trainingRequested initiator responder => exact untimed rfl
  | trainingDone initiator responder period => exact untimed rfl
  | frameArrives tx rx kind bytes sink => exact untimed rfl
  | sampleDue period => exact untimed rfl

end Flow

variable {s : Scenario} {outputs : Outputs} {w w' : World} {k : Nat} {f : Flow} {now : Time}

namespace World

/-- Worlds with the same devices, senders and unmeasured pairs have the same flows. -/
theorem HasFlow.congr (flow : w.HasFlow k f) (same : w'.flows = w.flows) : w'.HasFlow k f := by
  simp only [flows, Prod.mk.injEq] at same
  obtain ⟨devices, senders, pairs⟩ := same
  refine ⟨devices ▸ flow.device, senders ▸ flow.sender, ?_⟩
  rw [← List.getElem?_map, pairs, List.getElem?_map]
  exact flow.pair

/-- A station has one flow. -/
theorem HasFlow.unique {f' : Flow} (flow : w.HasFlow k f) (flow' : w.HasFlow k f') : f = f' := by
  obtain ⟨device, sender, pair⟩ := f
  obtain ⟨device', sender', pair'⟩ := f'
  cases Option.some.inj (flow.device.symm.trans flow'.device)
  cases Option.some.inj (flow.sender.symm.trans flow'.sender)
  cases Option.some.inj (flow.pair.symm.trans flow'.pair)
  rfl

/-- Every station has a flow. -/
theorem InScene.exists_flow (scene : w.InScene s outputs) (inside : k < s.numStas) :
    ∃ f, w.HasFlow k f := by
  obtain ⟨d, device, -⟩ := scene.exists_device inside
  obtain ⟨sd, sender, -⟩ := scene.exists_sender inside
  have setup := scene.getElem?_pairs_setup k
  rw [if_pos inside] at setup
  obtain ⟨p, pair, -⟩ := Option.map_eq_some_iff.1 setup
  exact ⟨⟨d, sd, p.unmeasured⟩, device, sender, by rw [pair]; rfl⟩

theorem InScene.wired (scene : w.InScene s outputs) (flow : w.HasFlow k f) : f.Wired s k := by
  obtain ⟨p, at_k, pair⟩ := Option.map_eq_some_iff.1 flow.pair
  obtain ⟨inside, setup⟩ := scene.of_getElem?_pairs at_k
  obtain ⟨sd, at_k', setup'⟩ := scene.exists_sender inside
  cases Option.some.inj (flow.sender.symm.trans at_k')
  refine ⟨inside, scene.node_eq flow.device, congrArg Sender.node setup', ?_, ?_⟩
  · rw [← pair]
    exact congrArg Pair.sender setup
  · rw [← pair]
    exact congrArg Pair.node setup

/-- The pair that is found for a station is the pair of its flow. -/
theorem InScene.unmeasured_of_get? (scene : w.InScene s outputs) (flow : w.HasFlow k f) {p : Pair}
    (found : w.experiment.pairs.get? (k + 1) = some p) : p.unmeasured = f.pair := by
  obtain ⟨mem, node⟩ := PairRegistry.of_get? found
  obtain ⟨j, -, at_j, node', -⟩ := scene.of_mem_pairs mem
  cases Nat.succ.inj (node.symm.trans node')
  have pair := flow.pair
  rw [at_j] at pair
  exact Option.some.inj pair

/-- What a report of a station finds in its pair is what is in the pair of its flow. -/
theorem InScene.of_get? (scene : w.InScene s outputs) (flow : w.HasFlow k f) {p : Pair}
    (found : w.experiment.pairs.get? (k + 1) = some p) :
    p.active = f.pair.active ∧ p.sender = k := by
  have pair := scene.unmeasured_of_get? flow found
  have sender := (scene.wired flow).sender
  rw [← pair] at sender ⊢
  exact ⟨rfl, sender⟩

/-! ## One table at a time -/

section Tables

variable (flow : w.HasFlow k f) (j : Nat)
include flow

theorem HasFlow.device_setAid (aid : Option Nat) :
    (w.network.setAid (j + 1) aid).devices[k + 1]? =
      some (if j = k then { f.device with aid := aid } else f.device) := by
  simp only [Network.setAid, Array.getElem?_modify, flow.device, Nat.add_right_cancel_iff]
  split <;> rfl

theorem HasFlow.sender_update (g : Sender → Sender) :
    (w.network.apps.updateSender j g).senders[k]? =
      some (if j = k then g f.sender else f.sender) := by
  simp only [Applications.updateSender, Array.getElem?_modify, flow.sender]
  split <;> rfl

theorem HasFlow.updateSender (g : Sender → Sender) :
    (w.updateApps fun apps => apps.updateSender j g).HasFlow k
      (if j = k then { f with sender := g f.sender } else f) := by
  have sender := flow.sender_update j g
  split
  next same => exact ⟨flow.device, by rwa [if_pos same] at sender, flow.pair⟩
  next other => exact ⟨flow.device, by rwa [if_neg other] at sender, flow.pair⟩

theorem HasFlow.pair_update (wired : f.Wired s k) {g : Pair → Pair}
    (unseen : ∀ p, (g p).unmeasured = g p.unmeasured) :
    (w.experiment.pairs.update (j + 1) g).pairs[k]?.map Pair.unmeasured =
      some (if j = k then g f.pair else f.pair) := by
  obtain ⟨p, at_k, pair⟩ := Option.map_eq_some_iff.1 flow.pair
  have node : p.node = k + 1 := (congrArg Pair.node pair).trans wired.pair
  simp only [PairRegistry.update, List.getElem?_map, at_k, Option.map_some, node,
    Nat.add_right_cancel_iff, eq_comm (a := k)]
  split
  · rw [unseen, pair]
  · rw [pair]

/-- The identifier of one station is set, and its pair and perhaps its sender are changed. -/
theorem HasFlow.changed (wired : f.Wired s k) {aid : Option Nat} {c : Bool} {g : Sender → Sender}
    {h : Pair → Pair} (devices : w'.network.devices = (w.network.setAid (j + 1) aid).devices)
    (senders : w'.network.apps.senders =
      if c then (w.network.apps.updateSender j g).senders else w.network.apps.senders)
    (pairs : w'.experiment.pairs = w.experiment.pairs.update (j + 1) h)
    (unseen : ∀ p, (h p).unmeasured = h p.unmeasured) :
    w'.HasFlow k
      (if j = k then
        ⟨{ f.device with aid := aid }, if c then g f.sender else f.sender, h f.pair⟩
      else f) := by
  have device := flow.device_setAid j aid
  have sender : w'.network.apps.senders[k]? =
      some (if j = k then if c then g f.sender else f.sender else f.sender) := by
    rw [senders]
    cases c with
    | false => simpa using flow.sender
    | true => exact flow.sender_update j g
  have pair := flow.pair_update j wired unseen
  rw [← devices] at device
  rw [← pairs] at pair
  by_cases same : j = k
  · rw [if_pos same] at device sender pair ⊢
    exact ⟨device, sender, pair⟩
  · rw [if_neg same] at device sender pair ⊢
    exact ⟨device, sender, pair⟩

end Tables

/-! ## Associations and their loss -/

theorem askedTimers_startSender {sd : Sender} (sender : w.network.apps.senders[k]? = some sd)
    (j : SenderId) :
    askedTimers k (w.startSender j).2 =
      if j = k ∧ sd.running = false then [sd.generation + 1] else [] := by
  unfold startSender Applications.start askedTimers
  dsimp only
  by_cases same : j = k
  · subst same
    rw [sender]
    cases running : sd.running with
    | false => simp [running, Request.event?, NetworkEvent.timer?]
    | true => simp [running]
  · rw [if_neg fun both => same both.1]
    split
    · simp [same, Request.event?, NetworkEvent.timer?]
    · rfl

/-- Enrol a station under the next identifier, and report its association. -/
def enrol (w : World) (d : Device) (now : Time) : World × List NetworkRequest :=
  ({ w with network := (w.network.associate d).1 } : World).dispatch
    (.associated (w.network.associate d).2) now

/-- Let a station go, and report the loss of its association. -/
def release (w : World) (d : Device) (now : Time) : World × List NetworkRequest :=
  ({ w with network := (w.network.deassociate d).1 } : World).dispatch
    (.deassociated (w.network.deassociate d).2) now

theorem of_enrol {d : Device} (sound : (w.enrol d now).1.fatal = none) :
    ∃ p, w.experiment.pairs.get? d.node = some p ∧
      (w.enrol d now).1.network.devices =
        (w.network.setAid d.node (some w.network.nextAid)).devices ∧
      (w.enrol d now).1.network.apps.senders =
        (if !p.active then (w.network.apps.updateSender p.sender Sender.start).senders
        else w.network.apps.senders) ∧
      (w.enrol d now).1.experiment.pairs =
        w.experiment.pairs.update d.node (fun p => p.activate now) ∧
      (w.enrol d now).2 = (if p.active then [] else (w.startSender p.sender).2) := by
  obtain ⟨p, found, pairs, network, requests⟩ := dispatch_associated sound
  refine ⟨p, found, ?_, ?_, pairs, requests⟩
  · rw [enrol, network]
    cases p.active <;> rfl
  · rw [enrol, network]
    cases p.active <;> rfl

theorem of_release {d : Device} (sound : (w.release d now).1.fatal = none) :
    ∃ p, w.experiment.pairs.get? d.node = some p ∧
      (w.release d now).1.network.devices = (w.network.setAid d.node none).devices ∧
      (w.release d now).1.network.apps.senders =
        (if p.active then (w.network.apps.updateSender p.sender Sender.stop).senders
        else w.network.apps.senders) ∧
      (w.release d now).1.experiment.pairs =
        w.experiment.pairs.update d.node Pair.deactivate := by
  obtain ⟨p, found, pairs, network⟩ := dispatch_deassociated sound
  refine ⟨p, found, ?_, ?_, pairs⟩
  · rw [release, network]
    cases p.active <;> rfl
  · rw [release, network]
    cases p.active <;> rfl

/-- An association that brings no fault takes the flow of its station to the joined one. -/
theorem InScene.hasFlow_enrol (scene : w.InScene s outputs) {j : Nat} {g : Flow}
    (joining : w.HasFlow j g) (flow : w.HasFlow k f)
    (sound : (w.enrol g.device now).1.fatal = none) :
    (w.enrol g.device now).1.HasFlow k (if j = k then f.join w.network.nextAid now else f) := by
  obtain ⟨p, found, devices, senders, pairs, -⟩ := of_enrol sound
  rw [(scene.wired joining).device] at found devices pairs
  obtain ⟨active, sender⟩ := scene.of_get? joining found
  rw [active, sender] at senders
  have changed := flow.changed j (scene.wired flow) devices senders pairs fun _ => rfl
  by_cases same : j = k
  · subst same
    cases joining.unique flow
    rw [if_pos rfl] at changed ⊢
    unfold Flow.join
    cases active : f.pair.active <;> simpa [active] using changed
  · rw [if_neg same] at changed ⊢
    exact changed

/-- It asks for a timer if its sender is started. -/
theorem InScene.timers_enrol (scene : w.InScene s outputs) {j : Nat} {g : Flow}
    (joining : w.HasFlow j g) (flow : w.HasFlow k f)
    (sound : (w.enrol g.device now).1.fatal = none) :
    askedTimers k (w.enrol g.device now).2 =
      if j = k ∧ f.pair.active = false ∧ f.sender.running = false then [f.sender.generation + 1]
      else [] := by
  obtain ⟨p, found, -, -, -, requests⟩ := of_enrol sound
  rw [(scene.wired joining).device] at found
  obtain ⟨active, sender⟩ := scene.of_get? joining found
  rw [active, sender] at requests
  rw [requests]
  cases active : g.pair.active with
  | false =>
    rw [if_neg nofun, askedTimers_startSender flow.sender j]
    by_cases same : j = k
    · subst same
      cases joining.unique flow
      simp [active]
    · simp [same]
  | true =>
    have none : ¬ (j = k ∧ f.pair.active = false ∧ f.sender.running = false) := by
      rintro ⟨same, idle, -⟩
      subst same
      cases joining.unique flow
      rw [active] at idle
      cases idle
    rw [if_neg none]
    rfl

/-- The loss of an association that brings no fault takes the flow of its station to the one that
has left. -/
theorem InScene.hasFlow_release (scene : w.InScene s outputs) {j : Nat} {g : Flow}
    (leaving : w.HasFlow j g) (flow : w.HasFlow k f)
    (sound : (w.release g.device now).1.fatal = none) :
    (w.release g.device now).1.HasFlow k (if j = k then f.leave else f) := by
  obtain ⟨p, found, devices, senders, pairs⟩ := of_release sound
  rw [(scene.wired leaving).device] at found devices pairs
  obtain ⟨active, sender⟩ := scene.of_get? leaving found
  rw [active, sender] at senders
  have changed := flow.changed j (scene.wired flow) devices senders pairs fun _ => rfl
  by_cases same : j = k
  · subst same
    cases leaving.unique flow
    rw [if_pos rfl] at changed ⊢
    exact changed
  · rw [if_neg same] at changed ⊢
    exact changed

/-! ## Events -/

theorem isBlocked_eq (scene : w.InScene s outputs) (scene' : w'.InScene s outputs) :
    w'.network.isBlocked = w.network.isBlocked := by
  unfold Network.isBlocked
  rw [scene.blockages, scene'.blockages]

/-- A station that begins a beacon interval keeps its flow unless it is cut off. -/
theorem InScene.hasFlow_loseStation (scene : w.InScene s outputs) {j : Nat} {g : Flow}
    (at_j : w.HasFlow j g) (flow : w.HasFlow k f)
    (sound : (loseStation now w g.device).fatal = none) :
    (loseStation now w g.device).HasFlow k (if j = k then f.cutOff w.network now k else f) := by
  have node := (scene.wired at_j).device
  unfold loseStation at sound ⊢
  rw [node] at sound ⊢
  split
  next lost =>
    rw [if_pos lost] at sound
    have left := scene.hasFlow_release at_j flow sound
    by_cases same : j = k
    · subst same
      cases at_j.unique flow
      rw [if_pos rfl] at left ⊢
      rw [Flow.cutOff, if_pos lost]
      exact left
    · rw [if_neg same] at left ⊢
      exact left
  next kept =>
    by_cases same : j = k
    · subst same
      cases at_j.unique flow
      rw [if_pos rfl, Flow.cutOff, if_neg kept]
      exact flow
    · rw [if_neg same]
      exact flow

theorem InScene.hasFlow_foldl_loseStation {ds : List Device} (scene : w.InScene s outputs)
    (snapshot : ∀ d ∈ ds, ∃ j g, w.HasFlow j g ∧ d = g.device)
    (distinct : (ds.map Device.node).Nodup)
    (flow : w.HasFlow k f) (sound : (ds.foldl (loseStation now) w).fatal = none) :
    (k + 1 ∈ ds.map Device.node →
        (ds.foldl (loseStation now) w).HasFlow k (f.cutOff w.network now k)) ∧
      (k + 1 ∉ ds.map Device.node → (ds.foldl (loseStation now) w).HasFlow k f) := by
  induction ds generalizing w f with
  | nil => exact ⟨nofun, fun _ => flow⟩
  | cons d ds ih =>
    rcases snapshot d List.mem_cons_self with ⟨j, g, at_j, rfl⟩
    have node := (scene.wired at_j).device
    have first : (loseStation now w g.device).fatal = none := fatal_of_foldl_loseStation sound
    have scene' : (loseStation now w g.device).InScene s outputs :=
      (setup_loseStation now w g.device).trans scene
    have flow' := scene.hasFlow_loseStation at_j flow first
    rw [List.map_cons, List.nodup_cons] at distinct
    -- The stations behind the first one still have the flows of the snapshot.
    have snapshot' : ∀ d ∈ ds, ∃ j g',
        (loseStation now w g.device).HasFlow j g' ∧ d = g'.device := by
      intro d mem
      rcases snapshot d (List.mem_cons_of_mem _ mem) with ⟨i, g', at_i, rfl⟩
      have other : j ≠ i := by
        rintro rfl
        cases at_j.unique at_i
        exact distinct.1 (List.mem_map_of_mem mem)
      have kept := scene.hasFlow_loseStation at_j at_i first
      rw [if_neg other] at kept
      exact ⟨i, g', kept, rfl⟩
    rcases ih scene' snapshot' distinct.2 flow' sound with ⟨listed, unlisted⟩
    rw [List.foldl_cons, List.map_cons, List.mem_cons, node]
    rw [node] at distinct
    by_cases same : j = k
    · subst same
      rw [if_pos rfl] at unlisted
      exact ⟨fun _ => unlisted distinct.1, fun none => absurd (.inl rfl) none⟩
    · rw [if_neg same] at listed unlisted
      have cut :
          f.cutOff (loseStation now w g.device).network now k = f.cutOff w.network now k := by
        unfold Flow.cutOff
        rw [isBlocked_eq scene scene']
      rw [cut] at listed
      refine ⟨fun either => listed (either.resolve_left fun eq => same (Nat.succ.inj eq).symm),
        fun neither => unlisted fun mem => neither (.inr mem)⟩

/-- An event that may not ask for timers asks for none. -/
theorem askedTimers_of_causes {rs : List NetworkRequest} {event : NetworkEvent}
    (causes : ∀ r ∈ rs, ∃ e, r.event? = some e ∧ event.Causes e)
    (other : ∀ id g, ¬ event.Causes (.sendTimer id g)) : askedTimers k rs = [] := by
  apply List.filterMap_eq_nil_iff.2
  intro r mem
  obtain ⟨e, asks, caused⟩ := causes r mem
  rw [asks]
  cases e with
  | sendTimer id g => exact absurd caused (other id g)
  | _ => rfl

theorem InScene.hasFlow_beginInterval {index : Nat} (scene : w.InScene s outputs)
    (flow : w.HasFlow k f) (sound : (w.beginInterval index now).1.fatal = none) :
    (w.beginInterval index now).1.HasFlow k (f.cutOff w.network now k) := by
  obtain ⟨ap, at_zero, -⟩ := scene.exists_accessPoint
  unfold beginInterval at sound ⊢
  rw [scene.accessPoint, Option.bind_some, at_zero] at sound ⊢
  have snapshot : ∀ d ∈ w.network.stations, ∃ j g, w.HasFlow j g ∧ d = g.device := by
    intro d mem
    rcases scene.mem_stations mem with ⟨at_d, j, inside, node, -⟩
    rcases scene.exists_flow inside with ⟨g, at_j⟩
    rw [node, at_j.device] at at_d
    exact ⟨j, g, at_j, (Option.some.inj at_d).symm⟩
  exact (scene.hasFlow_foldl_loseStation snapshot scene.nodup_stations flow sound).1
    (scene.mem_map_node_stations (scene.wired flow).inside)

theorem InScene.hasFlow_completeAssociation {station : NodeId} (scene : w.InScene s outputs)
    (flow : w.HasFlow k f) (sound : (w.completeAssociation station now).1.fatal = none) :
    (w.completeAssociation station now).1.HasFlow k
        (f.next w.network now k (.associationComplete station)) ∧
      askedTimers k (w.completeAssociation station now).2 =
        f.timers w.network now k (.associationComplete station) := by
  have still (none : ¬ (station = k + 1 ∧ f.Joins w.network now k)) :
      w.HasFlow k (f.next w.network now k (.associationComplete station)) ∧
        askedTimers k [] = f.timers w.network now k (.associationComplete station) := by
    refine ⟨?_, ?_⟩
    · rw [Flow.next, if_neg none]
      exact flow
    · rw [Flow.timers, if_neg fun asked => none ⟨asked.1, asked.2.1⟩]
      rfl
  unfold completeAssociation at sound ⊢
  rw [scene.accessPoint] at sound ⊢
  cases at_station : w.network.devices[station]? with
  | none =>
    refine still fun joins => ?_
    rw [joins.1, flow.device] at at_station
    cases at_station
  | some d =>
    rw [at_station] at sound
    dsimp only at sound ⊢
    split
    next refused =>
      refine still fun joins => ?_
      rcases joins with ⟨rfl, up, idle⟩
      cases Option.some.inj (flow.device.symm.trans at_station)
      simp [up, idle] at refused
    next admitted =>
      rw [if_neg admitted] at sound
      rcases scene.of_getElem? at_station with ⟨rfl, setup⟩ | ⟨j, inside, rfl, -⟩
      · -- The access point has no pair, so that its association would be a fault.
        rcases dispatch_associated sound with ⟨p, found, -⟩
        rcases PairRegistry.of_get? found with ⟨mem, node⟩
        rcases scene.of_mem_pairs mem with ⟨j, -, -, node', -⟩
        have zero : d.node = 0 := congrArg Device.node setup
        cases (node.trans zero).symm.trans node'
      · rcases scene.exists_flow inside with ⟨g, at_j⟩
        cases Option.some.inj (at_j.device.symm.trans at_station)
        have flow' := scene.hasFlow_enrol at_j flow sound
        have asked := scene.timers_enrol at_j flow sound
        by_cases same : j = k
        · subst same
          cases at_j.unique flow
          have joins : f.Joins w.network now j := by simpa [Flow.Joins] using admitted
          rw [if_pos rfl] at flow'
          rw [Flow.next, Flow.timers, if_pos ⟨rfl, joins⟩]
          refine ⟨flow', asked.trans ?_⟩
          simp [joins]
        · have other : ¬ (j + 1 = k + 1 ∧ f.Joins w.network now k) :=
            fun joins => same (Nat.succ.inj joins.1)
          rw [if_neg same] at flow'
          rw [if_neg fun both => same both.1] at asked
          rw [Flow.next, Flow.timers, if_neg other, if_neg fun joins => same (Nat.succ.inj joins.1)]
          exact ⟨flow', asked⟩

theorem HasFlow.sendPacket {sender : SenderId} {generation : Nat} (flow : w.HasFlow k f) :
    (w.sendPacket sender generation now).1.HasFlow k
        (f.next w.network now k (.sendTimer sender generation)) ∧
      askedTimers k (w.sendPacket sender generation now).2 =
        f.timers w.network now k (.sendTimer sender generation) := by
  have still (none : sender = k → f.sender.isCurrent generation = false) :
      w.HasFlow k (f.next w.network now k (.sendTimer sender generation)) ∧
        askedTimers k [] = f.timers w.network now k (.sendTimer sender generation) := by
    simp only [Flow.next, Flow.timers, Flow.tick, Flow.Sends]
    by_cases same : sender = k
    · simpa [same, none same, askedTimers] using flow
    · simpa [same, askedTimers] using flow
  unfold World.sendPacket
  cases at_sender : w.network.apps.senders[sender]? with
  | none =>
    refine still fun same => ?_
    rw [same, flow.sender] at at_sender
    cases at_sender
  | some sd =>
    dsimp only
    split
    next stale =>
      refine still fun same => ?_
      subst same
      cases Option.some.inj (flow.sender.symm.trans at_sender)
      simpa using stale
    next current =>
      split
      next finished =>
        have ended : (w.updateApps fun apps => apps.finish sender).HasFlow k _ :=
          flow.updateSender sender Sender.finish
        by_cases same : sender = k
        · subst same
          cases Option.some.inj (flow.sender.symm.trans at_sender)
          have current : f.sender.isCurrent generation = true := by simpa using current
          have stops : ¬ f.Sends now generation := by simp [Flow.Sends, finished]
          rw [if_pos rfl] at ended
          rw [Flow.next, if_pos rfl, Flow.tick, if_neg stops, if_pos current, Flow.timers,
            if_neg fun both => stops both.2]
          exact ⟨ended, rfl⟩
        · rw [if_neg same] at ended
          rw [Flow.next, if_neg same, Flow.timers, if_neg fun both => same both.1]
          exact ⟨ended, rfl⟩
      next unfinished =>
        have counted :
            (w.updateApps fun apps => apps.recordSent sender sd.config.packetBytes).HasFlow k _ :=
          flow.updateSender sender fun sd' => sd'.recordSent sd.config.packetBytes
        have timer : ∀ (frame : List NetworkRequest) delay, askedTimers k frame = [] →
            askedTimers k (frame ++ [.afterDelay delay (.sendTimer sender generation)]) =
              if sender = k then [generation] else [] := by
          intro frame delay none
          rw [askedTimers, List.filterMap_append, ← askedTimers, none]
          by_cases same : sender = k <;> simp [Request.event?, NetworkEvent.timer?, same]
        by_cases same : sender = k
        · subst same
          cases Option.some.inj (flow.sender.symm.trans at_sender)
          have sends : f.Sends now generation := by simpa [Flow.Sends, unfinished] using current
          rw [if_pos rfl] at counted timer
          have next : f.next w.network now sender (.sendTimer sender generation) =
              { f with sender := f.sender.recordSent f.sender.config.packetBytes } := by
            rw [Flow.next, if_pos rfl, Flow.tick, if_pos sends]
          have asks : f.timers w.network now sender (.sendTimer sender generation) =
              [generation] := by
            rw [Flow.timers, if_pos ⟨rfl, sends⟩]
          rw [next, asks]
          refine ⟨counted, timer _ _ ?_⟩
          split <;> rfl
        · rw [if_neg same] at counted timer
          have next : f.next w.network now k (.sendTimer sender generation) = f := by
            rw [Flow.next, if_neg same]
          have asks : f.timers w.network now k (.sendTimer sender generation) = [] := by
            rw [Flow.timers, if_neg fun both => same both.1]
          rw [next, asks]
          refine ⟨counted, timer _ _ ?_⟩
          split <;> rfl

/-- In the scene of a scenario an event that brings no fault takes every flow to the next one. -/
theorem InScene.hasFlow_act {event : NetworkEvent} (scene : w.InScene s outputs)
    (flow : w.HasFlow k f) (sound : (w.act now event).1.fatal = none) :
    (w.act now event).1.HasFlow k (f.next w.network now k event) := by
  cases event with
  | beaconInterval index => exact scene.hasFlow_beginInterval flow sound
  | transferInterval duration => exact flow.congr (w.flows_beginTransfer ..)
  | associationComplete station => exact (scene.hasFlow_completeAssociation flow sound).1
  | trainingRequested initiator responder =>
    exact flow.congr (congrArg World.flows (w.fst_beginTraining ..))
  | trainingDone initiator responder period => exact flow.congr (w.flows_endTraining ..)
  | frameArrives tx rx kind bytes sink => exact flow.congr (w.flows_receiveFrame ..)
  | sendTimer sender generation => exact flow.sendPacket.1
  | sampleDue period => exact flow.congr (w.flows_takeSample ..)

/-- In the scene of a scenario an event that brings no fault asks for the timers of every flow. -/
theorem InScene.timers_act {event : NetworkEvent} (scene : w.InScene s outputs)
    (flow : w.HasFlow k f) (sound : (w.act now event).1.fatal = none) :
    askedTimers k (w.act now event).2 = f.timers w.network now k event := by
  have causes : ∀ r ∈ (w.act now event).2, ∃ e, r.event? = some e ∧ event.Causes e :=
    fun _ => causes_of_mem_act
  cases event with
  | associationComplete station => exact (scene.hasFlow_completeAssociation flow sound).2
  | sendTimer sender generation => exact flow.sendPacket.2
  | beaconInterval index => exact askedTimers_of_causes causes nofun
  | transferInterval duration => exact askedTimers_of_causes causes nofun
  | trainingRequested initiator responder => exact askedTimers_of_causes causes nofun
  | trainingDone initiator responder period => exact askedTimers_of_causes causes nofun
  | frameArrives tx rx kind bytes sink => exact askedTimers_of_causes causes nofun
  | sampleDue period => exact askedTimers_of_causes causes nofun

end World

/-! ## Along a run -/

/-- The flow of a station before anything has happened. -/
def Flow.initial (s : Scenario) (k : Nat) : Flow :=
  ⟨s.stationDevice k, Scenario.flowSender s.sender k, Scenario.flowPair k⟩

theorem DenseRun.LaidOut.hasFlow {r : DenseRun} (run : LaidOut s outputs r)
    (inside : k < s.numStas) : r.world.HasFlow k (Flow.initial s k) where
  device := by
    rw [run.network]
    exact s.getElem?_devices_succ inside
  sender := by
    rw [run.network]
    simp [Scenario.network, Scenario.flows, List.getElem?_range' inside, Flow.initial]
  pair := by
    rw [run.pairs]
    simp only [Scenario.pairs, List.getElem?_map, List.getElem?_range' inside, Nat.zero_add,
      Nat.one_mul]
    rfl

end DenseDmg
