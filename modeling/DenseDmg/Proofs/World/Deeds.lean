import DenseDmg.Proofs.World.Effects

/-!
# The deeds of an event

One event may report to the experiment many times, and rewire the network in between.  What it does
to its world is a list of deeds, which are done one after the other.

* `World.deeds`: the deeds of each event.
* `World.act_eq_foldl`: the world that an event leaves is the one in which its deeds have been done.
* `World.act_keeps`: what every deed of an event keeps is kept by the event.
* `Deed.of_fatal`: once there has been a fault, no deed changes the fault or the experiment.
* `Deed.fatal_perform`: until then the fault of a world is the one that a deed brings.
-/

namespace DenseDmg

/-- What happens to a world at one go. -/
inductive Deed
  /-- The network changes behind the back of the experiment. -/
  | rewire (change : Network → Network)
  /-- A link event is handed to the experiment. -/
  | report (event : LinkEvent)
  /-- The throughput is sampled. -/
  | sample
  | fail (f : Fault)

/-- The fault of a failed attempt. -/
def faultOf {α : Type} : Except Fault α → Option Fault
  | .ok _ => none
  | .error f => some f

namespace Deed

def perform (now : Time) (w : World) : Deed → World
  | rewire change => { w with network := change w.network }
  | report event => (w.dispatch event now).1
  | sample => w.sampleThroughput now
  | fail f => w.fail f

/-- What a deed asks of the simulator. -/
def requests (now : Time) (w : World) : Deed → List NetworkRequest
  | report event => (w.dispatch event now).2
  | _ => []

end Deed

/-! ## The deeds of each event -/

namespace World

variable (w : World) (now : Time)

/-- A station loses its association, and this is reported. -/
def lossDeeds (d : Device) : List Deed :=
  [.rewire fun n => (n.deassociate d).1, .report (.deassociated (w.network.deassociate d).2)]

/-- A station associates, and this is reported. -/
def associationDeeds (d : Device) : List Deed :=
  [.rewire fun n => (n.associate d).1, .report (.associated (w.network.associate d).2)]

def transferDeed (duration : Time) (d : Device) : Deed :=
  .report (.transferStarted ⟨d.node, d.address, d.bssid, d.isAssociated, duration⟩)

/-- The report of a training for one of its ends, which fails without a subscription. -/
def trainingDeed (reporter peer : Device) (period : AccessPeriod) (side : TrainingSide) : Deed :=
  match w.trainingContext reporter.address with
  | .error f => .fail f
  | .ok context =>
    .report (.trainingCompleted ⟨context, peer.address, period, side, true, true,
      Network.bestSector reporter peer, reporter.antenna⟩)

def applicationDeed (f : Applications → Applications) : Deed :=
  .rewire fun n => { n with apps := f n.apps }

/-- What an event does at a given instant, deed by deed. -/
def deeds : NetworkEvent → List Deed
  | .beaconInterval _ =>
    match w.network.accessPoint.bind fun node => w.network.devices[node]? with
    | none => []
    | some _ =>
      (w.network.stations.filter fun d =>
        w.network.isBlocked d.node now && d.isAssociated).flatMap w.lossDeeds
  | .transferInterval duration =>
    match w.network.accessPoint with
    | none => []
    | some ap =>
      (w.network.stations.filter fun d => w.network.linkUp ap d.node now).map
        (transferDeed duration)
  | .associationComplete station =>
    match w.network.accessPoint, w.network.devices[station]? with
    | some ap, some d =>
      if !w.network.linkUp ap station now || d.isAssociated then [] else w.associationDeeds d
    | _, _ => []
  | .trainingRequested _ _ => []
  | .trainingDone initiator responder period =>
    match w.network.devices[initiator]?, w.network.devices[responder]? with
    | some a, some b =>
      if w.network.linkUp initiator responder now then
        [w.trainingDeed a b period .initiator, w.trainingDeed b a period .responder]
      else []
    | _, _ => []
  | .frameArrives tx rx kind bytes sink =>
    match w.network.devices[tx]?, w.network.devices[rx]? with
    | some a, some b =>
      if w.network.linkUp tx rx now then
        sink.toList.map (fun id => applicationDeed fun apps => apps.recordReceived id bytes) ++
          [.report (.frameReceived ⟨b.address, a.address, kind, w.network.snr a b now⟩)]
      else []
    | _, _ => []
  | .sendTimer sender generation =>
    match w.network.apps.senders[sender]? with
    | none => []
    | some s =>
      if !s.isCurrent generation then []
      else if s.isFinished now then [applicationDeed fun apps => apps.finish sender]
      else [applicationDeed fun apps => apps.recordSent sender s.config.packetBytes]
  | .sampleDue _ => [.sample]

/-! ## Their sum -/

variable {w} {now}

theorem blockages_dispatch (w : World) (event : LinkEvent) (now : Time) :
    (w.dispatch event now).1.network.blockages = w.network.blockages := by
  have same := congrArg (fun w : World => w.network.blockages) (w.setup_dispatch event now)
  exact same

/-- Stations lose their associations one after the other, and nobody is blocked by that. -/
theorem foldl_loseStation {w₀ : World} (ds : List Device)
    (same : w.network.blockages = w₀.network.blockages) :
    ds.foldl (loseStation now) w =
      ((ds.filter fun d => w₀.network.isBlocked d.node now && d.isAssociated).flatMap
        w₀.lossDeeds).foldl (Deed.perform now) w := by
  induction ds generalizing w with
  | nil => rfl
  | cons d ds ih =>
    have blocked : w.network.isBlocked d.node now = w₀.network.isBlocked d.node now := by
      unfold Network.isBlocked
      rw [same]
    rw [List.foldl_cons, loseStation, blocked, List.filter_cons]
    split
    next lost =>
      rw [List.flatMap_cons, List.foldl_append]
      exact ih ((blockages_dispatch _ _ now).trans same)
    next => exact ih same

theorem announceTransfer_eq_foldl (w : World) (duration now : Time) (ds : List Device) :
    (w.announceTransfer duration now ds).1 =
      (ds.map (transferDeed duration)).foldl (Deed.perform now) w := by
  induction ds generalizing w with
  | nil => rfl
  | cons d ds ih => exact ih _

theorem reportTraining_eq_perform {w₀ : World} (same : w.subscriptions = w₀.subscriptions)
    (reporter peer : Device) (period : AccessPeriod) (side : TrainingSide) :
    (w.reportTraining reporter peer period side now).1 =
      (w₀.trainingDeed reporter peer period side).perform now w := by
  have known : w.trainingContext reporter.address = w₀.trainingContext reporter.address := by
    unfold trainingContext
    rw [same]
  unfold reportTraining trainingDeed
  rw [known]
  cases w₀.trainingContext reporter.address <;> rfl

theorem subscriptions_reportTraining (w : World) (reporter peer : Device) (period : AccessPeriod)
    (side : TrainingSide) (now : Time) :
    (w.reportTraining reporter peer period side now).1.subscriptions = w.subscriptions := by
  have same := congrArg World.subscriptions (w.setup_reportTraining reporter peer period side now)
  exact same

/-- An event leaves the world in which its deeds have been done, one after the other. -/
theorem act_eq_foldl (w : World) (now : Time) (event : NetworkEvent) :
    (w.act now event).1 = (w.deeds now event).foldl (Deed.perform now) w := by
  cases event with
  | beaconInterval index =>
    unfold act beginInterval deeds
    dsimp only
    cases w.network.accessPoint.bind fun node => w.network.devices[node]? with
    | none => rfl
    | some ap => exact foldl_loseStation _ rfl
  | transferInterval duration =>
    unfold act beginTransfer deeds
    dsimp only
    cases w.network.accessPoint with
    | none => rfl
    | some ap => exact w.announceTransfer_eq_foldl duration now _
  | associationComplete station =>
    unfold act completeAssociation deeds
    dsimp only
    cases w.network.accessPoint with
    | none => rfl
    | some ap =>
      cases w.network.devices[station]? with
      | none => rfl
      | some d =>
        dsimp only
        split <;> rfl
  | trainingRequested initiator responder => exact w.fst_beginTraining initiator responder now
  | trainingDone initiator responder period =>
    unfold act endTraining deeds
    dsimp only
    cases w.network.devices[initiator]? with
    | none => rfl
    | some a =>
      cases w.network.devices[responder]? with
      | none => rfl
      | some b =>
        dsimp only
        split
        · rw [reportTraining_eq_perform (w.subscriptions_reportTraining ..),
            reportTraining_eq_perform rfl]
          rfl
        · rfl
  | frameArrives tx rx kind bytes sink =>
    unfold act receiveFrame deeds
    dsimp only
    cases w.network.devices[tx]? with
    | none => rfl
    | some a =>
      cases w.network.devices[rx]? with
      | none => rfl
      | some b =>
        dsimp only
        split
        · cases sink <;> rfl
        · rfl
  | sendTimer sender generation =>
    unfold act sendPacket deeds
    dsimp only
    cases w.network.apps.senders[sender]? with
    | none => rfl
    | some s =>
      dsimp only
      split
      · rfl
      · split <;> rfl
  | sampleDue period => rfl

/-! ## One deed of an event -/

end World

/-- What the deeds of an event may be. -/
inductive NetworkEvent.Does : NetworkEvent → Deed → Prop
  | report {event : NetworkEvent} (e : LinkEvent) : Does event (.report e)
  | loss (index : Nat) (d : Device) :
    Does (.beaconInterval index) (.rewire fun n => (n.deassociate d).1)
  | association (station : NodeId) (d : Device) :
    Does (.associationComplete station) (.rewire fun n => (n.associate d).1)
  | stranger (initiator responder : NodeId) (period : AccessPeriod) (f : Fault) :
    Does (.trainingDone initiator responder period) (.fail f)
  | arrival (tx rx : NodeId) (kind : FrameKind) (bytes : Nat) (id : SinkId) :
    Does (.frameArrives tx rx kind bytes (some id))
      (World.applicationDeed fun apps => apps.recordReceived id bytes)
  | finish (sender : SenderId) (generation : Nat) :
    Does (.sendTimer sender generation) (World.applicationDeed fun apps => apps.finish sender)
  | send (sender : SenderId) (generation bytes : Nat) :
    Does (.sendTimer sender generation)
      (World.applicationDeed fun apps => apps.recordSent sender bytes)
  | sample (period : Time) : Does (.sampleDue period) .sample

namespace World

variable {w : World} {now : Time} {event : NetworkEvent}

theorem does_trainingDeed (w : World) (initiator responder : NodeId) (reporter peer : Device)
    (period : AccessPeriod) (side : TrainingSide) :
    (NetworkEvent.trainingDone initiator responder period).Does
      (w.trainingDeed reporter peer period side) := by
  unfold trainingDeed
  split
  · exact .stranger ..
  · exact .report ..

theorem does_of_mem_deeds {d : Deed} (mem : d ∈ w.deeds now event) : event.Does d := by
  cases event with
  | beaconInterval index =>
    simp only [deeds] at mem
    split at mem
    · cases mem
    · obtain ⟨station, -, lost⟩ := List.mem_flatMap.1 mem
      simp only [lossDeeds, List.mem_cons, List.not_mem_nil, or_false] at lost
      rcases lost with rfl | rfl
      · exact .loss ..
      · exact .report ..
  | transferInterval duration =>
    simp only [deeds] at mem
    split at mem
    · cases mem
    · obtain ⟨station, -, rfl⟩ := List.mem_map.1 mem
      exact .report ..
  | associationComplete station =>
    simp only [deeds] at mem
    split at mem
    · split at mem
      · cases mem
      · simp only [associationDeeds, List.mem_cons, List.not_mem_nil, or_false] at mem
        rcases mem with rfl | rfl
        · exact .association ..
        · exact .report ..
    · cases mem
  | trainingRequested initiator responder => cases mem
  | trainingDone initiator responder period =>
    simp only [deeds] at mem
    split at mem
    · split at mem
      · simp only [List.mem_cons, List.not_mem_nil, or_false] at mem
        rcases mem with rfl | rfl
        · exact does_trainingDeed ..
        · exact does_trainingDeed ..
      · cases mem
    · cases mem
  | frameArrives tx rx kind bytes sink =>
    simp only [deeds] at mem
    split at mem
    · split at mem
      · rcases List.mem_append.1 mem with counted | reported
        · obtain ⟨id, counts, rfl⟩ := List.mem_map.1 counted
          rw [Option.mem_toList.1 counts]
          exact .arrival ..
        · obtain rfl := List.mem_singleton.1 reported
          exact .report ..
      · cases mem
    · cases mem
  | sendTimer sender generation =>
    simp only [deeds] at mem
    split at mem
    · cases mem
    · split at mem
      · cases mem
      · split at mem
        · obtain rfl := List.mem_singleton.1 mem
          exact .finish ..
        · obtain rfl := List.mem_singleton.1 mem
          exact .send ..
  | sampleDue period =>
    obtain rfl := List.mem_singleton.1 mem
    exact .sample period

/-- What every deed of an event preserves is preserved by the event. -/
theorem act_preserves {P : World → Prop}
    (preserved : ∀ d, event.Does d → ∀ w, P w → P (d.perform now w)) {w : World} (holds : P w) :
    P (w.act now event).1 := by
  have all (ds : List Deed) (does : ∀ d ∈ ds, event.Does d) (w : World) (holds : P w) :
      P (ds.foldl (Deed.perform now) w) := by
    induction ds generalizing w with
    | nil => exact holds
    | cons d ds ih =>
      exact ih (fun d' mem => does d' (List.mem_cons_of_mem _ mem)) _
        (preserved d (does d List.mem_cons_self) w holds)
  rw [act_eq_foldl]
  exact all _ (fun d mem => does_of_mem_deeds mem) w holds

/-- What every deed of an event keeps is kept by the event. -/
theorem act_keeps {α : Type} (part : World → α)
    (kept : ∀ d, event.Does d → ∀ w, part (d.perform now w) = part w) (w : World) :
    part (w.act now event).1 = part w :=
  act_preserves (fun d does v same => (kept d does v).trans same) rfl

/-! ## The faults that deeds bring -/

/-- The fault with which the network meets an order, if it does. -/
def refusal? (w : World) : Order → Option Fault
  | .train initiator peer => faultOf (w.requestTraining initiator peer)
  | _ => none

theorem refusal?_congr {w w' : World} (same : w'.network.devices = w.network.devices) :
    w'.refusal? = w.refusal? := by
  have nodeOf : w'.network.nodeOf? = w.network.nodeOf? := by
    funext address
    rw [Network.nodeOf?, same]
    rfl
  funext order
  cases order with
  | startSender sender => rfl
  | stopSender sender => rfl
  | train initiator peer =>
    show faultOf (w'.requestTraining initiator peer) = faultOf (w.requestTraining initiator peer)
    unfold requestTraining
    rw [nodeOf]
    cases w.network.nodeOf? initiator with
    | none => rfl
    | some a => cases w.network.nodeOf? peer <;> rfl

theorem refusal?_check (w : World) (answer : Except Fault Unit) :
    (w.check answer).refusal? = w.refusal? :=
  refusal?_congr (congrArg Network.devices (w.sameParts_check answer).network)

theorem fatal_fail (w : World) (f : Fault) : (w.fail f).fatal = w.fatal.or (some f) := by
  unfold fail
  cases w.fatal <;> rfl

theorem fatal_check (w : World) (answer : Except Fault Unit) :
    (w.check answer).fatal = w.fatal.or (faultOf answer) := by
  cases answer with
  | ok _ => exact Option.or_none.symm
  | error f => exact w.fatal_fail f

/-- Of the orders that are refused, the first one counts. -/
theorem fatal_obeyAll_eq_or (w : World) (orders : List Order) :
    (w.obeyAll orders).1.fatal = w.fatal.or (orders.findSome? w.refusal?) := by
  induction orders generalizing w with
  | nil => exact Option.or_none.symm
  | cons order rest ih =>
    have first : (w.obey order).1.fatal = w.fatal.or (w.refusal? order) := by
      cases order with
      | startSender sender => exact Option.or_none.symm
      | stopSender sender => exact Option.or_none.symm
      | train initiator peer =>
        unfold obey refusal?
        dsimp only
        cases w.requestTraining initiator peer with
        | ok requests => exact Option.or_none.symm
        | error f => exact w.fatal_fail f
    -- The order is carried out or not, but the others are met by the same devices.
    have devices : (w.obey order).1.network.devices = w.network.devices :=
      w.devices_obeyAll [order]
    have others := ih (w.obey order).1
    rw [refusal?_congr devices, first, Option.or_assoc] at others
    refine others.trans ?_
    rw [List.findSome?_cons]
    cases w.refusal? order <;> rfl

end World

namespace Deed

variable {w : World} {f : Fault}

/-- The fault that a deed brings to a world without one, if it does: a handler fails, or an order is
refused that it gives; a sample fails; or the fault is there already. -/
def fault? (now : Time) (w : World) : Deed → Option Fault
  | rewire _ => none
  | report event =>
    let h := w.experiment.handle event (w.network.traceIndex now) now
    (faultOf h.answer).or (h.orders.findSome? w.refusal?)
  | sample =>
    faultOf (w.experiment.sample now fun sink => (w.network.apps.received sink).bytes).2
  | fail f => some f

/-- Once there has been a fault, no deed changes the fault or the experiment, or asks for
anything. -/
theorem of_fatal (fatal : w.fatal = some f) (now : Time) (d : Deed) :
    (d.perform now w).fatal = some f ∧ (d.perform now w).experiment = w.experiment ∧
      d.requests now w = [] := by
  have halted : w.halted = true := by rw [World.halted, fatal]; rfl
  cases d with
  | rewire change => exact ⟨fatal, rfl, rfl⟩
  | report event =>
    have ignored : w.dispatch event now = (w, []) := if_pos halted
    rw [perform, requests, ignored]
    exact ⟨fatal, rfl, rfl⟩
  | sample =>
    have ignored : w.sampleThroughput now = w := if_pos halted
    rw [perform, ignored]
    exact ⟨fatal, rfl, rfl⟩
  | fail g =>
    refine ⟨?_, rfl, rfl⟩
    show some (w.fatal.getD g) = some f
    rw [fatal]
    rfl

theorem foldl_of_fatal (fatal : w.fatal = some f) (now : Time) (ds : List Deed) :
    (ds.foldl (perform now) w).fatal = some f ∧
      (ds.foldl (perform now) w).experiment = w.experiment := by
  induction ds generalizing w with
  | nil => exact ⟨fatal, rfl⟩
  | cons d ds ih =>
    obtain ⟨fatal', experiment, -⟩ := d.of_fatal fatal now
    obtain ⟨fatal'', experiment'⟩ := ih fatal'
    exact ⟨fatal'', experiment'.trans experiment⟩

/-- A world keeps the fault that it has, or else takes the fault that a deed brings. -/
theorem fatal_perform (w : World) (now : Time) (d : Deed) :
    (d.perform now w).fatal = w.fatal.or (d.fault? now w) := by
  cases fatal : w.fatal with
  | some f => exact (d.of_fatal fatal now).1
  | none =>
    have running : ¬ w.halted = true := by simp [World.halted, fatal]
    rw [Option.none_or]
    cases d with
    | rewire change => exact fatal
    | report event =>
      rw [perform, World.dispatch, if_neg running]
      dsimp only
      rw [World.fatal_obeyAll_eq_or, World.fatal_check, World.refusal?_check]
      dsimp only
      rw [fatal, Option.none_or]
      rfl
    | sample =>
      rw [perform, World.sampleThroughput, if_neg running]
      dsimp only
      rw [World.fatal_check, fatal, Option.none_or, fault?]
      cases (w.experiment.sample now fun sink => (w.network.apps.received sink).bytes).2 <;> rfl
    | fail f =>
      rw [perform, World.fatal_fail, fatal]
      rfl

end Deed

end DenseDmg
