import DenseDmg.Proofs.Association.Agreement
import DenseDmg.Proofs.Association.Phases
import DenseDmg.Proofs.World.Deeds

/-!
# Admission without blockages

Where no station is ever cut off, and a beacon interval has room for eight associations, the
stations are admitted in the order of their numbers, eight of them in each beacon interval.  Two
counts say how far this has got: `n` beacon intervals have begun, and `a` stations are associated.
The associations that are pending are those of the stations in between that have been trained.

* `Admitting`: the state of the world and of the agenda for these counts; `Admitting.step` is its
  step.
* `Built.admission`: a station associates once, when its turn comes, and for good.
-/

namespace DenseDmg

/-! ## Turns -/

namespace Scenario

/-- How many stations have been trained when `n` beacon intervals have begun. -/
def trained (s : Scenario) (n : Nat) : Nat := min (8 * n) s.numStas

/-- When the station counted `k` from zero associates, in nanoseconds. -/
def associationNanos (s : Scenario) (k : Nat) : Nat :=
  k / 8 * s.beaconInterval.nanos + MacParams.standard.transferOffset.nanos +
    (k % 8 + 1) * MacParams.standard.assocDelay.nanos

/-- When the station counted `k` from zero associates, unless the last instant comes before that. -/
def associationTime (s : Scenario) (k : Nat) : Time := .ofNanos (s.associationNanos k)

variable {s : Scenario} {n k slot : Nat}

theorem trained_le (s : Scenario) (n : Nat) : s.trained n ≤ s.numStas := Nat.min_le_right ..

theorem trained_mono (s : Scenario) (n : Nat) : s.trained n ≤ s.trained (n + 1) := by
  unfold trained
  omega

/-- As long as stations are left, a beacon interval trains eight of them. -/
theorem trained_eq (left : s.trained n < s.numStas) : s.trained n = 8 * n := by
  unfold trained at left ⊢
  omega

/-- A beacon interval trains eight stations, or all that are left. -/
theorem trained_succ (s : Scenario) (n : Nat) :
    s.trained (n + 1) = s.trained n + min 8 (s.numStas - s.trained n) := by
  unfold trained
  omega

theorem associationNanos_eq (s : Scenario) (k : Nat) :
    s.associationNanos k = k / 8 * s.beaconInterval.nanos + 2800000 + (k % 8 + 1) * 50000 := by
  have delay : MacParams.standard.assocDelay.nanos = 50000 := rfl
  rw [associationNanos, nanos_transferOffset, delay]

/-- The station in a slot of a beacon interval has its turn in the data transfer interval behind. -/
theorem nanos_associationTime (few : slot < 8) :
    (s.associationTime (8 * n + slot)).nanos =
      min ((s.intervalStart n).nanos + 2800000 + 50000 * (slot + 1)) lastWord := by
  have interval : (8 * n + slot) / 8 = n := by omega
  have position : (8 * n + slot) % 8 = slot := by omega
  rw [associationTime, Time.nanos_ofNanos, associationNanos_eq, interval, position,
    nanos_intervalStart, Nat.mul_comm n]
  generalize s.beaconInterval.nanos * n = start
  generalize lastWord = last
  omega

/-- The turn of a station that comes during the run comes before the last instant, which is not a
whole number of microseconds. -/
theorem associationNanos_lt_lastWord {spec : ScenarioSpec} (resolved : spec.resolve = .ok s)
    (early : s.associationNanos k ≤ s.stopTime.nanos) : s.associationNanos k < lastWord := by
  have le := Nat.le_trans early s.stopTime.nanos_le
  have word : lastWord % 1000 = 615 := by decide
  have large : 3200000 < lastWord := by decide
  rw [associationNanos_eq, ScenarioSpec.beaconInterval_of_resolve resolved, Time.ofMicros,
    Time.nanos_ofNanos] at le ⊢
  generalize lastWord = last at le word large ⊢
  rcases Nat.eq_zero_or_pos (k / 8) with first | later
  · rw [first]
    omega
  · have once := Nat.le_mul_of_pos_left (min (spec.mac.beaconInterval * 1000) last) later
    have whole : min (spec.mac.beaconInterval * 1000) last = spec.mac.beaconInterval * 1000 := by
      omega
    rw [whole, ← Nat.mul_assoc] at le ⊢
    omega

/-- The association of a slot in a beacon interval is due when its station has its turn. -/
theorem association_due (few : slot < 8) :
    max (s.intervalStart n + (MacParams.ofInterval s.beaconInterval).transferOffset +
      (MacParams.ofInterval s.beaconInterval).assocDelay.repeatedWord (slot + 1))
        (s.intervalStart n) = s.associationTime (8 * n + slot) := by
  have le := (s.intervalStart n).nanos_le
  refine Time.ext ?_
  rw [Time.nanos_max, MacParams.nanos_association few, nanos_associationTime few]
  omega

/-- Where there are no blockages, nobody is cut off. -/
theorem not_blockedAt (free : s.blockages = []) (node : NodeId) (now : Time) :
    ¬ s.BlockedAt node now := by
  rintro ⟨b, mem, -⟩
  rw [free] at mem
  cases mem

/-- The stations behind the first ones. -/
theorem filter_stationNodes {a : Nat} (ready : a ≤ s.numStas) :
    s.stationNodes.filter (fun i => decide (a < i)) = List.range' (a + 1) (s.numStas - a) := by
  have whole : s.stationNodes = List.range' 1 a ++ List.range' (a + 1) (s.numStas - a) := by
    rw [Nat.add_comm a 1, List.range'_append_1, Nat.add_sub_cancel' ready]
    rfl
  have early : (List.range' 1 a).filter (fun i => decide (a < i)) = [] := by
    refine List.filter_eq_nil_iff.2 fun i mem => ?_
    have bounds := List.mem_range'_1.1 mem
    simpa using Nat.le_of_lt_succ (by omega)
  have late : (List.range' (a + 1) (s.numStas - a)).filter (fun i => decide (a < i)) =
      List.range' (a + 1) (s.numStas - a) := by
    refine List.filter_eq_self.2 fun i mem => ?_
    exact decide_eq_true (List.mem_range'_1.1 mem).1
  rw [whole, List.filter_append, early, late, List.nil_append]

/-- The next beacon interval begins before the turn of a station that is not trained yet. -/
theorem intervalStart_le_associationTime (s : Scenario) (left : 8 * n ≤ k) :
    s.intervalStart n ≤ s.associationTime k := by
  have interval : n ≤ k / 8 := by omega
  have begun := Nat.mul_le_mul_right s.beaconInterval.nanos interval
  rw [Time.le_def, nanos_intervalStart, associationTime, Time.nanos_ofNanos, associationNanos_eq,
    Nat.mul_comm _ n]
  omega

end Scenario

/-! ## Views of the agenda -/

section Views

variable {α β ε : Type} {now : Time}

/-- Where requests at instants are asked for one by one, so are their entries. -/
theorem Request.filterMap_entries_map {view : Entry ε → Option β} {due : α → Time} {event : α → ε}
    {seen : α → β} (seq : Nat) {xs : List α}
    (sees : ∀ x ∈ xs, ∀ seq, view ⟨max (due x) now, seq, event x⟩ = some (seen x)) :
    (Request.entries now seq (xs.map fun x => .atTime (due x) (event x))).filterMap view =
      xs.map seen := by
  induction xs generalizing seq with
  | nil => rfl
  | cons x xs ih =>
    have others := ih (seq + 1) fun y mem => sees y (List.mem_cons_of_mem _ mem)
    rw [List.map_cons, Request.entries, List.filterMap_append, others, List.map_cons]
    exact congrArg (· ++ _) (List.filterMap_cons_some (sees x List.mem_cons_self seq))

/-- Entries that are asked for in the order of their instants are executed in that order. -/
theorem Request.pairwise_entries_map {due : α → Time} {event : α → ε} (seq : Nat) {xs : List α}
    (sorted : xs.Pairwise fun x y => due x ≤ due y) :
    (Request.entries now seq (xs.map fun x => .atTime (due x) (event x))).Pairwise
      Entry.Before := by
  induction sorted generalizing seq with
  | nil => exact .nil
  | @cons x xs first _ ih =>
    rw [List.map_cons, Request.entries]
    refine List.pairwise_cons.2 ⟨fun e mem => ?_, ih (seq + 1)⟩
    obtain ⟨⟨r, memr, asked⟩, behind, -⟩ := Request.of_mem_entries mem
    obtain ⟨y, memy, rfl⟩ := List.mem_map.1 memr
    have le := first y memy
    refine Entry.before_of_le ?_ behind
    rw [(Request.of_atTime asked).1, Time.le_def, Time.nanos_max, Time.nanos_max]
    rw [Time.le_def] at le
    omega

/-- Agendas in order that hold the same entries show the same view of them. -/
theorem filterMap_eq_of_perm {view : Entry ε → Option β} {pending all : List (Entry ε)}
    (perm : pending.Perm all) (sorted : pending.Pairwise Entry.Before)
    (sorted' : (all.filter fun e => (view e).isSome).Pairwise Entry.Before) :
    pending.filterMap view = all.filterMap view := by
  have seen (es : List (Entry ε)) :
      es.filterMap view = (es.filter fun e => (view e).isSome).filterMap view := by
    rw [List.filterMap_filter]
    refine congrArg (List.filterMap · es) (funext fun e => ?_)
    cases view e <;> rfl
  rw [seen pending, seen all]
  refine congrArg _ (List.Perm.eq_of_pairwise (fun a b _ _ before after => ?_)
    (sorted.sublist List.filter_sublist) sorted' (perm.filter _))
  exact absurd (before.trans after) a.not_before_self

section Unseen

variable {view : Entry ε → Option β} {es fs : List (Entry ε)}

/-- Entries that are not in view may be left out in front of others. -/
theorem unseen_append (unseen : ∀ e ∈ es, view e = none) (fs : List (Entry ε)) :
    (es ++ fs).filterMap view = fs.filterMap view ∧
      ((es ++ fs).filter fun e => (view e).isSome) = fs.filter fun e => (view e).isSome := by
  have none : (es.filter fun e => (view e).isSome) = [] :=
    List.filter_eq_nil_iff.2 fun e mem => by simp [unseen e mem]
  rw [List.filterMap_append, List.filterMap_eq_nil_iff.2 unseen, List.filter_append, none]
  exact ⟨rfl, rfl⟩

/-- Entries that are not in view may be left out behind others. -/
theorem append_unseen (unseen : ∀ e ∈ fs, view e = none) (es : List (Entry ε)) :
    (es ++ fs).filterMap view = es.filterMap view ∧
      ((es ++ fs).filter fun e => (view e).isSome) = es.filter fun e => (view e).isSome := by
  have none : (fs.filter fun e => (view e).isSome) = [] :=
    List.filter_eq_nil_iff.2 fun e mem => by simp [unseen e mem]
  rw [List.filterMap_append, List.filterMap_eq_nil_iff.2 unseen, List.filter_append, none,
    List.append_nil, List.append_nil]
  exact ⟨rfl, rfl⟩

end Unseen

end Views

/-! ## What is pending and what is written down -/

/-- The station whose association an entry completes, and when. -/
def Entry.association? (e : Entry NetworkEvent) : Option (NodeId × Time) :=
  match e.event with
  | .associationComplete station => some (station, e.due)
  | _ => none

/-- The station whose slot is over. -/
def NetworkEvent.slotEnd? : NetworkEvent → Option NodeId
  | .trainingDone initiator station period =>
    if initiator = 0 ∧ period = .associationTraining then some station else none
  | _ => none

theorem NetworkEvent.slotEnd?_eq_some {event : NetworkEvent} {station : NodeId} :
    event.slotEnd? = some station ↔ event = .slotEnd station := by
  cases event with
  | trainingDone initiator other period =>
    simp only [slotEnd?, slotEnd, trainingDone.injEq, Option.ite_none_right_eq_some,
      Option.some_inj]
    constructor
    · rintro ⟨⟨zero, period⟩, same⟩
      exact ⟨zero, same, period⟩
    · rintro ⟨zero, same, period⟩
      exact ⟨⟨zero, period⟩, same⟩
  | _ => simp [slotEnd?, slotEnd]

/-- The station whose slot is over with an entry. -/
def Entry.slotEnd? (e : Entry NetworkEvent) : Option NodeId := e.event.slotEnd?

theorem Request.filterMap_slotEnd? (now : Time) (seq : Nat) (rs : List NetworkRequest) :
    (Request.entries now seq rs).filterMap Entry.slotEnd? =
      (rs.filterMap Request.event?).filterMap NetworkEvent.slotEnd? := by
  rw [← Request.map_event_entries now seq, List.filterMap_map]
  rfl

theorem Entry.due_of_association? {e : Entry NetworkEvent} {station : NodeId} {t : Time}
    (association : e.association? = some (station, t)) : e.due = t := by
  unfold association? at association
  split at association
  · exact congrArg Prod.snd (Option.some.inj association)
  · cases association

theorem Entry.association?_of_ne {e : Entry NetworkEvent}
    (other : ∀ station, e.event ≠ .associationComplete station) : e.association? = none := by
  unfold association?
  split
  next station event => exact absurd event (other station)
  next => rfl

/-- The association identifier of a station, whether its pair is active, how often it has become so
and when it did last. -/
def Flow.standing (f : Flow) : Option Nat × Bool × Nat × Option Time :=
  (f.device.aid, f.pair.active, f.pair.activations, f.pair.startTime)

/-- The standing of the station counted `k` from zero when `a` stations are associated. -/
def Scenario.standing (s : Scenario) (a k : Nat) : Option Nat × Bool × Nat × Option Time :=
  if k < a then (some (k + 1), true, 1, some (s.associationTime k)) else (none, false, 0, none)

theorem Scenario.standing_of_ne (s : Scenario) {a k : Nat} (other : k ≠ a) :
    s.standing (a + 1) k = s.standing a k := by
  have same : k < a + 1 ↔ k < a := by omega
  simp only [standing, same]

theorem Flow.isAssociated_of_standing {s : Scenario} {a k : Nat} {f : Flow}
    (standing : f.standing = s.standing a k) : f.device.isAssociated = decide (k < a) := by
  have aid : f.device.aid = (s.standing a k).1 := congrArg Prod.fst standing
  rw [Device.isAssociated, aid, Scenario.standing]
  by_cases before : k < a <;> simp [before]

/-- The station whose turn it is gets the standing of those that are associated. -/
theorem Flow.standing_join {s : Scenario} {a : Nat} {f : Flow}
    (standing : f.standing = s.standing a a) :
    (f.join (a + 1) (s.associationTime a)).standing = s.standing (a + 1) a := by
  rw [Scenario.standing, if_neg (Nat.lt_irrefl a)] at standing
  simp only [Flow.standing, Prod.mk.injEq] at standing
  obtain ⟨-, active, activations, -⟩ := standing
  rw [Scenario.standing, if_pos (Nat.lt_succ_self a)]
  simp [Flow.standing, join, Pair.activate, active, activations]

/-- If nobody is cut off, the standing of a station changes when it associates, and not
otherwise. -/
theorem Flow.standing_next {n : Network} {now : Time}
    (free : ∀ node, n.isBlocked node now = false) (k : Nat) (f : Flow) (event : NetworkEvent) :
    (f.next n now k event).standing =
      if event = .associationComplete (k + 1) ∧ f.device.isAssociated = false then
        (f.join n.nextAid now).standing
      else f.standing := by
  cases event with
  | beaconInterval index =>
    rw [Flow.next, Flow.cutOff, free, if_neg (by simp), if_neg (by simp)]
  | associationComplete station =>
    have up : n.linkUp 0 (k + 1) now = true := by simp [Network.linkUp, free]
    simp only [Flow.next, Joins, up, true_and, NetworkEvent.associationComplete.injEq]
    split <;> rfl
  | sendTimer sender generation =>
    refine Eq.trans ?_ (if_neg (by simp)).symm
    rw [Flow.next]
    split
    · rw [Flow.tick]
      split
      · rfl
      · split <;> rfl
    · rfl
  | transferInterval duration => exact (if_neg (by simp)).symm
  | trainingRequested initiator responder => exact (if_neg (by simp)).symm
  | trainingDone initiator responder period => exact (if_neg (by simp)).symm
  | frameArrives tx rx kind bytes sink => exact (if_neg (by simp)).symm
  | sampleDue period => exact (if_neg (by simp)).symm

namespace World

variable {s : Scenario} {outputs : Outputs} {w : World} {now : Time} {k : Nat} {f : Flow}

theorem HasFlow.isAssociated_eq (flow : w.HasFlow k f) :
    w.isAssociated (k + 1) = f.device.isAssociated := by
  rw [isAssociated, flow.device]
  rfl

/-- Only the completion of an association gives out an identifier. -/
theorem nextAid_act {event : NetworkEvent}
    (other : ∀ station, event ≠ .associationComplete station) (w : World) (now : Time) :
    (w.act now event).1.network.nextAid = w.network.nextAid := by
  refine act_keeps (fun w => w.network.nextAid) (fun d does w => ?_) w
  cases does with
  | report e => exact w.nextAid_dispatch e now
  | association station d => exact absurd rfl (other station)
  | sample =>
    show (w.sampleThroughput now).network.nextAid = _
    unfold sampleThroughput
    split
    · rfl
    · rw [(sameParts_check _ _).network]
  | loss | stranger | arrival | finish | send => rfl

/-- Where nobody is cut off, the trainees of a beacon interval are the stations whose turn is
next. -/
theorem InScene.trainees_eq (scene : w.InScene s outputs) (accepted : s.Accepted)
    (free : s.blockages = []) {a : Nat} (ready : a ≤ s.numStas)
    (standing : ∀ k f, w.HasFlow k f → f.standing = s.standing a k) (now : Time) :
    (w.trainees now).map Device.node = List.range' (a + 1) (min 8 (s.numStas - a)) := by
  have reached : w.reachable now = w.network.stations := by
    refine List.filter_eq_self.2 fun d mem => ?_
    exact (scene.linkUp_iff accepted).2 (Scenario.not_blockedAt free _ now)
  have apart : ∀ d ∈ w.network.stations, (!d.isAssociated) = decide (a < d.node) := by
    intro d mem
    obtain ⟨at_d, k, inside, node, -⟩ := scene.mem_stations mem
    obtain ⟨f, flow⟩ := scene.exists_flow inside
    rw [node] at at_d ⊢
    cases Option.some.inj (flow.device.symm.trans at_d)
    rw [Flow.isAssociated_of_standing (standing k f flow), ← decide_not]
    exact decide_eq_decide.2 (Nat.not_lt.trans Nat.lt_succ_iff.symm)
  have by_node : (fun d : Device => decide (a < d.node)) =
      (fun i => decide (a < i)) ∘ Device.node := rfl
  rw [trainees, reached, List.filter_congr apart, List.map_take, by_node, ← List.filter_map,
    scene.map_node_stations, Scenario.filter_stationNodes ready]
  rcases Nat.le_total (s.numStas - a) 8 with few | many
  · rw [List.take_range'_of_length_le few, Nat.min_eq_right few]
  · rw [List.take_range'_of_length_ge many, Nat.min_eq_left many]

/-- Between other events and the next beacon interval, a beacon interval asks for the associations
of its trainees. -/
theorem InScene.exists_front (scene : w.InScene s outputs) (index : Nat) (now : Time) :
    ∃ front, (∀ r ∈ front, ∃ e, r.event? = some e ∧ e.IsOther) ∧
      (w.beginInterval index now).2 =
        front ++ associationRequests (.ofInterval s.beaconInterval)
          (now + (MacParams.ofInterval s.beaconInterval).transferOffset) (w.trainees now) ++
          [.atTime (now + s.beaconInterval) (.beaconInterval (index + 1))] := by
  obtain ⟨ap, at_zero, requests⟩ := scene.requests_beginInterval index now
  have mac : w.network.mac = MacParams.ofInterval s.beaconInterval := scene.mac
  rw [mac] at requests
  refine ⟨_, fun r mem => ?_, requests⟩
  rcases List.mem_append.1 mem with mem | mem
  · rcases List.mem_append.1 mem with mem | mem
    · obtain ⟨d, -, rfl⟩ := List.mem_map.1 mem
      exact ⟨_, rfl, trivial⟩
    · exact isOther_of_mem_trainingSlots mem
  · rw [List.mem_singleton.1 mem]
    exact ⟨_, rfl, trivial⟩

/-- Requests for other events than associations leave none in view. -/
theorem unseen_of_ne {rs : List NetworkRequest}
    (other : ∀ r ∈ rs, ∀ station, r.event? ≠ some (.associationComplete station)) (now : Time)
    (seq : Nat) : ∀ e ∈ Request.entries now seq rs, e.association? = none := by
  intro e mem
  obtain ⟨⟨r, memr, asked⟩, -, -⟩ := Request.of_mem_entries mem
  refine Entry.association?_of_ne fun station event => other r memr station ?_
  rw [(Request.of_entry? asked).2, event]

theorem associationRequests_eq (mac : MacParams) (start : Time) (trained : List Device) :
    associationRequests mac start trained = trained.zipIdx.map fun x =>
      .atTime (start + mac.assocDelay.repeatedWord (x.2 + 1)) (.associationComplete x.1.node) := rfl

theorem associations_associationRequests (mac : MacParams) (start : Time) (trained : List Device)
    (now : Time) (seq : Nat) :
    (Request.entries now seq (associationRequests mac start trained)).filterMap
        Entry.association? =
      trained.zipIdx.map fun x =>
        (x.1.node, max (start + mac.assocDelay.repeatedWord (x.2 + 1)) now) := by
  rw [associationRequests_eq]
  exact Request.filterMap_entries_map seq fun _ _ _ => rfl

/-- The entries of associations are in the order in which they are asked for. -/
theorem pairwise_associations {bi : Time} {trained : List Device} (few : trained.length ≤ 8)
    (seq : Nat) :
    (Request.entries now seq (associationRequests (.ofInterval bi)
      (now + (MacParams.ofInterval bi).transferOffset) trained)).Pairwise Entry.Before := by
  rw [associationRequests_eq]
  refine Request.pairwise_entries_map seq ?_
  have sorted : trained.zipIdx.Pairwise fun x y => x.2 < y.2 := by
    rw [← List.pairwise_map (f := Prod.snd) (R := (· < ·)), List.zipIdx_map_snd]
    exact List.pairwise_lt_range'
  refine sorted.imp_of_mem fun {x y} memx memy before => ?_
  have first := (List.mem_zipIdx memx).2.1
  have second := (List.mem_zipIdx memy).2.1
  rw [Time.le_def, MacParams.nanos_association (by omega), MacParams.nanos_association (by omega)]
  omega

/-- The associations that the beacon interval counted `n` from zero asks for have their turns in
it. -/
theorem InScene.associations_beginInterval (scene : w.InScene s outputs) {n a c : Nat}
    (trainees : (w.trainees (s.intervalStart n)).map Device.node = List.range' (a + 1) c)
    (turn : 0 < c → a = 8 * n) (index seq : Nat) :
    (Request.entries (s.intervalStart n) seq
        (w.beginInterval index (s.intervalStart n)).2).filterMap Entry.association? =
          (List.range' a c).map (fun k => (k + 1, s.associationTime k)) ∧
      ((Request.entries (s.intervalStart n) seq
        (w.beginInterval index (s.intervalStart n)).2).filter
          fun e => e.association?.isSome).Pairwise Entry.Before := by
  obtain ⟨front, other, requests⟩ := scene.exists_front index (s.intervalStart n)
  have few : (w.trainees (s.intervalStart n)).length ≤ 8 := by
    rw [World.trainees, List.length_take]
    exact Nat.min_le_left ..
  have length : (w.trainees (s.intervalStart n)).length = c := by
    rw [← List.length_map (f := Device.node), trainees, List.length_range']
  have before : ∀ r ∈ front, ∀ station, r.event? ≠ some (.associationComplete station) := by
    intro r mem station association
    obtain ⟨e, event, other⟩ := other r mem
    rw [event, Option.some_inj] at association
    exact other.ne_associationComplete association
  have behind : ∀ r ∈ ([.atTime (s.intervalStart n + s.beaconInterval)
      (.beaconInterval (index + 1))] : List NetworkRequest), ∀ station,
      r.event? ≠ some (.associationComplete station) := by
    intro r mem station association
    rw [List.mem_singleton.1 mem] at association
    cases association
  rw [requests, Request.entries_append, Request.entries_append,
    (append_unseen (unseen_of_ne behind _ _) _).1, (append_unseen (unseen_of_ne behind _ _) _).2,
    (unseen_append (unseen_of_ne before _ _) _).1, (unseen_append (unseen_of_ne before _ _) _).2]
  constructor
  · have sees : ∀ x ∈ (w.trainees (s.intervalStart n)).zipIdx,
        (x.1.node, max (s.intervalStart n +
          (MacParams.ofInterval s.beaconInterval).transferOffset +
            (MacParams.ofInterval s.beaconInterval).assocDelay.repeatedWord (x.2 + 1))
            (s.intervalStart n)) = (a + x.2 + 1, s.associationTime (a + x.2)) := by
      rintro ⟨d, slot⟩ mem
      have at_slot := List.mk_mem_zipIdx_iff_getElem?.1 mem
      have inside := (List.getElem?_eq_some_iff.1 at_slot).1
      have node := congrArg (·[slot]?) trainees
      simp only [List.getElem?_map, at_slot, List.getElem?_range' (length ▸ inside),
        Option.map_some, Option.some_inj, Nat.one_mul] at node
      rw [Scenario.association_due (by omega), ← turn (by omega)]
      exact congrArg (·, _) (node.trans (Nat.add_right_comm ..))
    rw [associations_associationRequests, List.map_congr_left sees, List.range'_eq_map_range,
      List.map_map, List.range_eq_range', ← length, ← List.zipIdx_map_snd, List.map_map]
    rfl
  · exact List.Pairwise.sublist List.filter_sublist (pairwise_associations few _)

/-- A beacon interval asks for the ends of the slots of its trainees. -/
theorem InScene.slotEnds_beginInterval (scene : w.InScene s outputs) (index seq : Nat)
    (now : Time) :
    (Request.entries now seq (w.beginInterval index now).2).filterMap Entry.slotEnd? =
      (w.trainees now).map Device.node := by
  obtain ⟨ap, at_zero, requests⟩ := scene.requests_beginInterval index now
  have beacons : ((beaconRequests w.network.mac ap now (w.reachable now)).filterMap
      Request.event?).filterMap NetworkEvent.slotEnd? = [] := by
    rw [List.filterMap_filterMap, beaconRequests, List.filterMap_map]
    exact List.filterMap_eq_nil_iff.2 fun _ _ => rfl
  have associations : ((associationRequests w.network.mac (now + w.network.mac.transferOffset)
      (w.trainees now)).filterMap Request.event?).filterMap NetworkEvent.slotEnd? = [] := by
    rw [List.filterMap_filterMap, associationRequests_eq, List.filterMap_map]
    exact List.filterMap_eq_nil_iff.2 fun _ _ => rfl
  have slots : ((trainingSlots w.network.mac (now + w.network.mac.bti)
      (w.trainees now)).filterMap Request.event?).filterMap NetworkEvent.slotEnd? =
      (w.trainees now).map Device.node := by
    rw [List.filterMap_filterMap, trainingSlots, List.filterMap_flatMap]
    have each : ∀ x : Device × Nat, (slotRequests w.network.mac 0 (now + w.network.mac.bti) x.2
        x.1).filterMap (fun r => r.event?.bind NetworkEvent.slotEnd?) = [x.1.node] := fun x => rfl
    simp only [each]
    rw [← List.map_eq_flatMap, ← Function.comp_def Device.node Prod.fst, ← List.map_map,
      List.zipIdx_map_fst]
  rw [Request.filterMap_slotEnd?, requests]
  have transfer : (([.atTime (now + w.network.mac.transferOffset)
      (.transferInterval w.network.mac.transferDuration)] : List NetworkRequest).filterMap
      Request.event?).filterMap NetworkEvent.slotEnd? = [] := by rfl
  have next : (([.atTime (now + s.beaconInterval) (.beaconInterval (index + 1))] :
      List NetworkRequest).filterMap Request.event?).filterMap NetworkEvent.slotEnd? = [] := by rfl
  simp only [List.filterMap_append, beacons, associations, slots, transfer, next, List.nil_append,
    List.append_nil]

/-- No other event asks for the end of a slot. -/
theorem slotEnds_act {event : NetworkEvent} (other : ∀ index, event ≠ .beaconInterval index)
    (seq : Nat) (now : Time) :
    (Request.entries now seq (w.act now event).2).filterMap Entry.slotEnd? = [] := by
  rw [Request.filterMap_slotEnd?, List.filterMap_filterMap]
  refine List.filterMap_eq_nil_iff.2 fun r mem => ?_
  obtain ⟨e, asks, caused⟩ := causes_of_mem_act mem
  rw [asks]
  cases caused with
  | slot index | controlFrame index | transfer index | association index | interval index =>
    exact absurd rfl (other index)
  | training a b initiator responder =>
    exact if_neg fun slot => nomatch slot.2
  | _ => rfl

end World

/-! ## One event -/

/-- When `n` beacon intervals have begun and `a` stations are associated: the stations that are,
what is pending of the others, and whose slots are over or pending. -/
structure Admitting (s : Scenario) (n a : Nat) (executed pending : List (Entry NetworkEvent))
    (w : World) : Prop where
  ready : a ≤ s.trained n
  nextAid : w.network.nextAid = a + 1
  standing : ∀ k f, w.HasFlow k f → f.standing = s.standing a k
  due : pending.filterMap Entry.association? =
    (List.range' a (s.trained n - a)).map fun k => (k + 1, s.associationTime k)
  slots : (executed.filterMap Entry.slotEnd? ++ pending.filterMap Entry.slotEnd?).Perm
    (List.range' 1 (s.trained n))

namespace Admitting

variable {s : Scenario} {outputs : Outputs} {w : World} {n a seq : Nat} {now : Time}
  {executed rest pending : List (Entry NetworkEvent)} {entry : Entry NetworkEvent}

/-- The association that is pending first is that of the station whose turn it is. -/
theorem due_cons (admitting : Admitting s n a executed (entry :: rest) w) {station : NodeId}
    (association : entry.event = .associationComplete station) :
    a < s.trained n ∧ station = a + 1 ∧ entry.due = s.associationTime a ∧
      rest.filterMap Entry.association? =
        (List.range' (a + 1) (s.trained n - (a + 1))).map
          fun k => (k + 1, s.associationTime k) := by
  have due := admitting.due
  have view : entry.association? = some (station, entry.due) := by
    rw [Entry.association?, association]
  rw [List.filterMap_cons_some view] at due
  cases left : s.trained n - a with
  | zero =>
    rw [left] at due
    cases due
  | succ c =>
    rw [left, List.range'_succ, List.map_cons, List.cons.injEq, Prod.mk.injEq] at due
    have fewer : s.trained n - (a + 1) = c := by omega
    rw [fewer]
    exact ⟨by omega, due.1.1, due.1.2, due.2⟩

/-- Only beacon intervals ask for associations and for slots. -/
theorem views_of_ne_interval (executed : List (Entry NetworkEvent))
    (no_interval : ∀ index, entry.event ≠ .beaconInterval index)
    (perm : pending.Perm (Request.entries entry.due seq (w.act entry.due entry.event).2 ++ rest))
    (sorted : pending.Pairwise Entry.Before) (sorted' : (entry :: rest).Pairwise Entry.Before) :
    pending.filterMap Entry.association? = rest.filterMap Entry.association? ∧
      ((executed ++ [entry]).filterMap Entry.slotEnd? ++ pending.filterMap Entry.slotEnd?).Perm
        (executed.filterMap Entry.slotEnd? ++ (entry :: rest).filterMap Entry.slotEnd?) := by
  have asked : ∀ e ∈ Request.entries entry.due seq (w.act entry.due entry.event).2,
      e.association? = none := fun e mem =>
    Entry.association?_of_ne fun _ =>
      (isOther_of_mem_entries_act no_interval mem).ne_associationComplete
  constructor
  · obtain ⟨seen, others⟩ := unseen_append asked rest
    rw [filterMap_eq_of_perm perm sorted, seen]
    rw [others]
    exact (List.pairwise_cons.1 sorted').2.sublist List.filter_sublist
  · refine (perm_filterMap_executed Entry.slotEnd? executed entry perm).trans ?_
    rw [World.slotEnds_act no_interval, List.append_nil]

section Steps

variable (scene : w.InScene s outputs) (accepted : s.Accepted) (free : s.blockages = [])
include scene accepted free

/-- What an event makes of the standing of a station. -/
theorem of_hasFlow_act {event : NetworkEvent} (sound : (w.act now event).1.fatal = none) {k : Nat}
    {f' : Flow} (flow' : (w.act now event).1.HasFlow k f') :
    ∃ f, w.HasFlow k f ∧ f'.standing =
      if event = .associationComplete (k + 1) ∧ f.device.isAssociated = false then
        (f.join w.network.nextAid now).standing
      else f.standing := by
  have scene' : (w.act now event).1.InScene s outputs := (World.setup_act ..).trans scene
  obtain ⟨f, flow⟩ := scene.exists_flow (scene'.wired flow').inside
  have uncut : ∀ node, w.network.isBlocked node now = false := by
    intro node
    rw [Bool.eq_false_iff, ne_eq, scene.isBlocked_iff accepted]
    exact Scenario.not_blockedAt free node now
  refine ⟨f, flow, ?_⟩
  rw [flow'.unique (scene.hasFlow_act flow sound), Flow.standing_next uncut]

/-- Where nobody is cut off, a station that is not associated is given the next identifier. -/
theorem nextAid_completeAssociation {k : Nat} {f : Flow} (flow : w.HasFlow k f)
    (idle : f.device.isAssociated = false) :
    (w.completeAssociation (k + 1) now).1.network.nextAid =
      Network.followingAid w.network.nextAid := by
  have up : w.network.linkUp 0 (k + 1) now = true :=
    (scene.linkUp_iff accepted).2 (Scenario.not_blockedAt free _ now)
  unfold World.completeAssociation
  rw [scene.accessPoint, flow.device]
  dsimp only
  rw [if_neg (by simp [up, idle]), World.nextAid_dispatch]
  rfl

variable (sound : (w.act entry.due entry.event).1.fatal = none)
include sound

/-- Events that complete no association leave identifiers and standings as they are. -/
theorem kept_of_ne (admitting : Admitting s n a executed (entry :: rest) w)
    (no_association : ∀ station, entry.event ≠ .associationComplete station) :
    (w.act entry.due entry.event).1.network.nextAid = a + 1 ∧
      ∀ k f, (w.act entry.due entry.event).1.HasFlow k f → f.standing = s.standing a k := by
  refine ⟨(World.nextAid_act no_association w entry.due).trans admitting.nextAid, ?_⟩
  intro k f' flow'
  obtain ⟨f, flow, same⟩ := of_hasFlow_act scene accepted free sound flow'
  rw [if_neg fun association => no_association _ association.1] at same
  exact same.trans (admitting.standing k f flow)

variable
  (perm : pending.Perm (Request.entries entry.due seq (w.act entry.due entry.event).2 ++ rest))
  (sorted : pending.Pairwise Entry.Before) (sorted' : (entry :: rest).Pairwise Entry.Before)
include perm sorted

/-- A beacon interval, when all stations that were trained are associated, trains the next ones. -/
theorem train (admitting : Admitting s n a executed (entry :: rest) w) {index : Nat}
    (interval : entry.event = .beaconInterval index) (start : entry.due = s.intervalStart n)
    (others : ∀ e ∈ rest, e.event.IsOther) :
    Admitting s (n + 1) a (executed ++ [entry]) pending (w.act entry.due entry.event).1 := by
  have no_association : ∀ station, entry.event ≠ .associationComplete station :=
    fun station association => by rw [interval] at association; cases association
  obtain ⟨nextAid', standing'⟩ := kept_of_ne scene accepted free sound admitting no_association
  obtain ⟨ready, -, standing, due, slots⟩ := admitting
  have unseen : ∀ e ∈ rest, e.association? = none := fun e mem =>
    Entry.association?_of_ne fun _ => (others e mem).ne_associationComplete
  rw [List.filterMap_cons_none (Entry.association?_of_ne no_association),
    List.filterMap_eq_nil_iff.2 unseen] at due
  -- Nothing is pending behind a beacon interval, so that all that were trained are associated.
  have all : s.trained n - a = 0 := by
    have length := congrArg List.length due
    rw [List.length_map, List.length_range'] at length
    exact length.symm
  have whole : a = s.trained n := by omega
  have inside : a ≤ s.numStas := Nat.le_trans ready (s.trained_le n)
  have more : s.trained (n + 1) = a + min 8 (s.numStas - a) := whole ▸ s.trained_succ n
  have turn : 0 < min 8 (s.numStas - a) → a = 8 * n := fun left => by
    rw [whole] at left ⊢
    exact Scenario.trained_eq (by omega)
  have trainees := scene.trainees_eq accepted free inside standing (s.intervalStart n)
  obtain ⟨associations, inOrder⟩ := scene.associations_beginInterval trainees turn index seq
  have slotEnds := scene.slotEnds_beginInterval index seq (s.intervalStart n)
  constructor
  · exact Nat.le_trans ready (s.trained_mono n)
  · exact nextAid'
  · exact standing'
  · rw [start, interval] at perm
    obtain ⟨seen, asked⟩ := append_unseen unseen (Request.entries (s.intervalStart n) seq
      (w.act (s.intervalStart n) (.beaconInterval index)).2)
    rw [filterMap_eq_of_perm perm sorted, seen, more, Nat.add_sub_cancel_left]
    · exact associations
    · rw [asked]
      exact inOrder
  · have slots' := perm_filterMap_executed Entry.slotEnd? executed entry perm
    rw [start, interval] at slots'
    have asked : (w.act (s.intervalStart n) (.beaconInterval index)).2 =
        (w.beginInterval index (s.intervalStart n)).2 := rfl
    rw [asked, slotEnds, trainees] at slots'
    rw [more, ← List.range'_append_1, Nat.add_comm 1 a]
    rw [← whole] at slots
    exact slots'.trans (slots.append_right _)

include sorted'

/-- Events of other kinds leave the counts alone. -/
theorem stay (admitting : Admitting s n a executed (entry :: rest) w)
    (other : entry.event.IsOther) :
    Admitting s n a (executed ++ [entry]) pending (w.act entry.due entry.event).1 := by
  have no_association : ∀ station, entry.event ≠ .associationComplete station :=
    fun _ => other.ne_associationComplete
  obtain ⟨nextAid, standing⟩ := kept_of_ne scene accepted free sound admitting no_association
  obtain ⟨ready, -, -, due, slots⟩ := admitting
  obtain ⟨associations, slots'⟩ := views_of_ne_interval executed
    (fun _ => other.ne_beaconInterval) perm sorted sorted'
  refine ⟨ready, nextAid, standing, ?_, slots'.trans slots⟩
  rw [associations, ← due, List.filterMap_cons_none (Entry.association?_of_ne no_association)]

/-- The completion of an association admits the station whose turn it is. -/
theorem associate (admitting : Admitting s n a executed (entry :: rest) w) {station : NodeId}
    (association : entry.event = .associationComplete station) :
    Admitting s n (a + 1) (executed ++ [entry]) pending (w.act entry.due entry.event).1 := by
  obtain ⟨turn, rfl, at_turn, others⟩ := admitting.due_cons association
  obtain ⟨ready, nextAid, standing, due, slots⟩ := admitting
  have inside : a < s.numStas := Nat.lt_of_lt_of_le turn (s.trained_le n)
  obtain ⟨associations, slots'⟩ := views_of_ne_interval executed
    (fun index interval => by rw [association] at interval; cases interval) perm sorted sorted'
  constructor
  · exact turn
  · obtain ⟨f, flow⟩ := scene.exists_flow inside
    have idle := Flow.isAssociated_of_standing (standing a f flow)
    rw [decide_eq_false (Nat.lt_irrefl a)] at idle
    have stations := accepted.stations
    rw [maxStations] at stations
    rw [association]
    refine (nextAid_completeAssociation scene accepted free flow idle).trans ?_
    rw [nextAid, Network.followingAid]
    omega
  · intro k f' flow'
    obtain ⟨f, flow, same⟩ := of_hasFlow_act scene accepted free sound flow'
    have before := standing k f flow
    rw [same, association]
    by_cases mine : k = a
    · subst mine
      have idle := Flow.isAssociated_of_standing before
      rw [decide_eq_false (Nat.lt_irrefl k)] at idle
      rw [if_pos ⟨rfl, idle⟩, nextAid, at_turn]
      exact Flow.standing_join before
    · rw [if_neg fun both => mine (by simpa using both.1.symm), before]
      exact (s.standing_of_ne mine).symm
  · exact associations.trans others
  · exact slots'.trans slots

/-- Executing an event leaves the stations that are associated as they are, or admits the one whose
turn it is when its turn has come. -/
theorem step (admitting : Admitting s n a executed (entry :: rest) w)
    (ticking : Ticking s n executed (entry :: rest))
    (first : AssociationsFirst (entry :: rest)) :
    ∃ n' a', Ticking s n' (executed ++ [entry]) pending ∧
      Admitting s n' a' (executed ++ [entry]) pending (w.act entry.due entry.event).1 ∧
      (a' = a ∨ a' = a + 1 ∧ entry.event = .associationComplete (a + 1) ∧
        entry.due = s.associationTime a) := by
  by_cases interval : ∃ index, entry.event = .beaconInterval index
  · obtain ⟨index, interval⟩ := interval
    have view : entry.interval? = some (index, entry.due) := by rw [Entry.interval?, interval]
    have next := ticking.next
    rw [List.filterMap_cons_some view, List.cons.injEq, Prod.mk.injEq] at next
    have others := first.isOther (List.pairwise_cons.1 sorted').1 interval
    obtain ⟨intervals, transfers⟩ := scene.clock_beginInterval entry.due seq index
    have ticks := ticking.tick view intervals transfers
      (show pending.Perm (_ ++ rest) by rw [interval] at perm; exact perm)
    exact ⟨n + 1, a, ticks, admitting.train scene accepted free sound perm sorted interval next.1.2
      others, .inl rfl⟩
  · have other : ∀ index, entry.event ≠ .beaconInterval index :=
      fun index event => interval ⟨index, event⟩
    have off : entry.interval? = none := by
      unfold Entry.interval?
      split
      next index event => exact absurd event (other index)
      next => rfl
    have ticks := ticking.stay off
      (filterMap_of_offClock _ _ fun _ mem => World.offClock_of_mem_act other mem) perm
    by_cases association : ∃ station, entry.event = .associationComplete station
    · obtain ⟨station, association⟩ := association
      obtain ⟨-, rfl, at_turn, -⟩ := admitting.due_cons association
      exact ⟨n, a + 1, ticks,
        admitting.associate scene accepted free sound perm sorted sorted' association,
        .inr ⟨rfl, association, at_turn⟩⟩
    · have quiet : entry.event.IsOther := by
        cases event : entry.event with
        | beaconInterval index => exact absurd ⟨index, event⟩ interval
        | associationComplete station => exact absurd ⟨station, event⟩ association
        | _ => trivial
      exact ⟨n, a, ticks, admitting.stay scene accepted free sound perm sorted sorted' quiet,
        .inl rfl⟩

end Steps

end Admitting

/-! ## Along a run -/

namespace Moment

/-- Whether a station becomes associated. -/
def gains (station : NodeId) (m : Moment NetworkEvent World) : Bool :=
  !m.world.isAssociated station && (m.outcome World.behaviour).2.isAssociated station

instance (station : NodeId) : DecidablePred (EndsSlot station) :=
  fun m => inferInstanceAs (Decidable (m.entry.event = _))

end Moment

/-- How many slots of a station are over. -/
theorem count_slotEnds (station : NodeId) (ms : List (Moment NetworkEvent World)) :
    ((executedEntries ms).filterMap Entry.slotEnd?).count station =
      (ms.filter fun m => decide (m.EndsSlot station)).length := by
  induction ms with
  | nil => rfl
  | cons m ms ih =>
    rw [executedEntries_cons, List.filterMap_append, List.count_append, ih, List.filter_cons]
    by_cases ends : m.EndsSlot station
    · have view : m.entry.slotEnd? = some station := NetworkEvent.slotEnd?_eq_some.2 ends
      rw [if_pos (decide_eq_true ends), List.filterMap_cons_some view]
      simp
    · rw [if_neg (by simpa using ends)]
      cases view : m.entry.slotEnd? with
      | none => simp [view]
      | some other =>
        have different : other ≠ station := by
          rintro rfl
          exact ends (NetworkEvent.slotEnd?_eq_some.1 view)
        simp [view, different]

theorem Admitting.isAssociated_eq {s : Scenario} {outputs : Outputs} {w : World} {n a k : Nat}
    {executed pending : List (Entry NetworkEvent)} (admitting : Admitting s n a executed pending w)
    (scene : w.InScene s outputs) (inside : k < s.numStas) :
    w.isAssociated (k + 1) = decide (k < a) := by
  obtain ⟨f, flow⟩ := scene.exists_flow inside
  rw [flow.isAssociated_eq, Flow.isAssociated_of_standing (admitting.standing k f flow)]

namespace Admitting

variable {s : Scenario} {w : World} {n a k : Nat} {executed pending : List (Entry NetworkEvent)}

/-- No station is trained twice. -/
theorem count_slots_le (admitting : Admitting s n a executed pending w) (station : NodeId) :
    (executed.filterMap Entry.slotEnd?).count station ≤ 1 := by
  have count := admitting.slots.count_eq station
  rw [List.count_append] at count
  have once := List.nodup_iff_count.1 (List.nodup_range' (s := 1) (n := s.trained n)) station
  omega

/-- While a station waits for its turn, something is due that is not after it: its association if it
is trained, and the next beacon interval if it is not. -/
theorem exists_pending (admitting : Admitting s n a executed pending w)
    (ticking : Ticking s n executed pending) (inside : k < s.numStas) (waits : a ≤ k) :
    ∃ e ∈ pending, e.due ≤ s.associationTime k := by
  by_cases trained : k < s.trained n
  · have mem : (k + 1, s.associationTime k) ∈ pending.filterMap Entry.association? := by
      rw [admitting.due]
      exact List.mem_map.2 ⟨k, List.mem_range'_1.2 (by omega), rfl⟩
    obtain ⟨e, mem, view⟩ := List.mem_filterMap.1 mem
    have due := congrArg Time.nanos (Entry.due_of_association? view)
    exact ⟨e, mem, Time.le_def.2 (Nat.le_of_eq due)⟩
  · have left : 8 * n ≤ k := by
      unfold Scenario.trained at trained
      omega
    have mem : (n, s.intervalStart n) ∈ pending.filterMap Entry.interval? := by
      rw [ticking.next]
      exact List.mem_singleton_self _
    obtain ⟨e, mem, view⟩ := List.mem_filterMap.1 mem
    refine ⟨e, mem, ?_⟩
    rw [Entry.due_of_interval? view]
    exact s.intervalStart_le_associationTime left

end Admitting

namespace DenseRun

variable {spec : ScenarioSpec} {s : Scenario} {outputs : Outputs} {r : DenseRun}
  {sim : Simulator NetworkEvent} {w : World} {ms : List (Moment NetworkEvent World)} {k : Nat}

/-- What the moments of a run have done when `a` stations are associated. -/
structure AdmittedBy (s : Scenario) (a : Nat) (ms : List (Moment NetworkEvent World)) : Prop where
  gained : ∀ k < s.numStas, (ms.filter (Moment.gains (k + 1))).map (fun m => m.entry.due) =
    if k < a then [s.associationTime k] else []
  kept : ∀ k < s.numStas, ∀ m ∈ ms, m.loses (k + 1) = false
  trained : ∀ k < a, ∃ m ∈ ms, m.EndsSlot (k + 1)

/-- A moment that leaves the stations that are associated as they are, or admits the one whose turn
it is, keeps to the order. -/
theorem AdmittedBy.cons {m : Moment NetworkEvent World} {a a' : Nat} (admitted : AdmittedBy s a ms)
    (turn : a' = a ∨ a' = a + 1 ∧ m.entry.event = .associationComplete (a + 1) ∧
      m.entry.due = s.associationTime a)
    (before : ∀ k < s.numStas, m.world.isAssociated (k + 1) = decide (k < a))
    (after : ∀ k < s.numStas,
      (m.outcome World.behaviour).2.isAssociated (k + 1) = decide (k < a'))
    (ended : m.entry.event = .associationComplete (a + 1) → ∃ m' ∈ ms, m'.EndsSlot (a + 1)) :
    AdmittedBy s a' (m :: ms) := by
  constructor
  · intro k inside
    have gains : m.gains (k + 1) = (!decide (k < a) && decide (k < a')) := by
      rw [Moment.gains, before k inside, after k inside]
    have gained := admitted.gained k inside
    rcases turn with rfl | ⟨rfl, -, at_turn⟩
    · rw [List.filter_cons_of_neg (by simp [gains]), gained]
    · by_cases mine : k = a
      · subst mine
        rw [if_neg (Nat.lt_irrefl k), List.map_eq_nil_iff] at gained
        rw [List.filter_cons_of_pos (by simp [gains]), gained, if_pos (Nat.lt_succ_self k),
          List.map_singleton, at_turn]
      · have same : k < a ↔ k < a + 1 := by omega
        rw [List.filter_cons_of_neg (by simp [gains, same]), gained]
        simp only [same]
  · intro k inside m' mem
    rcases List.mem_cons.1 mem with rfl | mem
    · have more : a ≤ a' := by omega
      rw [Moment.loses, before k inside, after k inside]
      simp only [Bool.and_eq_false_imp, decide_eq_true_eq, Bool.not_eq_false']
      omega
    · exact admitted.kept k inside m' mem
  · intro k lt
    by_cases early : k < a
    · obtain ⟨m', mem, ends⟩ := admitted.trained k early
      exact ⟨m', List.mem_cons_of_mem _ mem, ends⟩
    · rcases turn with rfl | ⟨rfl, association, -⟩
      · exact absurd lt early
      · have mine : k = a := by omega
        obtain ⟨m', mem, ends⟩ := ended association
        exact ⟨m', List.mem_cons_of_mem _ mem, mine ▸ ends⟩

theorem LaidOut.admitting (run : LaidOut s outputs r) :
    Admitting s 0 0 [] r.simulator.pending r.world where
  ready := Nat.zero_le _
  nextAid := by
    rw [run.network]
    rfl
  standing k f flow := by
    rw [flow.unique (run.hasFlow (run.inScene.wired flow).inside)]
    rfl
  due := by
    rw [run.simulator, s.pending_simulator, Scenario.trained, Nat.mul_zero, Nat.zero_min]
    rfl
  slots := by
    rw [run.simulator, s.pending_simulator, Scenario.trained, Nat.mul_zero, Nat.zero_min]
    exact .refl _

/-- In every state some stations are associated, in the order of their numbers. -/
theorem Built.admitting (run : Built spec s outputs r) (reliable : outputs.Reliable)
    (free : s.blockages = []) (long : associationSpan ≤ s.beaconInterval)
    (history : History World.behaviour r.simulator r.world ms sim w) :
    ∃ n a, Ticking s n (executedEntries ms) sim.pending ∧
      Admitting s n a (executedEntries ms) sim.pending w ∧ AdmittedBy s a ms := by
  have accepted := ScenarioSpec.accepted_of_resolve run.accepted
  induction history with
  | start =>
    obtain ⟨n, ticking⟩ := run.ticking reliable .start
    have none : n = 0 := by
      have length := congrArg List.length ticking.begun
      rw [List.length_map, List.length_range] at length
      exact length.symm
    rw [none] at ticking
    exact ⟨0, 0, ticking, run.laidOut.admitting, fun k _ => rfl, by simp, by simp⟩
  | @execute ms sim w entry rest before pending ih =>
    obtain ⟨n, a, ticking, admitting, admitted⟩ := ih
    have scene := run.inScene before
    have intact := run.sound_of_pending before pending
    have after := before.execute pending
    have sound := (run.healthy reliable after).sound
    obtain ⟨first, ahead⟩ := run.slotsAhead_sinceLost long before intact
    have sorted := (run.inOrder before).sorted
    rw [pending] at ticking admitting first ahead sorted
    obtain ⟨n', a', ticking', admitting', turn⟩ := admitting.step scene accepted free sound
      (run.perm_pending_of_reliable reliable before pending) (run.inOrder after).sorted sorted
      ticking first
    rw [executedEntries_cons]
    refine ⟨n', a', ticking', admitting', ?_⟩
    have scene' := run.inScene after
    refine admitted.cons turn (fun k inside => admitting.isAssociated_eq scene inside)
      (fun k inside => admitting'.isAssociated_eq scene' inside) fun association => ?_
    obtain ⟨m, mem, ends⟩ := ahead.slot_ended (List.pairwise_cons.1 sorted).1 association
    exact ⟨m, sinceLost_subset mem, ends⟩
  | settle limit _ _ ih => simpa only [Simulator.pending_settle] using ih

/-- What is true of the station counted `k` from zero once it is associated. -/
structure Admitted (s : Scenario) (k : Nat) (ms : List (Moment NetworkEvent World)) (w : World) :
    Prop where
  once : (ms.filter (Moment.gains (k + 1))).map (fun m => m.entry.due) = [s.associationTime k]
  device : ∃ d, w.network.devices[k + 1]? = some d ∧ d.aid = some (k + 1)
  pair : ∃ p, w.experiment.pairs.get? (k + 1) = some p ∧ p.active = true ∧ p.activations = 1 ∧
    p.startTime = some (s.associationTime k)
  trained : (ms.filter fun m => decide (m.EndsSlot (k + 1))).length = 1

/-- What is true of the station counted `k` from zero in every state of a run: it never leaves, it
has one slot at most, in which its training is completed, and while it is not associated yet,
something is pending that is not due after its turn. -/
structure Admission (s : Scenario) (k : Nat) (ms : List (Moment NetworkEvent World))
    (sim : Simulator NetworkEvent) (w : World) : Prop where
  kept : ∀ m ∈ ms, m.loses (k + 1) = false
  slots : (ms.filter fun m => decide (m.EndsSlot (k + 1))).length ≤ 1
  completed : ∀ m ∈ ms, m.EndsSlot (k + 1) → m.CompletesTraining (k + 1)
  waiting : w.isAssociated (k + 1) = false →
    (∀ m ∈ ms, m.gains (k + 1) = false) ∧ ∃ e ∈ sim.pending, e.due ≤ s.associationTime k
  admitted : w.isAssociated (k + 1) = true → Admitted s k ms w

theorem Built.admission_of_history (run : Built spec s outputs r) (reliable : outputs.Reliable)
    (free : s.blockages = []) (long : associationSpan ≤ s.beaconInterval) (inside : k < s.numStas)
    (history : History World.behaviour r.simulator r.world ms sim w) : Admission s k ms sim w := by
  obtain ⟨n, a, ticking, admitting, admitted⟩ := run.admitting reliable free long history
  have scene := run.inScene history
  have associated := admitting.isAssociated_eq scene inside
  have few := admitting.count_slots_le (k + 1)
  rw [count_slotEnds] at few
  constructor
  · exact admitted.kept k inside
  · exact few
  · intro m mem ends
    obtain ⟨later, earlier, split⟩ := List.append_of_mem mem
    obtain ⟨before, pending⟩ := history.of_mem split
    exact (run.completesTraining_iff reliable before pending inside).2
      ⟨ends, Scenario.not_blockedAt free _ _⟩
  · intro waits
    rw [associated, decide_eq_false_iff_not] at waits
    have gained := admitted.gained k inside
    rw [if_neg waits, List.map_eq_nil_iff, List.filter_eq_nil_iff] at gained
    exact ⟨fun m mem => Bool.eq_false_iff.2 (gained m mem),
      admitting.exists_pending ticking inside (Nat.le_of_not_lt waits)⟩
  · intro is_in
    rw [associated, decide_eq_true_eq] at is_in
    obtain ⟨f, flow⟩ := scene.exists_flow inside
    have standing := admitting.standing k f flow
    rw [Scenario.standing, if_pos is_in] at standing
    simp only [Flow.standing, Prod.mk.injEq] at standing
    obtain ⟨aid, active, activations, started⟩ := standing
    obtain ⟨p, -, -, -, found⟩ := scene.exists_pair inside
    have pair := scene.unmeasured_of_get? flow found
    rw [← pair] at active activations started
    have gained := admitted.gained k inside
    rw [if_pos is_in] at gained
    obtain ⟨m, mem, ends⟩ := admitted.trained k is_in
    have some : 0 < (ms.filter fun m => decide (m.EndsSlot (k + 1))).length :=
      List.length_pos_of_mem (List.mem_filter.2 ⟨mem, decide_eq_true ends⟩)
    exact {
      once := gained
      device := ⟨_, flow.device, aid⟩
      pair := ⟨p, found, active, activations, started⟩
      trained := by omega }

/-- A run that goes on beyond the turn of a station has it associated at its end. -/
theorem Built.isAssociated_of_runUntil (run : Built spec s outputs r) (reliable : outputs.Reliable)
    (free : s.blockages = []) (long : associationSpan ≤ s.beaconInterval) (inside : k < s.numStas)
    {limit : Time} (late : s.associationTime k ≤ limit) {fuel : Nat}
    (ran : Simulator.runUntil World.behaviour limit fuel r.simulator r.world = some (sim, w)) :
    w.isAssociated (k + 1) = true := by
  obtain ⟨ms, history⟩ := History.of_runUntil ran
  refine (Bool.not_eq_false _).mp fun waits => ?_
  obtain ⟨e, mem, early⟩ :=
    ((run.admission_of_history reliable free long inside history).waiting waits).2
  have idle := (Simulator.Ends.of_runUntil ran).idle_of_running
    (run.healthy reliable history).running
  have after := (run.inOrder history).lt_due idle e mem
  rw [Time.le_def] at early late
  rw [Time.lt_def] at after
  omega

/-- In a run without blockages and with beacon intervals that have room for eight associations,
each station associates once and for good, when its turn comes, with its own number as its
identifier; its pair is activated then, and it is trained in one slot.  It has associated by the end
of the run if its turn is not after that. -/
theorem Built.admission (run : Built spec s outputs r) (reliable : outputs.Reliable)
    (free : s.blockages = []) (long : associationSpan ≤ s.beaconInterval) (inside : k < s.numStas) :
    (∀ ms sim w, History World.behaviour r.simulator r.world ms sim w → Admission s k ms sim w) ∧
    (s.associationNanos k ≤ s.stopTime.nanos →
      (s.associationTime k).nanos = s.associationNanos k ∧
      (∃ fuel sim w, Simulator.runUntil World.behaviour (s.associationTime k) fuel r.simulator
        r.world = some (sim, w) ∧ w.isAssociated (k + 1) = true) ∧
      ∀ fuel sim w, Simulator.runUntil World.behaviour s.stopTime fuel r.simulator r.world =
        some (sim, w) → w.isAssociated (k + 1) = true) := by
  refine ⟨fun ms sim w => run.admission_of_history reliable free long inside, fun early => ?_⟩
  have before := Scenario.associationNanos_lt_lastWord run.accepted early
  have turn : (s.associationTime k).nanos = s.associationNanos k := by
    rw [Scenario.associationTime, Time.nanos_ofNanos]
    exact Nat.min_eq_left (Nat.le_of_lt before)
  have by_then : s.associationTime k ≤ s.stopTime := by
    rw [Time.le_def, turn]
    exact early
  have in_time : (s.associationTime k).nanos < lastWord := by
    rw [turn]
    exact before
  refine ⟨turn, ?_, fun fuel sim w =>
    run.isAssociated_of_runUntil reliable free long inside by_then⟩
  obtain ⟨⟨sim, w⟩, ends⟩ := run.ends reliable in_time
  obtain ⟨fuel, ran⟩ := ends.exists_runUntil
  exact ⟨fuel, sim, w, ran, run.isAssociated_of_runUntil reliable free long inside
    (Nat.le_refl (s.associationTime k).nanos) ran⟩

end DenseRun

/-! ## Nine stations -/

namespace Nine

/-- One station more than a beacon interval admits. -/
def spec : ScenarioSpec := { numStas := 9, channel := { apSectors := 1, staSectors := 1 } }

def scenario : Scenario :=
  match spec.resolve with
  | .ok s => s
  | .error _ => default

def run : DenseRun :=
  match DenseRun.build scenario Lone.outputs with
  | .ok r => r
  | .error _ => default

theorem built : DenseRun.Built spec scenario Lone.outputs run := ⟨rfl, rfl⟩

/-- The last one has its turn in the second beacon interval. -/
theorem turn : scenario.associationTime 8 = .ofMicros 105250 ∧
    scenario.associationNanos 8 ≤ scenario.stopTime.nanos := by
  decide +kernel

end Nine

/-- The ninth station is admitted in the second beacon interval, as the ninth one. -/
theorem DenseRun.admission_nine : ∃ fuel sim w,
    Simulator.runUntil World.behaviour (.ofMicros 105250) fuel Nine.run.simulator Nine.run.world =
      some (sim, w) ∧
    (∃ d, w.network.devices[9]? = some d ∧ d.aid = some 9) ∧
    ∃ p, w.experiment.pairs.get? 9 = some p ∧ p.active = true ∧ p.activations = 1 ∧
      p.startTime = some (.ofMicros 105250) := by
  have free : Nine.scenario.blockages = [] := by decide +kernel
  have long : associationSpan ≤ Nine.scenario.beaconInterval := by decide +kernel
  have inside : 8 < Nine.scenario.numStas := by decide +kernel
  obtain ⟨always, in_time⟩ := Nine.built.admission Lone.reliable free long inside
  obtain ⟨-, ⟨fuel, sim, w, ran, associated⟩, -⟩ := in_time Nine.turn.2
  obtain ⟨ms, history⟩ := History.of_runUntil ran
  have admitted := (always ms sim w history).admitted associated
  rw [Nine.turn.1] at ran
  have pair := admitted.pair
  rw [Nine.turn.1] at pair
  exact ⟨fuel, sim, w, ran, admitted.device, pair⟩

end DenseDmg
