import DenseDmg.Proofs.Association.Slots
import DenseDmg.Proofs.World.Deeds

/-!
# Association identifiers

Identifiers are given out in rotation: the admission counted `i` from zero comes with the identifier
`i % 65535 + 1`, whether that is still in use or not.  A device keeps its identifier until it is let
go or admitted again, so that two devices have the same one only if one of them has kept it while a
whole number of rotations went by.

* `Rotating`: which admission is in force for each device; `Rotating.associate` and
  `Rotating.deassociate` are its steps.
* `Network.Populated.identifiers_rotate`: the identifiers of a network after any number of changes.
* `Network.identifiers_collide`: two devices with the same identifier.
* `Built.identified`: the identifiers in a run.
-/

namespace DenseDmg

/-! ## Changes -/

/-- A device is admitted, or let go. -/
inductive AssociationChange
  | joins (node : NodeId)
  | leaves (node : NodeId)
deriving DecidableEq

namespace AssociationChange

def isJoin : AssociationChange → Bool
  | joins _ => true
  | leaves _ => false

/-- How many admissions there were. -/
def admissions (cs : List AssociationChange) : Nat := cs.countP isJoin

/-- The admission that is in force for a node, counted from zero, where the changes stand with the
latest one first. -/
def admission? (node : NodeId) : List AssociationChange → Option Nat
  | [] => none
  | .joins other :: cs => if other = node then some (admissions cs) else admission? node cs
  | .leaves other :: cs => if other = node then none else admission? node cs

/-- The identifier that goes with an admission. -/
def identifier (i : Nat) : Nat := i % 65535 + 1

variable {cs : List AssociationChange} {i j k : Nat} {node : NodeId}

theorem admissions_joins (node : NodeId) (cs : List AssociationChange) :
    admissions (.joins node :: cs) = admissions cs + 1 :=
  List.countP_cons_of_pos rfl

theorem admissions_leaves (node : NodeId) (cs : List AssociationChange) :
    admissions (.leaves node :: cs) = admissions cs :=
  List.countP_cons_of_neg (by simp [isJoin])

theorem admission?_lt (inForce : admission? node cs = some i) : i < admissions cs := by
  induction cs with
  | nil => cases inForce
  | cons c cs ih =>
    cases c with
    | joins other =>
      rw [admissions_joins]
      rw [admission?] at inForce
      split at inForce
      · cases inForce
        exact Nat.lt_succ_self _
      · exact Nat.lt_succ_of_lt (ih inForce)
    | leaves other =>
      rw [admissions_leaves]
      rw [admission?] at inForce
      split at inForce
      · cases inForce
      · exact ih inForce

/-- An admission admits one node. -/
theorem admission?_injective (first : admission? j cs = some i)
    (second : admission? k cs = some i) : j = k := by
  induction cs with
  | nil => cases first
  | cons c cs ih =>
    cases c with
    | joins other =>
      rw [admission?] at first second
      -- The latest admission is counted after all that are in force for other nodes.
      split at first <;> split at second
      next same same' => exact same.symm.trans same'
      next =>
        cases first
        exact absurd (admission?_lt second) (Nat.lt_irrefl _)
      next =>
        cases second
        exact absurd (admission?_lt first) (Nat.lt_irrefl _)
      next => exact ih first second
    | leaves other =>
      rw [admission?] at first second
      split at first
      · cases first
      · split at second
        · cases second
        · exact ih first second

theorem followingAid_identifier (i : Nat) :
    Network.followingAid (identifier i) = identifier (i + 1) := by
  unfold Network.followingAid identifier
  omega

/-- Admissions with the same identifier are a whole number of rotations apart. -/
theorem identifier_eq_iff (le : i ≤ k) :
    identifier i = identifier k ↔ ∃ turns, k = i + 65535 * turns := by
  unfold identifier
  constructor
  · intro same
    exact ⟨(k - i) / 65535, by omega⟩
  · rintro ⟨turns, rfl⟩
    omega

end AssociationChange

open AssociationChange

/-! ## Networks -/

/-- The devices of a network have the identifiers of the admissions that are in force for them. -/
structure Rotating (cs : List AssociationChange) (n : Network) : Prop where
  nextAid : n.nextAid = identifier (admissions cs)
  aid : ∀ node d, n.devices[node]? = some d → d.aid = (admission? node cs).map identifier

namespace Rotating

variable {cs : List AssociationChange} {n n' : Network}

theorem congr (rotating : Rotating cs n) (devices : n'.devices = n.devices)
    (next : n'.nextAid = n.nextAid) : Rotating cs n' := by
  refine ⟨next.trans rotating.nextAid, fun node d at_node => ?_⟩
  rw [devices] at at_node
  exact rotating.aid node d at_node

theorem associate (rotating : Rotating cs n) (d : Device) :
    Rotating (.joins d.node :: cs) (n.associate d).1 := by
  constructor
  · rw [admissions_joins, ← followingAid_identifier, ← rotating.nextAid]
    rfl
  · intro node e at_node
    simp only [Network.associate, Network.setAid, Array.getElem?_modify] at at_node
    rw [admission?]
    split at at_node
    next same =>
      obtain ⟨e', at_node, rfl⟩ := Option.map_eq_some_iff.1 at_node
      rw [if_pos same, Option.map_some, ← rotating.nextAid]
    next other =>
      rw [if_neg other]
      exact rotating.aid node e at_node

theorem deassociate (rotating : Rotating cs n) (d : Device) :
    Rotating (.leaves d.node :: cs) (n.deassociate d).1 := by
  constructor
  · rw [admissions_leaves, ← rotating.nextAid]
    rfl
  · intro node e at_node
    simp only [Network.deassociate, Network.setAid, Array.getElem?_modify] at at_node
    rw [admission?]
    split at at_node
    next same =>
      obtain ⟨e', at_node, rfl⟩ := Option.map_eq_some_iff.1 at_node
      rw [if_pos same, Option.map_none]
    next other =>
      rw [if_neg other]
      exact rotating.aid node e at_node

end Rotating

/-- What identifiers in rotation say about the devices that are associated. -/
structure Network.Identified (cs : List AssociationChange) (n : Network) : Prop where
  /-- An identifier is a 16-bit word that is not zero. -/
  word : ∀ (j : NodeId) d aid, n.devices[j]? = some d → d.aid = some aid → 1 ≤ aid ∧ aid ≤ 65535
  /-- It is that of the admission in force. -/
  origin : ∀ (j : NodeId) d aid, n.devices[j]? = some d → d.aid = some aid →
    ∃ i < admissions cs, admission? j cs = some i ∧ aid = identifier i
  /-- Devices that share an identifier were admitted a whole number of rotations apart. -/
  apart : ∀ (j k : NodeId) d e aid, n.devices[j]? = some d → n.devices[k]? = some e →
    d.aid = some aid → e.aid = some aid → j ≠ k →
    ∃ i i' turns, admission? j cs = some i ∧ admission? k cs = some i' ∧ 0 < turns ∧
      (i' = i + 65535 * turns ∨ i = i' + 65535 * turns)
  /-- During the first rotation, devices that share an identifier are one device. -/
  unique : admissions cs ≤ 65535 → ∀ (j k : NodeId) d e aid, n.devices[j]? = some d →
    n.devices[k]? = some e → d.aid = some aid → e.aid = some aid → j = k

theorem Rotating.identified {cs : List AssociationChange} {n : Network}
    (rotating : Rotating cs n) : n.Identified cs := by
  have origin : ∀ (j : NodeId) d aid, n.devices[j]? = some d → d.aid = some aid →
      ∃ i < admissions cs, admission? j cs = some i ∧ aid = identifier i := by
    intro j d aid at_j associated
    rw [rotating.aid j d at_j] at associated
    obtain ⟨i, inForce, rfl⟩ := Option.map_eq_some_iff.1 associated
    exact ⟨i, admission?_lt inForce, inForce, rfl⟩
  have apart : ∀ (j k : NodeId) d e aid, n.devices[j]? = some d → n.devices[k]? = some e →
      d.aid = some aid → e.aid = some aid → j ≠ k →
      ∃ i i' turns, admission? j cs = some i ∧ admission? k cs = some i' ∧ 0 < turns ∧
        (i' = i + 65535 * turns ∨ i = i' + 65535 * turns) := by
    intro j k d e aid at_j at_k first second different
    obtain ⟨i, -, inForce, rfl⟩ := origin j d aid at_j first
    obtain ⟨i', -, inForce', same⟩ := origin k e _ at_k second
    have other : i ≠ i' := by
      rintro rfl
      exact different (admission?_injective inForce inForce')
    rcases Nat.le_total i i' with le | le
    · obtain ⟨turns, distance⟩ := (identifier_eq_iff le).1 same
      exact ⟨i, i', turns, inForce, inForce', by omega, .inl distance⟩
    · obtain ⟨turns, distance⟩ := (identifier_eq_iff le).1 same.symm
      exact ⟨i, i', turns, inForce, inForce', by omega, .inr distance⟩
  refine ⟨fun j d aid at_j associated => ?_, origin, apart, ?_⟩
  · obtain ⟨i, -, -, rfl⟩ := origin j d aid at_j associated
    unfold identifier
    omega
  · intro few j k d e aid at_j at_k first second
    by_cases same : j = k
    · exact same
    · obtain ⟨i, i', turns, inForce, inForce', some, distance⟩ :=
        apart j k d e aid at_j at_k first second same
      have lt := admission?_lt inForce
      have lt' := admission?_lt inForce'
      omega

namespace Network

/-- Networks that are built by adding access points and stations. -/
inductive Populated : Network → Prop
  | empty (channel : ChannelConfig) (phy : PhyMode) (mac : MacParams) :
    Populated (.empty channel phy mac)
  | accessPoint {n : Network} (position : Position) (sectors : Nat) :
    Populated n → Populated (n.addAccessPoint position sectors).1
  | station {n n' : Network} {position : Position} {sectors : Nat} {node : NodeId} :
    Populated n → n.addStation position sectors = .ok (n', node) → Populated n'

/-- `n₀.Changed cs n`: from `n₀` on devices were admitted and let go as `cs` says, the latest change
first, which led to `n`. -/
inductive Changed (n₀ : Network) : List AssociationChange → Network → Prop
  | start : Changed n₀ [] n₀
  | joins {cs : List AssociationChange} {n : Network} {d : Device} :
    Changed n₀ cs n → d ∈ n.devices → Changed n₀ (.joins d.node :: cs) (n.associate d).1
  | leaves {cs : List AssociationChange} {n : Network} {d : Device} :
    Changed n₀ cs n → d ∈ n.devices → Changed n₀ (.leaves d.node :: cs) (n.deassociate d).1

variable {n n₀ : Network} {cs : List AssociationChange}

theorem Populated.rotating (populated : n.Populated) : Rotating [] n := by
  have pushed {n n' : Network} {device : Device} (rotating : Rotating [] n)
      (idle : device.aid = none) (devices : n'.devices = n.devices.push device)
      (next : n'.nextAid = n.nextAid) : Rotating [] n' := by
    refine ⟨next.trans rotating.nextAid, fun node d at_node => ?_⟩
    rw [devices, Array.getElem?_push] at at_node
    split at at_node
    · cases at_node
      exact idle
    · exact rotating.aid node d at_node
  induction populated with
  | empty channel phy mac => exact ⟨rfl, fun node d at_node => nomatch at_node⟩
  | accessPoint position sectors _ ih => exact pushed ih rfl rfl rfl
  | station _ added ih =>
    unfold addStation at added
    split at added
    · cases added
    · cases added
      exact pushed ih rfl rfl rfl

theorem Changed.rotating (changed : n₀.Changed cs n) (rotating : Rotating [] n₀) :
    Rotating cs n := by
  induction changed with
  | start => exact rotating
  | joins _ _ ih => exact ih.associate _
  | leaves _ _ ih => exact ih.deassociate _

/-- However often devices are admitted and let go, their identifiers are words that are not zero,
and two devices share one only if they were admitted a whole number of rotations apart. -/
theorem Populated.identifiers_rotate (populated : n₀.Populated) (changed : n₀.Changed cs n) :
    n.Identified cs :=
  (changed.rotating populated.rotating).identified

theorem map_node_setAid (n : Network) (node : NodeId) (aid : Option Nat) :
    (n.setAid node aid).devices.toList.map Device.node = n.devices.toList.map Device.node := by
  refine List.ext_getElem? fun i => ?_
  rw [List.getElem?_map, List.getElem?_map, Array.getElem?_toList, Array.getElem?_toList, setAid,
    Array.getElem?_modify]
  split
  · cases n.devices[i]? <;> rfl
  · rfl

end Network

/-! ## A station that comes and goes -/

namespace Visits

/-- An access point and two stations. -/
def network : Network :=
  let n := ((Network.empty default default default).addAccessPoint default 1).1
  match n.addStation default 1 with
  | .error _ => n
  | .ok (n, _) =>
    match n.addStation default 1 with
    | .error _ => n
    | .ok (n, _) => n

theorem populated : network.Populated :=
  .station (.station (.accessPoint _ _ (.empty ..)) rfl) rfl

/-- The first station associates and stays, the second one comes and goes. -/
def visits : Nat → List AssociationChange
  | 0 => [.joins 1]
  | m + 1 => .leaves 2 :: .joins 2 :: visits m

theorem admissions_visits (m : Nat) : admissions (visits m) = m + 1 := by
  induction m with
  | zero => rfl
  | succ m ih => rw [visits, admissions_leaves, admissions_joins, ih]

theorem admission_visits (m : Nat) : admission? 1 (visits m) = some 0 := by
  induction m with
  | zero => rfl
  | succ m ih => rw [visits, admission?, if_neg (by decide), admission?, if_neg (by decide), ih]

theorem exists_device {n : Network} (nodes : n.devices.toList.map Device.node = [0, 1, 2])
    {k : Nat} (inside : k < 3) : ∃ d, n.devices[k]? = some d ∧ d.node = k := by
  have at_k : (n.devices.toList.map Device.node)[k]? = some k := by
    rw [nodes]
    match k, inside with
    | 0, _ | 1, _ | 2, _ => rfl
  rw [List.getElem?_map, Array.getElem?_toList] at at_k
  exact Option.map_eq_some_iff.1 at_k

theorem exists_joins {n : Network} {cs : List AssociationChange} (changed : network.Changed cs n)
    (nodes : n.devices.toList.map Device.node = [0, 1, 2]) {k : Nat} (inside : k < 3) :
    ∃ n', network.Changed (.joins k :: cs) n' ∧
      n'.devices.toList.map Device.node = [0, 1, 2] := by
  obtain ⟨d, at_k, node⟩ := exists_device nodes inside
  have joined := changed.joins (Array.mem_of_getElem? at_k)
  rw [node] at joined
  exact ⟨_, joined, (n.map_node_setAid d.node _).trans nodes⟩

theorem exists_changed (m : Nat) : ∃ n, network.Changed (visits m) n ∧
    n.devices.toList.map Device.node = [0, 1, 2] := by
  induction m with
  | zero => exact exists_joins .start rfl (by decide)
  | succ m ih =>
    obtain ⟨n, changed, nodes⟩ := ih
    obtain ⟨n', joined, nodes'⟩ := exists_joins changed nodes (k := 2) (by decide)
    obtain ⟨d, at_two, node⟩ := exists_device nodes' (k := 2) (by decide)
    have left := joined.leaves (Array.mem_of_getElem? at_two)
    rw [node] at left
    exact ⟨_, left, (n'.map_node_setAid d.node none).trans nodes'⟩

/-- After its visits the second station has the identifier that follows them. -/
theorem exists_identifiers (m : Nat) : ∃ n d e,
    network.Changed (.joins 2 :: visits m) n ∧ n.devices[1]? = some d ∧ n.devices[2]? = some e ∧
      d.aid = some (identifier 0) ∧ e.aid = some (identifier (m + 1)) := by
  obtain ⟨n, changed, nodes⟩ := exists_changed m
  obtain ⟨n', joined, nodes'⟩ := exists_joins changed nodes (k := 2) (by decide)
  obtain ⟨d, at_one, -⟩ := exists_device nodes' (k := 1) (by decide)
  obtain ⟨e, at_two, -⟩ := exists_device nodes' (k := 2) (by decide)
  have rotating := joined.rotating populated.rotating
  refine ⟨n', d, e, joined, at_one, at_two, ?_, ?_⟩
  · rw [rotating.aid 1 d at_one, admission?, if_neg (by decide), admission_visits]
    rfl
  · rw [rotating.aid 2 e at_two, admission?, if_pos rfl, admissions_visits]
    rfl

end Visits

/-- A station that has been away once has the third identifier, its neighbour still the first. -/
theorem Network.identifiers_rotate_visits : ∃ n d e,
    Visits.network.Changed (.joins 2 :: Visits.visits 1) n ∧
      n.devices[1]? = some d ∧ n.devices[2]? = some e ∧ d.aid = some 1 ∧ e.aid = some 3 ∧
      n.Identified (.joins 2 :: Visits.visits 1) := by
  obtain ⟨n, d, e, changed, at_one, at_two, first, third⟩ := Visits.exists_identifiers 1
  exact ⟨n, d, e, changed, at_one, at_two, first, third,
    Visits.populated.identifiers_rotate changed⟩

/-- A station that has been away 65534 times gets the identifier that its neighbour still has. -/
theorem Network.identifiers_collide : Visits.network.Populated ∧ ∃ n d e,
    Visits.network.Changed (.joins 2 :: Visits.visits 65534) n ∧
      n.devices[1]? = some d ∧ n.devices[2]? = some e ∧ d.aid = some 1 ∧ e.aid = some 1 := by
  obtain ⟨n, d, e, changed, at_one, at_two, first, again⟩ := Visits.exists_identifiers 65534
  have rotation : identifier (65534 + 1) = 1 := by decide
  rw [rotation] at again
  exact ⟨Visits.populated, n, d, e, changed, at_one, at_two, first, again⟩

/-! ## Runs -/

/-- Whether an event may complete an association. -/
def NetworkEvent.completes : NetworkEvent → Bool
  | .associationComplete _ => true
  | _ => false

/-- An event admits at most the station whose association it completes. -/
theorem Rotating.act {cs : List AssociationChange} {w : World} (rotating : Rotating cs w.network)
    (now : Time) (event : NetworkEvent) : ∃ cs', Rotating cs' (w.act now event).1.network ∧
      admissions cs' ≤ admissions cs + if event.completes then 1 else 0 := by
  have reported {cs : List AssociationChange} {w : World} (rotating : Rotating cs w.network)
      (e : LinkEvent) : Rotating cs (w.dispatch e now).1.network :=
    rotating.congr (w.devices_dispatch e now) (w.nextAid_dispatch e now)
  by_cases association : ∃ station, event = .associationComplete station
  · obtain ⟨station, rfl⟩ := association
    simp only [World.act, World.completeAssociation]
    split
    next ap d _ _ =>
      split
      · exact ⟨cs, rotating, Nat.le_succ _⟩
      · exact ⟨_, reported (rotating.associate d) _, Nat.le_of_eq (admissions_joins d.node cs)⟩
    next => exact ⟨cs, rotating, Nat.le_succ _⟩
  · -- No other event admits anybody, whatever it does one deed after the other.
    have kept : ∃ cs', Rotating cs' (w.act now event).1.network ∧
        admissions cs' = admissions cs := by
      refine World.act_preserves (P := fun v => ∃ cs', Rotating cs' v.network ∧
        admissions cs' = admissions cs) (fun d does v => ?_) ⟨cs, rotating, rfl⟩
      rintro ⟨cs', rotating, same⟩
      cases does with
      | report e => exact ⟨cs', reported rotating e, same⟩
      | loss index d =>
        exact ⟨_, rotating.deassociate d, (admissions_leaves d.node cs').trans same⟩
      | association station d => exact absurd ⟨station, rfl⟩ association
      | sample =>
        refine ⟨cs', ?_, same⟩
        show Rotating cs' (v.sampleThroughput now).network
        unfold World.sampleThroughput
        split
        · exact rotating
        · rw [(World.sameParts_check _ _).network]
          exact rotating
      | stranger => exact ⟨cs', rotating, same⟩
      | arrival | finish | send => exact ⟨cs', rotating.congr rfl rfl, same⟩
    obtain ⟨cs', rotating, same⟩ := kept
    exact ⟨cs', rotating, same ▸ Nat.le_add_right ..⟩

namespace DenseRun

theorem LaidOut.rotating {s : Scenario} {outputs : Outputs} {r : DenseRun}
    (run : LaidOut s outputs r) : Rotating [] r.world.network := by
  rw [run.network]
  refine ⟨rfl, fun node d at_node => ?_⟩
  rcases List.mem_cons.1 (Array.mem_toList_iff.2 (Array.mem_of_getElem? at_node)) with rfl | mem
  · rfl
  · obtain ⟨k, -, rfl⟩ := List.mem_map.1 mem
    rfl

/-- In every state of a run the devices have identifiers in rotation, and there were no more
admissions than completions of associations: up to 65535 of them, no two devices share one. -/
theorem Built.identified {spec : ScenarioSpec} {s : Scenario} {outputs : Outputs} {r : DenseRun}
    {sim : Simulator NetworkEvent} {w : World} {ms : List (Moment NetworkEvent World)}
    (run : Built spec s outputs r)
    (history : History World.behaviour r.simulator r.world ms sim w) :
    ∃ cs, w.network.Identified cs ∧
      admissions cs ≤ ms.countP fun m => m.entry.event.completes := by
  have rotates : ∃ cs, Rotating cs w.network ∧
      admissions cs ≤ ms.countP fun m => m.entry.event.completes := by
    induction history with
    | start => exact ⟨[], run.laidOut.rotating, Nat.le_refl _⟩
    | @execute ms sim w entry rest _ _ ih =>
      obtain ⟨cs, rotating, few⟩ := ih
      obtain ⟨cs', rotating', more⟩ := rotating.act entry.due entry.event
      refine ⟨cs', rotating', Nat.le_trans more ?_⟩
      rw [List.countP_cons]
      exact Nat.add_le_add_right few _
    | settle _ _ _ ih => exact ih
  obtain ⟨cs, rotating, few⟩ := rotates
  exact ⟨cs, rotating.identified, few⟩

end DenseRun

end DenseDmg
