import DenseDmg.Proofs.Calls
import DenseDmg.Proofs.Network.Numbering

/-!
# Growing networks

Access points and stations are added to a network, and devices are associated and let go, in any
order.  `Network.run n calls` makes calls on a network, the earliest one first, and gives the
network with the history of calls and answers; a station that no access point is there for is
refused, and a call that names a node which is not there ends everything.

* `Network.Numbered.step`: what a call does to the devices.
* `Network.Grown`: what a history of calls and answers tells of the devices; `Network.Grown.step`
  and `Network.grown_of_run`: it is what calls have made of a network without devices.
-/

namespace DenseDmg

/-! ## Calls -/

/-- What is asked of a network. -/
inductive NetworkCall
  | addAccessPoint (position : Position) (sectors : Nat)
  | addStation (position : Position) (sectors : Nat)
  | associate (node : NodeId)
  | deassociate (node : NodeId)

inductive NetworkAnswer
  /-- The node of a new device. -/
  | created (node : NodeId)
  | associated (event : Associated)
  | deassociated (event : Deassociated)

/-- Calls with their answers. -/
abbrev NetworkHistory := List (NetworkCall × Except Fault NetworkAnswer)

namespace NetworkCall

/-- The node that must be there for a call. -/
def node? : NetworkCall → Option NodeId
  | associate node | deassociate node => some node
  | _ => none

/-- The role of what a call creates. -/
def role? : NetworkCall → Option Role
  | addAccessPoint .. => some .accessPoint
  | addStation .. => some .station
  | _ => none

/-- Where a call creates a device. -/
def position? : NetworkCall → Option Position
  | addAccessPoint position _ | addStation position _ => some position
  | _ => none

/-- The device that a call creates as a node while there is an access point, or none. -/
def device? (node : NodeId) (ap : Option NodeId) : NetworkCall → Option Device
  | addAccessPoint position sectors =>
    some ⟨node, Network.addressOf node, .accessPoint, position, sectors, 1,
      Network.addressOf node, none⟩
  | addStation position sectors =>
    ap.map fun ap =>
      ⟨node, Network.addressOf node, .station, position, sectors, 1, Network.addressOf ap, none⟩
  | _ => none

theorem of_device? {call : NetworkCall} {node : NodeId} {ap : Option NodeId} {d : Device}
    (made : call.device? node ap = some d) :
    d.node = node ∧ d.address = Network.addressOf node ∧ d.setup = d ∧
      call.role? = some d.role ∧ call.position? = some d.position := by
  cases call with
  | addAccessPoint position sectors =>
    cases made
    exact ⟨rfl, rfl, rfl, rfl, rfl⟩
  | addStation position sectors =>
    obtain ⟨ap, -, rfl⟩ := Option.map_eq_some_iff.1 made
    exact ⟨rfl, rfl, rfl, rfl, rfl⟩
  | associate node => cases made
  | deassociate node => cases made

/-- The node that a call has created. -/
def created? : NetworkCall × Except Fault NetworkAnswer → Option NodeId
  | (_, .ok (.created node)) => some node
  | _ => none

/-- The node that a call has created in a role. -/
def createdAs? (role : Role) (entry : NetworkCall × Except Fault NetworkAnswer) : Option NodeId :=
  if entry.1.role? = some role then created? entry else none

theorem of_created? {entry : NetworkCall × Except Fault NetworkAnswer} {node : NodeId}
    (created : created? entry = some node) : entry.2 = .ok (.created node) := by
  unfold created? at created
  split at created
  · cases created
    rfl
  · cases created

/-- What has created a station is a call for one. -/
theorem of_createdAs?_station {entry : NetworkCall × Except Fault NetworkAnswer} {node : NodeId}
    (created : createdAs? .station entry = some node) : ∃ position sectors,
      entry = (.addStation position sectors, .ok (.created node)) := by
  obtain ⟨call, answer⟩ := entry
  obtain ⟨role, created⟩ := Option.ite_none_right_eq_some.1 created
  obtain rfl : answer = .ok (.created node) := of_created? created
  cases call with
  | addStation position sectors => exact ⟨position, sectors, rfl⟩
  | addAccessPoint => cases role
  | associate => cases role
  | deassociate => cases role

/-- The access point that was created last. -/
def current? (history : NetworkHistory) : Option NodeId :=
  (history.filterMap (createdAs? .accessPoint)).getLast?

theorem current?_concat (history : NetworkHistory)
    (entry : NetworkCall × Except Fault NetworkAnswer) :
    current? (history ++ [entry]) = (createdAs? .accessPoint entry).or (current? history) := by
  unfold current?
  cases created : createdAs? .accessPoint entry with
  | none => rw [filterMap_concat_of_none created, Option.none_or]
  | some node => rw [filterMap_concat_of_some created, List.getLast?_concat, Option.some_or]

/-- Where a call has created a device. -/
def placed? (entry : NetworkCall × Except Fault NetworkAnswer) : Option Position :=
  if (created? entry).isSome then entry.1.position? else none

end NetworkCall

namespace Network

def perform (n : Network) : NetworkCall → Option (Network × Except Fault NetworkAnswer)
  | .addAccessPoint position sectors =>
    let (n, node) := n.addAccessPoint position sectors
    some (n, .ok (.created node))
  | .addStation position sectors =>
    match n.addStation position sectors with
    | .ok (n, node) => some (n, .ok (.created node))
    | .error f => some (n, .error f)
  | .associate node =>
    n.devices[node]?.map fun d =>
      let (n, event) := n.associate d
      (n, .ok (.associated event))
  | .deassociate node =>
    n.devices[node]?.map fun d =>
      let (n, event) := n.deassociate d
      (n, .ok (.deassociated event))

/-- What becomes of a network through calls. -/
def run (n : Network) (calls : List NetworkCall) : Option (Network × NetworkHistory) :=
  answered perform n calls

end Network

/-! ## One call -/

namespace Network

variable {n n' : Network} {call : NetworkCall} {answer : Except Fault NetworkAnswer}
  {history : NetworkHistory}

/-- The network with one more device; an access point becomes the one that stations belong to. -/
def grow (n : Network) (d : Device) : Network :=
  { n with
    devices := n.devices.push d
    accessPoint := if d.role = .accessPoint then some n.devices.size else n.accessPoint }

/-- What a call does to the devices of a network. -/
inductive Step (n : Network) : NetworkCall → Network → Except Fault NetworkAnswer → Prop
  /-- A device is added. -/
  | created {call : NetworkCall} {d : Device} :
    call.device? n.devices.size n.accessPoint = some d →
    Step n call (n.grow d) (.ok (.created n.devices.size))
  /-- No device is added, and no other becomes the access point. -/
  | kept {call : NetworkCall} {n' : Network} {answer : Except Fault NetworkAnswer} :
    call.role? ≠ some .accessPoint → NetworkCall.created? (call, answer) = none →
    n'.made = n.made → n'.accessPoint = n.accessPoint → Step n call n' answer

theorem made_grow (n : Network) (d : Device) : (n.grow d).made = n.made ++ [d.setup] := by
  rw [made, grow, Array.toList_push, List.map_append]
  rfl

theorem Numbered.empty (channel : ChannelConfig) (phy : PhyMode) (mac : MacParams) :
    (Network.empty channel phy mac).Numbered :=
  ⟨nofun, nofun⟩

/-- A station is refused while there is no access point, and nothing is changed. -/
theorem perform_addStation_of_none (current : n.accessPoint = none) (position : Position)
    (sectors : Nat) : n.perform (.addStation position sectors) =
      some (n, .error (.invalidValue "topology" "STA created before the AP")) := by
  simp [perform, addStation, current]

/-- Only a call that names a node which is not there cannot be made. -/
theorem perform_eq_none_iff :
    n.perform call = none ↔ ∃ node, call.node? = some node ∧ n.devices.size ≤ node := by
  cases call with
  | addAccessPoint position sectors => exact iff_of_false nofun nofun
  | addStation position sectors =>
    refine iff_of_false ?_ nofun
    rw [perform]
    split <;> exact Option.some_ne_none _
  | associate node => simp [perform, NetworkCall.node?]
  | deassociate node => simp [perform, NetworkCall.node?]

namespace Numbered

/-- A device that can be made is added to the network. -/
theorem perform_of_device? (numbered : n.Numbered) {d : Device}
    (new : call.device? n.devices.size n.accessPoint = some d) :
    n.perform call = some (n.grow d, .ok (.created n.devices.size)) := by
  cases call with
  | addAccessPoint position sectors =>
    cases new
    rfl
  | addStation position sectors =>
    obtain ⟨ap, current, rfl⟩ := Option.map_eq_some_iff.1 new
    obtain ⟨a, at_ap, address⟩ :=
      numbered.exists_device (n.length_made ▸ numbered.accessPoint ap current)
    simp [perform, addStation, current, at_ap, address, grow]
  | associate node => cases new
  | deassociate node => cases new

theorem step (numbered : n.Numbered) (performed : n.perform call = some (n', answer)) :
    n.Step call n' answer := by
  cases new : call.device? n.devices.size n.accessPoint with
  | some d =>
    rw [numbered.perform_of_device? new] at performed
    cases performed
    exact .created new
  | none =>
    cases call with
    | addAccessPoint position sectors => cases new
    | addStation position sectors =>
      rw [perform_addStation_of_none (Option.map_eq_none_iff.1 new)] at performed
      cases performed
      exact .kept nofun rfl rfl rfl
    | associate node =>
      obtain ⟨d, -, same⟩ := Option.map_eq_some_iff.1 performed
      cases same
      exact .kept nofun rfl (n.made_setAid ..) rfl
    | deassociate node =>
      obtain ⟨d, -, same⟩ := Option.map_eq_some_iff.1 performed
      cases same
      exact .kept nofun rfl (n.made_setAid ..) rfl

end Numbered

theorem Step.numbered (step : n.Step call n' answer) (numbered : n.Numbered) : n'.Numbered := by
  cases step with
  | kept _ _ made accessPoint =>
    constructor
    · rw [made]
      exact numbered.device
    · rw [made, accessPoint]
      exact numbered.accessPoint
  | @created d new =>
    obtain ⟨node, address, same, -⟩ := NetworkCall.of_device? new
    have made : (n.grow d).made = n.made ++ [d] := by rw [made_grow, same]
    constructor
    · intro i d' at_i
      rw [made, getElem?_concat_eq_some_iff] at at_i
      rcases at_i with old | ⟨rfl, rfl⟩
      · exact numbered.device i d' old
      · rw [length_made]
        exact ⟨node, address⟩
    · intro ap current
      rw [made, List.length_append, List.length_singleton]
      rw [grow] at current
      dsimp only at current
      split at current
      · cases current
        rw [length_made]
        exact Nat.lt_succ_self _
      · exact Nat.lt_succ_of_lt (numbered.accessPoint ap current)

/-! ## Any calls -/

/-- What a history of calls and answers has made of a network. -/
structure Grown (n : Network) (history : NetworkHistory) : Prop where
  numbered : n.Numbered
  /-- Nodes were given out from zero on. -/
  created : history.filterMap NetworkCall.created? = List.range n.made.length
  /-- The devices of a role stand in the order in which they were created. -/
  roles : ∀ role, (n.made.filter fun d => d.role == role).map Device.node =
    history.filterMap (NetworkCall.createdAs? role)
  placed : n.made.map Device.position = history.filterMap NetworkCall.placed?
  current : n.accessPoint = NetworkCall.current? history
  /-- There is an access point once one was to be added. -/
  known : n.accessPoint.isSome ↔ ∃ entry ∈ history, entry.1.role? = some .accessPoint
  /-- A device is as it was made when the access point of the time was the current one. -/
  kept : ∀ (k : Nat) (call : NetworkCall) (node : NodeId),
    history[k]? = some (call, .ok (.created node)) → ∃ d, n.made[node]? = some d ∧
      call.device? node (NetworkCall.current? (history.take k)) = some d

theorem grown_empty (channel : ChannelConfig) (phy : PhyMode) (mac : MacParams) :
    (Network.empty channel phy mac).Grown [] where
  numbered := .empty channel phy mac
  created := rfl
  roles _ := rfl
  placed := rfl
  current := rfl
  known := iff_of_false nofun nofun
  kept _ _ _ := nofun

/-- A call keeps what the calls before it have made of the network. -/
theorem Grown.step (grown : n.Grown history) (step : n.Step call n' answer) :
    n'.Grown (history ++ [(call, answer)]) := by
  have numbered := step.numbered grown.numbered
  have asked : (∃ entry ∈ history ++ [(call, answer)], entry.1.role? = some .accessPoint) ↔
      n.accessPoint.isSome ∨ call.role? = some .accessPoint := by
    rw [grown.known]
    simp [or_and_right, exists_or]
  have before (k : Nat) (call' : NetworkCall) (node : NodeId)
      (at_k : history[k]? = some (call', .ok (.created node))) : ∃ d, n.made[node]? = some d ∧
        call'.device? node (NetworkCall.current? ((history ++ [(call, answer)]).take k)) =
          some d := by
    have inside := (List.getElem?_eq_some_iff.1 at_k).1
    rw [List.take_append_of_le_length (Nat.le_of_lt inside)]
    exact grown.kept k call' node at_k
  cases step with
  | kept other nothing made accessPoint =>
    have noRole (role : Role) : NetworkCall.createdAs? role (call, answer) = none := by
      rw [NetworkCall.createdAs?, nothing, ite_self]
    have noPlace : NetworkCall.placed? (call, answer) = none := by
      rw [NetworkCall.placed?, nothing]
      rfl
    constructor
    case numbered => exact numbered
    case created =>
      rw [filterMap_concat_of_none nothing, grown.created, made]
    case roles =>
      intro role
      rw [filterMap_concat_of_none (noRole role), made, grown.roles]
    case placed => rw [filterMap_concat_of_none noPlace, made, grown.placed]
    case current =>
      rw [accessPoint, grown.current, NetworkCall.current?_concat, noRole]
      rfl
    case known => rw [asked, accessPoint, or_iff_left other]
    case kept =>
      intro k call' node at_k
      rw [made]
      rcases getElem?_concat_eq_some_iff.1 at_k with old | ⟨-, last⟩
      · exact before k call' node old
      · rw [last] at nothing
        cases nothing
  | @created d new =>
    obtain ⟨node, address, same, role, position⟩ := NetworkCall.of_device? new
    have made : (n.grow d).made = n.made ++ [d] := by rw [made_grow, same]
    have last (r : Role) : NetworkCall.createdAs? r (call, .ok (.created n.devices.size)) =
        if d.role = r then some n.devices.size else none := by
      simp only [NetworkCall.createdAs?, role, Option.some.injEq]
      rfl
    constructor
    case numbered => exact numbered
    case created =>
      have this : NetworkCall.created? (call, .ok (.created n.devices.size)) =
          some n.devices.size := rfl
      rw [filterMap_concat_of_some this, grown.created, made, List.length_append,
        List.length_singleton, List.range_succ, length_made]
    case roles =>
      intro r
      rw [made, List.filter_append, List.map_append, grown.roles]
      by_cases own : d.role = r
      · rw [filterMap_concat_of_some ((last r).trans (if_pos own))]
        simp [own, node]
      · rw [filterMap_concat_of_none ((last r).trans (if_neg own))]
        simp [own]
    case placed =>
      have this : NetworkCall.placed? (call, .ok (.created n.devices.size)) = some d.position :=
        position
      rw [filterMap_concat_of_some this, made, List.map_append, grown.placed]
      rfl
    case current =>
      rw [grow, NetworkCall.current?_concat, last, grown.current]
      dsimp only
      by_cases ap : d.role = .accessPoint
      · simp [ap]
      · simp [ap]
    case known =>
      rw [asked, role, grow]
      by_cases ap : d.role = .accessPoint
      · simp [ap]
      · simp [ap]
    case kept =>
      intro k call' node' at_k
      rw [made]
      rcases getElem?_concat_eq_some_iff.1 at_k with old | ⟨rfl, this⟩
      · obtain ⟨d', at_node, device⟩ := before k call' node' old
        exact ⟨d', getElem?_concat_eq_some_iff.2 (.inl at_node), device⟩
      · cases this
        rw [List.take_left, ← grown.current]
        exact ⟨d, getElem?_concat_eq_some_iff.2 (.inr ⟨n.length_made.symm, rfl⟩), new⟩

theorem grown_of_run {channel : ChannelConfig} {phy : PhyMode} {mac : MacParams}
    {calls : List NetworkCall} (ran : (empty channel phy mac).run calls = some (n, history)) :
    n.Grown history :=
  invariant_of_answered (P := Grown) (grown_empty channel phy mac)
    (fun grown performed => grown.step (grown.numbered.step performed)) ran

/-- The access point that was created last is one. -/
theorem Grown.role_of_current (grown : n.Grown history) {ap : NodeId} {k : Nat}
    (current : NetworkCall.current? (history.take k) = some ap) :
    ∃ d, n.made[ap]? = some d ∧ d.role = .accessPoint ∧ d.address = addressOf ap := by
  have mem : ap ∈ history.filterMap (NetworkCall.createdAs? .accessPoint) := by
    obtain ⟨entry, mem, created⟩ := List.mem_filterMap.1 (List.mem_of_getLast? current)
    exact List.mem_filterMap.2 ⟨entry, List.mem_of_mem_take mem, created⟩
  rw [← grown.roles, List.mem_map] at mem
  obtain ⟨d, mem, rfl⟩ := mem
  obtain ⟨mem, role⟩ := List.mem_filter.1 mem
  obtain ⟨i, at_i⟩ := List.mem_iff_getElem?.1 mem
  obtain ⟨rfl, address⟩ := grown.numbered.device i d at_i
  exact ⟨d, at_i, beq_iff_eq.1 role, address⟩

end Network

end DenseDmg
