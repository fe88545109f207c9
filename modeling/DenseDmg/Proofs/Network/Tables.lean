import DenseDmg.Network.Tables
import DenseDmg.Proofs.Network.Growth

/-!
# The tables of a growing network

`NetworkTables.run calls` makes calls on empty tables, the earliest one first, whichever of them
are refused, and gives the tables with the history of calls and answers, unless a call names a node
that is not there.  `Network.tables n` are the tables in which the network `n` is stored.

* `Network.Numbered.tables_perform`: a call does to the tables what it does to the network.
* `Network.Numbered.nodeOf?_tables_eq_some_iff`: what the index gives for an address.
* `NetworkTables.tables_consistent`: the tables after any calls.
-/

namespace DenseDmg

namespace NetworkTables

def perform (t : NetworkTables) :
    NetworkCall → Option (NetworkTables × Except Fault NetworkAnswer)
  | .addAccessPoint position sectors =>
    (t.addAccessPoint position sectors).map fun (t, node) => (t, .ok (.created node))
  | .addStation position sectors =>
    (t.addStation position sectors).map fun (t, answer) => (t, answer.map .created)
  | .associate node => (t.associate node).map fun (t, event) => (t, .ok (.associated event))
  | .deassociate node => (t.deassociate node).map fun (t, event) => (t, .ok (.deassociated event))

def run (calls : List NetworkCall) : Option (NetworkTables × NetworkHistory) :=
  answered perform .empty calls

end NetworkTables

/-! ## The tables of a network -/

/-- A change of one entry is seen through a map as a change of its image. -/
theorem map_modify {α β : Type} (xs : Array α) (i : Nat) {f : α → α} {g : α → β} {h : β → β}
    (image : ∀ x, g (f x) = h (g x)) : (xs.modify i f).map g = (xs.map g).modify i h := by
  apply Array.ext_getElem?
  intro j
  rw [Array.getElem?_map, Array.getElem?_modify, Array.getElem?_modify, Array.getElem?_map]
  split
  · rw [Option.map_map, Option.map_map]
    exact congrArg (fun k => xs[j]?.map k) (funext image)
  · rfl

def Device.adapter (d : Device) : Adapter :=
  ⟨d.node, d.address, d.role, d.sectors, d.antenna, d.bssid, d.aid⟩

namespace Network

variable {n : Network} {call : NetworkCall} {history : NetworkHistory}

/-- The tables in which a network is stored. -/
def tables (n : Network) : NetworkTables where
  adapters := n.devices.map Device.adapter
  nodes := (n.devices.map fun d => (d.address, d.node)).toList.reverse
  positions := n.devices.map Device.position
  accessPoint := n.accessPoint
  nextAid := n.nextAid

@[simp] theorem size_tables (n : Network) : n.tables.size = n.devices.size :=
  Array.size_map

/-- To add a device is to enter it into all tables. -/
theorem tables_push (n : Network) (d : Device) (own : d.node = n.devices.size) :
    n.tables.push d.adapter d.position =
      some ({ n with devices := n.devices.push d } : Network).tables := by
  have turn : d.adapter.node = n.tables.positions.size := by
    rw [tables, Array.size_map]
    exact own
  rw [NetworkTables.push, NetworkTables.place, if_pos turn]
  simp only [tables, Option.map_some, Array.map_push, Array.toList_push, List.reverse_append,
    List.reverse_singleton, List.singleton_append]
  rfl

/-- To set the association identifier of a device changes its entry in one of the tables. -/
theorem tables_setAid (n : Network) (node : NodeId) (aid : Option Nat) :
    n.tables.setAid node aid =
      n.devices[node]?.map fun d => ((n.setAid node aid).tables, d.adapter) := by
  have adapters : (n.setAid node aid).devices.map Device.adapter =
      n.tables.adapters.modify node fun a => { a with aid := aid } :=
    map_modify n.devices node (f := fun d => { d with aid := aid }) fun _ => rfl
  have changed : (n.setAid node aid).tables = { n.tables with
      adapters := n.tables.adapters.modify node fun a => { a with aid := aid } } := by
    rw [tables, adapters, map_setAid fun _ _ => rfl, map_setAid fun _ _ => rfl]
    rfl
  rw [changed, NetworkTables.setAid, tables, Array.getElem?_map, Option.map_map]
  rfl

/-! ## One call -/

/-- A station is refused while there is no access point, and no table is changed. -/
theorem tables_perform_addStation_of_none (current : n.accessPoint = none) (position : Position)
    (sectors : Nat) : n.tables.perform (.addStation position sectors) =
      some (n.tables, .error (.invalidValue "topology" "STA created before the AP")) := by
  have none : n.tables.accessPoint = none := current
  rw [NetworkTables.perform, NetworkTables.addStation, none]
  rfl

namespace Numbered

/-- A device that can be made is entered into all tables. -/
theorem tables_perform_of_device? (numbered : n.Numbered) {d : Device}
    (new : call.device? n.devices.size n.accessPoint = some d) :
    n.tables.perform call = some ((n.grow d).tables, .ok (.created n.devices.size)) := by
  have pushed := n.tables_push d (NetworkCall.of_device? new).1
  cases call with
  | addAccessPoint position sectors =>
    cases new
    rw [NetworkTables.perform, NetworkTables.addAccessPoint, size_tables]
    dsimp only [Device.adapter] at pushed ⊢
    rw [pushed]
    rfl
  | addStation position sectors =>
    obtain ⟨ap, current, rfl⟩ := Option.map_eq_some_iff.1 new
    obtain ⟨a, at_ap, address⟩ :=
      numbered.exists_device (n.length_made ▸ numbered.accessPoint ap current)
    have adapter : n.tables.adapters[ap]? = some a.adapter := by
      rw [tables, Array.getElem?_map, at_ap]
      rfl
    have current : n.tables.accessPoint = some ap := current
    rw [NetworkTables.perform, NetworkTables.addStation, current, size_tables]
    dsimp only
    rw [adapter, Option.bind_some]
    dsimp only [Device.adapter] at pushed ⊢
    rw [address, pushed]
    rfl
  | associate node => cases new
  | deassociate node => cases new

/-- A call does to the tables what it does to the network. -/
theorem tables_perform (numbered : n.Numbered) (call : NetworkCall) :
    n.tables.perform call = (n.perform call).map fun (n, answer) => (n.tables, answer) := by
  cases new : call.device? n.devices.size n.accessPoint with
  | some d =>
    rw [numbered.tables_perform_of_device? new, numbered.perform_of_device? new]
    rfl
  | none =>
    cases call with
    | addAccessPoint position sectors => cases new
    | addStation position sectors =>
      have current := Option.map_eq_none_iff.1 new
      rw [tables_perform_addStation_of_none current, perform_addStation_of_none current]
      rfl
    | associate node =>
      rw [NetworkTables.perform, NetworkTables.associate, tables_setAid, perform]
      cases at_node : n.devices[node]? with
      | none => rfl
      | some d =>
        simp only [Option.map_some, associate, (numbered.of_getElem? at_node).1]
        rfl
    | deassociate node =>
      rw [NetworkTables.perform, NetworkTables.deassociate, tables_setAid, perform]
      cases at_node : n.devices[node]? with
      | none => rfl
      | some d =>
        simp only [Option.map_some, deassociate, (numbered.of_getElem? at_node).1]
        rfl

end Numbered

/-- Calls do to the tables what they do to the network. -/
theorem run_tables (channel : ChannelConfig) (phy : PhyMode) (mac : MacParams)
    (calls : List NetworkCall) : NetworkTables.run calls =
      ((empty channel phy mac).run calls).map fun (n, history) => (n.tables, history) := by
  have bare : NetworkTables.empty = (empty channel phy mac).tables := by
    simp [tables, empty, NetworkTables.empty]
  unfold NetworkTables.run
  rw [bare]
  refine answered_map (P := Numbered) (.empty channel phy mac) ?_ ?_
  · exact fun numbered performed => (numbered.step performed).numbered numbered
  · exact fun call numbered => numbered.tables_perform call

/-! ## What is stored -/

/-- A device is stored as it was made, apart from its association identifier. -/
theorem exists_adapter {i : NodeId} {d : Device} (at_i : n.made[i]? = some d) :
    ∃ aid, n.tables.adapters[i]? = some { d.adapter with aid := aid } ∧
      n.tables.positions[i]? = some d.position := by
  rw [getElem?_made] at at_i
  obtain ⟨d, stored, rfl⟩ := Option.map_eq_some_iff.1 at_i
  refine ⟨d.aid, ?_, ?_⟩
  · rw [tables, Array.getElem?_map, stored]
    rfl
  · rw [tables, Array.getElem?_map, stored]
    rfl

theorem exists_device_of_adapter {i : NodeId} {a : Adapter}
    (at_i : n.tables.adapters[i]? = some a) : ∃ d, n.devices[i]? = some d ∧ d.adapter = a := by
  rw [tables, Array.getElem?_map] at at_i
  exact Option.map_eq_some_iff.1 at_i

/-- What the index gives for an address is the device that has it. -/
theorem Numbered.nodeOf?_tables_eq_some_iff (numbered : n.Numbered)
    (few : n.devices.size < 2 ^ 48) {address : MacAddress} {i : NodeId} :
    n.tables.nodeOf? address = some i ↔ ∃ d, n.devices[i]? = some d ∧ d.address = address := by
  refine numbered.eq_some_iff_of_search few (fun j found => ?_) fun missing j d at_j same => ?_
  · obtain ⟨_, _, split, -⟩ := List.lookup_eq_some_iff.1 found
    have mem : (address, j) ∈ n.tables.nodes := by
      rw [split]
      exact List.mem_append_right _ List.mem_cons_self
    simp only [tables, List.mem_reverse, Array.mem_toList_iff, Array.mem_map, Prod.mk.injEq] at mem
    obtain ⟨d, mem, own, rfl⟩ := mem
    obtain ⟨k, at_k⟩ := Array.mem_iff_getElem?.1 mem
    exact ⟨d, (numbered.of_getElem? at_k).1 ▸ at_k, own⟩
  · have mem : (address, d.node) ∈ n.tables.nodes := by
      simp only [tables, List.mem_reverse, Array.mem_toList_iff, Array.mem_map, Prod.mk.injEq]
      exact ⟨d, Array.mem_of_getElem? at_j, same, rfl⟩
    exact bne_iff_ne.1 (List.lookup_eq_none_iff.1 missing _ mem) rfl

theorem stations_tables (n : Network) : n.tables.stations = n.stations.map Device.node := by
  rw [NetworkTables.stations, tables, Array.toList_map, List.filter_map, List.map_map]
  rfl

theorem map_node_stations (n : Network) : n.stations.map Device.node =
    (n.made.filter fun d => d.role == .station).map Device.node := by
  rw [made, List.filter_map, List.map_map]
  rfl

/-- The nodes that are listed are those at which a station is stored. -/
theorem Numbered.mem_stations_tables (numbered : n.Numbered) {node : NodeId} :
    node ∈ n.tables.stations ↔
      ∃ a : Adapter, n.tables.adapters[node]? = some a ∧ a.role = .station := by
  rw [stations_tables, map_node_stations, List.mem_map]
  constructor
  · rintro ⟨d, mem, rfl⟩
    obtain ⟨mem, role⟩ := List.mem_filter.1 mem
    obtain ⟨i, at_i⟩ := List.mem_iff_getElem?.1 mem
    obtain ⟨rfl, -⟩ := numbered.device i d at_i
    obtain ⟨aid, adapter, -⟩ := exists_adapter at_i
    exact ⟨_, adapter, beq_iff_eq.1 role⟩
  · rintro ⟨a, at_node, role⟩
    obtain ⟨d, stored, rfl⟩ := exists_device_of_adapter at_node
    have made : n.made[node]? = some d.setup := by rw [getElem?_made, stored]; rfl
    exact ⟨d.setup, List.mem_filter.2 ⟨List.mem_of_getElem? made, beq_iff_eq.2 role⟩,
      (numbered.device node d.setup made).1⟩

end Network

/-! ## The tables after any calls -/

/-- What a history of calls and answers has made of the tables. -/
structure NetworkTables.Consistent (t : NetworkTables) (history : NetworkHistory) : Prop where
  /-- The devices that were created have the numbers from zero on, in their order. -/
  created : history.filterMap NetworkCall.created? = List.range t.size
  /-- A device has the number of its place, and the address that is allocated for it. -/
  numbered : ∀ (i : Nat) (a : Adapter), t.adapters[i]? = some a →
    a.node = i ∧ a.address = .allocate (i + 1)
  /-- The channel has the positions of the devices, one for each. -/
  positions : t.positions.toList = history.filterMap NetworkCall.placed?
  placed : t.positions.size = t.size
  /-- The index is the inverse of the table of devices, and knows no other address. -/
  nodeOf?_iff : ∀ address i,
    t.nodeOf? address = some i ↔ ∃ a : Adapter, t.adapters[i]? = some a ∧ a.address = address
  current : t.accessPoint = NetworkCall.current? history
  /-- An access point belongs to itself. -/
  accessPoints : ∀ (k : Nat) (position : Position) (sectors : Nat) (node : NodeId),
    history[k]? = some (.addAccessPoint position sectors, .ok (.created node)) →
      ∃ a : Adapter, t.adapters[node]? = some a ∧ a.role = .accessPoint ∧ a.sectors = sectors ∧
        t.positions[node]? = some position ∧ a.bssid = a.address
  /-- A station belongs to the access point that was the last one when the station was created. -/
  stations : ∀ (k : Nat) (position : Position) (sectors : Nat) (node : NodeId),
    history[k]? = some (.addStation position sectors, .ok (.created node)) →
      ∃ (a : Adapter) (ap : NodeId) (b : Adapter), t.adapters[node]? = some a ∧
        a.role = .station ∧ a.sectors = sectors ∧ t.positions[node]? = some position ∧
        NetworkCall.current? (history.take k) = some ap ∧ t.adapters[ap]? = some b ∧
        b.role = .accessPoint ∧ a.bssid = b.address
  /-- There are no other stations. -/
  belongs : ∀ (node : NodeId) (a : Adapter), t.adapters[node]? = some a → a.role = .station →
    ∃ (k : Nat) (position : Position) (sectors : Nat),
      history[k]? = some (.addStation position sectors, .ok (.created node))
  /-- The stations are listed in the order in which they were created, and nothing else is. -/
  listed : t.stations = history.filterMap (NetworkCall.createdAs? .station)
  mem_stations : ∀ node,
    node ∈ t.stations ↔ ∃ a : Adapter, t.adapters[node]? = some a ∧ a.role = .station
  /-- Before there is an access point a station is refused, and nothing is changed. -/
  refused : (¬∃ entry ∈ history, entry.1.role? = some .accessPoint) → ∀ position sectors,
    t.perform (.addStation position sectors) =
      some (t, .error (.invalidValue "topology" "STA created before the AP"))
  /-- Later on it is created. -/
  accepted : (∃ entry ∈ history, entry.1.role? = some .accessPoint) → ∀ position sectors,
    ∃ t', t.perform (.addStation position sectors) = some (t', .ok (.created t.size))
  /-- Only a call that names a node which is not there goes beyond the tables. -/
  stops_iff : ∀ call,
    t.perform call = none ↔ ∃ node, call.node? = some node ∧ t.size ≤ node

namespace Network

variable {n : Network} {history : NetworkHistory}

theorem Grown.consistent (grown : n.Grown history) (few : n.devices.size < 2 ^ 48) :
    n.tables.Consistent history := by
  have numbered := grown.numbered
  constructor
  case created => rw [grown.created, length_made, size_tables]
  case numbered =>
    intro i a at_i
    obtain ⟨d, stored, rfl⟩ := exists_device_of_adapter at_i
    exact numbered.of_getElem? stored
  case positions =>
    rw [← grown.placed, made, List.map_map, tables, Array.toList_map]
    rfl
  case placed => rw [size_tables, tables, Array.size_map]
  case nodeOf?_iff =>
    intro address i
    rw [numbered.nodeOf?_tables_eq_some_iff few, tables, Array.getElem?_map]
    simp [Device.adapter]
  case current => exact grown.current
  case accessPoints =>
    intro k position sectors node at_k
    obtain ⟨d, at_node, device⟩ := grown.kept k _ node at_k
    cases device
    obtain ⟨aid, adapter, placed⟩ := exists_adapter at_node
    exact ⟨_, adapter, rfl, rfl, placed, rfl⟩
  case stations =>
    intro k position sectors node at_k
    obtain ⟨d, at_node, device⟩ := grown.kept k _ node at_k
    obtain ⟨ap, current, rfl⟩ := Option.map_eq_some_iff.1 device
    obtain ⟨b, at_ap, role, address⟩ := grown.role_of_current current
    obtain ⟨aid, adapter, placed⟩ := exists_adapter at_node
    obtain ⟨aid', adapter', -⟩ := exists_adapter at_ap
    exact ⟨_, ap, _, adapter, rfl, rfl, placed, current, adapter', role, address.symm⟩
  case belongs =>
    intro node a at_node role
    have mem := numbered.mem_stations_tables.2 ⟨a, at_node, role⟩
    rw [stations_tables, map_node_stations, grown.roles, List.mem_filterMap] at mem
    obtain ⟨entry, mem, created⟩ := mem
    obtain ⟨k, at_k⟩ := List.mem_iff_getElem?.1 mem
    obtain ⟨position, sectors, rfl⟩ := NetworkCall.of_createdAs?_station created
    exact ⟨k, position, sectors, at_k⟩
  case listed => rw [stations_tables, map_node_stations, grown.roles]
  case mem_stations => exact fun node => numbered.mem_stations_tables
  case refused =>
    intro never position sectors
    rw [← grown.known, Bool.not_eq_true, Option.isSome_eq_false_iff, Option.isNone_iff_eq_none]
      at never
    exact tables_perform_addStation_of_none never position sectors
  case accepted =>
    intro before position sectors
    obtain ⟨ap, current⟩ := Option.isSome_iff_exists.1 (grown.known.2 before)
    have new : (NetworkCall.addStation position sectors).device? n.devices.size n.accessPoint =
        some ⟨n.devices.size, addressOf n.devices.size, .station, position, sectors, 1,
          addressOf ap, none⟩ := by
      rw [current]
      rfl
    rw [size_tables]
    exact ⟨_, numbered.tables_perform_of_device? new⟩
  case stops_iff =>
    intro call
    rw [numbered.tables_perform, Option.map_eq_none_iff, perform_eq_none_iff, size_tables]

end Network

namespace NetworkTables

/-- After any calls with fewer devices than there are addresses, whichever of the calls were
refused: every device has the number of its place and its own address, the index is the inverse of
the table of devices, the channel has a position for each of them, and stations belong to the access
points that were the last ones when they were created.  A network that is searched is the same. -/
theorem tables_consistent (channel : ChannelConfig) (phy : PhyMode) (mac : MacParams)
    {calls : List NetworkCall} {t : NetworkTables} {history : NetworkHistory}
    (ran : run calls = some (t, history)) (few : t.size < 2 ^ 48) :
    history.map Prod.fst = calls ∧ t.Consistent history ∧
      ∃ n : Network, (Network.empty channel phy mac).run calls = some (n, history) ∧
        n.tables = t ∧ (∀ address, n.nodeOf? address = t.nodeOf? address) ∧
        n.stations.map Device.node = t.stations := by
  rw [Network.run_tables channel phy mac] at ran
  obtain ⟨⟨n, history⟩, searched, same⟩ := Option.map_eq_some_iff.1 ran
  cases same
  rw [Network.size_tables] at few
  have grown := Network.grown_of_run searched
  refine ⟨map_fst_of_answered searched, grown.consistent few, n, searched, rfl, fun address => ?_,
    n.stations_tables.symm⟩
  refine Option.ext fun i => ?_
  rw [grown.numbered.nodeOf?_eq_some_iff few, grown.numbered.nodeOf?_tables_eq_some_iff few]

/-- A station too early, then two access points with stations of their own. -/
def twoCells : List NetworkCall :=
  let origin : Position := ⟨0.0, 0.0, 0.0⟩
  [.addStation origin 8, .addAccessPoint origin 16, .addStation origin 8, .associate 1,
    .addAccessPoint origin 4, .addStation origin 8, .deassociate 1, .addStation origin 8]

theorem run_twoCells : ∃ t history, run twoCells = some (t, history) ∧ t.size < 2 ^ 48 ∧
    t.Consistent history ∧ t.stations = [1, 3, 4] ∧ t.nodeOf? (.allocate 4) = some 3 ∧
    t.nodeOf? (.allocate 6) = none := by
  have seen : (run twoCells).map (fun (t, _) =>
      (t.size, t.stations, t.nodeOf? (.allocate 4), t.nodeOf? (.allocate 6))) =
      some (5, [1, 3, 4], some 3, none) := rfl
  obtain ⟨⟨t, history⟩, ran, shown⟩ := Option.map_eq_some_iff.1 seen
  obtain ⟨size, stations, fourth, sixth⟩ := by simpa only [Prod.mk.injEq] using shown
  have few : t.size < 2 ^ 48 := by
    rw [size]
    decide
  exact ⟨t, history, ran, few, (tables_consistent default default default ran few).2.1, stations,
    fourth, sixth⟩

end NetworkTables

end DenseDmg
