import DenseDmg.Network.Basic

/-!
# The tables of a network

The devices of a network with their positions apart, in the channel, and with an index of the nodes
by address, so that the device of an address is not searched for.  A node is its place in both
tables; nobody asks whether there is such a place.  An operation that gives `none` has gone beyond
a table, or has placed a node out of turn.
-/

namespace DenseDmg

/-- A device, wherever it stands. -/
structure Adapter where
  node : NodeId
  address : MacAddress
  role : Role
  sectors : Nat
  antenna : Nat
  bssid : MacAddress
  aid : Option Nat
deriving DecidableEq, Inhabited

structure NetworkTables where
  adapters : Array Adapter
  /-- The nodes by address, a later entry before an earlier one. -/
  nodes : List (MacAddress × NodeId)
  /-- Where the nodes stand, for the channel between them. -/
  positions : Array Position
  /-- The node of the access point that later stations belong to. -/
  accessPoint : Option NodeId
  nextAid : Nat
deriving Inhabited

namespace NetworkTables

def empty : NetworkTables := ⟨#[], [], #[], none, 1⟩

def size (t : NetworkTables) : Nat := t.adapters.size

/-- Enter the position of a node; nodes are placed in the order of their creation. -/
def place (t : NetworkTables) (node : NodeId) (position : Position) : Option NetworkTables :=
  if node = t.positions.size then some { t with positions := t.positions.push position } else none

/-- Enter a device into all tables. -/
def push (t : NetworkTables) (a : Adapter) (position : Position) : Option NetworkTables :=
  (t.place a.node position).map fun t =>
    { t with nodes := (a.address, a.node) :: t.nodes, adapters := t.adapters.push a }

/-- Add an access point, which becomes the one that later stations belong to. -/
def addAccessPoint (t : NetworkTables) (position : Position) (sectors : Nat) :
    Option (NetworkTables × NodeId) :=
  let node := t.size
  let address := Network.addressOf node
  (t.push ⟨node, address, .accessPoint, sectors, 1, address, none⟩ position).map fun t =>
    ({ t with accessPoint := some node }, node)

/-- Add a station.  There must be an access point for it to belong to. -/
def addStation (t : NetworkTables) (position : Position) (sectors : Nat) :
    Option (NetworkTables × Except Fault NodeId) :=
  match t.accessPoint with
  | none => some (t, .error (.invalidValue "topology" "STA created before the AP"))
  | some ap =>
    t.adapters[ap]?.bind fun a =>
      let node := t.size
      let device := ⟨node, Network.addressOf node, .station, sectors, 1, a.address, none⟩
      (t.push device position).map fun t => (t, .ok node)

/-- The node that an address belongs to. -/
def nodeOf? (t : NetworkTables) (address : MacAddress) : Option NodeId := t.nodes.lookup address

/-- The nodes of the stations, in the order of their creation. -/
def stations (t : NetworkTables) : List NodeId :=
  (t.adapters.toList.filter fun a => a.role == .station).map Adapter.node

/-- Set the association identifier of a node.  The answer is its device as it was. -/
def setAid (t : NetworkTables) (node : NodeId) (aid : Option Nat) :
    Option (NetworkTables × Adapter) :=
  t.adapters[node]?.map fun a =>
    ({ t with adapters := t.adapters.modify node fun a => { a with aid := aid } }, a)

/-- Admit a station under the next identifier. -/
def associate (t : NetworkTables) (node : NodeId) : Option (NetworkTables × Associated) :=
  (t.setAid node (some t.nextAid)).map fun (changed, a) =>
    ({ changed with nextAid := Network.followingAid t.nextAid },
      ⟨node, a.address, a.bssid, t.nextAid⟩)

/-- Let a station go. -/
def deassociate (t : NetworkTables) (node : NodeId) : Option (NetworkTables × Deassociated) :=
  (t.setAid node none).map fun (t, a) => (t, ⟨node, a.address, a.bssid⟩)

end NetworkTables

end DenseDmg
