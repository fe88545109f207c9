import DenseDmg.Network.LinkEvent
import DenseDmg.Radio.Channel
import DenseDmg.Traffic.Applications

/-!
# The network

A network is a table of devices addressed by node number, the channel between them, the traffic
applications on them and the timing of the medium access.  Addresses are given out in the order
of creation; stations belong to the access point that was created last before them.
-/

namespace DenseDmg

/-! ## Timing -/

structure MacParams where
  beaconInterval : Time
  /-- Beacon transmission interval. -/
  bti : Time
  /-- Slots of an association beamforming training. -/
  abftSlots : Nat
  abftSlot : Time
  /-- One sector sweep frame with the gap after it. -/
  sweepFrame : Time
  /-- From the start of data transfer to the first association; the others follow at the same
  distance from each other. -/
  assocDelay : Time
  /-- From the request of a training to its first frame. -/
  accessDelay : Time
deriving DecidableEq

namespace MacParams

def standard : MacParams where
  beaconInterval := .ofMicros 102400
  bti := .ofMicros 800
  abftSlots := 8
  abftSlot := .ofMicros 250
  sweepFrame := .ofMicros 16
  assocDelay := .ofMicros 50
  accessDelay := .ofMicros 20

instance : Inhabited MacParams := ⟨standard⟩

/-- From the start of a beacon interval to its data transfer interval. -/
def transferOffset (m : MacParams) : Time := m.bti + m.abftSlot.repeated m.abftSlots

def transferDuration (m : MacParams) : Time := m.beaconInterval - m.transferOffset

end MacParams

/-! ## Devices -/

structure Device where
  node : NodeId
  address : MacAddress
  role : Role
  position : Position
  /-- Sectors of the device's codebook. -/
  sectors : Nat
  antenna : Nat
  bssid : MacAddress
  /-- Association identifier, while associated. -/
  aid : Option Nat
deriving Inhabited

namespace Device

def isAssociated (d : Device) : Bool := d.aid.isSome

def endpoint (d : Device) : Endpoint := ⟨d.node, d.position, d.sectors⟩

end Device

/-! ## Blockages -/

/-- The link of a node is interrupted from one instant until just before another. -/
structure Blockage where
  node : NodeId
  start : Time
  finish : Time
deriving DecidableEq, Inhabited

def Blockage.covers (b : Blockage) (now : Time) : Bool :=
  decide (b.start ≤ now) && decide (now < b.finish)

/-- Blockages gathered by node, so that a node is not looked for among those of all others. -/
structure BlockageTable where
  rows : List (NodeId × List Blockage)
deriving Inhabited

namespace BlockageTable

def empty : BlockageTable := ⟨[]⟩

def enterRow (b : Blockage) : List (NodeId × List Blockage) → List (NodeId × List Blockage)
  | [] => [(b.node, [b])]
  | (node, bs) :: rows =>
    if node = b.node then (node, b :: bs) :: rows else (node, bs) :: enterRow b rows

def enter (t : BlockageTable) (b : Blockage) : BlockageTable := ⟨enterRow b t.rows⟩

def ofList (bs : List Blockage) : BlockageTable := bs.foldl enter empty

/-- Whether a node is cut off at an instant. -/
def covers (t : BlockageTable) (node : NodeId) (now : Time) : Bool :=
  t.rows.any fun (owner, bs) => owner == node && bs.any (·.covers now)

theorem covers_enter (t : BlockageTable) (b : Blockage) (node : NodeId) (now : Time) :
    (t.enter b).covers node now = (t.covers node now || b.node == node && b.covers now) := by
  unfold covers enter
  induction t.rows with
  | nil => simp [enterRow]
  | cons row rows ih =>
    obtain ⟨owner, bs⟩ := row
    rw [enterRow]
    split
    next same =>
      subst same
      simp only [List.any_cons]
      cases b.node == node <;> cases b.covers now <;> simp
    next => rw [List.any_cons, ih, List.any_cons, Bool.or_assoc]

/-- A node is cut off if one of the blockages that were entered is a blockage of it. -/
theorem covers_ofList (bs : List Blockage) (node : NodeId) (now : Time) :
    (ofList bs).covers node now = bs.any fun b => b.node == node && b.covers now := by
  have entered (t : BlockageTable) : (bs.foldl enter t).covers node now =
      (t.covers node now || bs.any fun b => b.node == node && b.covers now) := by
    induction bs generalizing t with
    | nil => simp
    | cons b bs ih => rw [List.foldl_cons, ih, covers_enter, List.any_cons, Bool.or_assoc]
  exact entered empty

end BlockageTable

/-! ## Networks -/

structure Network where
  devices : Array Device
  accessPoint : Option NodeId
  /-- The association identifier to be given out next. -/
  nextAid : Nat
  blockages : BlockageTable
  channel : ChannelConfig
  apps : Applications
  phy : PhyMode
  mac : MacParams
deriving Inhabited

namespace Network

def empty (channel : ChannelConfig) (phy : PhyMode) (mac : MacParams) : Network where
  devices := #[]
  accessPoint := none
  nextAid := 1
  blockages := .empty
  channel := channel
  apps := .empty
  phy := phy
  mac := mac

/-- The address of the device that gets a node number. -/
def addressOf (node : NodeId) : MacAddress := .allocate (node + 1)

/-- Add an access point, which becomes the one that later stations belong to. -/
def addAccessPoint (n : Network) (position : Position) (sectors : Nat) : Network × NodeId :=
  let node := n.devices.size
  let address := addressOf node
  let device := ⟨node, address, .accessPoint, position, sectors, 1, address, none⟩
  ({ n with devices := n.devices.push device, accessPoint := some node }, node)

/-- Add a station.  There must be an access point for it to belong to. -/
def addStation (n : Network) (position : Position) (sectors : Nat) :
    Except Fault (Network × NodeId) :=
  match n.accessPoint.bind fun ap => n.devices[ap]? with
  | none => .error (.invalidValue "topology" "STA created before the AP")
  | some ap =>
    let node := n.devices.size
    let device := ⟨node, addressOf node, .station, position, sectors, 1, ap.address, none⟩
    .ok ({ n with devices := n.devices.push device }, node)

def addBlockage (n : Network) (b : Blockage) : Network :=
  { n with blockages := n.blockages.enter b }

/-- The node that a device's address belongs to. -/
def nodeOf? (n : Network) (address : MacAddress) : Option NodeId :=
  n.devices.findIdx? fun d => d.address == address

/-- The stations, in the order of their creation. -/
def stations (n : Network) : List Device :=
  n.devices.toList.filter fun d => d.role == .station

/-! ## Links -/

def isBlocked (n : Network) (node : NodeId) (now : Time) : Bool := n.blockages.covers node now

def linkUp (n : Network) (a b : NodeId) (now : Time) : Bool :=
  !n.isBlocked a now && !n.isBlocked b now

/-- The sector in which a device reaches another one. -/
def bestSector (origin target : Device) : Nat :=
  Channel.bestSector origin.position target.position origin.sectors

def snr (n : Network) (tx rx : Device) (now : Time) : Float :=
  Channel.snr n.channel tx.endpoint rx.endpoint now

def traceIndex (n : Network) (now : Time) : Nat := Channel.traceIndex n.channel now

/-! ## Association -/

/-- Association identifiers are 16-bit words; after the last one they begin at one again. -/
def followingAid (aid : Nat) : Nat := max ((aid + 1) % 0x10000) 1

def setAid (n : Network) (node : NodeId) (aid : Option Nat) : Network :=
  { n with devices := n.devices.modify node fun d => { d with aid := aid } }

/-- Admit a station under the next identifier. -/
def associate (n : Network) (station : Device) : Network × Associated :=
  let aid := n.nextAid
  ({ n.setAid station.node (some aid) with nextAid := followingAid aid },
    ⟨station.node, station.address, station.bssid, aid⟩)

/-- Let a station go. -/
def deassociate (n : Network) (station : Device) : Network × Deassociated :=
  (n.setAid station.node none, ⟨station.node, station.address, station.bssid⟩)

end Network

end DenseDmg
