import DenseDmg.Proofs.Address.Faithful
import DenseDmg.Proofs.World.Setup

/-!
# The numbers of devices

Devices are numbered in the order of their creation, and an address is allocated for each number; so
the node of an address tells which device has it, as long as there are addresses enough.

* `Network.Numbered`: every device has the number and the address of its place.
* `Network.Numbered.nodeOf?_eq_some_iff`: what is found for an address is the device that has it.
-/

namespace DenseDmg

namespace Network

variable {n : Network} {i : NodeId} {d : Device} {address : MacAddress}

/-- As many devices as there are numbers of 48 bits have addresses of their own. -/
theorem addressOf_inj {a b : Nat} (ha : a + 1 < 2 ^ 48) (hb : b + 1 < 2 ^ 48)
    (same : addressOf a = addressOf b) : a = b := by
  have value := congrArg MacAddress.value same
  rw [addressOf, addressOf, MacAddress.value_allocate ha, MacAddress.value_allocate hb] at value
  exact Nat.succ.inj value

/-! ## The devices as they were made -/

/-- The devices of a network, in the order of their nodes, none of them associated. -/
def made (n : Network) : List Device := n.devices.toList.map Device.setup

@[simp] theorem length_made (n : Network) : n.made.length = n.devices.size := by
  rw [made, List.length_map, Array.length_toList]

theorem getElem?_made (n : Network) (i : Nat) : n.made[i]? = n.devices[i]?.map Device.setup := by
  rw [made, List.getElem?_map, Array.getElem?_toList]

/-- What an association identifier does not matter to is the same whatever it is set to. -/
theorem map_setAid {α : Type} {f : Device → α}
    (unseen : ∀ (d : Device) (aid : Option Nat), f { d with aid := aid } = f d) (n : Network)
    (node : NodeId) (aid : Option Nat) :
    (n.setAid node aid).devices.map f = n.devices.map f :=
  map_modify_eq n.devices node fun d => unseen d aid

theorem made_setAid (n : Network) (node : NodeId) (aid : Option Nat) :
    (n.setAid node aid).made = n.made := by
  rw [made, made, ← Array.toList_map, ← Array.toList_map, map_setAid fun _ _ => rfl]

/-! ## Numbers and addresses -/

/-- The devices of a network have the numbers and addresses of their places, and the access point
that stations belong to is one of them. -/
structure Numbered (n : Network) : Prop where
  device : ∀ i d, n.made[i]? = some d → d.node = i ∧ d.address = addressOf i
  accessPoint : ∀ ap, n.accessPoint = some ap → ap < n.made.length

namespace Numbered

theorem of_getElem? (numbered : n.Numbered) (at_i : n.devices[i]? = some d) :
    d.node = i ∧ d.address = addressOf i :=
  numbered.device i d.setup (by rw [getElem?_made, at_i]; rfl)

/-- Every number below that of the devices is the node of one, with its address. -/
theorem exists_device (numbered : n.Numbered) (inside : i < n.devices.size) :
    ∃ d, n.devices[i]? = some d ∧ d.address = addressOf i := by
  have at_i := Array.getElem?_eq_getElem inside
  exact ⟨_, at_i, (numbered.of_getElem? at_i).2⟩

/-- A search that finds devices of an address only, and always one if there is one, finds the device
of the address. -/
theorem eq_some_iff_of_search (numbered : n.Numbered) (few : n.devices.size < 2 ^ 48)
    {found : Option NodeId}
    (sound : ∀ j, found = some j → ∃ d, n.devices[j]? = some d ∧ d.address = address)
    (complete : found = none →
      ∀ (j : Nat) (d : Device), n.devices[j]? = some d → d.address ≠ address) :
    found = some i ↔ ∃ d, n.devices[i]? = some d ∧ d.address = address := by
  refine ⟨sound i, fun ⟨d, at_i, own⟩ => ?_⟩
  cases result : found with
  | none => exact absurd own (complete result i d at_i)
  | some j =>
    obtain ⟨d', at_j, own'⟩ := sound j result
    have inside := (Array.getElem?_eq_some_iff.1 at_i).1
    have inside' := (Array.getElem?_eq_some_iff.1 at_j).1
    have same : addressOf j = addressOf i := by
      rw [← (numbered.of_getElem? at_j).2, own', ← own, (numbered.of_getElem? at_i).2]
    rw [addressOf_inj (by omega) (by omega) same]

theorem nodeOf?_eq_some_iff (numbered : n.Numbered) (few : n.devices.size < 2 ^ 48) :
    n.nodeOf? address = some i ↔ ∃ d, n.devices[i]? = some d ∧ d.address = address := by
  refine numbered.eq_some_iff_of_search few (fun j found => ?_) fun missing j d at_j => ?_
  · obtain ⟨inside, own, -⟩ := Array.findIdx?_eq_some_iff_getElem.1 found
    exact ⟨_, Array.getElem?_eq_getElem inside, beq_iff_eq.1 own⟩
  · have other := Array.findIdx?_eq_none_iff.1 missing d (Array.mem_of_getElem? at_j)
    exact beq_eq_false_iff_ne.1 other

end Numbered

end Network

end DenseDmg
