import DenseDmg.Fault

/-!
# Addresses and their nodes

An address book says which node an address belongs to.  Each address is to be registered once; a
second registration is refused, and yet it is the later node that the address then stands for.
-/

namespace DenseDmg

/-- Addresses and their nodes, in the order of first registration. -/
structure AddressBook where
  entries : List (MacAddress × NodeId)
deriving DecidableEq, Inhabited

namespace AddressBook

def empty : AddressBook := ⟨[]⟩

def size (b : AddressBook) : Nat := b.entries.length

/-- Enter an address, or change the node of one that is there already. -/
def bind (b : AddressBook) (address : MacAddress) (node : NodeId) : AddressBook :=
  if (b.entries.lookup address).isSome then
    ⟨b.entries.map fun e => if e.1 = address then (address, node) else e⟩
  else ⟨b.entries ++ [(address, node)]⟩

/-- Register an address; a fault if that has been done before. -/
def register (b : AddressBook) (address : MacAddress) (node : NodeId) :
    AddressBook × Except Fault Unit :=
  let answer := match b.entries.lookup address with
    | none => .ok ()
    | some previous =>
      .error (.invalidValue "address registration"
        s!"{address.text} registered twice (nodes {previous} and {node})")
  (b.bind address node, answer)

/-- The node that an address stands for. -/
def resolve (b : AddressBook) (address : MacAddress) : Except Fault NodeId :=
  match b.entries.lookup address with
  | some node => .ok node
  | none => .error (.unknownAddress address)

/-- Register addresses one after the other, up to the first fault. -/
def ofList : List (MacAddress × NodeId) → Except Fault AddressBook :=
  go empty
where
  go (b : AddressBook) : List (MacAddress × NodeId) → Except Fault AddressBook
    | [] => .ok b
    | (address, node) :: rest =>
      match b.register address node with
      | (b, .ok ()) => go b rest
      | (_, .error f) => .error f

end AddressBook

end DenseDmg
