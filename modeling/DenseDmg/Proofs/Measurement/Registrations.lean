import DenseDmg.Measurement.AddressBook
import Mathlib.Data.List.Dedup
import Mathlib.Data.List.Induction

/-!
# Registering addresses

The second registration of an address is refused, and yet from then on the address stands for the
node of the refused call.  `AddressBook.registered calls` is the book that calls leave, the earliest
one first, whichever of them were refused.

* `AddressBook.lookup_registered`: an address stands for the node of its latest call.
* `AddressBook.ofList_eq_ok_iff`: a list is entered without a fault if its addresses are all
  different, and then it is the book.
* `AddressBook.registered_settles`: which calls are accepted, what every address stands for and when
  the accepted call of an address is the one that counts.
* `AddressBook.registered_rebinds`: an address that does not keep the node it was accepted with.
-/

namespace DenseDmg

/-! ## Entries and their keys -/

section Entries

variable {α β : Type} [DecidableEq α]

/-- Replacing the value of a key changes what is found for that key and nothing else. -/
theorem lookup_map_replace (entries : List (α × β)) (key other : α) (value : β) :
    (entries.map fun e => if e.1 = key then (key, value) else e).lookup other =
      if other = key then (entries.lookup key).map fun _ => value else entries.lookup other := by
  induction entries with
  | nil => split <;> rfl
  | cons e rest ih =>
    rcases e with ⟨k, v⟩
    rw [List.map_cons, List.lookup_cons, List.lookup_cons, List.lookup_cons, ih]
    by_cases here : k = key
    · subst here
      by_cases same : other = k
      · subst same
        simp
      · simp [same, beq_false_of_ne same]
    · by_cases same : other = key
      · subst same
        simp [here, beq_false_of_ne (Ne.symm here)]
      · simp [here, same]

/-- A key that is entered, or else replaced, has the new value, and the others have theirs. -/
theorem lookup_enter (entries : List (α × β)) (key other : α) (value : β) :
    (if (entries.lookup key).isSome then
        entries.map fun e => if e.1 = key then (key, value) else e
      else entries ++ [(key, value)]).lookup other =
      if other = key then some value else entries.lookup other := by
  split
  next known =>
    obtain ⟨old, found⟩ := Option.isSome_iff_exists.1 known
    rw [lookup_map_replace, found, Option.map_some]
  next unknown =>
    rw [Bool.not_eq_true, Option.isSome_eq_false_iff, Option.isNone_iff_eq_none] at unknown
    rw [List.lookup_append]
    by_cases same : other = key
    · subst same
      simp [unknown]
    · simp [same, List.lookup_cons, beq_false_of_ne same]

/-- Nothing is found for the keys that are not there. -/
theorem lookup_eq_none_iff_key {entries : List (α × β)} {key : α} :
    entries.lookup key = none ↔ key ∉ entries.map Prod.fst := by
  rw [List.lookup_eq_none_iff, List.mem_map]
  constructor
  · rintro missing ⟨e, mem, rfl⟩
    exact bne_iff_ne.1 (missing e mem) rfl
  · intro missing e mem
    exact bne_iff_ne.2 fun same => missing ⟨e, mem, same.symm⟩

end Entries

namespace AddressBook

/-! ## One call -/

variable {b : AddressBook} {address other : MacAddress} {node : NodeId}

/-- The addresses that have been entered, in the order of their first registration. -/
def addresses (b : AddressBook) : List MacAddress := b.entries.map Prod.fst

/-- A call makes its address stand for its node and leaves the other addresses alone. -/
theorem lookup_bind (b : AddressBook) (address other : MacAddress) (node : NodeId) :
    (b.bind address node).entries.lookup other =
      if other = address then some node else b.entries.lookup other := by
  rw [← lookup_enter]
  unfold bind
  split <;> rfl

/-- A new address is entered behind the others; one that is there stays in its place. -/
theorem addresses_bind (b : AddressBook) (address : MacAddress) (node : NodeId) :
    (b.bind address node).addresses =
      if address ∈ b.addresses then b.addresses else b.addresses ++ [address] := by
  have known : (b.entries.lookup address).isSome ↔ address ∈ b.addresses := by
    rw [← not_iff_not, Bool.not_eq_true, Option.isSome_eq_false_iff, Option.isNone_iff_eq_none,
      lookup_eq_none_iff_key, addresses]
  unfold bind
  simp only [known]
  split
  · rw [addresses, addresses, List.map_map]
    refine List.map_congr_left fun e _ => ?_
    rw [Function.comp_apply]
    split
    next same => exact same.symm
    next => rfl
  · rw [addresses, addresses, List.map_append]
    rfl

/-- What a call is answered depends on what its address has stood for so far. -/
theorem register_answer (b : AddressBook) (address : MacAddress) (node : NodeId) :
    (b.register address node).2 =
      match b.entries.lookup address with
      | none => .ok ()
      | some previous => .error (.invalidValue "address registration"
          s!"{address.text} registered twice (nodes {previous} and {node})") :=
  rfl

theorem register_eq_ok_iff :
    (b.register address node).2 = .ok () ↔ address ∉ b.addresses := by
  rw [register_answer, addresses, ← lookup_eq_none_iff_key]
  cases b.entries.lookup address <;> simp

/-! ## All calls -/

/-- The book that calls leave, the earliest one first, accepted or not. -/
def registered (calls : List (MacAddress × NodeId)) : AddressBook :=
  calls.foldl (fun b call => (b.register call.1 call.2).1) .empty

/-- The node of the latest call with an address, accepted or not. -/
def latest? (calls : List (MacAddress × NodeId)) (address : MacAddress) : Option NodeId :=
  calls.reverse.lookup address

variable {calls before later : List (MacAddress × NodeId)}

theorem registered_concat (calls : List (MacAddress × NodeId)) (call : MacAddress × NodeId) :
    registered (calls ++ [call]) = (registered calls).bind call.1 call.2 := by
  rw [registered, List.foldl_append]
  rfl

theorem latest?_concat (calls : List (MacAddress × NodeId)) (call : MacAddress × NodeId)
    (address : MacAddress) : latest? (calls ++ [call]) address =
      if address = call.1 then some call.2 else latest? calls address := by
  rw [latest?, List.reverse_append, List.reverse_singleton, List.singleton_append,
    List.lookup_cons]
  by_cases same : address = call.1
  · rw [if_pos same, beq_iff_eq.2 same]
  · rw [if_neg same, beq_false_of_ne same]
    rfl

theorem latest?_append (before later : List (MacAddress × NodeId)) (address : MacAddress) :
    latest? (before ++ later) address = (latest? later address).or (latest? before address) := by
  rw [latest?, List.reverse_append, List.lookup_append]
  rfl

/-- An address stands for the node of its latest call. -/
theorem lookup_registered (calls : List (MacAddress × NodeId)) (address : MacAddress) :
    (registered calls).entries.lookup address = latest? calls address := by
  induction calls using List.reverseRecOn with
  | nil => rfl
  | append_singleton calls call ih =>
    rw [registered_concat, lookup_bind, latest?_concat, ih]

/-- The addresses of a book are those of the calls, each of them once. -/
theorem addresses_registered (calls : List (MacAddress × NodeId)) :
    (registered calls).addresses.Perm (calls.map Prod.fst).dedup := by
  have mem (address : MacAddress) :
      address ∈ (registered calls).addresses ↔ address ∈ calls.map Prod.fst := by
    rw [← not_iff_not, addresses, ← lookup_eq_none_iff_key, lookup_registered, latest?,
      lookup_eq_none_iff_key, List.map_reverse, List.mem_reverse]
  have nodup : (registered calls).addresses.Nodup := by
    clear mem
    induction calls using List.reverseRecOn with
    | nil => exact List.nodup_nil
    | append_singleton calls call ih =>
      rw [registered_concat, addresses_bind]
      split
      next => exact ih
      next new => exact List.concat_eq_append ▸ ih.concat new
  refine (List.perm_ext_iff_of_nodup nodup (List.nodup_dedup _)).2 fun address => ?_
  rw [mem, List.mem_dedup]

theorem mem_addresses_registered :
    address ∈ (registered calls).addresses ↔ address ∈ calls.map Prod.fst := by
  rw [(addresses_registered calls).mem_iff, List.mem_dedup]

/-! ## Calls none of which is refused -/

/-- Further calls are all accepted if and only if their addresses are new and different. -/
theorem ofList_go_eq_ok_iff {book : AddressBook} (distinct : b.addresses.Nodup) :
    ofList.go b calls = .ok book ↔
      (b.addresses ++ calls.map Prod.fst).Nodup ∧ book = ⟨b.entries ++ calls⟩ := by
  induction calls generalizing b with
  | nil =>
    rw [ofList.go, List.map_nil, List.append_nil, List.append_nil, Except.ok.injEq]
    exact ⟨fun same => ⟨distinct, same.symm⟩, fun h => h.2.symm⟩
  | cons call rest ih =>
    obtain ⟨address, node⟩ := call
    by_cases known : address ∈ b.addresses
    · -- The first call is refused.
      have refused : (b.register address node).2 ≠ .ok () := by
        rw [Ne, register_eq_ok_iff]
        exact not_not_intro known
      refine ⟨fun accepted => ?_, fun ⟨nodup, _⟩ => ?_⟩
      · rw [ofList.go] at accepted
        split at accepted
        next same => exact absurd (congrArg Prod.snd same) refused
        next => cases accepted
      · rw [List.map_cons, List.nodup_append] at nodup
        exact absurd rfl (nodup.2.2 address known address List.mem_cons_self)
    · have fresh : b.entries.lookup address = none := lookup_eq_none_iff_key.2 known
      have bound : b.bind address node = ⟨b.entries ++ [(address, node)]⟩ := by
        rw [bind, fresh]
        rfl
      have distinct' : (b.bind address node).addresses.Nodup := by
        rw [addresses_bind, if_neg known]
        exact List.concat_eq_append ▸ distinct.concat known
      have step : ofList.go b ((address, node) :: rest) = ofList.go (b.bind address node) rest := by
        rw [ofList.go, register, fresh]
      rw [step, ih distinct', addresses_bind, if_neg known, bound, List.append_assoc,
        List.append_assoc]
      rfl

/-- A list is entered without a fault if its addresses are all different. -/
theorem ofList_eq_ok_iff {book : AddressBook} :
    ofList calls = .ok book ↔ (calls.map Prod.fst).Nodup ∧ book = ⟨calls⟩ :=
  ofList_go_eq_ok_iff List.nodup_nil

/-- Calls with different addresses leave what they enter. -/
theorem registered_of_nodup (distinct : (calls.map Prod.fst).Nodup) :
    registered calls = ⟨calls⟩ := by
  induction calls using List.reverseRecOn with
  | nil => rfl
  | append_singleton calls call ih =>
    rw [List.map_append, List.nodup_append] at distinct
    have new : call.1 ∉ calls.map Prod.fst := fun mem =>
      distinct.2.2 call.1 mem call.1 List.mem_cons_self rfl
    have fresh : calls.lookup call.1 = none := lookup_eq_none_iff_key.2 new
    rw [registered_concat, ih distinct.1, bind, fresh]
    rfl

/-! ## What calls settle -/

/-- What is settled when the calls have led to the book. -/
structure Settles (calls : List (MacAddress × NodeId)) (b : AddressBook) : Prop where
  /-- A further call is accepted if and only if its address is in none of the calls. -/
  accepts_iff : ∀ address node,
    (b.register address node).2 = .ok () ↔ address ∉ calls.map Prod.fst
  /-- The fault of a call that is refused tells of the two latest nodes of its address. -/
  refusal : ∀ address node previous, latest? calls address = some previous →
    (b.register address node).2 = .error (.invalidValue "address registration"
      s!"{address.text} registered twice (nodes {previous} and {node})")
  /-- An address stands for the node of its latest call, accepted or not. -/
  resolve : ∀ address, b.resolve address =
    match latest? calls address with
    | some node => .ok node
    | none => .error (.unknownAddress address)
  /-- The node of a call, in particular of the accepted one, is what its address stands for if and
  only if the latest of the later calls with that address has the same node. -/
  keeps_iff : ∀ before address node later, calls = before ++ (address, node) :: later →
    (b.resolve address = .ok node ↔ ∀ other ∈ latest? later address, other = node)
  /-- No address is in the book twice. -/
  size : b.size = (calls.map Prod.fst).dedup.length
  /-- A list is entered as a whole if none of its calls is refused, and then every address keeps
  its node. -/
  entered : ∀ book, ofList calls = .ok book ↔ (calls.map Prod.fst).Nodup ∧ book = b
  bound : (calls.map Prod.fst).Nodup → ∀ call ∈ calls, b.resolve call.1 = .ok call.2

theorem resolve_registered (calls : List (MacAddress × NodeId)) (address : MacAddress) :
    (registered calls).resolve address =
      match latest? calls address with
      | some node => .ok node
      | none => .error (.unknownAddress address) := by
  cases latest : latest? calls address <;>
    simp [AddressBook.resolve, lookup_registered, latest]

theorem resolve_registered_eq_ok_iff :
    (registered calls).resolve address = .ok node ↔ latest? calls address = some node := by
  rw [resolve_registered]
  cases latest? calls address <;> simp

/-- The accepted call of an address counts unless a later one has another node. -/
theorem latest?_of_split (split : calls = before ++ (address, node) :: later) :
    latest? calls address = some node ↔ ∀ other ∈ latest? later address, other = node := by
  rw [split, List.append_cons, latest?_append, latest?_concat, if_pos rfl]
  cases latest? later address <;> simp

/-- Whatever addresses are registered, and however often: the first call with an address is accepted
and the others are refused, and the address stands for the node of the latest of them. -/
theorem registered_settles (calls : List (MacAddress × NodeId)) :
    (registered calls).Settles calls where
  accepts_iff address node := by rw [register_eq_ok_iff, mem_addresses_registered]
  refusal address node previous latest := by
    rw [register_answer, lookup_registered, latest]
  resolve := resolve_registered calls
  keeps_iff before address node later split := by
    rw [resolve_registered_eq_ok_iff, latest?_of_split split]
  size := by
    rw [← (addresses_registered calls).length_eq, addresses, List.length_map, size]
  entered book := by
    rw [ofList_eq_ok_iff]
    refine and_congr_right fun distinct => ?_
    rw [registered_of_nodup distinct]
  bound distinct call mem := by
    obtain ⟨before, later, split⟩ := List.append_of_mem mem
    rw [resolve_registered_eq_ok_iff, latest?_of_split split]
    have absent : latest? later call.1 = none := by
      rw [latest?, lookup_eq_none_iff_key, List.map_reverse, List.mem_reverse]
      rw [split, List.map_append, List.map_cons, List.nodup_append, List.nodup_cons] at distinct
      exact distinct.2.1.1
    rw [absent]
    exact nofun

/-- An address is accepted with node 0 and refused with node 5, and stands for node 5 then. -/
theorem registered_rebinds :
    let address := MacAddress.allocate 1
    ((registered []).register address 0).2 = .ok () ∧
    (registered [(address, 0)]).resolve address = .ok 0 ∧
    ((registered [(address, 0)]).register address 5).2 =
      .error (.invalidValue "address registration"
        "00:00:00:00:00:01 registered twice (nodes 0 and 5)") ∧
    (registered [(address, 0), (address, 5)]).resolve address = .ok 5 ∧
    (registered [(address, 0), (address, 5)]).resolve address ≠ .ok 0 := by
  refine ⟨rfl, rfl, ?_, rfl, nofun⟩
  decide +kernel

end AddressBook

end DenseDmg
