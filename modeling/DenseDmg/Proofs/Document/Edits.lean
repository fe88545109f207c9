import DenseDmg.Proofs.Document.Records

/-!
# Changing a document

A document may be changed without a change of what is read: the keys of an object may be put into
another order, and unknown keys may come and go with any values.  When the key of a field that need
not be given is removed, the field takes its default.

* `Schema`: what stands where in the documents of a type.
* `Edit`, `Omission`, `Within`, `Edits`: changes to one object, at any depth, and in sequence.
* `Overlays`: what such changes do to the meaning of a tree.
* `Layout.overlays`: records.
-/

namespace DenseDmg

namespace Document

/-- What is read at a place of a document. -/
inductive Schema
  /-- A value without keys. -/
  | plain
  | list (item : Schema)
  /-- A record: whether all of its keys must be given, and what is read behind each. -/
  | record (complete : Bool) (fields : List (String × Schema))

/-- What is read behind the keys of a record. -/
def Schema.fields : Schema → List (String × Schema)
  | .record _ fields => fields
  | _ => []

/-- Where a key stands in a document: the keys on the way to it, and itself. -/
abbrev Path := List String

/-! ## Changes -/

/-- A change to the members of one record that keeps the document acceptable, with the keys of
fields that it removes.  A value behind an unknown key is changed by removing the key and inserting
it with another value. -/
inductive Edit : Schema → Tree → List Path → Tree → Prop
  | reorder {complete : Bool} {fields : List (String × Schema)}
    {ms ms' : List (Option String × Tree)} : ms.Perm ms' →
    Edit (.record complete fields) (.object ms) [] (.object ms')
  | insert {complete : Bool} {fields : List (String × Schema)} {key : String} (v : Tree)
    (before after : List (Option String × Tree)) : key ∉ fields.map Prod.fst →
    Edit (.record complete fields) (.object (before ++ after)) []
      (.object (before ++ (some key, v) :: after))
  | remove {complete : Bool} {fields : List (String × Schema)} {key : String} (v : Tree)
    (before after : List (Option String × Tree)) : key ∉ fields.map Prod.fst →
    Edit (.record complete fields) (.object (before ++ (some key, v) :: after)) []
      (.object (before ++ after))
  | reset {fields : List (String × Schema)} {key : String} (v : Tree)
    (before after : List (Option String × Tree)) : key ∈ fields.map Prod.fst →
    Edit (.record false fields) (.object (before ++ (some key, v) :: after)) [[key]]
      (.object (before ++ after))

/-- The key of a field is removed where all keys must be given. -/
inductive Omission : Schema → Tree → List Path → Tree → Prop
  | missing {fields : List (String × Schema)} {key : String} (v : Tree)
    (before after : List (Option String × Tree)) : key ∈ fields.map Prod.fst →
    Omission (.record true fields) (.object (before ++ (some key, v) :: after)) []
      (.object (before ++ after))

/-- A change at any place that is read: behind a key, at an item that stands for a field, or in an
item of a list. -/
inductive Within (Change : Schema → Tree → List Path → Tree → Prop) :
    Schema → Tree → List Path → Tree → Prop
  | here {schema : Schema} {v v' : Tree} {gone : List Path} : Change schema v gone v' →
    Within Change schema v gone v'
  | member {complete : Bool} {fields : List (String × Schema)} {key : String} {schema : Schema}
    {v v' : Tree} {gone : List Path} (before after : List (Option String × Tree)) :
    (key, schema) ∈ fields → Within Change schema v gone v' →
    Within Change (.record complete fields) (.object (before ++ (some key, v) :: after))
      (gone.map (key :: ·)) (.object (before ++ (some key, v') :: after))
  | positional {complete : Bool} {fields : List (String × Schema)} {key : String}
    {schema : Schema} {v v' : Tree} {gone : List Path} {items : List Tree} {i : Nat} :
    fields[i]? = some (key, schema) → items[i]? = some v → Within Change schema v gone v' →
    Within Change (.record complete fields) (.array items) (gone.map (key :: ·))
      (.array (items.set i v'))
  | entry {item : Schema} {v v' : Tree} (before after : List Tree) : Within Change item v [] v' →
    Within Change (.list item) (.array (before ++ v :: after)) [] (.array (before ++ v' :: after))

/-- Changes one after another. -/
inductive Edits (schema : Schema) : Tree → List Path → Tree → Prop
  | refl (v : Tree) : Edits schema v [] v
  | step {v v₁ v₂ : Tree} {gone more : List Path} : Edits schema v gone v₁ →
    Within Edit schema v₁ more v₂ → Edits schema v (gone ++ more) v₂

/-- The keys that are removed below a key. -/
def below (key : String) (gone : List Path) : List Path :=
  gone.filterMap fun
    | head :: path => if head = key then some path else none
    | [] => none

/-- A field, or its default if its key is removed. -/
def resetIf {α : Type} (gone : List Path) (key : String) (fallback value : α) : α :=
  if [key] ∈ gone then fallback else value

section Paths

variable {key key' : String} {gone more : List Path}

@[simp] theorem below_nil : below key [] = [] := rfl

@[simp] theorem below_append : below key (gone ++ more) = below key gone ++ below key more :=
  List.filterMap_append

theorem below_map : below key (gone.map (key :: ·)) = gone := by
  simp [below, List.filterMap_map]

theorem below_map_of_ne (other : key' ≠ key) : below key' (gone.map (key :: ·)) = [] := by
  simp [below, List.filterMap_map, other.symm]

@[simp] theorem resetIf_nil {α : Type} {fallback value : α} :
    resetIf [] key fallback value = value := rfl

@[simp] theorem resetIf_append {α : Type} {fallback value : α} :
    resetIf (gone ++ more) key fallback value =
      resetIf more key fallback (resetIf gone key fallback value) := by
  unfold resetIf
  by_cases first : [key] ∈ gone <;> by_cases second : [key] ∈ more <;> simp [first, second]

@[simp] theorem resetIf_same {α : Type} {value : α} : resetIf gone key value value = value :=
  ite_self _

theorem apply_resetIf {α β : Type} (f : α → β) {fallback value : α} :
    f (resetIf gone key fallback value) = resetIf gone key (f fallback) (f value) :=
  apply_ite ..

/-- A change removes keys, not the whole document. -/
theorem Within.nil_not_mem {schema : Schema} {v v' : Tree} (change : Within Edit schema v gone v') :
    [] ∉ gone := by
  induction change with
  | here edit => cases edit <;> simp
  | member => simp
  | positional => simp
  | entry => exact List.not_mem_nil

end Paths

/-! ## What changes do to the meaning -/

variable {α σ : Type}

/-- What changes do to what a tree means: without a key that must be given it means nothing, and
apart from that `without` tells what the removal of keys does. -/
structure Overlays (schema : Schema) (Means : Tree → α → Prop) (without : List Path → α → α) :
    Prop where
  stable : ∀ {v gone v' a}, Within Edit schema v gone v' → Means v a → Means v' (without gone a)
  refuses : ∀ {v gone v' a a'}, Within Omission schema v gone v' → Means v a → ¬ Means v' a'
  same : ∀ a, without [] a = a

/-- What single changes do, changes one after another do. -/
theorem Overlays.edits {schema : Schema} {Means : Tree → α → Prop} {without : List Path → α → α}
    (overlays : Overlays schema Means without)
    (twice : ∀ gone more a, without (gone ++ more) a = without more (without gone a)) {v v' : Tree}
    {gone : List Path} {a : α} (edits : Edits schema v gone v') (means : Means v a) :
    Means v' (without gone a) := by
  induction edits with
  | refl => rwa [overlays.same]
  | step _ change ih =>
    rw [twice]
    exact overlays.stable change ih

/-- A value without keys is not changed. -/
theorem overlays_plain {Means : Tree → α → Prop} : Overlays .plain Means fun _ a => a where
  stable change := by
    cases change with
    | here edit => cases edit
  refuses change := by
    cases change with
    | here omission => cases omission
  same _ := rfl

section Lists

variable {item : Schema} {Means : Tree → α → Prop} {without : List Path → α → α}

theorem forall₂_replace {v v' : Tree} {before after : List Tree} {as : List α}
    (all : List.Forall₂ Means (before ++ v :: after) as) (keeps : ∀ a, Means v a → Means v' a) :
    List.Forall₂ Means (before ++ v' :: after) as := by
  induction before generalizing as with
  | nil =>
    cases all with
    | cons first rest => exact .cons (keeps _ first) rest
  | cons w before ih =>
    cases all with
    | cons first rest => exact .cons first (ih rest)

theorem exists_of_forall₂_append {v : Tree} {before after : List Tree} {as : List α}
    (all : List.Forall₂ Means (before ++ v :: after) as) : ∃ a, Means v a := by
  induction before generalizing as with
  | nil =>
    cases all with
    | cons first _ => exact ⟨_, first⟩
  | cons w before ih =>
    cases all with
    | cons _ rest => exact ih rest

/-- A list is changed in its items, and no key of an item is one of the list. -/
theorem overlays_list (overlays : Overlays item Means without) :
    Overlays (.list item) (fun v as => ∃ items, v = .array items ∧ List.Forall₂ Means items as)
      fun _ as => as where
  stable := by
    rintro v gone v' as change ⟨items, rfl, all⟩
    cases change with
    | here edit => cases edit
    | entry before after change =>
      exact ⟨_, rfl, forall₂_replace all fun a means =>
        overlays.same a ▸ overlays.stable change means⟩
  refuses := by
    rintro v gone v' as as' change ⟨items, rfl, all⟩ ⟨items', same, all'⟩
    cases change with
    | here omission => cases omission
    | entry before after change =>
      cases same
      obtain ⟨a, means⟩ := exists_of_forall₂_append all
      obtain ⟨a', means'⟩ := exists_of_forall₂_append all'
      exact overlays.refuses change means means'
  same _ := rfl

end Lists

/-! ## Records -/

namespace Layout

variable {shape : Shape σ} {layout : Layout shape} {draft : σ}

theorem Members.perm {seen : List String} {s : σ} {ms ms' : List (Option String × Tree)}
    (members : layout.Members seen draft ms s) (order : ms.Perm ms') :
    layout.Members seen draft ms' s := by
  have keys := order.map Prod.fst
  constructor
  case keys => exact fun m mem => members.keys m (order.mem_iff.mpr mem)
  case once => exact fun t mem => keys.count_eq _ ▸ members.once t mem
  case fresh => exact fun t mem old => mt keys.mem_iff.mpr (members.fresh t mem old)
  case complete => exact fun all t mem => (members.complete all t mem).imp_right keys.mem_iff.mp
  case given => exact fun t mem v memv => members.given t mem v (order.mem_iff.mpr memv)
  case absent => exact fun t mem missing => members.absent t mem (mt keys.mem_iff.mp missing)

section Slots

variable {slot : Slot σ} {s s' : σ} {v v' : Tree} {ms : List (Option String × Tree)}

/-- The key of a slot stands once in an object. -/
theorem Members.key_not_mem (members : layout.Members [] draft ((some slot.key, v) :: ms) s)
    (mem : slot ∈ layout.slots) : some slot.key ∉ ms.map Prod.fst := by
  obtain ⟨-, a, -, others⟩ := (members_known mem).mp members
  exact others.fresh slot mem List.mem_cons_self

/-- Another value behind the key of a slot changes that slot only. -/
theorem Members.replace (members : layout.Members [] draft ((some slot.key, v) :: ms) s)
    (mem : slot ∈ layout.slots) (means : slot.Means v' (slot.get s'))
    (others : ∀ t ∈ layout.slots, t.key ≠ slot.key → t.get s' = t.get s) :
    layout.Members [] draft ((some slot.key, v') :: ms) s' := by
  have gone := members.key_not_mem mem
  constructor
  case keys =>
    exact List.forall_mem_cons.mpr
      ⟨⟨_, rfl⟩, fun m memm => members.keys m (List.mem_cons_of_mem _ memm)⟩
  case once => exact members.once
  case fresh => exact nofun
  case complete => exact members.complete
  case given =>
    intro t memt w memw
    rcases List.mem_cons.mp memw with head | later
    · obtain ⟨same, rfl⟩ := Prod.mk.inj head
      obtain rfl := slot_unique mem memt (Option.some.inj same)
      exact means
    · have other : t.key ≠ slot.key := fun same => gone (same ▸ List.mem_map_of_mem later)
      rw [others t memt other]
      exact members.given t memt w (List.mem_cons_of_mem _ later)
  case absent =>
    intro t memt missing
    have other : t.key ≠ slot.key := fun same =>
      missing (List.mem_cons.mpr (.inl (congrArg some same)))
    rw [others t memt other]
    exact members.absent t memt missing

/-- Without its key a slot has the value of the draft. -/
theorem Members.reset (members : layout.Members [] draft ((some slot.key, v) :: ms) s)
    (mem : slot ∈ layout.slots) (optional : shape.complete = false)
    (own : slot.get s' = slot.get draft)
    (others : ∀ t ∈ layout.slots, t.key ≠ slot.key → t.get s' = t.get s) :
    layout.Members [] draft ms s' := by
  have gone := members.key_not_mem mem
  constructor
  case keys => exact fun m memm => members.keys m (List.mem_cons_of_mem _ memm)
  case once => exact fun t memt => List.count_le_count_cons.trans (members.once t memt)
  case fresh => exact nofun
  case complete => exact fun complete => absurd complete (Bool.eq_false_iff.mp optional)
  case given =>
    intro t memt w memw
    have other : t.key ≠ slot.key := fun same => gone (same ▸ List.mem_map_of_mem memw)
    rw [others t memt other]
    exact members.given t memt w (List.mem_cons_of_mem _ memw)
  case absent =>
    intro t memt missing
    by_cases same : t.key = slot.key
    · rw [slot_unique mem memt same, own]
    · rw [others t memt same]
      refine members.absent t memt fun present => ?_
      exact (List.mem_cons.mp present).elim (fun head => same (Option.some.inj head)) missing

/-- Without a key that must be given, there is no record. -/
theorem Members.not_members (members : layout.Members [] draft ((some slot.key, v) :: ms) s)
    (mem : slot ∈ layout.slots) (complete : shape.complete = true) :
    ¬ layout.Members [] draft ms s' := fun members' =>
  (members'.complete complete slot mem).elim List.not_mem_nil (members.key_not_mem mem)

end Slots

section Items

variable {slots : List (Slot σ)} {slot : Slot σ} {items : List Tree} {s s' : σ} {v v' : Tree}
  {i : Nat}

theorem Items.congr (means : Items shape draft slots items s)
    (others : ∀ t ∈ slots, t.get s' = t.get s) : Items shape draft slots items s' := by
  induction slots generalizing items with
  | nil =>
    cases items with
    | nil => exact ⟨means.1, nofun⟩
    | cons w items => exact means.elim
  | cons t slots ih =>
    obtain ⟨head, tail⟩ := List.forall_mem_cons.mp others
    cases items with
    | nil => exact ⟨means.1, fun u mem => (others u mem).trans (means.2 u mem)⟩
    | cons w items => exact ⟨head ▸ means.1, ih means.2 tail⟩

/-- The value of an item is what its slot has. -/
theorem Items.means (means : Items shape draft slots items s) (stands : slots[i]? = some slot)
    (value : items[i]? = some v) : slot.Means v (slot.get s) := by
  induction slots generalizing items i with
  | nil => cases stands
  | cons t slots ih =>
    cases items with
    | nil => cases value
    | cons w items =>
      cases i with
      | zero =>
        cases stands
        cases value
        exact means.1
      | succ i => exact ih means.2 stands value

/-- Another item changes the slot that it stands for only. -/
theorem Items.replace (means : Items shape draft slots items s)
    (nodup : (slots.map Slot.key).Nodup) (stands : slots[i]? = some slot)
    (value : slot.Means v' (slot.get s'))
    (others : ∀ t ∈ slots, t.key ≠ slot.key → t.get s' = t.get s) (inside : i < items.length) :
    Items shape draft slots (items.set i v') s' := by
  induction slots generalizing items i with
  | nil => cases stands
  | cons t slots ih =>
    obtain ⟨apart, nodup⟩ := List.nodup_cons.mp nodup
    obtain ⟨head, tail⟩ := List.forall_mem_cons.mp others
    cases items with
    | nil => exact absurd inside (Nat.not_lt_zero _)
    | cons w items =>
      cases i with
      | zero =>
        cases stands
        refine ⟨value, means.2.congr fun u mem => tail u mem fun same => apart ?_⟩
        exact same ▸ List.mem_map_of_mem mem
      | succ i =>
        have other : t.key ≠ slot.key := fun same =>
          apart (same ▸ List.mem_map_of_mem (List.mem_of_getElem? stands))
        exact ⟨head other ▸ means.1, ih means.2 nodup stands tail (Nat.lt_of_succ_lt_succ inside)⟩

end Items

/-! ## All changes to a record -/

/-- What changes do to one slot: it takes the value of the draft when its key is removed, which can
be only if not all keys must be given; otherwise what is removed below its key is removed from its
value. -/
structure Follows (complete : Bool) (draft : σ) (without : List Path → σ → σ) (slot : Slot σ)
    (field : String × Schema) : Prop where
  key : slot.key = field.1
  value : ∃ inner : List Path → slot.Value → slot.Value, Overlays field.2 slot.Means inner ∧
    ∀ gone s, (complete = true → [slot.key] ∉ gone) → slot.get (without gone s) =
      resetIf gone slot.key (slot.get draft) (inner (below slot.key gone) (slot.get s))

section Slots

variable {complete : Bool} {without : List Path → σ → σ} {slot : Slot σ} {schema : Schema}

/-- A value without keys is kept or replaced by that of the draft. -/
theorem Follows.plain (get : ∀ gone s, (complete = true → [slot.key] ∉ gone) →
      slot.get (without gone s) = resetIf gone slot.key (slot.get draft) (slot.get s)) :
    Follows complete draft without slot (slot.key, .plain) :=
  ⟨rfl, _, overlays_plain, get⟩

/-- A value that has keys of its own loses those that are removed below its key. -/
theorem Follows.inner {inner : List Path → slot.Value → slot.Value}
    (overlays : Overlays schema slot.Means inner) (get : ∀ gone s, slot.get (without gone s) =
      resetIf gone slot.key (slot.get draft) (inner (below slot.key gone) (slot.get s))) :
    Follows complete draft without slot (slot.key, schema) :=
  ⟨rfl, inner, overlays, fun gone s _ => get gone s⟩

end Slots

section Records

variable {fields : List (String × Schema)} {without : List Path → σ → σ} {slot : Slot σ} {s : σ}
  {key : String} {schema : Schema} {gone : List Path} {i : Nat}

theorem getElem?_of_forall₂ {α β : Type*} {R : α → β → Prop} {xs : List α} {ys : List β}
    (all : List.Forall₂ R xs ys) (i : Nat) :
    (xs[i]? = none ∧ ys[i]? = none) ∨ ∃ x y, xs[i]? = some x ∧ ys[i]? = some y ∧ R x y := by
  induction all generalizing i with
  | nil => exact .inl ⟨rfl, rfl⟩
  | cons first _ ih =>
    cases i with
    | zero => exact .inr ⟨_, _, rfl, rfl, first⟩
    | succ i => exact ih i

/-- The value of a slot is changed, and so is what it means. -/
theorem means_without {v v' : Tree} (change : Within Edit schema v gone v')
    (holds : Follows shape.complete draft without slot (key, schema))
    (means : slot.Means v (slot.get s)) :
    slot.Means v' (slot.get (without (gone.map (slot.key :: ·)) s)) := by
  obtain ⟨-, inner, overlays, get⟩ := holds
  have kept : [slot.key] ∉ gone.map (slot.key :: ·) := by simpa using change.nil_not_mem
  rw [get _ _ fun _ => kept, below_map, resetIf, if_neg kept]
  exact overlays.stable change means

/-- The value of a slot means nothing when it lacks a key that must be given. -/
theorem Follows.refuses {v v' : Tree}
    (holds : Follows shape.complete draft without slot (key, schema))
    (change : Within Omission schema v gone v') {a a' : slot.Value} (means : slot.Means v a) :
    ¬ slot.Means v' a' :=
  holds.value.elim fun _ value => value.1.refuses change means

variable (follows : List.Forall₂ (Follows shape.complete draft without) layout.slots fields)

include follows

theorem exists_slot (stands : fields[i]? = some (key, schema)) :
    ∃ slot, layout.slots[i]? = some slot ∧
      Follows shape.complete draft without slot (key, schema) := by
  rcases getElem?_of_forall₂ follows i with ⟨-, missing⟩ | ⟨slot, field, here, there, holds⟩
  · exact absurd (missing.symm.trans stands) nofun
  · cases there.symm.trans stands
    exact ⟨slot, here, holds⟩

theorem exists_slot_of_mem (mem : (key, schema) ∈ fields) :
    ∃ slot ∈ layout.slots, Follows shape.complete draft without slot (key, schema) := by
  obtain ⟨i, stands⟩ := List.mem_iff_getElem?.mp mem
  obtain ⟨slot, stands, holds⟩ := exists_slot follows stands
  exact ⟨slot, List.mem_of_getElem? stands, holds⟩

theorem exists_field (mem : slot ∈ layout.slots) :
    ∃ field, Follows shape.complete draft without slot field := by
  obtain ⟨i, stands⟩ := List.mem_iff_getElem?.mp mem
  rcases getElem?_of_forall₂ follows i with ⟨missing, -⟩ | ⟨slot, field, here, there, holds⟩
  · exact absurd (missing.symm.trans stands) nofun
  · cases here.symm.trans stands
    exact ⟨field, holds⟩

theorem key_mem_iff : key ∈ fields.map Prod.fst ↔ ∃ slot ∈ layout.slots, slot.key = key := by
  have same := follows.imp fun _ _ holds => holds.key
  rw [← List.forall₂_map_right_iff (f := Prod.fst), ← List.forall₂_map_left_iff (f := Slot.key),
    List.forall₂_eq_eq_eq] at same
  rw [← same, List.mem_map]

/-- Without removed keys a record stays as it is. -/
theorem without_nil (s : σ) : without [] s = s := by
  refine layout.ext _ _ fun slot mem => ?_
  obtain ⟨field, -, inner, overlays, get⟩ := exists_field follows mem
  rw [get _ _ fun _ => List.not_mem_nil, resetIf_nil, below_nil, overlays.same]

/-- What is removed behind a key does not show in other slots. -/
theorem get_without_of_ne (mem : slot ∈ layout.slots) (other : slot.key ≠ key) (gone : List Path)
    (s : σ) : slot.get (without (gone.map (key :: ·)) s) = slot.get s := by
  obtain ⟨field, -, inner, overlays, get⟩ := exists_field follows mem
  have kept : [slot.key] ∉ gone.map (key :: ·) := by simp [other.symm]
  rw [get _ _ fun _ => kept, below_map_of_ne other, overlays.same, resetIf, if_neg kept]

/-- The key of a slot is removed. -/
theorem get_without_self (mem : slot ∈ layout.slots) (optional : shape.complete = false) (s : σ) :
    slot.get (without [[slot.key]] s) = slot.get draft := by
  obtain ⟨field, -, inner, overlays, get⟩ := exists_field follows mem
  rw [get _ _ fun complete => absurd complete (Bool.eq_false_iff.mp optional), resetIf,
    if_pos List.mem_cons_self]

/-- A record keeps its meaning under changes, apart from the fields whose keys are removed. -/
theorem means_of_within {v v' : Tree}
    (change : Within Edit (.record shape.complete fields) v gone v')
    (means : layout.Means draft v s) : layout.Means draft v' (without gone s) := by
  generalize flag : shape.complete = complete at change
  cases change with
  | here edit =>
    cases edit with
    | reorder order =>
      cases means with
      | object members =>
        rw [without_nil follows]
        exact .object (members.perm order)
    | insert v before after unknown =>
      have unknown := fun t mem same => unknown ((key_mem_iff follows).mpr ⟨t, mem, same⟩)
      cases means with
      | object members =>
        rw [without_nil follows]
        exact .object (((members_unknown unknown).mpr members).perm List.perm_middle.symm)
    | remove v before after unknown =>
      have unknown := fun t mem same => unknown ((key_mem_iff follows).mpr ⟨t, mem, same⟩)
      cases means with
      | object members =>
        rw [without_nil follows]
        exact .object ((members_unknown unknown).mp (members.perm List.perm_middle))
    | reset v before after known =>
      obtain ⟨slot, mem, rfl⟩ := (key_mem_iff follows).mp known
      cases means with
      | object members =>
        have own := get_without_self follows mem flag s
        refine .object ((members.perm List.perm_middle).reset mem flag own ?_)
        exact fun t memt other => get_without_of_ne follows memt other [[]] s
  | member before after known change =>
    obtain ⟨slot, mem, holds⟩ := exists_slot_of_mem follows known
    obtain rfl := holds.key
    cases means with
    | object members =>
      have members := members.perm List.perm_middle
      have value := means_without change holds (members.given slot mem _ List.mem_cons_self)
      refine .object ((members.replace mem value ?_).perm List.perm_middle.symm)
      exact fun t memt other => get_without_of_ne follows memt other _ s
  | positional field value change =>
    obtain ⟨slot, stands, holds⟩ := exists_slot follows field
    obtain rfl := holds.key
    cases means with
    | array items =>
      have value' := means_without change holds (items.means stands value)
      have inside := (List.getElem?_eq_some_iff.mp value).1
      refine .array (items.replace layout.nodup stands value' ?_ inside)
      exact fun t memt other => get_without_of_ne follows memt other _ s

/-- Without a key that must be given, a record is none. -/
theorem not_means_of_within {v v' : Tree} {s' : σ}
    (change : Within Omission (.record shape.complete fields) v gone v')
    (means : layout.Means draft v s) : ¬ layout.Means draft v' s' := by
  intro means'
  generalize flag : shape.complete = complete at change
  cases change with
  | here omission =>
    cases omission with
    | missing v before after known =>
      obtain ⟨slot, mem, rfl⟩ := (key_mem_iff follows).mp known
      cases means with
      | object members =>
        cases means' with
        | object members' =>
          exact (members.perm List.perm_middle).not_members mem flag members'
  | member before after known change =>
    obtain ⟨slot, mem, holds⟩ := exists_slot_of_mem follows known
    obtain rfl := holds.key
    cases means with
    | object members =>
      cases means' with
      | object members' =>
        exact holds.refuses change (members.given slot mem _ (by simp))
          (members'.given slot mem _ (by simp))
  | positional field value change =>
    obtain ⟨slot, stands, holds⟩ := exists_slot follows field
    cases means with
    | array items =>
      cases means' with
      | array items' =>
        have inside := (List.getElem?_eq_some_iff.mp value).1
        exact holds.refuses change (items.means stands value)
          (items'.means stands (List.getElem?_set_self inside))

variable (layout) in
/-- A record is changed slot by slot. -/
theorem overlays : Overlays (.record shape.complete fields) (layout.Means draft) without where
  stable := means_of_within follows
  refuses := not_means_of_within follows
  same := without_nil follows

end Records

end Layout

end Document

end DenseDmg
