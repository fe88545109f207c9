import DenseDmg.Proofs.Document.Meanings
import Mathlib.Data.List.Nodup

/-!
# What a record makes of a document

The fields of a record are the places of it that a document can fill.  `Slot` adds to a field what
its value is in a given record and what a tree must be to stand for that value, and `Layout`
collects the slots of a record type, which make up the record and do not interfere.

What an object means does not depend on the order in which it is read: every slot has the value that
its key is given, or that of the draft if its key is not given.

* `Layout.Members`: the members of an object.
* `Layout.Items`: the items of an array that stands for a record.
* `Layout.reads_readRecord`: the reader of a record against what the record means.
-/

namespace DenseDmg

namespace Document

variable {σ : Type}

/-- A field of a record, together with what it is in a record and what it means in a document. -/
structure Slot (σ : Type) where
  key : String
  Value : Type
  read : Reader Value
  Means : Tree → Value → Prop
  get : σ → Value
  set : σ → Value → σ
  reads : Reads read Means
  get_set : ∀ s a, get (set s a) = a

/-- The slot of a key. -/
def Slot.of {α : Type} (key : String) {read : Reader α} {Means : Tree → α → Prop}
    (reads : Reads read Means) (get : σ → α) (set : σ → α → σ)
    (get_set : ∀ s a, get (set s a) = a) : Slot σ :=
  ⟨key, α, read, Means, get, set, reads, get_set⟩

def Slot.field (slot : Slot σ) : Field σ := .of slot.key slot.read slot.set

/-- The slots of a record type.  They have different keys, what is set in one is not seen in
another, and a record is known from its slots. -/
structure Layout (shape : Shape σ) where
  slots : List (Slot σ)
  fields : shape.fields = slots.map Slot.field
  nodup : (slots.map Slot.key).Nodup
  get_set_of_ne : ∀ s ∈ slots, ∀ t ∈ slots, t.key ≠ s.key → ∀ d a, t.get (s.set d a) = t.get d
  ext : ∀ d d', (∀ s ∈ slots, s.get d = s.get d') → d = d'

namespace Layout

variable {shape : Shape σ} (layout : Layout shape)

/-! ## Meaning -/

/-- The members of an object, of which some with the keys `seen` have been read into a draft, make
it a record. -/
structure Members (seen : List String) (draft : σ) (ms : List (Option String × Tree)) (s : σ) :
    Prop where
  /-- Keys are texts. -/
  keys : ∀ m ∈ ms, ∃ key, m.1 = some key
  once : ∀ slot ∈ layout.slots, (ms.map Prod.fst).count (some slot.key) ≤ 1
  fresh : ∀ slot ∈ layout.slots, slot.key ∈ seen → some slot.key ∉ ms.map Prod.fst
  complete : shape.complete = true →
    ∀ slot ∈ layout.slots, slot.key ∈ seen ∨ some slot.key ∈ ms.map Prod.fst
  given : ∀ slot ∈ layout.slots, ∀ v, (some slot.key, v) ∈ ms → slot.Means v (slot.get s)
  absent : ∀ slot ∈ layout.slots, some slot.key ∉ ms.map Prod.fst → slot.get s = slot.get draft

/-- The items of an array are the values of slots in order; those that are missing at the end are
taken from a draft. -/
def Items (shape : Shape σ) (draft : σ) : List (Slot σ) → List Tree → σ → Prop
  | slots, [], s =>
    (shape.complete = true → slots = []) ∧ ∀ slot ∈ slots, slot.get s = slot.get draft
  | slot :: slots, v :: items, s => slot.Means v (slot.get s) ∧ Items shape draft slots items s
  | [], _ :: _, _ => False

/-- A tree means a record: an object or an array of its values. -/
inductive Means (draft : σ) : Tree → σ → Prop
  | object {ms : List (Option String × Tree)} {s : σ} : layout.Members [] draft ms s →
    Means draft (.object ms) s
  | array {items : List Tree} {s : σ} : Items shape draft layout.slots items s →
    Means draft (.array items) s

end Layout

namespace Layout

variable {shape : Shape σ} {layout : Layout shape} {seen : List String} {draft s : σ}
  {ms : List (Option String × Tree)} {slot : Slot σ} {key : String} {v : Tree}
  {cs rest more : List Char}

/-! ## One member after another -/

theorem slot_unique {slot' : Slot σ} (mem : slot ∈ layout.slots) (mem' : slot' ∈ layout.slots)
    (same : slot'.key = slot.key) : slot' = slot :=
  List.inj_on_of_nodup_map layout.nodup mem' mem same

theorem members_nil : layout.Members seen draft [] s ↔
    s = draft ∧ (shape.complete = true → ∀ slot ∈ layout.slots, slot.key ∈ seen) := by
  constructor
  · intro members
    refine ⟨layout.ext _ _ fun slot mem => members.absent slot mem List.not_mem_nil, ?_⟩
    intro complete slot mem
    exact (members.complete complete slot mem).resolve_right List.not_mem_nil
  · rintro ⟨rfl, complete⟩
    exact ⟨nofun, fun _ _ => Nat.zero_le _, fun _ _ _ => List.not_mem_nil,
      fun all slot mem => .inl (complete all slot mem), nofun, fun _ _ _ => rfl⟩

/-- The member of a slot is read into the draft. -/
theorem members_known (mem : slot ∈ layout.slots) :
    layout.Members seen draft ((some slot.key, v) :: ms) s ↔ slot.key ∉ seen ∧
      ∃ a, slot.Means v a ∧ layout.Members (slot.key :: seen) (slot.set draft a) ms s := by
  constructor
  · intro members
    refine ⟨fun old => members.fresh slot mem old List.mem_cons_self, slot.get s,
      members.given slot mem v List.mem_cons_self, ?_⟩
    constructor
    case keys => exact fun m memm => members.keys m (List.mem_cons_of_mem _ memm)
    case once => exact fun t memt => List.count_le_count_cons.trans (members.once t memt)
    case fresh =>
      intro t memt old
      rcases List.mem_cons.mp old with same | old
      · have once := members.once t memt
        rw [List.map_cons, same, List.count_cons_self] at once
        rw [same]
        exact List.count_eq_zero.mp (by omega)
      · exact fun later => members.fresh t memt old (List.mem_cons_of_mem _ later)
    case complete =>
      intro complete t memt
      rcases members.complete complete t memt with old | present
      · exact .inl (List.mem_cons_of_mem _ old)
      · rcases List.mem_cons.mp present with same | later
        · exact .inl (List.mem_cons.mpr (.inl (Option.some.inj same)))
        · exact .inr later
    case given => exact fun t memt w memw => members.given t memt w (List.mem_cons_of_mem _ memw)
    case absent =>
      intro t memt missing
      by_cases same : t.key = slot.key
      · rw [slot_unique mem memt same, slot.get_set]
      · rw [layout.get_set_of_ne slot mem t memt same]
        refine members.absent t memt fun present => ?_
        exact (List.mem_cons.mp present).elim (fun head => same (Option.some.inj head)) missing
  · rintro ⟨fresh, a, means, members⟩
    have gone := members.fresh slot mem List.mem_cons_self
    constructor
    case keys => exact List.forall_mem_cons.mpr ⟨⟨_, rfl⟩, members.keys⟩
    case once =>
      intro t memt
      by_cases same : t.key = slot.key
      · rw [List.map_cons, same, List.count_cons_self, List.count_eq_zero.mpr gone]
      · rw [List.map_cons, List.count_cons_of_ne fun head => same (Option.some.inj head).symm]
        exact members.once t memt
    case fresh =>
      intro t memt old present
      rcases List.mem_cons.mp present with head | later
      · exact fresh (Option.some.inj head ▸ old)
      · exact members.fresh t memt (List.mem_cons_of_mem _ old) later
    case complete =>
      intro complete t memt
      rcases members.complete complete t memt with old | present
      · rcases List.mem_cons.mp old with same | old
        · exact .inr (List.mem_cons.mpr (.inl (congrArg some same)))
        · exact .inl old
      · exact .inr (List.mem_cons_of_mem _ present)
    case given =>
      intro t memt w memw
      rcases List.mem_cons.mp memw with head | later
      · obtain ⟨same, rfl⟩ := Prod.mk.inj head
        obtain rfl := slot_unique mem memt (Option.some.inj same)
        rwa [members.absent t memt gone, t.get_set]
      · exact members.given t memt w later
    case absent =>
      intro t memt missing
      have same : t.key ≠ slot.key := fun same =>
        missing (List.mem_cons.mpr (.inl (congrArg some same)))
      rw [members.absent t memt fun later => missing (List.mem_cons_of_mem _ later),
        layout.get_set_of_ne slot mem t memt same]

/-- A key that no slot has does not count as seen. -/
theorem members_seen (unknown : ∀ slot ∈ layout.slots, slot.key ≠ key) :
    layout.Members (key :: seen) draft ms s ↔ layout.Members seen draft ms s := by
  have seen_iff (t) (memt : t ∈ layout.slots) : t.key ∈ key :: seen ↔ t.key ∈ seen :=
    List.mem_cons.trans (or_iff_right (unknown t memt))
  constructor
  · intro members
    exact { members with
      fresh := fun t memt old => members.fresh t memt ((seen_iff t memt).mpr old)
      complete := fun complete t memt =>
        (members.complete complete t memt).imp_left (seen_iff t memt).mp }
  · intro members
    exact { members with
      fresh := fun t memt old => members.fresh t memt ((seen_iff t memt).mp old)
      complete := fun complete t memt =>
        (members.complete complete t memt).imp_left (seen_iff t memt).mpr }

/-- The member of a key that no slot has does not count. -/
theorem members_unknown (unknown : ∀ slot ∈ layout.slots, slot.key ≠ key) :
    layout.Members seen draft ((some key, v) :: ms) s ↔ layout.Members seen draft ms s := by
  have mem_iff (t) (memt : t ∈ layout.slots) :
      some t.key ∈ ((some key, v) :: ms).map Prod.fst ↔ some t.key ∈ ms.map Prod.fst :=
    List.mem_cons.trans (or_iff_right fun same => unknown t memt (Option.some.inj same))
  constructor
  · intro members
    constructor
    case keys => exact fun m memm => members.keys m (List.mem_cons_of_mem _ memm)
    case once => exact fun t memt => List.count_le_count_cons.trans (members.once t memt)
    case fresh => exact fun t memt old => mt (mem_iff t memt).mpr (members.fresh t memt old)
    case complete =>
      exact fun complete t memt => (members.complete complete t memt).imp_right (mem_iff t memt).mp
    case given => exact fun t memt w memw => members.given t memt w (List.mem_cons_of_mem _ memw)
    case absent =>
      exact fun t memt missing => members.absent t memt (mt (mem_iff t memt).mp missing)
  · intro members
    constructor
    case keys => exact List.forall_mem_cons.mpr ⟨⟨_, rfl⟩, members.keys⟩
    case once =>
      intro t memt
      have other : some key ≠ some t.key := fun head => unknown t memt (Option.some.inj head).symm
      rw [List.map_cons, List.count_cons_of_ne other]
      exact members.once t memt
    case fresh => exact fun t memt old => mt (mem_iff t memt).mp (members.fresh t memt old)
    case complete =>
      exact fun complete t memt => (members.complete complete t memt).imp_right (mem_iff t memt).mpr
    case given =>
      intro t memt w memw
      rcases List.mem_cons.mp memw with head | later
      · exact absurd (Option.some.inj (Prod.mk.inj head).1) (unknown t memt)
      · exact members.given t memt w later
    case absent =>
      exact fun t memt missing => members.absent t memt (mt (mem_iff t memt).mpr missing)

/-! ## Reading the members of an object -/

theorem close_eq_ok_iff : shape.close seen draft cs = .ok (s, rest) ↔
    layout.Members seen draft [] s ∧ rest = cs := by
  unfold Shape.close
  rw [members_nil, layout.fields]
  have all_iff : ((layout.slots.map Slot.field).all fun f => seen.contains f.key) = true ↔
      ∀ slot ∈ layout.slots, slot.key ∈ seen := by
    simp only [List.all_map, List.all_eq_true, Function.comp, List.contains_iff_mem]
    exact Iff.rfl
  by_cases all : ∀ slot ∈ layout.slots, slot.key ∈ seen
  · rw [all_iff.mpr all, Bool.not_true, Bool.and_false, if_neg Bool.false_ne_true]
    simp only [Except.ok.injEq, Prod.mk.injEq]
    exact ⟨fun ⟨same, left⟩ => ⟨⟨same.symm, fun _ => all⟩, left.symm⟩,
      fun ⟨⟨same, _⟩, left⟩ => ⟨same.symm, left.symm⟩⟩
  · rw [Bool.eq_false_iff.mpr (mt all_iff.mp all), Bool.not_false, Bool.and_true]
    cases complete : shape.complete with
    | true => simp [all]
    | false => simp [eq_comm]

/-- How the reader takes the value of a key: it is read into the draft or passed over. -/
def readValue (shape : Shape σ) (key : String) (draft : σ) (cs : List Char) : Scanned σ :=
  match shape.fields.find? fun f => f.key == key with
  | some field => field.read draft cs
  | none => (skipAny cs).map fun r => (draft, r)

/-- What the reader has found in the members of an object: a key that is new, a colon, a value, and
the end of the object or a comma. -/
theorem readMembers_eq_ok_iff {fuel : Nat} :
    readMembers shape (fuel + 1) seen draft cs = .ok (s, rest) ↔
      ∃ body key colon value draft' more, cs = '"' :: body ∧
        scanText body = .ok (key.toList, colon) ∧
        ((shape.fields.find? fun f => f.key == key).isSome → key ∉ seen) ∧
        Gap colon (':' :: value) ∧ readValue shape key draft value = .ok (draft', more) ∧
        ((∃ tail, Gap more ('}' :: tail) ∧ shape.close (key :: seen) draft' tail = .ok (s, rest)) ∨
          ∃ tail, Gap more (',' :: tail) ∧
            readMembers shape fuel (key :: seen) draft' (skipSpace tail) = .ok (s, rest)) := by
  constructor
  · intro done
    unfold readMembers at done
    split at done
    next body =>
      split at done
      next => cases done
      next key colon text =>
        dsimp only at done
        split at done
        next => cases done
        next fresh =>
          split at done
          next => cases done
          next value sign =>
            split at done
            next => cases done
            next draft' more read =>
              refine ⟨body, String.ofList key, colon, value, draft', more, rfl, ?_, ?_,
                (skipSpace_eq_cons_iff (by decide)).mp sign, read, ?_⟩
              · rwa [String.toList_ofList]
              · intro known old
                rw [known, List.contains_iff_mem.mpr old] at fresh
                exact fresh rfl
              split at done
              next => cases done
              next tail last =>
                exact .inl ⟨tail, (skipSpace_eq_cons_iff (by decide)).mp last, done⟩
              next tail comma =>
                refine .inr ⟨tail, (skipSpace_eq_cons_iff (by decide)).mp comma, ?_⟩
                split at done
                next => cases done
                next => exact done
              next => cases done
          next => cases done
    next => cases done
  · rintro ⟨body, key, colon, value, draft', more, rfl, text, fresh, sign, read, ends⟩
    unfold readMembers
    simp only [text, String.ofList_toList, (skipSpace_eq_cons_iff (by decide)).mpr sign]
    rw [if_neg ?fresh]
    case fresh =>
      intro both
      rw [Bool.and_eq_true, List.contains_iff_mem] at both
      exact fresh both.1 both.2
    split
    next draft'' fault same =>
      rw [show readValue shape key draft value = .error fault from same] at read
      cases read
    next draft'' more'' same =>
      rw [show readValue shape key draft value = .ok (draft'', more'') from same] at read
      cases read
      rcases ends with ⟨tail, last, done⟩ | ⟨tail, comma, done⟩
      · simp only [(skipSpace_eq_cons_iff (by decide)).mpr last, done]
      · simp only [(skipSpace_eq_cons_iff (by decide)).mpr comma]
        split
        next same =>
          rw [same] at done
          cases fuel with
          | zero => cases done
          | succ fuel => cases done
        next => exact done

theorem find_known (mem : slot ∈ layout.slots) :
    (shape.fields.find? fun f => f.key == slot.key) = some slot.field := by
  have found : (layout.slots.find? fun t => t.key == slot.key) = some slot := by
    cases found : layout.slots.find? fun t => t.key == slot.key with
    | none => exact absurd (List.find?_eq_none.mp found slot mem) (by simp)
    | some t =>
      rw [slot_unique mem (List.mem_of_find?_eq_some found)
        (by simpa using List.find?_some found)]
  rw [layout.fields, List.find?_map]
  exact congrArg (Option.map Slot.field) found

theorem find_unknown (unknown : ∀ slot ∈ layout.slots, slot.key ≠ key) :
    (shape.fields.find? fun f => f.key == key) = none := by
  rw [layout.fields, List.find?_map, Option.map_eq_none_iff, List.find?_eq_none]
  exact fun slot mem => mt beq_iff_eq.mp (unknown slot mem)

/-- The value of the first member is taken as what it means. -/
theorem readValue_of_members {cs' : List Char}
    (members : layout.Members seen draft ((some key, v) :: ms) s) (value : Spells v cs more)
    (stops : Stops more) (gap : Gap cs' cs) :
    ((shape.fields.find? fun f => f.key == key).isSome → key ∉ seen) ∧
      ∃ draft', readValue shape key draft cs' = .ok (draft', more) ∧
        layout.Members (key :: seen) draft' ms s := by
  by_cases known : ∃ slot ∈ layout.slots, slot.key = key
  · obtain ⟨slot, mem, rfl⟩ := known
    obtain ⟨fresh, a, means, members⟩ := (members_known mem).mp members
    refine ⟨fun _ => fresh, slot.set draft a, ?_, members⟩
    rw [readValue, find_known mem]
    simp only [Slot.field, Field.of, slot.reads.taken means value stops gap]
    rfl
  · have unknown : ∀ slot ∈ layout.slots, slot.key ≠ key :=
      fun slot mem same => known ⟨slot, mem, same⟩
    have missing := find_unknown unknown
    refine ⟨fun found => ?_, draft, ?_,
      (members_seen unknown).mpr ((members_unknown unknown).mp members)⟩
    · rw [missing] at found
      cases found
    rw [readValue, missing]
    simp only [skipAny_of_spells value stops gap]
    rfl

/-- What is taken as a value is one, and means what is read. -/
theorem members_of_readValue {draft' : σ}
    (read : readValue shape key draft cs = .ok (draft', more)) (stops : Stops more)
    (fresh : (shape.fields.find? fun f => f.key == key).isSome → key ∉ seen) :
    ∃ v start, Gap cs start ∧ Spells v start more ∧ ∀ ms s,
      layout.Members (key :: seen) draft' ms s →
        layout.Members seen draft ((some key, v) :: ms) s := by
  by_cases known : ∃ slot ∈ layout.slots, slot.key = key
  · obtain ⟨slot, mem, rfl⟩ := known
    have found := find_known mem
    rw [readValue, found] at read
    obtain ⟨⟨a, left⟩, taken, both⟩ := exists_of_map_eq_ok read
    cases both
    obtain ⟨v, start, gap, spells, means⟩ := slot.reads.meant taken stops
    refine ⟨v, start, gap, spells, fun ms s members => ?_⟩
    refine (members_known mem).mpr ⟨?_, a, means, members⟩
    exact fresh (by rw [found]; rfl)
  · have unknown : ∀ slot ∈ layout.slots, slot.key ≠ key :=
      fun slot mem same => known ⟨slot, mem, same⟩
    rw [readValue, find_unknown unknown] at read
    obtain ⟨left, skipped, both⟩ := exists_of_map_eq_ok read
    cases both
    obtain ⟨v, start, gap, spells⟩ := exists_spells_of_skipAny skipped
    exact ⟨v, start, gap, spells,
      fun ms s members => (members_unknown unknown).mpr ((members_seen unknown).mp members)⟩

/-- The reader takes one member and is left with the others. -/
theorem readMember_of_spells {m : Option String × Tree}
    (members : layout.Members seen draft (m :: ms) s) (first : SpellsMember m cs more)
    (stops : Stops more) : ∃ key draft', layout.Members (key :: seen) draft' ms s ∧ ∀ fuel rest,
      ((∃ tail, Gap more ('}' :: tail) ∧ shape.close (key :: seen) draft' tail = .ok (s, rest)) ∨
        ∃ tail, Gap more (',' :: tail) ∧
          readMembers shape fuel (key :: seen) draft' (skipSpace tail) = .ok (s, rest)) →
      readMembers shape (fuel + 1) seen draft cs = .ok (s, rest) := by
  obtain ⟨key, text⟩ := members.keys m List.mem_cons_self
  cases first with
  | member spelled sign gap value =>
    obtain rfl := text
    obtain ⟨body, rfl, -, known⟩ := spelled.exists_body
    obtain ⟨fresh, draft', read, others⟩ := readValue_of_members members value stops gap
    refine ⟨key, draft', others, fun fuel rest ends => readMembers_eq_ok_iff.mpr ?_⟩
    exact ⟨_, key, _, _, draft', more, rfl, scanText_of_denotes ((known key).mp rfl), fresh, sign,
      read, ends⟩

theorem readMembers_of_spells {seen : List String} {draft : σ} {m : Option String × Tree}
    {ms : List (Option String × Tree)} {cs more : List Char}
    (members : layout.Members seen draft (m :: ms) s) (first : SpellsMember m cs more)
    (others : MoreMembers ms more rest) {fuel : Nat} (enough : cs.length ≤ fuel + rest.length) :
    readMembers shape fuel seen draft cs = .ok (s, rest) := by
  have := first.length_lt
  have := others.length_lt
  obtain ⟨fuel, rfl⟩ : ∃ n, fuel = n + 1 := ⟨fuel - 1, by omega⟩
  obtain ⟨key, draft', members, read⟩ := readMember_of_spells members first others.stops
  refine read fuel rest ?_
  match ms, others, members with
  | [], .close last, members => exact .inl ⟨rest, last, close_eq_ok_iff.mpr ⟨members, rfl⟩⟩
  | m' :: ms, .member comma gap next others, members =>
    have := comma.length_le
    have := gap.length_le
    refine .inr ⟨_, comma, ?_⟩
    rw [gap.skipSpace, next.skipSpace]
    refine readMembers_of_spells members next others ?_
    simp only [List.length_cons] at *
    omega

/-- What is read as the members of an object is spelled as such. -/
theorem exists_spells_of_readMembers {fuel : Nat}
    (done : readMembers shape fuel seen draft cs = .ok (s, rest)) :
    ∃ m ms more, SpellsMember m cs more ∧ MoreMembers ms more rest ∧
      layout.Members seen draft (m :: ms) s := by
  induction fuel generalizing seen draft cs with
  | zero => cases done
  | succ fuel ih =>
    obtain ⟨body, key, colon, value, draft', more, rfl, text, fresh, sign, read, ends⟩ :=
      readMembers_eq_ok_iff.mp done
    obtain ⟨body, rfl, denotes⟩ := exists_denotes_of_scanText text
    rcases ends with ⟨tail, last, closed⟩ | ⟨tail, comma, others⟩
    · obtain ⟨members, rfl⟩ := close_eq_ok_iff.mp closed
      obtain ⟨v, start, gap, spells, means⟩ :=
        members_of_readValue read (last.stops (.inr (.inr rfl))) fresh
      exact ⟨_, [], more, .member (.whole denotes) sign gap spells, .close last, means _ _ members⟩
    · obtain ⟨v, start, gap, spells, means⟩ :=
        members_of_readValue read (comma.stops (.inl rfl)) fresh
      obtain ⟨m, ms, more', next, others, members⟩ := ih others
      exact ⟨_, m :: ms, more, .member (.whole denotes) sign gap spells,
        .member comma (gap_skipSpace tail) next others, means _ _ members⟩

/-! ## Reading the items of an array -/

section Positional

variable {done slots : List (Slot σ)} {items : List Tree}

theorem closeArray_eq_ok_iff :
    closeArray draft cs = .ok (s, rest) ↔ Gap cs (']' :: rest) ∧ s = draft := by
  rw [← skipSpace_eq_cons_iff (by decide), closeArray]
  constructor
  · intro closed
    split at closed
    next => cases closed
    next same =>
      cases closed
      exact ⟨same, rfl⟩
    next => cases closed
  · rintro ⟨same, rfl⟩
    simp only [same]

/-- What stands at an item: the end of the array, or the value of the next field, behind a comma if
it is not the first. -/
theorem readPositional_cons_eq_ok_iff {complete first : Bool} {field : Field σ}
    {fields : List (Field σ)} :
    readPositional complete (field :: fields) first draft cs = .ok (s, rest) ↔
      (Gap cs (']' :: rest) ∧ complete = false ∧ s = draft) ∨
        ∃ tail c r draft' more, Gap cs (if first then tail else ',' :: tail) ∧
          skipSpace tail = c :: r ∧ c ≠ ']' ∧ field.read draft (c :: r) = .ok (draft', more) ∧
          readPositional complete fields false draft' more = .ok (s, rest) := by
  constructor
  · intro closed
    unfold readPositional at closed
    split at closed
    next => cases closed
    next same =>
      split at closed
      next => cases closed
      next optional =>
        cases closed
        exact .inl ⟨(skipSpace_eq_cons_iff (by decide)).mp same, by simpa using optional, rfl⟩
    next c tail other same =>
      dsimp only at closed
      split at closed
      next => cases closed
      next start item =>
        split at closed
        next => cases closed
        next draft' more read =>
          split at item
          next opened =>
            cases item
            subst opened
            exact .inr ⟨cs, c, tail, draft', more, .refl cs, same, other, read, closed⟩
          next open' =>
            rw [Bool.not_eq_true] at open'
            subst open'
            split at item
            next comma =>
              subst comma
              have comma := (skipSpace_eq_cons_iff (by decide)).mp same
              split at item
              next => cases item
              next => cases item
              next r empty close =>
                cases item
                cases begin : skipSpace tail with
                | nil => exact absurd begin empty
                | cons c r =>
                  rw [begin] at read close
                  exact .inr ⟨tail, c, r, draft', more, comma, begin,
                    fun same => close r (by rw [same]), read, closed⟩
            next => cases item
  · rintro (⟨last, rfl, rfl⟩ | ⟨tail, c, r, draft', more, ahead, begin, other, read, others⟩)
    · unfold readPositional
      simp only [(skipSpace_eq_cons_iff (by decide)).mpr last, Bool.false_eq_true, if_false]
    · unfold readPositional
      have skipped : skipSpace cs = if first then c :: r else ',' :: tail := by
        cases first with
        | true => exact ahead.skipSpace.trans begin
        | false => exact (skipSpace_eq_cons_iff (by decide)).mpr ahead
      split
      next same =>
        rw [same] at skipped
        cases first <;> cases skipped
      next same =>
        cases first with
        | true => exact absurd (List.cons.inj (same.symm.trans skipped)).1.symm other
        | false => exact absurd (List.cons.inj (same.symm.trans skipped)).1 (by decide)
      next same =>
        cases first with
        | true =>
          obtain ⟨rfl, rfl⟩ := List.cons.inj (same.symm.trans skipped)
          simp only [if_true, read, others]
        | false =>
          obtain ⟨rfl, rfl⟩ := List.cons.inj (same.symm.trans skipped)
          simp only [Bool.false_eq_true, if_false, if_true, begin]
          split
          next item =>
            split at item
            next same => cases same
            next same => exact absurd (List.cons.inj same).1 other
            next => cases item
          next item =>
            split at item
            next => cases item
            next => cases item
            next =>
              cases item
              simp only [read, others]

theorem read_field_eq_ok_iff {draft' : σ} : slot.field.read draft cs = .ok (draft', rest) ↔
    ∃ a, slot.read cs = .ok (a, rest) ∧ draft' = slot.set draft a := by
  constructor
  · intro read
    obtain ⟨⟨a, left⟩, taken, both⟩ := exists_of_map_eq_ok read
    cases both
    exact ⟨a, taken, rfl⟩
  · rintro ⟨a, taken, rfl⟩
    simp only [Slot.field, Field.of, taken]
    rfl

/-- What is set in a slot does not show in those before and behind it. -/
theorem get_set_of_mem (whole : layout.slots = done ++ slot :: slots) {t : Slot σ}
    (mem : t ∈ done ∨ t ∈ slots) (d : σ) (a : slot.Value) : t.get (slot.set d a) = t.get d := by
  have distinct := layout.nodup
  rw [whole, List.map_append, List.map_cons, List.nodup_append] at distinct
  refine layout.get_set_of_ne slot (by simp [whole]) t ?_ ?_ d a
  · rcases mem with mem | mem <;> simp [whole, mem]
  · intro same
    rcases mem with mem | mem
    · exact distinct.2.2 _ (List.mem_map_of_mem mem) _ List.mem_cons_self same
    · exact (List.nodup_cons.mp distinct.2.1).1 (same ▸ List.mem_map_of_mem mem)

theorem items_set (whole : layout.slots = done ++ slot :: slots) {a : slot.Value} :
    Items shape (slot.set draft a) slots items s ↔ Items shape draft slots items s := by
  have apart : ∀ t ∈ slots, t.get (slot.set draft a) = t.get draft :=
    fun t mem => get_set_of_mem whole (.inr mem) draft a
  generalize slot.set draft a = draft' at apart
  clear whole
  induction slots generalizing items with
  | nil => cases items <;> simp [Items]
  | cons t slots ih =>
    cases items with
    | nil =>
      refine and_congr_right fun _ => forall₂_congr fun u mem => ?_
      rw [apart u mem]
    | cons v items =>
      exact and_congr_right fun _ => ih fun u mem => apart u (List.mem_cons_of_mem _ mem)

theorem items_nil : Items shape draft slots [] s ↔
    (shape.complete = true → slots = []) ∧ ∀ slot ∈ slots, slot.get s = slot.get draft := by
  rw [Items]

/-- The slots that have been read agree with the record, also when the next one is. -/
theorem agree_set (whole : layout.slots = done ++ slot :: slots)
    (agree : ∀ t ∈ done, t.get s = t.get draft) :
    ∀ t ∈ done ++ [slot], t.get s = t.get (slot.set draft (slot.get s)) := by
  refine List.forall_mem_append.mpr ⟨fun t mem => ?_, List.forall_mem_singleton.mpr ?_⟩
  · rw [agree t mem, get_set_of_mem whole (.inl mem)]
  · rw [slot.get_set]

/-- The reader takes one item and is left with the others. -/
theorem readPositional_of_item {complete : Bool} {fields : List (Field σ)} {tail start : List Char}
    {a : slot.Value} (first : Bool) (ahead : Gap cs (if first then tail else ',' :: tail))
    (gap : Gap tail start) (means : slot.Means v a) (spells : Spells v start more)
    (stops : Stops more)
    (others : readPositional complete fields false (slot.set draft a) more = .ok (s, rest)) :
    readPositional complete (slot.field :: fields) first draft cs = .ok (s, rest) := by
  obtain ⟨c, r, rfl, begins⟩ := spells.begins
  exact readPositional_cons_eq_ok_iff.mpr (.inr ⟨tail, c, r, slot.set draft a, more, ahead,
    gap.skipSpace.trans spells.skipSpace, begins.visible.2,
    read_field_eq_ok_iff.mpr ⟨a, slot.reads.taken means spells stops (.refl _), rfl⟩, others⟩)

theorem readPositional_of_end {first : Bool} (whole : layout.slots = done ++ slots)
    (agree : ∀ slot ∈ done, slot.get s = slot.get draft) (means : Items shape draft slots [] s)
    (last : Gap cs (']' :: rest)) :
    readPositional shape.complete (slots.map Slot.field) first draft cs = .ok (s, rest) := by
  have means := items_nil.mp means
  have same : s = draft := layout.ext _ _ (by
    rw [whole]
    exact List.forall_mem_append.mpr ⟨agree, means.2⟩)
  cases slots with
  | nil => exact closeArray_eq_ok_iff.mpr ⟨last, same⟩
  | cons slot slots =>
    refine readPositional_cons_eq_ok_iff.mpr (.inl ⟨last, ?_, same⟩)
    exact Bool.eq_false_iff.mpr fun complete => List.cons_ne_nil _ _ (means.1 complete)

theorem readPositional_of_more {done slots : List (Slot σ)} {items : List Tree} {draft : σ}
    {cs : List Char} (whole : layout.slots = done ++ slots)
    (agree : ∀ slot ∈ done, slot.get s = slot.get draft) (means : Items shape draft slots items s)
    (others : MoreItems items cs rest) :
    readPositional shape.complete (slots.map Slot.field) false draft cs = .ok (s, rest) := by
  match slots, items, means, others with
  | _, [], means, .close last => exact readPositional_of_end whole agree means last
  | slot :: slots, v :: items, means, .item comma gap next others =>
    refine readPositional_of_item false comma gap means.1 next others.stops ?_
    exact readPositional_of_more (whole.trans (List.append_cons ..)) (agree_set whole agree)
      ((items_set whole).mpr means.2) others

/-- What is read as an item is spelled as such, if the others are. -/
theorem exists_spells_of_item (whole : layout.slots = done ++ slot :: slots) {a : slot.Value}
    (taken : slot.read cs = .ok (a, more)) (others : MoreItems items more rest)
    (means : Items shape (slot.set draft a) slots items s)
    (agree : ∀ t ∈ done ++ [slot], t.get s = t.get (slot.set draft a)) :
    ∃ v start, Gap cs start ∧ Spells v start more ∧
      Items shape draft (slot :: slots) (v :: items) s := by
  obtain ⟨v, start, gap, spells, first⟩ := slot.reads.meant taken others.stops
  have got := agree slot (by simp)
  rw [slot.get_set] at got
  exact ⟨v, start, gap, spells, got ▸ first, (items_set whole).mp means⟩

/-- What is read as the items of an array is spelled as such, from an item on. -/
theorem exists_spells_of_readPositional (whole : layout.slots = done ++ slots)
    (read : readPositional shape.complete (slots.map Slot.field) false draft cs = .ok (s, rest)) :
    ∃ items, MoreItems items cs rest ∧ Items shape draft slots items s ∧
      ∀ slot ∈ done, slot.get s = slot.get draft := by
  induction slots generalizing done draft cs with
  | nil =>
    obtain ⟨last, rfl⟩ := closeArray_eq_ok_iff.mp read
    exact ⟨[], .close last, ⟨fun _ => rfl, nofun⟩, fun _ _ => rfl⟩
  | cons slot slots ih =>
    rcases readPositional_cons_eq_ok_iff.mp read with
      ⟨last, optional, rfl⟩ | ⟨tail, c, r, draft', more, comma, begin, other, value, others⟩
    · have optional : ¬ shape.complete = true := Bool.eq_false_iff.mp optional
      exact ⟨[], .close last, ⟨fun complete => absurd complete optional, fun _ _ => rfl⟩,
        fun _ _ => rfl⟩
    · obtain ⟨a, taken, rfl⟩ := read_field_eq_ok_iff.mp value
      obtain ⟨items, spelled, means, agree⟩ := ih (whole.trans (List.append_cons ..)) others
      obtain ⟨v, start, gap, spells, means⟩ := exists_spells_of_item whole taken spelled means agree
      refine ⟨v :: items, .item comma ?_ spells spelled, means, ?_⟩
      · exact (begin ▸ gap_skipSpace tail).trans gap
      · intro t mem
        rw [agree t (List.mem_append_left _ mem), get_set_of_mem whole (.inl mem)]

end Positional

/-! ## Records -/

/-- A record is read as what its object or its array means. -/
theorem reads_readRecord (layout : Layout shape) (draft : σ) :
    Reads (readRecord shape draft) (layout.Means draft) where
  taken := by
    intro v s cs' cs rest means spells stops gap
    unfold readRecord
    rw [gap.skipSpace, spells.skipSpace]
    cases means with
    | object members =>
      cases spells with
      | noMembers last =>
        simp only [(skipSpace_eq_cons_iff (by decide)).mpr last]
        exact close_eq_ok_iff.mpr ⟨members, rfl⟩
      | @members m ms inside first more _ open' member others =>
        simp only [open'.skipSpace, member.skipSpace]
        have read : readMembers shape first.length [] draft first = .ok (s, rest) :=
          readMembers_of_spells members member others (Nat.le_add_right _ _)
        obtain ⟨tail, rfl⟩ := member.exists_quote
        exact read
    | array items =>
      rw [layout.fields]
      generalize all : layout.slots = slots at items
      have whole : layout.slots = [] ++ slots := all
      cases spells with
      | noItems last => exact readPositional_of_end whole (List.forall_mem_nil _) items last
      | @items v items inside first more _ open' value others =>
        cases slots with
        | nil => exact items.elim
        | cons slot slots =>
          have behind : layout.slots = [slot] ++ slots := all
          refine readPositional_of_item true (.refl inside) open' items.1 value others.stops ?_
          exact readPositional_of_more behind (agree_set whole (List.forall_mem_nil _))
            ((items_set whole).mpr items.2) others
  meant := by
    intro cs s rest done stops
    unfold readRecord at done
    split at done
    next inside opening =>
      have opening := (skipSpace_eq_cons_iff (by decide)).mp opening
      split at done
      next => cases done
      next last =>
        obtain ⟨members, rfl⟩ := close_eq_ok_iff.mp done
        exact ⟨_, _, opening, .noMembers ((skipSpace_eq_cons_iff (by decide)).mp last),
          .object members⟩
      next =>
        obtain ⟨m, ms, more, member, others, members⟩ := exists_spells_of_readMembers done
        exact ⟨_, _, opening, .members (gap_skipSpace inside) member others, .object members⟩
    next inside opening =>
      have opening := (skipSpace_eq_cons_iff (by decide)).mp opening
      suffices ∃ items, Spells (.array items) ('[' :: inside) rest ∧
          Items shape draft layout.slots items s from
        this.elim fun items both => ⟨_, _, opening, both.1, .array both.2⟩
      rw [layout.fields] at done
      generalize all : layout.slots = slots at done ⊢
      cases slots with
      | nil =>
        obtain ⟨last, rfl⟩ := closeArray_eq_ok_iff.mp done
        exact ⟨[], .noItems last, fun _ => rfl, List.forall_mem_nil _⟩
      | cons slot slots =>
        rcases readPositional_cons_eq_ok_iff.mp done with
          ⟨last, optional, rfl⟩ | ⟨tail, c, r, draft', more, open', begin, other, value, others⟩
        · have optional : ¬ shape.complete = true := Bool.eq_false_iff.mp optional
          exact ⟨[], .noItems last, fun complete => absurd complete optional, fun _ _ => rfl⟩
        · obtain ⟨a, taken, rfl⟩ := read_field_eq_ok_iff.mp value
          have whole : layout.slots = [] ++ slot :: slots := all
          have behind : layout.slots = [slot] ++ slots := all
          obtain ⟨items, spelled, means, agree⟩ := exists_spells_of_readPositional behind others
          obtain ⟨v, start, gap, spells, means⟩ :=
            exists_spells_of_item whole taken spelled means agree
          have ahead : Gap inside (c :: r) := open'.trans (begin ▸ gap_skipSpace tail)
          exact ⟨v :: items, .items (ahead.trans gap) spells spelled, means⟩
    next => cases done

end Layout

end Document

end DenseDmg
