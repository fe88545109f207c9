import DenseDmg.Proofs.Document.Unambiguous
import DenseDmg.Proofs.Document.Words

/-!
# What a reader makes of a document

A reader takes values off the front of a text; what it makes of a value depends on the tree of the
value alone.  `Reads read Means` says so: `Means` relates the trees that the reader takes to what it
makes of them, and the reader takes nothing that is not spelled by the grammar.

* `reads_readBool`, `reads_readText`, `reads_readCount`, `reads_readDouble`: values without parts.
* `reads_readList`: arrays of values of one type.
* `Reads.document_iff`: whole documents.
-/

namespace DenseDmg

namespace Document

variable {α : Type} {cs cs' rest r : List Char} {c : Char} {v : Tree}

/-- A reader takes, behind white space, the values that mean something to it, and nothing else. -/
structure Reads (read : Reader α) (Means : Tree → α → Prop) : Prop where
  taken : ∀ {v a cs' cs rest}, Means v a → Spells v cs rest → Stops rest → Gap cs' cs →
    read cs' = .ok (a, rest)
  meant : ∀ {cs a rest}, read cs = .ok (a, rest) → Stops rest →
    ∃ v cs', Gap cs cs' ∧ Spells v cs' rest ∧ Means v a

namespace Reads

variable {read : Reader α} {Means : Tree → α → Prop} {a a' : α}

/-- Every document that is accepted has a tree, which means what the document is read as. -/
theorem exists_tree (reads : Reads read Means) {raw : String}
    (done : readDocument read raw.toList = .ok a) : ∃ v, SpellsDocument v raw ∧ Means v a := by
  unfold readDocument at done
  split at done
  next => cases done
  next b rest first =>
    split at done
    next empty =>
      cases done
      have ends : Gap rest [] := skipSpace_eq_nil_iff.mp (List.isEmpty_iff.mp empty)
      obtain ⟨v, cs, gap, spells, means⟩ := reads.meant first (ends.stops_of_stops stops_nil)
      exact ⟨v, ⟨cs, rest, gap, spells, ends⟩, means⟩
    next => cases done

/-- A whole document is accepted exactly if its tree means something. -/
theorem document_iff (reads : Reads read Means) {raw : String} (spells : SpellsDocument v raw) :
    readDocument read raw.toList = .ok a ↔ Means v a := by
  constructor
  · intro done
    obtain ⟨v', spells', means⟩ := reads.exists_tree done
    rwa [spells.unique spells']
  · intro means
    obtain ⟨cs, rest, gap, value, ends⟩ := spells
    rw [readDocument, reads.taken means value (ends.stops_of_stops stops_nil) gap]
    simp only [skipSpace_eq_nil_iff.mpr ends, List.isEmpty_nil, if_true]

end Reads

/-! ## Values without parts -/

theorem reads_readBool : Reads readBool fun v b => v = .bool b where
  taken := by
    rintro v b cs' cs rest rfl spells _ gap
    unfold readBool
    rw [gap.skipSpace, spells.skipSpace]
    cases spells with
    | yes => rfl
    | no => rfl
  meant := by
    intro cs b rest done _
    have gap := gap_skipSpace cs
    unfold readBool at done
    split at done
    next same =>
      obtain ⟨left, word, both⟩ := exists_of_map_eq_ok done
      cases both
      rw [same, expectWord_eq_ok_iff.mp word] at gap
      exact ⟨_, _, gap, .yes, rfl⟩
    next same =>
      obtain ⟨left, word, both⟩ := exists_of_map_eq_ok done
      cases both
      rw [same, expectWord_eq_ok_iff.mp word] at gap
      exact ⟨_, _, gap, .no, rfl⟩
    next => cases done

theorem reads_readText : Reads readText fun v s => v = .text (some s) where
  taken := by
    rintro v s cs' cs rest rfl spells _ gap
    cases spells with
    | text text =>
      obtain ⟨body, rfl, -, known⟩ := text.exists_body
      unfold readText
      rw [gap.skipSpace, skipSpace_cons (by decide)]
      simp only [scanText_of_denotes ((known s).mp rfl)]
      exact congrArg (fun s => Except.ok (s, rest)) String.ofList_toList
  meant := by
    intro cs s rest done _
    unfold readText at done
    split at done
    next same =>
      obtain ⟨⟨body, left⟩, scanned, both⟩ := exists_of_map_eq_ok done
      cases both
      obtain ⟨body, rfl, denotes⟩ := exists_denotes_of_scanText scanned
      exact ⟨_, _, (skipSpace_eq_cons_iff (by decide)).mp same,
        .text (.whole (by rwa [String.toList_ofList])), rfl⟩
    next => cases done

/-- White space before a number does not count. -/
theorem readNumber_gap (gap : Gap cs' cs) : readNumber cs' = readNumber cs := by
  unfold readNumber
  rw [gap.skipSpace]

theorem reads_readNumber :
    Reads readNumber fun v n => ∃ digits, v = .number digits ∧ readNumber digits = .ok (n, []) where
  taken := by
    rintro v n cs' cs rest ⟨digits, rfl, read⟩ spells stops gap
    obtain ⟨form, rfl⟩ := spells.of_number
    rw [readNumber_gap gap]
    exact (form.readNumber_iff stops).mpr ⟨read, rfl⟩
  meant := by
    intro cs n rest done stops
    obtain ⟨digits, form, gap⟩ := exists_isNumber_of_readNumber done
    rw [readNumber_gap gap, form.readNumber_iff stops] at done
    exact ⟨_, _, gap, .number form, digits, rfl, done.1⟩

theorem readCount_eq_ok_iff {limit n : Nat} :
    readCount limit cs = .ok (n, r) ↔ readNumber cs = .ok (.natural n, r) ∧ n ≤ limit := by
  unfold readCount
  constructor
  · intro done
    split at done
    next read =>
      split at done
      next inside => cases done; exact ⟨read, inside⟩
      next => cases done
    next => cases done
    next => cases done
  · rintro ⟨read, inside⟩
    simp only [read, if_pos inside]

/-- A reader that goes on from what a number is. -/
theorem Reads.of_number {read : Reader α} {P : Number → α → Prop}
    (same : ∀ {cs a r}, read cs = .ok (a, r) ↔ ∃ n, readNumber cs = .ok (n, r) ∧ P n a) :
    Reads read fun v a => ∃ digits, v = .number digits ∧ read digits = .ok (a, []) where
  taken := by
    rintro v a cs' cs rest ⟨digits, rfl, done⟩ spells stops gap
    obtain ⟨n, read, holds⟩ := same.mp done
    exact same.mpr ⟨n, reads_readNumber.taken ⟨digits, rfl, read⟩ spells stops gap, holds⟩
  meant := by
    intro cs a rest done stops
    obtain ⟨n, read, holds⟩ := same.mp done
    obtain ⟨v, cs', gap, spells, digits, rfl, read⟩ := reads_readNumber.meant read stops
    exact ⟨_, cs', gap, spells, digits, rfl, same.mpr ⟨n, read, holds⟩⟩

theorem reads_readCount (limit : Nat) : Reads (readCount limit) fun v n =>
    ∃ digits, v = .number digits ∧ readCount limit digits = .ok (n, []) := by
  refine .of_number (P := fun number n => number = .natural n ∧ n ≤ limit) ?_
  intro cs n r
  rw [readCount_eq_ok_iff]
  constructor
  · rintro ⟨read, inside⟩
    exact ⟨_, read, rfl, inside⟩
  · rintro ⟨_, read, rfl, inside⟩
    exact ⟨read, inside⟩

/-- The double that a number is read as. -/
def Number.double : Number → Float
  | .natural n => countFloat n
  | .negative n => -(countFloat n)
  | .real x => x

theorem readDouble_eq_ok_iff {x : Float} :
    readDouble cs = .ok (x, r) ↔ ∃ n, readNumber cs = .ok (n, r) ∧ n.double = x := by
  unfold readDouble
  constructor
  · intro done
    obtain ⟨⟨n, left⟩, read, both⟩ := exists_of_map_eq_ok done
    cases n <;> cases both <;> exact ⟨_, read, rfl⟩
  · rintro ⟨n, read, rfl⟩
    rw [read]
    cases n <;> rfl

theorem reads_readDouble : Reads readDouble fun v x =>
    ∃ digits, v = .number digits ∧ readDouble digits = .ok (x, []) :=
  .of_number (P := fun n x => n.double = x) readDouble_eq_ok_iff

/-! ## Lists -/

section Lists

variable {item : Reader α} {Means : Tree → α → Prop} {a : α} {as : List α} {items : List Tree}
  {more : List Char}

theorem Reads.readItems_of_spells (reads : Reads item Means) (means : Means v a)
    (all : List.Forall₂ Means items as) (first : Spells v cs more)
    (others : MoreItems items more rest) {fuel : Nat} (enough : cs.length ≤ fuel + rest.length) :
    readItems item fuel cs = .ok (a :: as, rest) := by
  have shorter := first.length_lt
  induction all generalizing v a cs more fuel with
  | nil =>
    have := others.length_lt
    obtain ⟨fuel, rfl⟩ : ∃ n, fuel = n + 1 := ⟨fuel - 1, by omega⟩
    rw [readItems, reads.taken means first others.stops (.refl cs)]
    cases others with
    | close gap => simp only [(skipSpace_eq_cons_iff (by decide)).mpr gap]
  | cons means' _ ih =>
    have := others.length_lt
    obtain ⟨fuel, rfl⟩ : ∃ n, fuel = n + 1 := ⟨fuel - 1, by omega⟩
    rw [readItems, reads.taken means first others.stops (.refl cs)]
    cases others with
    | item comma gap next others =>
      have := comma.length_le
      have := gap.length_le
      have read : readItems item fuel _ = .ok (_, rest) := ih means' next others
        (by simp only [List.length_cons] at *; omega) next.length_lt
      simp only [(skipSpace_eq_cons_iff (by decide)).mpr comma, gap.skipSpace, next.skipSpace]
      obtain ⟨c, tail, rfl, begins⟩ := next.begins
      have other := begins.visible.2
      split
      next same => cases same
      next same => cases same; exact absurd rfl other
      next => rw [read]; rfl

theorem Reads.exists_spells_of_readItems (reads : Reads item Means) {fuel : Nat}
    (done : readItems item fuel cs = .ok (as, rest)) :
    ∃ v items start more a as', as = a :: as' ∧ Means v a ∧ List.Forall₂ Means items as' ∧
      Gap cs start ∧ Spells v start more ∧ MoreItems items more rest := by
  induction fuel generalizing cs as with
  | zero => cases done
  | succ fuel ih =>
    rw [readItems] at done
    split at done
    next => cases done
    next a more first =>
      split at done
      next => cases done
      next last =>
        cases done
        have last := (skipSpace_eq_cons_iff (by decide)).mp last
        obtain ⟨v, start, gap, spells, means⟩ := reads.meant first (last.stops (.inr (.inl rfl)))
        exact ⟨v, [], start, more, a, [], rfl, means, .nil, gap, spells, .close last⟩
      next next' comma =>
        have comma := (skipSpace_eq_cons_iff (by decide)).mp comma
        obtain ⟨v, start, gap, spells, means⟩ := reads.meant first (comma.stops (.inl rfl))
        split at done
        next => cases done
        next => cases done
        next =>
          obtain ⟨⟨bs, left⟩, read, both⟩ := exists_of_map_eq_ok done
          cases both
          obtain ⟨v', items, start', more', b, bs, rfl, means', all, gap', spells', others⟩ :=
            ih read
          exact ⟨v, v' :: items, start, more, a, _, rfl, means, .cons means' all, gap, spells,
            .item comma ((gap_skipSpace next').trans gap') spells' others⟩
      next => cases done

/-- An array is read item by item. -/
theorem reads_readList (reads : Reads item Means) :
    Reads (readList item) fun v as => ∃ items, v = .array items ∧ List.Forall₂ Means items as where
  taken := by
    rintro v as cs' cs rest ⟨items, rfl, all⟩ spells stops gap
    unfold readList
    rw [gap.skipSpace, spells.skipSpace]
    cases spells with
    | noItems last =>
      cases all
      simp only [(skipSpace_eq_cons_iff (by decide)).mpr last]
    | @items v items inside first more _ open' value others =>
      have := open'.length_le
      cases all with
      | cons means all =>
        simp only [open'.skipSpace, value.skipSpace]
        have read : readItems item first.length first = .ok (_, rest) :=
          reads.readItems_of_spells means all value others (Nat.le_add_right _ _)
        obtain ⟨c, tail, rfl, begins⟩ := value.begins
        have other := begins.visible.2
        split
        next same => cases same
        next same => cases same; exact absurd rfl other
        next => exact read
  meant := by
    intro cs as rest done stops
    unfold readList at done
    split at done
    next inside opening =>
      have opening := (skipSpace_eq_cons_iff (by decide)).mp opening
      split at done
      next => cases done
      next last =>
        cases done
        exact ⟨_, _, opening, .noItems ((skipSpace_eq_cons_iff (by decide)).mp last), [], rfl, .nil⟩
      next =>
        obtain ⟨v, items, start, more, a, as', rfl, means, all, gap, spells, others⟩ :=
          reads.exists_spells_of_readItems done
        exact ⟨_, _, opening, .items ((gap_skipSpace inside).trans gap) spells others, _, rfl,
          .cons means all⟩
    next => cases done

end Lists

end Document

end DenseDmg
