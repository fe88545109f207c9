import DenseDmg.Proofs.Decimal.Doubles
import DenseDmg.Proofs.Document.Records
import DenseDmg.Proofs.Document.Writing

/-!
# Reading what was written

What a reader makes of the tree of a value that was written.  Truth values, texts, and counts that
fit into their word are read back; a double is read as what the reader makes of its digits; an
object that gives all keys of a record in order is read slot by slot.

* `readNumber_toDigits`: the digits of a word.
* `bool_means_iff`, `text_means_iff`, `count_means_iff`, `double_means_iff`: values without parts.
* `list_means_iff`: arrays of values that are read back.
* `Layout.means_object_iff`: objects.
-/

namespace DenseDmg

namespace Document

/-! ## Counts -/

theorem le_ofDigitChars (ds : List Char) (n : ℕ) : n ≤ Nat.ofDigitChars 10 ds n := by
  rw [Nat.ofDigitChars_eq_ofDigitChars_zero]
  exact (Nat.le_mul_of_pos_left n (by positivity)).trans (Nat.le_add_right _ _)

/-- Digits are taken as long as the number stays a word, and those of a word to the end. -/
theorem takeDigits_of_le {ds : List Char} (digits : AllDigits ds) {significand taken : ℕ}
    (word : Nat.ofDigitChars 10 ds significand ≤ lastWord) :
    takeDigits significand taken ds = (Nat.ofDigitChars 10 ds significand, taken + ds.length) := by
  induction ds generalizing significand taken with
  | nil => rfl
  | cons d ds ih =>
    have value := digitValue?_of_digit (digits d List.mem_cons_self)
    rw [Nat.ofDigitChars_cons, Nat.mul_comm] at word
    have small := (le_ofDigitChars ds _).trans word
    rw [takeDigits, value, Option.getD_some, if_neg (by omega),
      ih (fun c mem => digits c (List.mem_cons_of_mem d mem)) word, Nat.ofDigitChars_cons,
      Nat.mul_comm 10, List.length_cons, Nat.add_assoc, Nat.add_comm 1]

theorem readNumber_toDigits {n : ℕ} (word : n ≤ lastWord) :
    readNumber (Nat.toDigits 10 n) = .ok (.natural n, []) := by
  have integral := isWhole_toDigits n
  have value : Nat.ofDigitChars 10 (Nat.toDigits 10 n) 0 = n := Nat.ofDigitChars_ten_toDigits
  have taken : takeDigits 0 0 (Nat.toDigits 10 n) = _ :=
    takeDigits_of_le integral.1.2 (value.trans_le word)
  obtain ⟨d, ds, written⟩ := List.exists_cons_of_ne_nil integral.1.1
  have single := (isWhole_iff integral.1).mp integral
  have all : (Nat.toDigits 10 n ++ []).takeWhile isDecimalDigit = _ :=
    takeWhile_digits integral.1.2 nofun
  have none : (Nat.toDigits 10 n ++ []).dropWhile isDecimalDigit = _ :=
    dropWhile_digits integral.1.2 nofun
  rw [List.append_nil] at all none
  have first : isDecimalDigit d = true := integral.1.2 d (written ▸ List.mem_cons_self)
  rw [written, readNumber_digit first, ← written]
  unfold scanNumber
  dsimp only
  rw [all, none, if_neg (by simp [integral.1.isEmpty]), if_neg single, taken, value]
  simp [whole?]

theorem readCount_toDigits {limit n : ℕ} (word : limit ≤ lastWord) (fits : n ≤ limit) :
    readCount limit (Nat.toDigits 10 n) = .ok (n, []) :=
  readCount_eq_ok_iff.mpr ⟨readNumber_toDigits (fits.trans word), fits⟩

/-! ## Values without parts -/

theorem bool_means_iff {a b : Bool} : (Json.bool a).tree = .bool b ↔ b = a := by
  rw [Json.tree, Tree.bool.injEq, eq_comm]

theorem text_means_iff {s t : String} : (Json.text s).tree = .text (some t) ↔ t = s := by
  rw [Json.tree, Tree.text.injEq, Option.some.injEq, eq_comm]

/-- A count that fits into its word is read back. -/
theorem count_means_iff {limit n m : ℕ} (word : limit ≤ lastWord) (fits : n ≤ limit) :
    (∃ digits, (Json.count n).tree = .number digits ∧ readCount limit digits = .ok (m, [])) ↔
      m = n := by
  constructor
  · rintro ⟨_, ⟨⟩, read⟩
    rw [readCount_toDigits word fits] at read
    cases read
    rfl
  · rintro rfl
    exact ⟨_, rfl, readCount_toDigits word fits⟩

/-- A double that was written is read as another one. -/
def Rereads (x y : Float) : Prop := readDouble (documentFloat x) = .ok (y, [])

theorem double_means_iff {x y : Float} (finite : x.isFinite = true) :
    (∃ digits, (Json.double x).tree = .number digits ∧ readDouble digits = .ok (y, [])) ↔
      Rereads x y := by
  have written : (Json.double x).tree = .number (documentFloat x) := by
    rw [Json.tree, if_pos (isFinite_eq x ▸ finite)]
  rw [written]
  constructor
  · rintro ⟨_, ⟨⟩, read⟩
    exact read
  · exact fun read => ⟨_, rfl, read⟩

/-! ## Lists -/

section Lists

variable {α : Type} {Means : Tree → α → Prop} {write : α → Json} {xs as : List α}

theorem forall₂_treeItems (each : ∀ x ∈ xs, ∀ a, Means (write x).tree a ↔ a = x) :
    List.Forall₂ Means (Json.treeItems (xs.map write)) as ↔ as = xs := by
  induction xs generalizing as with
  | nil => exact List.forall₂_nil_left_iff
  | cons x xs ih =>
    have head := each x List.mem_cons_self
    have tail (as) : List.Forall₂ Means (Json.treeItems (xs.map write)) as ↔ as = xs :=
      ih fun y mem => each y (List.mem_cons_of_mem x mem)
    rw [List.map_cons, Json.treeItems, List.forall₂_cons_left_iff]
    simp only [head, tail]
    exact ⟨fun ⟨_, _, first, rest, same⟩ => by rw [same, first, rest],
      fun same => ⟨x, xs, rfl, rfl, same⟩⟩

/-- An array of values that are read back is read back. -/
theorem list_means_iff (each : ∀ x ∈ xs, ∀ a, Means (write x).tree a ↔ a = x) :
    (∃ items, (Json.array (xs.map write)).tree = .array items ∧ List.Forall₂ Means items as) ↔
      as = xs := by
  rw [← forall₂_treeItems each, Json.tree]
  constructor
  · rintro ⟨_, ⟨⟩, all⟩
    exact all
  · exact fun all => ⟨_, rfl, all⟩

end Lists

/-! ## Objects -/

namespace Layout

variable {σ : Type} {shape : Shape σ} {layout : Layout shape} {draft s : σ}
  {ms : List (Option String × Tree)}

/-- Members that stand in the order of the slots are found slot by slot. -/
theorem forall₂_slots {slots : List (Slot σ)} (nodup : (slots.map Slot.key).Nodup)
    (keys : ms.map Prod.fst = slots.map fun slot => some slot.key) :
    (∀ slot ∈ slots, ∀ v, (some slot.key, v) ∈ ms → slot.Means v (slot.get s)) ↔
      List.Forall₂ (fun m slot => slot.Means m.2 (slot.get s)) ms slots := by
  induction slots generalizing ms with
  | nil =>
    rw [List.map_nil, List.map_eq_nil_iff] at keys
    subst keys
    exact ⟨fun _ => .nil, fun _ => nofun⟩
  | cons slot slots ih =>
    obtain ⟨⟨_, w⟩, ms, rfl, ⟨⟩, rest⟩ := List.map_eq_cons_iff.mp keys
    obtain ⟨other, nodup⟩ := List.nodup_cons.mp nodup
    -- The key of the first slot does not come again, and no later slot has it.
    have later (v) : (some slot.key, v) ∉ ms := by
      intro mem
      have again := rest ▸ List.mem_map_of_mem (f := Prod.fst) mem
      obtain ⟨slot', mem', same⟩ := List.mem_map.mp again
      exact other (Option.some.inj same ▸ List.mem_map_of_mem mem')
    rw [List.forall₂_cons, ← ih nodup rest, List.forall_mem_cons]
    refine and_congr ⟨fun given => given w List.mem_cons_self, fun means v mem => ?_⟩
      (forall₂_congr fun slot' mem' => forall_congr' fun v => imp_congr_left ?_)
    · rcases List.mem_cons.mp mem with first | mem
      · exact (Prod.mk.inj first).2 ▸ means
      · exact absurd mem (later v)
    · rw [List.mem_cons, or_iff_right]
      intro same
      exact other (Option.some.inj (Prod.mk.inj same).1 ▸ List.mem_map_of_mem mem')

/-- An object that gives all keys of a record in order means what its members mean, slot by slot. -/
theorem means_object_iff (keys : ms.map Prod.fst = layout.slots.map fun slot => some slot.key) :
    layout.Means draft (.object ms) s ↔
      List.Forall₂ (fun m slot => slot.Means m.2 (slot.get s)) ms layout.slots := by
  rw [← forall₂_slots layout.nodup keys]
  constructor
  · rintro ⟨members⟩
    exact members.given
  · intro given
    have present {slot} (mem : slot ∈ layout.slots) : some slot.key ∈ ms.map Prod.fst :=
      keys ▸ List.mem_map_of_mem mem
    refine .object ⟨fun m mem => ?keys, fun slot _ => ?once, nofun,
      fun _ slot mem => .inr (present mem), given,
      fun slot mem missing => absurd (present mem) missing⟩
    case keys =>
      obtain ⟨slot, -, key⟩ := List.mem_map.mp (keys ▸ List.mem_map_of_mem (f := Prod.fst) mem)
      exact ⟨slot.key, key.symm⟩
    case once =>
      rw [keys]
      refine List.nodup_iff_count_le_one.mp ?_ _
      exact List.map_map (g := some) ▸ layout.nodup.map (Option.some_injective _)

end Layout

end Document

end DenseDmg
