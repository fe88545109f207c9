import DenseDmg.Document.Json
import DenseDmg.Proofs.Document.Texts

/-!
# What is written as a document

Every document that is written is a spelling of the grammar, whatever its texts and numbers are.

* `denotes_escaped`: a text with its escapes denotes the text.
* `isNumber_toDigits`, `isNumber_documentFloat`: counts and finite doubles.
* `Json.spells_compact`: whole values, with the tree that they are a spelling of.
-/

namespace DenseDmg

namespace Document

variable {body s : List Char} {c : Char} {n : ℕ}

/-! ## Texts -/

/-- A control character is written by its code. -/
theorem hexNumber?_hexDigits (small : n < 32) : ∃ a b c d, hexDigits 4 n = [a, b, c, d] ∧
    hexNumber? [a, b, c, d] = some n ∧ isLowHalf n = false ∧ isHighHalf n = false := by
  have all : ∀ m : Fin 32, hexNumber? (hexDigits 4 m.val) = some m.val ∧
      isLowHalf m.val = false ∧ isHighHalf m.val = false := by decide
  exact ⟨_, _, _, _, rfl, all ⟨n, small⟩⟩

/-- A character that is written stands for itself. -/
theorem denotes_escapedChar (denotes : Denotes body s) :
    Denotes (Json.escapedChar c ++ body) (c :: s) := by
  unfold Json.escapedChar
  split_ifs with quote slash line back tab left page control
  · subst quote
    exact .escape (by decide) denotes
  · subst slash
    exact .escape (by decide) denotes
  · exact .escape (line ▸ by decide) denotes
  · exact .escape (back ▸ by decide) denotes
  · exact .escape (tab ▸ by decide) denotes
  · exact .escape (left ▸ by decide) denotes
  · exact .escape (page ▸ by decide) denotes
  · have small : c.toNat < 32 := control
    obtain ⟨d₁, d₂, d₃, d₄, written, read, low, high⟩ := hexNumber?_hexDigits small
    have code := Denotes.code read low high denotes
    rw [Char.ofNat_toNat] at code
    rw [written]
    exact code
  · exact .plain (Char.not_lt.mp control) quote slash denotes

theorem denotes_escaped (s : List Char) : Denotes (s.flatMap Json.escapedChar) s := by
  induction s with
  | nil => exact .nil
  | cons c s ih => exact denotes_escapedChar ih

theorem spellsText_quotedText (s : String) (rest : List Char) :
    SpellsText (some s) (Json.quotedText s ++ rest) rest := by
  have text : Json.quotedText s ++ rest =
      '"' :: (s.toList.flatMap Json.escapedChar ++ '"' :: rest) := by
    simp [Json.quotedText]
  rw [text]
  exact .whole (denotes_escaped s.toList)

/-! ## Numbers -/

theorem isDigits_toDigits (n : ℕ) : IsDigits (Nat.toDigits 10 n) :=
  ⟨Nat.toDigits_ne_nil, .toDigits n⟩

/-- Only zero is written with a zero in front. -/
theorem eq_zero_of_head?_toDigits (zero : (Nat.toDigits 10 n).head? = some '0') : n = 0 := by
  induction n using Nat.strongRecOn with
  | _ n ih =>
    rcases Nat.lt_or_ge n 10 with small | large
    · have all : ∀ m : Fin 10, Nat.digitChar m.val = '0' → m.val = 0 := by decide
      rw [Nat.toDigits_of_lt_base small] at zero
      exact all ⟨n, small⟩ (Option.some.inj zero)
    · rw [Nat.toDigits_of_base_le (by decide) large,
        List.head?_append_of_ne_nil _ Nat.toDigits_ne_nil] at zero
      have := ih (n / 10) (by omega) zero
      omega

theorem isWhole_toDigits (n : ℕ) : IsWhole (Nat.toDigits 10 n) := by
  refine ⟨isDigits_toDigits n, fun zero => ?_⟩
  rw [eq_zero_of_head?_toDigits zero, Nat.toDigits_zero]

theorem isWhole_zero : IsWhole ['0'] := Nat.toDigits_zero 10 ▸ isWhole_toDigits 0

theorem isNumber_toDigits (n : ℕ) : IsNumber (Nat.toDigits 10 n) :=
  .inl ⟨_, [], [], isWhole_toDigits n, .inl rfl, .inl rfl, by simp⟩

/-- A sign in front of a number makes it negative. -/
theorem IsUnsigned.signed {cs : List Char} (unsigned : IsUnsigned cs) (v : BinaryValue) :
    IsNumber (v.sign ++ cs) := by
  unfold BinaryValue.sign
  split_ifs
  · exact .inr ⟨cs, unsigned, rfl⟩
  · exact .inl unsigned

/-- An exponent is written with its sign. -/
theorem isExponent_intText (e : ℤ) : IsExponent ('e' :: intText ['+'] e) := by
  refine .inr ⟨'e', if e < 0 then ['-'] else ['+'], Nat.toDigits 10 e.natAbs, .inl rfl, ?_,
    isDigits_toDigits _, rfl⟩
  split_ifs
  · exact .inr (.inr rfl)
  · exact .inr (.inl rfl)

theorem isUnsigned_scientific (n : ℕ) (e : ℤ) :
    IsUnsigned (scientific ['+'] (Nat.toDigits 10 n) e) := by
  obtain ⟨nonempty, digits⟩ := isDigits_toDigits n
  cases written : Nat.toDigits 10 n with
  | nil => exact absurd written nonempty
  | cons d ds =>
    rw [written] at digits
    have whole : IsWhole [d] := by
      refine ⟨⟨List.cons_ne_nil _ _, ?_⟩, fun zero => congrArg (· :: []) (Option.some.inj zero)⟩
      exact List.forall_mem_singleton.mpr (digits d List.mem_cons_self)
    refine ⟨[d], if (d :: ds).length ≤ 1 then [] else '.' :: ds, _, whole, ?_,
      isExponent_intText e, ?_⟩
    · split_ifs with short
      · exact .inl rfl
      · refine .inr ⟨ds, ⟨?_, fun c mem => digits c (List.mem_cons_of_mem _ mem)⟩, rfl⟩
        rintro rfl
        exact short le_rfl
    · rw [scientific, List.append_assoc]
      rfl

/-- The digits of the shortest number for a double are those of no zero. -/
theorem trimZeros_ne_zero {d : Decimal} (some : d.digits ≠ 0) (fuel : ℕ) :
    (d.trimZeros fuel).digits ≠ 0 := by
  induction fuel generalizing d with
  | zero => exact some
  | succ fuel ih =>
    rw [Decimal.trimZeros]
    split_ifs with last
    · exact ih (show d.digits / 10 ≠ 0 by omega)
    · exact some

theorem allDigits_zeroPieces (n : ℕ) : AllDigits (zeroPieces n).flatten := by
  intro c mem
  obtain ⟨piece, mem, inside⟩ := List.mem_flatten.mp mem
  have zero : c = '0' := by
    rcases List.mem_append.mp mem with full | last
    · rw [(List.mem_replicate.mp full).2] at inside
      exact (List.mem_replicate.mp inside).2
    · split_ifs at last
      · cases last
      · rw [List.mem_singleton.mp last] at inside
        exact (List.mem_replicate.mp inside).2
  rw [zero]
  decide

/-- A number without an exponent, if zero has no zeros behind it. -/
theorem isUnsigned_plain {d : Decimal} (zero : d.digits = 0 → d.scale = 0) :
    IsUnsigned (d.plain ['.', '0']) := by
  obtain ⟨nonempty, digits⟩ := isDigits_toDigits d.digits
  have length := List.length_pos_iff.mpr nonempty
  have leading : d.leading = d.scale + (Nat.toDigits 10 d.digits).length - 1 := rfl
  have front : (Nat.toDigits 10 d.digits).head? = some '0' →
      Nat.toDigits 10 d.digits = ['0'] ∧ d.scale = 0 := fun first =>
    ⟨(isWhole_toDigits d.digits).2 first, zero (eq_zero_of_head?_toDigits first)⟩
  unfold Decimal.plain Decimal.pieces
  dsimp only
  generalize Nat.toDigits 10 d.digits = ds at *
  split_ifs with small large inside large large
  · omega
  · refine ⟨['0'], '.' :: ((zeroPieces (-(d.leading + 1)).toNat).flatten ++ ds), [], isWhole_zero,
      .inr ⟨_, ⟨by simp [nonempty], ?_⟩, rfl⟩, .inl rfl, by simp⟩
    exact (allDigits_zeroPieces _).append digits
  · omega
  · have split := List.take_append_drop (d.leading + 1).toNat ds
    refine ⟨ds.take (d.leading + 1).toNat, '.' :: ds.drop (d.leading + 1).toNat, [],
      ⟨⟨?_, (split ▸ digits).of_append_left⟩, fun first => ?_⟩,
      .inr ⟨_, ⟨?_, (split ▸ digits).of_append_right⟩, rfl⟩, .inl rfl, by simp⟩
    · exact fun empty => (List.take_eq_nil_iff.mp empty).elim (by omega) nonempty
    · rw [List.head?_take, if_neg (by omega)] at first
      have := congrArg List.length (front first).1
      simp only [List.length_singleton] at this
      omega
    · rw [Ne, List.drop_eq_nil_iff]
      omega
  · refine ⟨ds ++ (zeroPieces ((d.leading + 1).toNat - ds.length)).flatten, ['.', '0'], [],
      ⟨⟨by simp [nonempty], digits.append (allDigits_zeroPieces _)⟩, fun first => ?_⟩,
      .inr ⟨['0'], isWhole_zero.1, rfl⟩, .inl rfl, by simp⟩
    rw [List.head?_append_of_ne_nil _ nonempty] at first
    obtain ⟨rfl, scale⟩ := front first
    have none : (d.leading + 1).toNat - ['0'].length = 0 := by
      simp only [List.length_singleton] at *
      omega
    rw [none]
    rfl
  · omega

theorem lt_of_within {closed : Bool} {lo hi x : ℕ} (inside : within closed lo hi x = true)
    (pos : 0 < lo) : 0 < x := by
  unfold within at inside
  split_ifs at inside <;> have := of_decide_eq_true inside <;> omega

theorem le_divRounded (tie : Tie) (num den : ℕ) : num / den ≤ divRounded tie num den := by
  unfold divRounded
  cases tie <;> dsimp only <;> split_ifs <;> omega

/-- No number of a grid that rounds to a positive double is zero. -/
theorem onGrid?_ne_zero {tie : Tie} {closed : Bool} {lo mid hi d : ℕ} {q k : ℤ} (pos : 0 < lo)
    (found : onGrid? tie closed lo mid hi q k = some d) : d ≠ 0 := by
  unfold onGrid? at found
  dsimp only at found
  have scale : 0 < (if 0 ≤ k then 1 else Nat.pow 10 (-k).toNat) *
      (if 0 ≤ q then 1 <<< q.toNat else 1) := by
    refine Nat.mul_pos ?_ ?_ <;> split_ifs
    · exact Nat.one_pos
    · exact Nat.pow_pos (by decide)
    · rw [Nat.shiftLeft_eq, Nat.one_mul]
      exact Nat.two_pow_pos _
    · exact Nat.one_pos
  generalize (if 0 ≤ k then 1 else Nat.pow 10 (-k).toNat) *
    (if 0 ≤ q then 1 <<< q.toNat else 1) = b at *
  generalize (if 0 ≤ k then Nat.pow 10 k.toNat else 1) *
    (if 0 ≤ q then 1 else 1 <<< (-q).toNat) = a at *
  have low := Nat.mul_pos pos scale
  have down : within closed (lo * b) (hi * b) (mid * b / a * a) = true → 0 < mid * b / a :=
    fun inside => Nat.pos_of_mul_pos_right (lt_of_within inside low)
  split_ifs at found with both below above
  · cases found
    have := down (Bool.and_eq_true_iff.mp both).1
    have := le_divRounded tie (mid * b) a
    omega
  · cases found
    have := down below
    omega
  · cases found
    exact Nat.succ_ne_zero _

theorem shortestAux_ne_zero {tie : Tie} {closed : Bool} {lo mid hi : ℕ} {q e : ℤ} (low : 0 < lo)
    (pos : 0 < mid) (fuel n : ℕ) : (shortestAux tie closed lo mid hi q e fuel n).digits ≠ 0 := by
  induction fuel generalizing n with
  | zero =>
    rw [shortestAux, Nat.shiftLeft_eq]
    exact (Nat.mul_pos pos (Nat.two_pow_pos _)).ne'
  | succ fuel ih =>
    rw [shortestAux]
    split
    next found => exact onGrid?_ne_zero low found
    next => exact ih _

/-- The shortest number for a zero has no scale, and no other double has a zero for its shortest
number. -/
theorem shortest_scale {tie : Tie} {v : BinaryValue} (zero : (v.shortest tie).digits = 0) :
    (v.shortest tie).scale = 0 := by
  unfold BinaryValue.shortest at *
  split_ifs at * with none
  · rfl
  · refine absurd zero (trimZeros_ne_zero (shortestAux_ne_zero ?_ ?_ _ _) _)
    · split_ifs <;> omega
    · omega

/-- A finite double is written as a number. -/
theorem isNumber_documentFloat {x : Float} {v : BinaryValue}
    (value : BinaryValue.ofFloat? x = some v) :
    IsNumber (documentFloat x) := by
  unfold documentFloat
  rw [value]
  dsimp only
  refine IsUnsigned.signed ?_ v
  split_ifs
  · exact isUnsigned_scientific _ _
  · exact isUnsigned_plain shortest_scale

end Document

/-! ## Values -/

namespace Json

open Document

mutual

/-- The tree of what is written for a value. -/
def tree : Json → Tree
  | null => .null
  | bool b => .bool b
  | count n => .number (Nat.toDigits 10 n)
  | double x => if (BinaryValue.ofFloat? x).isSome then .number (documentFloat x) else .null
  | text s => .text (some s)
  | array items => .array (treeItems items)
  | object members => .object (treeMembers members)

def treeItems : List Json → List Tree
  | [] => []
  | v :: rest => v.tree :: treeItems rest

def treeMembers : List (String × Json) → List (Option String × Tree)
  | [] => []
  | (key, v) :: rest => (some key, v.tree) :: treeMembers rest

end

/-- What is written behind an item. -/
def restItems : List Json → List Char
  | [] => []
  | items => ',' :: compactItems items

/-- What is written behind a member. -/
def restMembers : List (String × Json) → List Char
  | [] => []
  | members => ',' :: compactMembers members

theorem compactItems_cons (v : Json) (items : List Json) :
    compactItems (v :: items) = v.compact ++ restItems items := by
  cases items with
  | nil => rw [compactItems, restItems, List.append_nil]
  | cons w items =>
    rw [compactItems, restItems]
    all_goals exact List.cons_ne_nil _ _

theorem compactMembers_cons (key : String) (v : Json) (members : List (String × Json)) :
    compactMembers ((key, v) :: members) =
      quotedText key ++ ':' :: (v.compact ++ restMembers members) := by
  cases members with
  | nil => rw [compactMembers, restMembers, List.append_nil]
  | cons m members =>
    rw [compactMembers, restMembers]
    · simp
    all_goals exact List.cons_ne_nil _ _

mutual

/-- A value is written as a spelling of its tree. -/
theorem spells_compact (j : Json) (rest : List Char) : Spells j.tree (j.compact ++ rest) rest := by
  match j with
  | null => exact .null
  | bool true => exact .yes
  | bool false => exact .no
  | count n => exact .number (isNumber_toDigits n)
  | double x =>
    have written : (double x).compact = documentFloat x := rfl
    rw [tree, written]
    cases value : BinaryValue.ofFloat? x with
    | none =>
      rw [documentFloat, value]
      exact .null
    | some v => exact .number (isNumber_documentFloat value)
  | text s => exact .text (spellsText_quotedText s rest)
  | array [] => exact .noItems (.refl _)
  | array (v :: items) =>
    have written : (array (v :: items)).compact ++ rest =
        '[' :: (v.compact ++ (restItems items ++ ']' :: rest)) := by
      simp [compact, compactItems_cons]
    rw [written]
    exact .items (.refl _) (spells_compact v _) (moreItems_compact items rest)
  | object [] => exact .noMembers (.refl _)
  | object ((key, v) :: members) =>
    have written : (object ((key, v) :: members)).compact ++ rest =
        '{' :: (quotedText key ++ ':' :: (v.compact ++ (restMembers members ++ '}' :: rest))) := by
      simp [compact, compactMembers_cons]
    rw [written]
    refine .members (.refl _) (.member (spellsText_quotedText key _) (.refl _) (.refl _)
      (spells_compact v _)) (moreMembers_compact members rest)

theorem moreItems_compact (items : List Json) (rest : List Char) :
    MoreItems (treeItems items) (restItems items ++ ']' :: rest) rest := by
  match items with
  | [] => exact .close (.refl _)
  | v :: items =>
    have written : restItems (v :: items) ++ ']' :: rest =
        ',' :: (v.compact ++ (restItems items ++ ']' :: rest)) := by
      simp [restItems, compactItems_cons]
    rw [written]
    exact .item (.refl _) (.refl _) (spells_compact v _) (moreItems_compact items rest)

theorem moreMembers_compact (members : List (String × Json)) (rest : List Char) :
    MoreMembers (treeMembers members) (restMembers members ++ '}' :: rest) rest := by
  match members with
  | [] => exact .close (.refl _)
  | (key, v) :: members =>
    have written : restMembers ((key, v) :: members) ++ '}' :: rest =
        ',' :: (quotedText key ++ ':' :: (v.compact ++ (restMembers members ++ '}' :: rest))) := by
      simp [restMembers, compactMembers_cons]
    rw [written]
    refine .member (.refl _) (.refl _) (.member (spellsText_quotedText key _) (.refl _) (.refl _)
      (spells_compact v _)) (moreMembers_compact members rest)

end

/-- A value that is written alone is a document. -/
theorem spellsDocument_compact (j : Json) : SpellsDocument j.tree (String.ofList j.compact) := by
  have spells := j.spells_compact []
  rw [List.append_nil] at spells
  exact ⟨j.compact, [], by rw [String.toList_ofList]; exact .refl _, spells, .refl []⟩

end Json

end DenseDmg
