import DenseDmg.Proofs.Document.Skipping

/-!
# A document has one tree

The first character of a value tells its kind, and the mark behind a part tells what follows it.  So
a text is the spelling of one tree at most, and it is known where the spelling ends.

* `Spells.unique`: a value, with what follows it.
* `SpellsDocument.unique`: a whole document.
-/

namespace DenseDmg

namespace Document

variable {cs cs' rest rest' : List Char} {c : Char} {v v' : Tree}

/-! ## The kind of a value -/

namespace Tree.Begins

theorem eq_null (begins : v.Begins 'n') : v = .null := by
  cases v with
  | null => rfl
  | bool b => cases b <;> cases begins
  | number digits => rcases begins with sign | digit <;> contradiction
  | _ => cases begins

theorem eq_bool {b : Bool} (begins : v.Begins (if b then 't' else 'f')) : v = .bool b := by
  cases v with
  | bool b' => cases b <;> cases b' <;> first | rfl | cases begins
  | number digits => cases b <;> rcases begins with sign | digit <;> contradiction
  | _ => cases b <;> cases begins

theorem exists_number (begins : v.Begins c) (number : c = '-' ∨ isDecimalDigit c = true) :
    ∃ digits, v = .number digits := by
  cases v with
  | number digits => exact ⟨digits, rfl⟩
  | bool b => cases b <;> cases begins <;> rcases number with sign | digit <;> contradiction
  | _ => cases begins; rcases number with sign | digit <;> contradiction

theorem exists_text (begins : v.Begins '"') : ∃ s, v = .text s := by
  cases v with
  | text s => exact ⟨s, rfl⟩
  | bool b => cases b <;> cases begins
  | number digits => rcases begins with sign | digit <;> contradiction
  | _ => cases begins

theorem exists_array (begins : v.Begins '[') : ∃ items, v = .array items := by
  cases v with
  | array items => exact ⟨items, rfl⟩
  | bool b => cases b <;> cases begins
  | number digits => rcases begins with sign | digit <;> contradiction
  | _ => cases begins

theorem exists_object (begins : v.Begins '{') : ∃ members, v = .object members := by
  cases v with
  | object members => exact ⟨members, rfl⟩
  | bool b => cases b <;> cases begins
  | number digits => rcases begins with sign | digit <;> contradiction
  | _ => cases begins

end Tree.Begins

theorem Spells.begins_cons (spells : Spells v (c :: cs) rest) : v.Begins c := by
  obtain ⟨d, tail, same, begins⟩ := spells.begins
  cases same
  exact begins

/-! ## Ends -/

/-- Where a value ends is known from the text alone. -/
theorem Spells.rest_unique (spells : Spells v cs rest) (spells' : Spells v' cs rest')
    (stops : Stops rest) (stops' : Stops rest') : rest = rest' := by
  have first := skipAny_of_spells spells stops (.refl cs)
  rw [skipAny_of_spells spells' stops' (.refl cs)] at first
  exact (Except.ok.inj first).symm

/-- Values behind the same white space begin at the same place. -/
theorem Spells.start_unique (spells : Spells v cs rest) (spells' : Spells v' cs' rest')
    {blank : List Char} (gap : Gap blank cs) (gap' : Gap blank cs') : cs = cs' := by
  rw [← spells.skipSpace, ← spells'.skipSpace, ← gap.skipSpace, gap'.skipSpace]

theorem SpellsMember.start_unique {m m' : Option String × Tree} (spells : SpellsMember m cs rest)
    (spells' : SpellsMember m' cs' rest') {blank : List Char} (gap : Gap blank cs)
    (gap' : Gap blank cs') : cs = cs' := by
  rw [← spells.skipSpace, ← spells'.skipSpace, ← gap.skipSpace, gap'.skipSpace]

/-- The first character behind white space is known. -/
theorem Gap.mark_unique {d : Char} (gap : Gap cs (c :: rest)) (gap' : Gap cs (d :: rest'))
    (visible : isSpace c = false) (visible' : isSpace d = false) : c = d ∧ rest = rest' := by
  have first := (skipSpace_eq_cons_iff visible).mpr gap
  rw [(skipSpace_eq_cons_iff visible').mpr gap'] at first
  exact ⟨(List.cons.inj first).1.symm, (List.cons.inj first).2.symm⟩

/-- An empty array holds no value. -/
theorem Gap.not_spells (gap : Gap cs' (']' :: rest')) (gap' : Gap cs' cs) :
    ¬ Spells v cs rest := by
  intro spells
  obtain ⟨c, tail, rfl, begins⟩ := spells.begins
  exact begins.visible.2 ((gap.mark_unique gap' (by decide) begins.visible.1).1.symm)

/-- An empty object holds no member. -/
theorem Gap.not_spellsMember {m : Option String × Tree} (gap : Gap cs' ('}' :: rest'))
    (gap' : Gap cs' cs) : ¬ SpellsMember m cs rest := by
  intro spells
  obtain ⟨tail, rfl⟩ := spells.exists_quote
  exact absurd (gap.mark_unique gap' (by decide) (by decide)).1 (by decide)

/-! ## Trees -/

/-- What a text between quotes stands for is known from what is between them. -/
theorem SpellsText.exists_body {s : Option String} (spells : SpellsText s cs rest) :
    ∃ body, cs = '"' :: (body ++ '"' :: rest) ∧ Body body ∧
      ∀ t, s = some t ↔ Denotes body t.toList := by
  cases spells with
  | @whole s body _ denotes =>
    refine ⟨body, rfl, denotes.formed, fun t => ⟨?_, fun denotes' => ?_⟩⟩
    · rintro ⟨⟩
      exact denotes
    · exact congrArg some (String.toList_inj.mp (denotes.unique denotes'))
  | broken formed none =>
    exact ⟨_, rfl, formed, fun t => ⟨nofun, fun denotes => absurd denotes (none _)⟩⟩

theorem SpellsText.unique {s s' : Option String} (spells : SpellsText s cs rest)
    (spells' : SpellsText s' cs rest') : s = s' ∧ rest = rest' := by
  obtain ⟨body, rfl, formed, known⟩ := spells.exists_body
  obtain ⟨body', same, formed', known'⟩ := spells'.exists_body
  obtain ⟨rfl, rfl⟩ := formed.unique formed' (List.cons.inj same).2
  exact ⟨Option.ext fun t => (known t).trans (known' t).symm, rfl⟩

theorem Spells.of_number {digits : List Char} (spells : Spells (.number digits) cs rest) :
    IsNumber digits ∧ cs = digits ++ rest := by
  cases spells with
  | number form => exact ⟨form, rfl⟩

mutual

/-- A text begins with the spelling of one tree at most. -/
theorem Spells.tree_unique {v v' : Tree} {cs rest rest' : List Char} (spells : Spells v cs rest)
    (spells' : Spells v' cs rest') (stops : Stops rest) (stops' : Stops rest') : v = v' := by
  match spells with
  | .null => exact spells'.begins_cons.eq_null.symm
  | .yes => exact (spells'.begins_cons.eq_bool (b := true)).symm
  | .no => exact (spells'.begins_cons.eq_bool (b := false)).symm
  | .number form =>
    obtain ⟨c, tail, rfl, first⟩ := form.exists_first
    obtain ⟨digits', rfl⟩ := spells'.begins_cons.exists_number first
    obtain rfl := (Spells.number form).rest_unique spells' stops stops'
    rw [List.append_cancel_right spells'.of_number.2]
  | .text text =>
    obtain ⟨body, rfl, -⟩ := text.exists_quote
    obtain ⟨s', rfl⟩ := spells'.begins_cons.exists_text
    cases spells' with
    | text text' => rw [(text.unique text').1]
  | .noItems gap =>
    obtain ⟨items, rfl⟩ := spells'.begins_cons.exists_array
    cases spells' with
    | noItems => rfl
    | items gap' first => exact absurd first (gap.not_spells gap')
  | .items gap first more =>
    obtain ⟨items, rfl⟩ := spells'.begins_cons.exists_array
    cases spells' with
    | noItems gap' => exact absurd first (gap'.not_spells gap)
    | items gap' first' more' =>
      obtain rfl := first.start_unique first' gap gap'
      obtain rfl := first.rest_unique first' more.stops more'.stops
      rw [first.tree_unique first' more.stops more'.stops, more.unique more']
  | .noMembers gap =>
    obtain ⟨members, rfl⟩ := spells'.begins_cons.exists_object
    cases spells' with
    | noMembers => rfl
    | members gap' first => exact absurd first (gap.not_spellsMember gap')
  | .members gap first more =>
    obtain ⟨members, rfl⟩ := spells'.begins_cons.exists_object
    cases spells' with
    | noMembers gap' => exact absurd first (gap'.not_spellsMember gap)
    | members gap' first' more' =>
      obtain rfl := first.start_unique first' gap gap'
      obtain ⟨rfl, rfl⟩ := first.unique first' more.stops more'.stops
      rw [more.unique more']

theorem SpellsMember.unique {m m' : Option String × Tree} {cs rest rest' : List Char}
    (spells : SpellsMember m cs rest) (spells' : SpellsMember m' cs rest') (stops : Stops rest)
    (stops' : Stops rest') : m = m' ∧ rest = rest' := by
  match spells with
  | .member key colon gap value =>
    cases spells' with
    | member key' colon' gap' value' =>
      obtain ⟨rfl, rfl⟩ := key.unique key'
      obtain ⟨-, rfl⟩ := colon.mark_unique colon' (by decide) (by decide)
      obtain rfl := value.start_unique value' gap gap'
      obtain rfl := value.tree_unique value' stops stops'
      exact ⟨rfl, value.rest_unique value' stops stops'⟩

theorem MoreItems.unique {items items' : List Tree} {cs rest rest' : List Char}
    (more : MoreItems items cs rest) (more' : MoreItems items' cs rest') : items = items' := by
  match more with
  | .close gap =>
    cases more' with
    | close => rfl
    | item comma => exact absurd (gap.mark_unique comma (by decide) (by decide)).1 (by decide)
  | .item comma gap next more =>
    cases more' with
    | close gap' => exact absurd (gap'.mark_unique comma (by decide) (by decide)).1 (by decide)
    | item comma' gap' next' more' =>
      obtain ⟨-, rfl⟩ := comma.mark_unique comma' (by decide) (by decide)
      obtain rfl := next.start_unique next' gap gap'
      obtain rfl := next.rest_unique next' more.stops more'.stops
      rw [next.tree_unique next' more.stops more'.stops, more.unique more']

theorem MoreMembers.unique {ms ms' : List (Option String × Tree)} {cs rest rest' : List Char}
    (more : MoreMembers ms cs rest) (more' : MoreMembers ms' cs rest') : ms = ms' := by
  match more with
  | .close gap =>
    cases more' with
    | close => rfl
    | member comma => exact absurd (gap.mark_unique comma (by decide) (by decide)).1 (by decide)
  | .member comma gap next more =>
    cases more' with
    | close gap' => exact absurd (gap'.mark_unique comma (by decide) (by decide)).1 (by decide)
    | member comma' gap' next' more' =>
      obtain ⟨-, rfl⟩ := comma.mark_unique comma' (by decide) (by decide)
      obtain rfl := next.start_unique next' gap gap'
      obtain ⟨rfl, rfl⟩ := next.unique next' more.stops more'.stops
      rw [more.unique more']

end

/-- A value is known from the text that it begins, and so is what follows it. -/
theorem Spells.unique (spells : Spells v cs rest) (spells' : Spells v' cs rest')
    (stops : Stops rest) (stops' : Stops rest') : v = v' ∧ rest = rest' :=
  ⟨spells.tree_unique spells' stops stops', spells.rest_unique spells' stops stops'⟩

/-- A document has one tree. -/
theorem SpellsDocument.unique {raw : String} (spells : SpellsDocument v raw)
    (spells' : SpellsDocument v' raw) : v = v' := by
  obtain ⟨cs, rest, gap, value, ends⟩ := spells
  obtain ⟨cs', rest', gap', value', ends'⟩ := spells'
  obtain rfl := value.start_unique value' gap gap'
  exact value.tree_unique value' (ends.stops_of_stops stops_nil) (ends'.stops_of_stops stops_nil)

end Document

end DenseDmg
