import DenseDmg.Proofs.Document.Numbers

/-!
# Values that nobody reads

The values that are passed over are those of the grammar, whatever their depth: the fuel that the
scanner is given is enough for every text.

* `Spells.begins`: how a spelling begins tells what kind of value it is.
* `Spells.length_lt`: a spelling takes at least one character.
* `skipAny_of_spells`: every value of the grammar is passed over.
* `exists_spells_of_skipAny`: nothing else is.
-/

namespace DenseDmg

namespace Document

variable {cs rest : List Char} {c : Char} {v : Tree}

/-! ## How a value begins -/

/-- The characters that a spelling of a value may begin with. -/
def Tree.Begins : Tree → Char → Prop
  | .null, c => c = 'n'
  | .bool true, c => c = 't'
  | .bool false, c => c = 'f'
  | .number _, c => c = '-' ∨ isDecimalDigit c = true
  | .text _, c => c = '"'
  | .array _, c => c = '['
  | .object _, c => c = '{'

theorem IsNumber.exists_first {digits : List Char} (form : IsNumber digits) :
    ∃ c tail, digits = c :: tail ∧ (c = '-' ∨ isDecimalDigit c = true) := by
  rcases form with unsigned | ⟨digits, -, rfl⟩
  · obtain ⟨c, tail, rfl, digit⟩ := unsigned.exists_digit
    exact ⟨c, tail, rfl, .inr digit⟩
  · exact ⟨'-', digits, rfl, .inl rfl⟩

theorem SpellsText.exists_quote {s : Option String} (spells : SpellsText s cs rest) :
    ∃ body, cs = '"' :: (body ++ '"' :: rest) ∧ Body body := by
  cases spells with
  | whole denotes => exact ⟨_, rfl, denotes.formed⟩
  | broken formed _ => exact ⟨_, rfl, formed⟩

theorem Spells.begins (spells : Spells v cs rest) : ∃ c tail, cs = c :: tail ∧ v.Begins c := by
  cases spells with
  | number form =>
    obtain ⟨c, tail, rfl, first⟩ := form.exists_first
    exact ⟨c, tail ++ rest, rfl, first⟩
  | text spells =>
    obtain ⟨body, rfl, -⟩ := spells.exists_quote
    exact ⟨'"', _, rfl, rfl⟩
  | _ => exact ⟨_, _, rfl, rfl⟩

/-- No value begins with white space or with the end of an array. -/
theorem Tree.Begins.visible (begins : v.Begins c) : isSpace c = false ∧ c ≠ ']' := by
  match v, begins with
  | .number _, .inr digit =>
    refine ⟨isSpace_of_digit digit, ?_⟩
    rintro rfl
    cases digit
  | .null, rfl | .bool true, rfl | .bool false, rfl | .number _, .inl rfl | .text _, rfl
  | .array _, rfl | .object _, rfl => decide

theorem Spells.skipSpace (spells : Spells v cs rest) : skipSpace cs = cs := by
  obtain ⟨c, tail, rfl, begins⟩ := spells.begins
  exact skipSpace_cons begins.visible.1

theorem SpellsMember.exists_quote {m : Option String × Tree} (spells : SpellsMember m cs rest) :
    ∃ tail, cs = '"' :: tail := by
  cases spells with
  | member key _ _ _ =>
    obtain ⟨body, rfl, -⟩ := key.exists_quote
    exact ⟨_, rfl⟩

theorem SpellsMember.skipSpace {m : Option String × Tree} (spells : SpellsMember m cs rest) :
    Document.skipSpace cs = cs := by
  obtain ⟨tail, rfl⟩ := spells.exists_quote
  exact skipSpace_cons (by decide)

/-! ## Where a value ends -/

theorem stops_of_isSpace (space : isSpace c = true) : Stops (c :: cs) := by
  intro d first
  cases first
  simp only [isSpace, Bool.or_eq_true, beq_iff_eq] at space
  rcases space with ((rfl | rfl) | rfl) | rfl <;> decide

/-- White space before something that goes on with no number does not either. -/
theorem Gap.stops_of_stops (gap : Gap cs rest) (stops : Stops rest) : Stops cs := by
  obtain ⟨blank, spaces, rfl⟩ := gap
  cases blank with
  | nil => exact stops
  | cons c blank => exact stops_of_isSpace (spaces c List.mem_cons_self)

/-- The marks between values go on with no number. -/
theorem Gap.stops (gap : Gap cs (c :: rest)) (mark : c = ',' ∨ c = ']' ∨ c = '}') : Stops cs := by
  refine gap.stops_of_stops fun d first => ?_
  cases first
  rcases mark with rfl | rfl | rfl <;> decide

theorem MoreItems.stops {items : List Tree} (more : MoreItems items cs rest) : Stops cs := by
  cases more with
  | close gap => exact gap.stops (.inr (.inl rfl))
  | item gap _ _ _ => exact gap.stops (.inl rfl)

theorem MoreMembers.stops {ms : List (Option String × Tree)} (more : MoreMembers ms cs rest) :
    Stops cs := by
  cases more with
  | close gap => exact gap.stops (.inr (.inr rfl))
  | member gap _ _ _ => exact gap.stops (.inl rfl)

/-! ## Lengths -/

theorem SpellsText.length_lt {s : Option String} (spells : SpellsText s cs rest) :
    rest.length < cs.length := by
  obtain ⟨body, rfl, -⟩ := spells.exists_quote
  simp only [List.length_cons, List.length_append]
  omega

mutual

/-- A spelling takes at least one character. -/
theorem Spells.length_lt {v : Tree} {cs rest : List Char} (spells : Spells v cs rest) :
    rest.length < cs.length := by
  match spells with
  | .null | .yes | .no =>
    simp only [List.length_cons]
    omega
  | .number form =>
    obtain ⟨c, tail, rfl, -⟩ := form.exists_first
    simp only [List.length_append, List.length_cons]
    omega
  | .text text => exact text.length_lt
  | .noItems gap | .noMembers gap =>
    have := gap.length_le
    simp only [List.length_cons] at this ⊢
    omega
  | .items gap first more =>
    have := gap.length_le
    have := first.length_lt
    have := more.length_lt
    simp only [List.length_cons]
    omega
  | .members gap first more =>
    have := gap.length_le
    have := first.length_lt
    have := more.length_lt
    simp only [List.length_cons]
    omega

theorem SpellsMember.length_lt {m : Option String × Tree} {cs rest : List Char}
    (spells : SpellsMember m cs rest) : rest.length < cs.length := by
  match spells with
  | .member key colon gap value =>
    have := key.length_lt
    have := colon.length_le
    have := gap.length_le
    have := value.length_lt
    simp only [List.length_cons] at *
    omega

theorem MoreItems.length_lt {items : List Tree} {cs rest : List Char}
    (more : MoreItems items cs rest) : rest.length < cs.length := by
  match more with
  | .close gap =>
    have := gap.length_le
    simp only [List.length_cons] at this
    omega
  | .item comma gap next more =>
    have := comma.length_le
    have := gap.length_le
    have := next.length_lt
    have := more.length_lt
    simp only [List.length_cons] at *
    omega

theorem MoreMembers.length_lt {ms : List (Option String × Tree)} {cs rest : List Char}
    (more : MoreMembers ms cs rest) : rest.length < cs.length := by
  match more with
  | .close gap =>
    have := gap.length_le
    simp only [List.length_cons] at this
    omega
  | .member comma gap next more =>
    have := comma.length_le
    have := gap.length_le
    have := next.length_lt
    have := more.length_lt
    simp only [List.length_cons] at *
    omega

end

/-! ## Passing over the values of the grammar -/

/-- A word is expected, and what follows it is left. -/
theorem expectWord_eq_ok_iff {word : List Char} :
    expectWord word cs = .ok rest ↔ cs = word ++ rest := by
  induction word generalizing cs with
  | nil =>
    rw [expectWord, List.nil_append]
    exact Except.ok.injEq cs rest ▸ Iff.rfl
  | cons w word ih =>
    cases cs with
    | nil => simp [expectWord]
    | cons c cs =>
      rw [expectWord, List.cons_append, List.cons.injEq]
      split
      next same => rw [ih, and_iff_right same]
      next other => simp [other]

/-- White space before a value does not count. -/
theorem skipValue_gap {cs' : List Char} (gap : Gap cs' cs) (fuel : Nat) :
    skipValue fuel cs' = skipValue fuel cs := by
  cases fuel with
  | zero => rw [skipValue, skipValue]
  | succ fuel => rw [skipValue, skipValue, gap.skipSpace]

theorem skipItems_gap {cs' : List Char} (gap : Gap cs' cs) (fuel : Nat) :
    skipItems fuel cs' = skipItems fuel cs := by
  cases fuel with
  | zero => rw [skipItems, skipItems]
  | succ fuel => rw [skipItems, skipItems, skipValue_gap gap]

theorem skipMembers_gap {cs' : List Char} (gap : Gap cs' cs) (fuel : Nat) :
    skipMembers fuel cs' = skipMembers fuel cs := by
  cases fuel with
  | zero => rw [skipMembers, skipMembers]
  | succ fuel => rw [skipMembers, skipMembers, gap.skipSpace]

/-- A digit begins a number. -/
theorem skipValue_digit (digit : isDecimalDigit c = true) (fuel : Nat) :
    skipValue (fuel + 1) (c :: cs) = skipNumber (c :: cs) := by
  rw [skipValue, skipSpace_cons (isSpace_of_digit digit)]
  split
  -- No mark that begins another kind of value is a digit.
  case h_9 same => cases same; rw [if_pos digit]
  all_goals next same => cases same <;> cases digit

theorem skipValue_of_isNumber {digits : List Char} (form : IsNumber digits) (stops : Stops rest)
    (fuel : Nat) : skipValue (fuel + 1) (digits ++ rest) = .ok rest := by
  rcases form with unsigned | ⟨digits, unsigned, rfl⟩
  · have skip := skipNumber_of_isUnsigned unsigned stops
    obtain ⟨c, tail, rfl, digit⟩ := unsigned.exists_digit
    rw [List.cons_append, skipValue_digit digit, ← List.cons_append, skip]
  · rw [List.cons_append, skipValue, skipSpace_cons (by decide)]
    exact skipNumber_of_isUnsigned unsigned stops

mutual

/-- A value is passed over, with two units of fuel for each character of it. -/
theorem Spells.skipValue {v : Tree} {cs rest : List Char} (spells : Spells v cs rest)
    (stops : Stops rest) {fuel : Nat} (enough : 2 * cs.length ≤ fuel + 2 * rest.length) :
    Document.skipValue fuel cs = .ok rest := by
  obtain ⟨fuel, rfl⟩ : ∃ n, fuel = n + 1 := by
    have := spells.length_lt
    exact ⟨fuel - 1, by omega⟩
  have start := spells.skipSpace
  match spells with
  | .null | .yes | .no => rw [Document.skipValue, start]; exact expectWord_eq_ok_iff.mpr rfl
  | .number form => exact skipValue_of_isNumber form stops fuel
  | .text text =>
    obtain ⟨body, rfl, formed⟩ := text.exists_quote
    rw [Document.skipValue, start]
    exact skipText_of_body formed
  | .noItems gap =>
    rw [Document.skipValue, start]
    simp only [(skipSpace_eq_cons_iff (by decide)).mpr gap]
  | .noMembers gap =>
    rw [Document.skipValue, start]
    simp only [(skipSpace_eq_cons_iff (by decide)).mpr gap]
  | .items gap first more =>
    have := gap.length_le
    have skips : Document.skipItems fuel _ = .ok rest :=
      more.skipItems (first.skipValue more.stops) first.length_lt (by
        simp only [List.length_cons] at enough
        omega)
    rw [Document.skipValue, start]
    simp only [gap.skipSpace, first.skipSpace]
    obtain ⟨c, tail, rfl, begins⟩ := first.begins
    have other := begins.visible.2
    split
    next same => cases same
    next same => cases same; exact absurd rfl other
    next => exact skips
  | .members gap first more =>
    have := gap.length_le
    have skips : Document.skipMembers fuel _ = .ok rest :=
      more.skipMembers (first.skip more.stops) first.length_lt (by
        simp only [List.length_cons] at enough
        omega)
    rw [Document.skipValue, start]
    simp only [gap.skipSpace, first.skipSpace]
    obtain ⟨tail, rfl⟩ := first.exists_quote
    exact skips

/-- A member is passed over up to the mark behind it. -/
theorem SpellsMember.skip {m : Option String × Tree} {cs rest : List Char}
    (spells : SpellsMember m cs rest) (stops : Stops rest) {fuel : Nat}
    (enough : 2 * cs.length ≤ fuel + 2 * rest.length) :
    ∃ body colon value, cs = '"' :: body ∧ skipText body = .ok colon ∧ Gap colon (':' :: value) ∧
      Document.skipValue fuel value = .ok rest := by
  match spells with
  | .member key colon gap value =>
    have shorter := key.length_lt
    have := colon.length_le
    have := gap.length_le
    obtain ⟨body, rfl, formed⟩ := key.exists_quote
    refine ⟨_, _, _, rfl, skipText_of_body formed, colon, ?_⟩
    rw [skipValue_gap gap]
    refine value.skipValue stops ?_
    simp only [List.length_cons] at *
    omega

/-- The items of an array are passed over, if the first of them is. -/
theorem MoreItems.skipItems {items : List Tree} {cs rest : List Char}
    (more : MoreItems items cs rest) {first : List Char}
    (skips : ∀ {fuel}, 2 * first.length ≤ fuel + 2 * cs.length →
      Document.skipValue fuel first = .ok cs)
    (shorter : cs.length < first.length) {fuel : Nat}
    (enough : 2 * first.length < fuel + 2 * rest.length) :
    Document.skipItems fuel first = .ok rest := by
  have := more.length_lt
  obtain ⟨fuel, rfl⟩ : ∃ n, fuel = n + 1 := ⟨fuel - 1, by omega⟩
  rw [Document.skipItems, skips (by omega)]
  match more with
  | .close gap => simp only [(skipSpace_eq_cons_iff (by decide)).mpr gap]
  | .item comma gap next more =>
    have := comma.length_le
    have := gap.length_le
    simp only [(skipSpace_eq_cons_iff (by decide)).mpr comma]
    rw [skipItems_gap gap]
    refine more.skipItems (next.skipValue more.stops) next.length_lt ?_
    simp only [List.length_cons] at *
    omega

/-- The members of an object are passed over, if the first of them is. -/
theorem MoreMembers.skipMembers {ms : List (Option String × Tree)} {cs rest : List Char}
    (more : MoreMembers ms cs rest) {first : List Char}
    (skips : ∀ {fuel}, 2 * first.length ≤ fuel + 2 * cs.length →
      ∃ body colon value, first = '"' :: body ∧ skipText body = .ok colon ∧
        Gap colon (':' :: value) ∧ Document.skipValue fuel value = .ok cs)
    (shorter : cs.length < first.length) {fuel : Nat}
    (enough : 2 * first.length < fuel + 2 * rest.length) :
    Document.skipMembers fuel first = .ok rest := by
  have := more.length_lt
  obtain ⟨fuel, rfl⟩ : ∃ n, fuel = n + 1 := ⟨fuel - 1, by omega⟩
  obtain ⟨body, colon, value, rfl, key, sign, value⟩ := @skips fuel (by omega)
  rw [Document.skipMembers, skipSpace_cons (by decide)]
  simp only [key, (skipSpace_eq_cons_iff (by decide)).mpr sign, value]
  match more with
  | .close gap => simp only [(skipSpace_eq_cons_iff (by decide)).mpr gap]
  | .member comma gap next more =>
    have := comma.length_le
    have := gap.length_le
    simp only [(skipSpace_eq_cons_iff (by decide)).mpr comma]
    rw [skipMembers_gap gap]
    refine more.skipMembers (next.skip more.stops) next.length_lt ?_
    simp only [List.length_cons] at *
    omega

end

/-! ## Nothing else is passed over -/

/-- A text in its form is a text of the grammar, whether it denotes characters or not. -/
theorem Body.exists_spells {body : List Char} (formed : Body body) (rest : List Char) :
    ∃ s, SpellsText s ('"' :: (body ++ '"' :: rest)) rest := by
  by_cases known : ∃ s, Denotes body s
  · obtain ⟨s, denotes⟩ := known
    exact ⟨some (String.ofList s), .whole (by rwa [String.toList_ofList])⟩
  · exact ⟨none, .broken formed fun s denotes => known ⟨s, denotes⟩⟩

theorem exists_spells_of_skipText (done : skipText cs = .ok rest) :
    ∃ s, SpellsText s ('"' :: cs) rest := by
  obtain ⟨body, rfl, formed⟩ := exists_body_of_skipText done
  exact formed.exists_spells rest

mutual

theorem exists_spells_of_skipValue {fuel : Nat} {cs rest : List Char}
    (done : skipValue fuel cs = .ok rest) : ∃ v cs', Gap cs cs' ∧ Spells v cs' rest := by
  match fuel with
  | 0 => rw [skipValue] at done; cases done
  | fuel + 1 =>
    have gap := gap_skipSpace cs
    suffices ∃ v, Spells v (skipSpace cs) rest from this.imp fun v spells => ⟨_, gap, spells⟩
    rw [skipValue] at done
    generalize skipSpace cs = cs at done
    split at done
    next => cases done
    next =>
      obtain ⟨s, text⟩ := exists_spells_of_skipText done
      exact ⟨_, .text text⟩
    next inside =>
      split at done
      next => cases done
      next last =>
        cases done
        exact ⟨_, .noItems ((skipSpace_eq_cons_iff (by decide)).mp last)⟩
      next =>
        obtain ⟨v, items, first, more, gap, value, others⟩ := exists_spells_of_skipItems done
        exact ⟨_, .items ((gap_skipSpace inside).trans gap) value others⟩
    next inside =>
      split at done
      next => cases done
      next last =>
        cases done
        exact ⟨_, .noMembers ((skipSpace_eq_cons_iff (by decide)).mp last)⟩
      next =>
        obtain ⟨m, ms, first, more, gap, member, others⟩ := exists_spells_of_skipMembers done
        exact ⟨_, .members ((gap_skipSpace inside).trans gap) member others⟩
    next => cases expectWord_eq_ok_iff.mp done; exact ⟨_, .null⟩
    next => cases expectWord_eq_ok_iff.mp done; exact ⟨_, .yes⟩
    next => cases expectWord_eq_ok_iff.mp done; exact ⟨_, .no⟩
    next =>
      obtain ⟨digits, form, rfl⟩ := exists_isUnsigned_of_skipNumber done
      have signed : IsNumber ('-' :: digits) := .inr ⟨digits, form, rfl⟩
      exact ⟨_, .number signed⟩
    next =>
      split at done
      next =>
        obtain ⟨digits, form, same⟩ := exists_isUnsigned_of_skipNumber done
        rw [same]
        exact ⟨_, .number (.inl form)⟩
      next => cases done

theorem exists_spells_of_skipItems {fuel : Nat} {cs rest : List Char}
    (done : skipItems fuel cs = .ok rest) :
    ∃ v items cs' more, Gap cs cs' ∧ Spells v cs' more ∧ MoreItems items more rest := by
  match fuel with
  | 0 => rw [skipItems] at done; cases done
  | fuel + 1 =>
    rw [skipItems] at done
    split at done
    next => cases done
    next more first =>
      obtain ⟨v, cs', gap, value⟩ := exists_spells_of_skipValue first
      suffices ∃ items, MoreItems items more rest from
        this.elim fun items others => ⟨v, items, cs', more, gap, value, others⟩
      split at done
      next => cases done
      next comma =>
        obtain ⟨v, items, cs', more', gap, value, others⟩ := exists_spells_of_skipItems done
        exact ⟨_, .item ((skipSpace_eq_cons_iff (by decide)).mp comma) gap value others⟩
      next last =>
        cases done
        exact ⟨_, .close ((skipSpace_eq_cons_iff (by decide)).mp last)⟩
      next => cases done

theorem exists_spells_of_skipMembers {fuel : Nat} {cs rest : List Char}
    (done : skipMembers fuel cs = .ok rest) :
    ∃ m ms cs' more, Gap cs cs' ∧ SpellsMember m cs' more ∧ MoreMembers ms more rest := by
  match fuel with
  | 0 => rw [skipMembers] at done; cases done
  | fuel + 1 =>
    rw [skipMembers] at done
    split at done
    next => cases done
    next quote =>
      split at done
      next => cases done
      next colon key =>
        obtain ⟨s, text⟩ := exists_spells_of_skipText key
        split at done
        next => cases done
        next sign =>
          have sign := (skipSpace_eq_cons_iff (by decide)).mp sign
          split at done
          next => cases done
          next more read =>
            obtain ⟨v, cs', gap, value⟩ := exists_spells_of_skipValue read
            suffices ∃ ms, MoreMembers ms more rest from this.elim fun ms others =>
              ⟨(s, v), ms, _, more, (skipSpace_eq_cons_iff (by decide)).mp quote,
                .member text sign gap value, others⟩
            split at done
            next => cases done
            next comma =>
              obtain ⟨m, ms, cs', more', gap, member, others⟩ := exists_spells_of_skipMembers done
              exact ⟨_, .member ((skipSpace_eq_cons_iff (by decide)).mp comma) gap member others⟩
            next last =>
              cases done
              exact ⟨_, .close ((skipSpace_eq_cons_iff (by decide)).mp last)⟩
            next => cases done
        next => cases done
    next => cases done

end

/-! ## One value of any kind -/

/-- Every value of the grammar is passed over, with the white space before it. -/
theorem skipAny_of_spells {cs' : List Char} (spells : Spells v cs rest) (stops : Stops rest)
    (gap : Gap cs' cs) : skipAny cs' = .ok rest := by
  have := gap.length_le
  rw [skipAny, skipValue_gap gap]
  exact spells.skipValue stops (by omega)

/-- What is passed over is white space and a value of the grammar. -/
theorem exists_spells_of_skipAny (done : skipAny cs = .ok rest) :
    ∃ v cs', Gap cs cs' ∧ Spells v cs' rest :=
  exists_spells_of_skipValue done

end Document

end DenseDmg
