import DenseDmg.Document.Reader
import DenseDmg.Proofs.Document.Texts
import DenseDmg.Proofs.Document.Words

/-!
# Numbers of a document

The scanners of numbers against the grammar.  A number ends where the grammar has no further
character for it, so that its value does not depend on what follows.

* `IsNumber.readNumber_iff`: a number is read as what it is read as alone.
* `exists_isNumber_of_readNumber`: what is read as a number is one.
* `skipNumber_of_isUnsigned`, `exists_isUnsigned_of_skipNumber`: numbers that nobody reads.
-/

namespace DenseDmg

namespace Document

variable {cs rest ds tail : List Char} {c : Char}

/-- No number goes on with this text. -/
def Stops (rest : List Char) : Prop :=
  ∀ c ∈ rest.head?, isDecimalDigit c = false ∧ c ≠ '.' ∧ c ≠ 'e' ∧ c ≠ 'E'

/-- No run of digits goes on with this text. -/
def EndsDigits (rest : List Char) : Prop := ∀ c ∈ rest.head?, isDecimalDigit c = false

theorem Stops.endsDigits (stops : Stops rest) : EndsDigits rest := fun c head => (stops c head).1

theorem stops_nil : Stops [] := nofun

/-! ## Runs of digits -/

theorem takeWhile_digits (digits : AllDigits ds) (ends : EndsDigits tail) :
    (ds ++ tail).takeWhile isDecimalDigit = ds := by
  rw [List.takeWhile_append_of_pos digits]
  cases tail with
  | nil => simp
  | cons c cs => simp [ends c rfl]

theorem dropWhile_digits (digits : AllDigits ds) (ends : EndsDigits tail) :
    (ds ++ tail).dropWhile isDecimalDigit = tail := by
  rw [List.dropWhile_append_of_pos digits]
  cases tail with
  | nil => rfl
  | cons c cs => simp [ends c rfl]

theorem isDigits_takeWhile (nonempty : (cs.takeWhile isDecimalDigit).isEmpty = false) :
    IsDigits (cs.takeWhile isDecimalDigit) :=
  ⟨by simpa using nonempty, fun _ mem => List.mem_takeWhile_imp mem⟩

theorem IsDigits.isEmpty (digits : IsDigits ds) : ds.isEmpty = false := by
  simpa using digits.1

/-- Digits have no needless zero in front exactly if they are not refused for it. -/
theorem isWhole_iff (digits : IsDigits ds) :
    IsWhole ds ↔ ¬ (ds.head? = some '0' ∧ 1 < ds.length) := by
  obtain ⟨ne, -⟩ := id digits
  rw [IsWhole, and_iff_right digits]
  match ds, ne with
  | [c], _ => simp
  | c :: d :: ds, _ => simp

/-- The sign of an exponent is taken off. -/
theorem readSign_sign {sign : List Char} (signed : sign = [] ∨ sign = ['+'] ∨ sign = ['-'])
    (digits : IsDigits ds) :
    ∃ down, ∀ rest, readSign (sign ++ (ds ++ rest)) = (down, ds ++ rest) := by
  rcases signed with rfl | rfl | rfl
  · exact ⟨false, readSign_digits digits.2 digits.1⟩
  · exact ⟨false, fun _ => rfl⟩
  · exact ⟨true, fun _ => rfl⟩

/-- What follows a sign, or no sign. -/
theorem exists_sign (cs : List Char) :
    ∃ sign, (sign = [] ∨ sign = ['+'] ∨ sign = ['-']) ∧ cs = sign ++ (readSign cs).2 := by
  unfold readSign
  split
  · exact ⟨['-'], .inr (.inr rfl), rfl⟩
  · exact ⟨['+'], .inr (.inl rfl), rfl⟩
  · exact ⟨[], .inl rfl, rfl⟩

section Parts

variable {fraction exponent : List Char}

theorem IsExponent.endsDigits (form : IsExponent exponent) (stops : Stops rest) :
    EndsDigits (exponent ++ rest) := by
  rcases form with rfl | ⟨letter, sign, ds, letters, -, -, rfl⟩
  · exact stops.endsDigits
  · rintro c ⟨⟩
    rcases letters with rfl | rfl <;> decide

/-- What follows a fraction does not begin with another one. -/
theorem IsExponent.ne_point (form : IsExponent exponent) (stops : Stops rest) (cs : List Char) :
    exponent ++ rest ≠ '.' :: cs := by
  intro point
  rcases form with rfl | ⟨letter, sign, ds, letters, -, -, rfl⟩
  · rw [List.nil_append] at point
    exact (stops '.' (by rw [point]; rfl)).2.1 rfl
  · obtain rfl : letter = '.' := (List.cons.inj point).1
    rcases letters with same | same <;> cases same

theorem IsFraction.endsDigits (form : IsFraction fraction) (form' : IsExponent exponent)
    (stops : Stops rest) : EndsDigits (fraction ++ (exponent ++ rest)) := by
  rcases form with rfl | ⟨ds, -, rfl⟩
  · exact form'.endsDigits stops
  · rintro c ⟨⟩
    decide

end Parts

/-! ## What a number is read as -/

/-- A scanner takes these characters and no more, with a result that does not depend on what follows
them. -/
def Settles (scan : List Char → Scanned Number) (cs : List Char) : Prop :=
  ∃ found : Except DocumentFault Number, ∀ rest, Stops rest →
    scan (cs ++ rest) = found.map fun n => (n, rest)

variable {negative : Bool} {significand : Nat} {e : Int} {n : Number}

theorem settles_scanExponent {sign : List Char} (signed : sign = [] ∨ sign = ['+'] ∨ sign = ['-'])
    (digits : IsDigits ds) : Settles (scanExponent negative significand e) (sign ++ ds) := by
  obtain ⟨down, signs⟩ := readSign_sign signed digits
  refine ⟨if exponentLimit < digitsValue ds then
      if significand ≠ 0 ∧ ¬ down then .error .malformed
      else .ok (.real (if negative then -0.0 else 0.0))
    else scaled negative significand (if down then e - digitsValue ds else e + digitsValue ds),
    fun rest stops => ?_⟩
  unfold scanExponent
  rw [List.append_assoc, signs]
  dsimp only
  rw [takeWhile_digits digits.2 stops.endsDigits, dropWhile_digits digits.2 stops.endsDigits,
    if_neg (by simp [digits.isEmpty])]
  split_ifs <;> rfl

theorem settles_scanTail {exponent : List Char} (form : IsExponent exponent) :
    Settles (scanTail negative significand e) exponent := by
  rcases form with rfl | ⟨letter, sign, ds, letters, signed, digits, rfl⟩
  · refine ⟨scaled negative significand e, fun rest stops => ?_⟩
    rw [List.nil_append]
    unfold scanTail
    split
    next => exact absurd rfl (stops 'e' rfl).2.2.1
    next => exact absurd rfl (stops 'E' rfl).2.2.2
    next => rfl
  · obtain ⟨found, settled⟩ := @settles_scanExponent ds negative significand e sign signed digits
    refine ⟨found, fun rest stops => ?_⟩
    rw [← settled rest stops]
    rcases letters with rfl | rfl <;> rfl

/-- Digits and a fraction are taken, and the rest is left to the exponent. -/
theorem settles_fraction {whole fs exponent : List Char} (integral : IsWhole whole)
    (digits : IsDigits fs) (exponential : IsExponent exponent) :
    Settles (scanNumber negative) (whole ++ ('.' :: fs ++ exponent)) := by
  obtain ⟨found, settled⟩ := @settles_scanTail negative (takeDigits (takeDigits 0 0 whole).1 0 fs).1
    ((whole.length : Int) - (takeDigits 0 0 whole).2 -
      (takeDigits (takeDigits 0 0 whole).1 0 fs).2) exponent exponential
  refine ⟨found, fun rest stops => ?_⟩
  rw [← settled rest stops, List.append_assoc, List.append_assoc, List.cons_append]
  have ends : EndsDigits ('.' :: (fs ++ (exponent ++ rest))) := by
    rintro c ⟨⟩
    decide
  unfold scanNumber
  rw [takeWhile_digits integral.1.2 ends, dropWhile_digits integral.1.2 ends]
  dsimp only
  rw [if_neg (by simp [integral.1.isEmpty]), if_neg ((isWhole_iff integral.1).mp integral)]
  split
  next same =>
    cases same
    rw [takeWhile_digits digits.2 (exponential.endsDigits stops),
      dropWhile_digits digits.2 (exponential.endsDigits stops), if_neg (by simp [digits.isEmpty])]
  next same => cases same
  next same => cases same
  next other _ _ => exact absurd rfl (other _)

/-- Digits without a fraction are taken; without an exponent they may be a whole number. -/
theorem settles_whole {whole exponent : List Char} (integral : IsWhole whole)
    (exponential : IsExponent exponent) : Settles (scanNumber negative) (whole ++ exponent) := by
  obtain ⟨found, settled⟩ := @settles_scanTail negative (takeDigits 0 0 whole).1
    ((whole.length : Int) - (takeDigits 0 0 whole).2) exponent exponential
  rcases id exponential with rfl | ⟨letter, sign, ds, letters, -, -, rfl⟩
  · refine ⟨if (whole.length : Int) - (takeDigits 0 0 whole).2 = 0 then
      .ok (whole? negative (takeDigits 0 0 whole).1) else found, fun rest stops => ?_⟩
    rw [List.append_nil]
    unfold scanNumber
    rw [takeWhile_digits integral.1.2 stops.endsDigits,
      dropWhile_digits integral.1.2 stops.endsDigits]
    dsimp only
    rw [if_neg (by simp [integral.1.isEmpty]), if_neg ((isWhole_iff integral.1).mp integral)]
    split
    next => exact absurd rfl (stops '.' rfl).2.1
    next => exact absurd rfl (stops 'e' rfl).2.2.1
    next => exact absurd rfl (stops 'E' rfl).2.2.2
    next =>
      split_ifs
      · rfl
      · exact settled rest stops
  · refine ⟨found, fun rest stops => ?_⟩
    have ends := exponential.endsDigits stops
    rw [← settled rest stops, List.append_assoc]
    unfold scanNumber
    rw [takeWhile_digits integral.1.2 ends, dropWhile_digits integral.1.2 ends]
    dsimp only
    rw [if_neg (by simp [integral.1.isEmpty]), if_neg ((isWhole_iff integral.1).mp integral)]
    rcases letters with rfl | rfl <;> rfl

theorem settles_scanNumber (form : IsUnsigned cs) : Settles (scanNumber negative) cs := by
  obtain ⟨whole, fraction, exponent, integral, fractional, exponential, rfl⟩ := form
  rcases fractional with rfl | ⟨fs, digits, rfl⟩
  · exact settles_whole integral exponential
  · exact settles_fraction integral digits exponential

/-- A number without its sign begins with a digit. -/
theorem IsUnsigned.exists_digit (form : IsUnsigned cs) :
    ∃ c tail, cs = c :: tail ∧ isDecimalDigit c = true := by
  obtain ⟨whole, fraction, exponent, integral, -, -, rfl⟩ := form
  obtain ⟨c, ds, rfl⟩ := List.exists_cons_of_ne_nil integral.1.1
  exact ⟨c, _, rfl, integral.1.2 c List.mem_cons_self⟩

theorem isSpace_of_digit (digit : isDecimalDigit c = true) : isSpace c = false := by
  by_contra space
  simp only [isSpace, Bool.not_eq_false, Bool.or_eq_true, beq_iff_eq] at space
  rcases space with ((rfl | rfl) | rfl) | rfl <;> revert digit <;> decide

theorem readNumber_minus : readNumber ('-' :: cs) = scanNumber true cs := by
  unfold readNumber
  rw [skipSpace_cons (by decide)]
  rfl

theorem readNumber_digit (digit : isDecimalDigit c = true) :
    readNumber (c :: cs) = scanNumber false (c :: cs) := by
  unfold readNumber
  rw [skipSpace_cons (isSpace_of_digit digit)]
  split
  next => contradiction
  next minus =>
    cases minus
    cases digit
  next same =>
    cases same
    rw [if_pos digit]

theorem settles_readNumber (form : IsNumber cs) : Settles readNumber cs := by
  rcases form with unsigned | ⟨digits, unsigned, rfl⟩
  · obtain ⟨c, tail, rfl, digit⟩ := unsigned.exists_digit
    obtain ⟨found, settled⟩ := @settles_scanNumber _ false unsigned
    refine ⟨found, fun rest stops => ?_⟩
    rw [List.cons_append, readNumber_digit digit]
    exact settled rest stops
  · obtain ⟨found, settled⟩ := @settles_scanNumber _ true unsigned
    refine ⟨found, fun rest stops => ?_⟩
    rw [List.cons_append, readNumber_minus]
    exact settled rest stops

/-- A number is read as what it is read as alone, and nothing that follows it is taken. -/
theorem IsNumber.readNumber_iff {r : List Char} (form : IsNumber cs) (stops : Stops rest) :
    readNumber (cs ++ rest) = .ok (n, r) ↔ readNumber cs = .ok (n, []) ∧ r = rest := by
  obtain ⟨found, settled⟩ := settles_readNumber form
  have alone := settled [] stops_nil
  rw [List.append_nil] at alone
  rw [settled rest stops, alone]
  cases found with
  | error fault => simp [Except.map]
  | ok m =>
    simp only [Except.map, Except.ok.injEq, Prod.mk.injEq, and_true]
    exact and_congr_right fun _ => eq_comm

/-! ## What is read as a number -/

theorem exists_digits_of_scanExponent
    (done : scanExponent negative significand e cs = .ok (n, rest)) :
    ∃ sign ds, (sign = [] ∨ sign = ['+'] ∨ sign = ['-']) ∧ IsDigits ds ∧
      cs = sign ++ (ds ++ rest) := by
  unfold scanExponent at done
  obtain ⟨sign, signed, split⟩ := exists_sign cs
  generalize readSign cs = parts at done split
  obtain ⟨down, body⟩ := parts
  dsimp only at done split
  split at done
  next => cases done
  next nonempty =>
    have digits := isDigits_takeWhile (Bool.eq_false_of_not_eq_true nonempty)
    refine ⟨sign, body.takeWhile isDecimalDigit, signed, digits, ?_⟩
    have left : rest = body.dropWhile isDecimalDigit := by
      split at done
      next =>
        split at done
        · cases done
        · cases done
          rfl
      next =>
        obtain ⟨_, -, same⟩ := exists_of_map_eq_ok done
        cases same
        rfl
    rw [left, List.takeWhile_append_dropWhile]
    exact split

theorem exists_isExponent_of_scanTail
    (done : scanTail negative significand e cs = .ok (n, rest)) :
    ∃ exponent, IsExponent exponent ∧ cs = exponent ++ rest := by
  unfold scanTail at done
  split at done
  next =>
    obtain ⟨sign, ds, signed, digits, rfl⟩ := exists_digits_of_scanExponent done
    exact ⟨'e' :: (sign ++ ds), .inr ⟨_, _, _, .inl rfl, signed, digits, rfl⟩, by simp⟩
  next =>
    obtain ⟨sign, ds, signed, digits, rfl⟩ := exists_digits_of_scanExponent done
    exact ⟨'E' :: (sign ++ ds), .inr ⟨_, _, _, .inr rfl, signed, digits, rfl⟩, by simp⟩
  next =>
    obtain ⟨_, -, same⟩ := exists_of_map_eq_ok done
    cases same
    exact ⟨[], .inl rfl, rfl⟩

theorem exists_isUnsigned_of_scanNumber (done : scanNumber negative cs = .ok (n, rest)) :
    ∃ digits, IsUnsigned digits ∧ cs = digits ++ rest := by
  have split : cs = cs.takeWhile isDecimalDigit ++ cs.dropWhile isDecimalDigit :=
    List.takeWhile_append_dropWhile.symm
  unfold scanNumber at done
  dsimp only at done
  split at done
  next => cases done
  next nonempty =>
    have digits := isDigits_takeWhile (Bool.eq_false_of_not_eq_true nonempty)
    generalize cs.dropWhile isDecimalDigit = left at done split
    generalize cs.takeWhile isDecimalDigit = whole at done split digits
    split at done
    next => cases done
    next noZero =>
      have integral := (isWhole_iff digits).mpr noZero
      have bare : ∀ {significand e}, scanTail negative significand e left = .ok (n, rest) →
          ∃ digits, IsUnsigned digits ∧ cs = digits ++ rest := by
        intro significand e tail
        obtain ⟨exponent, exponential, rfl⟩ := exists_isExponent_of_scanTail tail
        exact ⟨_, ⟨whole, [], exponent, integral, .inl rfl, exponential, rfl⟩, by simp [split]⟩
      split at done
      next cs =>
        split at done
        next => cases done
        next nonempty =>
          have fractional := isDigits_takeWhile (Bool.eq_false_of_not_eq_true nonempty)
          obtain ⟨exponent, exponential, tail⟩ := exists_isExponent_of_scanTail done
          refine ⟨_, ⟨whole, '.' :: cs.takeWhile isDecimalDigit, exponent, integral,
            .inr ⟨_, fractional, rfl⟩, exponential, rfl⟩, ?_⟩
          have parts := List.takeWhile_append_dropWhile (p := isDecimalDigit) (l := cs)
          rw [tail] at parts
          simp [split, parts]
      next => exact bare done
      next => exact bare done
      next =>
        split at done
        · cases done
          exact ⟨_, ⟨whole, [], [], integral, .inl rfl, .inl rfl, rfl⟩, by simp [split]⟩
        · exact bare done

theorem exists_isNumber_of_readNumber (done : readNumber cs = .ok (n, rest)) :
    ∃ digits, IsNumber digits ∧ Gap cs (digits ++ rest) := by
  unfold readNumber at done
  have gap := gap_skipSpace cs
  split at done
  next => cases done
  next same =>
    obtain ⟨digits, unsigned, rfl⟩ := exists_isUnsigned_of_scanNumber done
    exact ⟨'-' :: digits, .inr ⟨digits, unsigned, rfl⟩, by rwa [same] at gap⟩
  next c r _ same =>
    split at done
    next =>
      obtain ⟨digits, unsigned, text⟩ := exists_isUnsigned_of_scanNumber done
      exact ⟨digits, .inl unsigned, by rwa [same, text] at gap⟩
    next => cases done

/-! ## Numbers that nobody reads -/

theorem skipTail_of_isExponent {exponent : List Char} (form : IsExponent exponent)
    (stops : Stops rest) : skipTail (exponent ++ rest) = .ok rest := by
  rcases form with rfl | ⟨letter, sign, ds, letters, signed, digits, rfl⟩
  · rw [List.nil_append]
    unfold skipTail
    split
    next => exact absurd rfl (stops 'e' rfl).2.2.1
    next => exact absurd rfl (stops 'E' rfl).2.2.2
    next => rfl
  · have skipped : skipExponent (sign ++ (ds ++ rest)) = .ok rest := by
      obtain ⟨down, signs⟩ := readSign_sign signed digits
      unfold skipExponent
      rw [signs]
      dsimp only
      rw [takeWhile_digits digits.2 stops.endsDigits, dropWhile_digits digits.2 stops.endsDigits,
        if_neg (by simp [digits.isEmpty])]
    rw [List.cons_append, List.append_assoc]
    rcases letters with rfl | rfl <;> exact skipped

theorem skipNumber_of_isUnsigned (form : IsUnsigned cs) (stops : Stops rest) :
    skipNumber (cs ++ rest) = .ok rest := by
  obtain ⟨whole, fraction, exponent, integral, fractional, exponential, rfl⟩ := form
  have ends := fractional.endsDigits exponential stops
  rw [List.append_assoc, List.append_assoc]
  unfold skipNumber
  rw [takeWhile_digits integral.1.2 ends, dropWhile_digits integral.1.2 ends]
  dsimp only
  rw [if_neg (not_or.mpr ⟨by simp [integral.1.isEmpty], (isWhole_iff integral.1).mp integral⟩)]
  rcases fractional with rfl | ⟨fs, digits, rfl⟩
  · rw [List.nil_append]
    split
    next same => exact absurd same (exponential.ne_point stops _)
    next => exact skipTail_of_isExponent exponential stops
  · rw [List.cons_append]
    split
    next same =>
      cases same
      rw [takeWhile_digits digits.2 (exponential.endsDigits stops),
        dropWhile_digits digits.2 (exponential.endsDigits stops), if_neg (by simp [digits.isEmpty])]
      exact skipTail_of_isExponent exponential stops
    next other => exact absurd rfl (other _)

theorem exists_isExponent_of_skipTail (done : skipTail cs = .ok rest) :
    ∃ exponent, IsExponent exponent ∧ cs = exponent ++ rest := by
  have skipped : ∀ {letter cs}, letter = 'e' ∨ letter = 'E' → skipExponent cs = .ok rest →
      ∃ exponent, IsExponent exponent ∧ letter :: cs = exponent ++ rest := by
    intro letter cs letters done
    unfold skipExponent at done
    obtain ⟨sign, signed, split⟩ := exists_sign cs
    generalize (readSign cs).2 = body at done split
    dsimp only at done
    split at done
    next => cases done
    next nonempty =>
      have digits := isDigits_takeWhile (Bool.eq_false_of_not_eq_true nonempty)
      cases done
      refine ⟨_, .inr ⟨letter, sign, _, letters, signed, digits, rfl⟩, ?_⟩
      rw [List.cons_append, List.append_assoc, List.takeWhile_append_dropWhile, split]
  unfold skipTail at done
  split at done
  next => exact skipped (.inl rfl) done
  next => exact skipped (.inr rfl) done
  next =>
    cases done
    exact ⟨[], .inl rfl, rfl⟩

theorem exists_isUnsigned_of_skipNumber (done : skipNumber cs = .ok rest) :
    ∃ digits, IsUnsigned digits ∧ cs = digits ++ rest := by
  have split : cs = cs.takeWhile isDecimalDigit ++ cs.dropWhile isDecimalDigit :=
    List.takeWhile_append_dropWhile.symm
  unfold skipNumber at done
  dsimp only at done
  split at done
  next => cases done
  next form =>
    obtain ⟨nonempty, noZero⟩ := not_or.mp form
    have digits := isDigits_takeWhile (Bool.eq_false_of_not_eq_true nonempty)
    have integral := (isWhole_iff digits).mpr noZero
    generalize cs.dropWhile isDecimalDigit = left at done split
    generalize cs.takeWhile isDecimalDigit = whole at split integral
    split at done
    next cs =>
      split at done
      next => cases done
      next nonempty =>
        have fractional := isDigits_takeWhile (Bool.eq_false_of_not_eq_true nonempty)
        obtain ⟨exponent, exponential, tail⟩ := exists_isExponent_of_skipTail done
        refine ⟨_, ⟨whole, '.' :: cs.takeWhile isDecimalDigit, exponent, integral,
          .inr ⟨_, fractional, rfl⟩, exponential, rfl⟩, ?_⟩
        have parts := List.takeWhile_append_dropWhile (p := isDecimalDigit) (l := cs)
        rw [tail] at parts
        simp [split, parts]
    next =>
      obtain ⟨exponent, exponential, rfl⟩ := exists_isExponent_of_skipTail done
      exact ⟨_, ⟨whole, [], exponent, integral, .inl rfl, exponential, rfl⟩, by simp [split]⟩

end Document

end DenseDmg
