import DenseDmg.Proofs.Decimal.Numerals
import DenseDmg.Radio.Phy

/-!
# Names of the modulation and coding schemes

A scheme is named by a fixed beginning and its number.  The number is read as a count is: zeros may
stand in front of it, and a plus sign in front of those, so that each scheme has more spellings than
its name.  A number that is read but belongs to no scheme is reported by the name it would have.

* `parse_eq_ok_iff`: the spellings that are read as a given scheme.
* `parse_names`: names, spellings and faults together.
-/

namespace DenseDmg

namespace PhyMode

/-- A spelling of the scheme of a given number: the beginning of all names, and a numeral. -/
def spelling (plus : Bool) (zeros n : Nat) : List Char := "DMG_MCS".toList ++ numeral plus zeros n

/-- The name that the scheme of a given number has, or would have. -/
def nameOf (n : Nat) : List Char := "DMG_MCS".toList ++ Nat.toDigits 10 n

/-- A name is a spelling without a plus sign and without zeros in front of the number. -/
theorem nameOf_eq_spelling (n : Nat) : nameOf n = spelling false 0 n := by
  unfold nameOf spelling numeral
  generalize "DMG_MCS".toList = stem
  simp

theorem length_spelling (plus : Bool) (zeros n : Nat) :
    (spelling plus zeros n).length = (nameOf n).length + zeros + plus.toNat := by
  unfold spelling nameOf numeral
  generalize "DMG_MCS".toList = stem
  cases plus <;> simp <;> omega

theorem spelled_iff {s : String} {n : Nat} :
    (after? "DMG_MCS".toList (trim s.toList)).bind (readWord? 255) = some n ↔
      n ≤ 255 ∧ ∃ plus zeros, trim s.toList = spelling plus zeros n := by
  simp only [Option.bind_eq_some_iff, after?_eq_some_iff, readWord?_eq_some_iff]
  constructor
  · rintro ⟨numeral, text, small, plus, zeros, rfl⟩
    exact ⟨small, plus, zeros, text⟩
  · rintro ⟨small, plus, zeros, text⟩
    exact ⟨_, text, small, plus, zeros, rfl⟩

theorem ofMcs_eq_ok_iff {n : Nat} {m : PhyMode} : ofMcs n = .ok m ↔ n = m.mcs := by
  unfold ofMcs
  split
  next inside =>
    rw [Except.ok.injEq]
    constructor
    · rintro rfl
      rfl
    · rintro rfl
      rfl
  next outside =>
    refine iff_of_false (by simp) ?_
    rintro rfl
    exact outside m.mcs_lt

/-- The fault of a number that belongs to no scheme carries the name that it would have. -/
theorem ofMcs_eq_error {n : Nat} (outside : mcsRates.length ≤ n) :
    ofMcs n = .error (.unknownVariant "PHY mode" (String.ofList (nameOf n))) := by
  have name : s!"DMG_MCS{n}" = String.ofList (nameOf n) := by
    change "DMG_MCS" ++ toString n = _
    unfold nameOf
    rw [String.ofList_append, String.ofList_toList, ← Nat.toString_eq_ofList_toDigits]
  unfold ofMcs
  rw [dif_neg (Nat.not_lt.mpr outside), name]

theorem parse_eq_ok_iff {s : String} {m : PhyMode} :
    parse s = .ok m ↔ ∃ plus zeros, trim s.toList = spelling plus zeros m.mcs := by
  have small : m.mcs ≤ 255 := (Nat.le_of_lt m.mcs_lt).trans (by decide)
  unfold parse
  split
  next n read =>
    rw [ofMcs_eq_ok_iff]
    constructor
    · rintro rfl
      exact (spelled_iff.mp read).2
    · intro spelled
      rw [spelled_iff.mpr ⟨small, spelled⟩] at read
      exact (Option.some.inj read).symm
  next unread =>
    refine iff_of_false (by simp) fun spelled => ?_
    rw [spelled_iff.mpr ⟨small, spelled⟩] at unread
    cases unread

/-- A scheme is read from its spellings and from nothing else; its name is the shortest of them, so
that every text of the length of a name that is read is that name.  A spelling whose number belongs
to no scheme is reported by the name of that number, every other text as it was given. -/
theorem parse_names (s : String) :
    (∀ m, parse s = .ok m ↔ ∃ plus zeros, trim s.toList = spelling plus zeros m.mcs) ∧
    (∀ m : PhyMode, trim s.toList = nameOf m.mcs ↔
      parse s = .ok m ∧ (trim s.toList).length ≤ (nameOf m.mcs).length) ∧
    (∀ plus zeros n, trim s.toList = spelling plus zeros n → mcsRates.length ≤ n → n ≤ 255 →
      parse s = .error (.unknownVariant "PHY mode" (String.ofList (nameOf n)))) ∧
    ((∀ plus zeros, ∀ n ≤ 255, trim s.toList ≠ spelling plus zeros n) →
      parse s = .error (.unknownVariant "PHY mode" s)) := by
  refine ⟨fun m => parse_eq_ok_iff, fun m => ?names, fun plus zeros n spelled outside small => ?_,
    fun unspelled => ?_⟩
  case names =>
    rw [parse_eq_ok_iff]
    constructor
    · intro name
      exact ⟨⟨false, 0, name.trans (nameOf_eq_spelling _)⟩, le_of_eq (by rw [name])⟩
    · rintro ⟨⟨plus, zeros, spelled⟩, short⟩
      rw [spelled, length_spelling] at short
      cases plus with
      | true =>
        rw [Bool.toNat_true] at short
        omega
      | false =>
        rw [Bool.toNat_false] at short
        have none : zeros = 0 := by omega
        rw [spelled, none, ← nameOf_eq_spelling]
  · rw [parse, spelled_iff.mpr ⟨small, plus, zeros, spelled⟩]
    exact ofMcs_eq_error outside
  · unfold parse
    split
    next n read =>
      obtain ⟨small, plus, zeros, spelled⟩ := spelled_iff.mp read
      exact absurd spelled (unspelled plus zeros n small)
    next => rfl

/-- A name between blank characters, two more spellings, a number without a scheme, and a name in
lower case. -/
theorem parse_names_cases :
    parse " DMG_MCS12\n" = .ok ⟨12, by decide⟩ ∧
    parse "DMG_MCS+5" = .ok ⟨5, by decide⟩ ∧
    parse "DMG_MCS05" = .ok ⟨5, by decide⟩ ∧
    parse " DMG_MCS013" = .error (.unknownVariant "PHY mode" "DMG_MCS13") ∧
    parse "dmg_mcs5" = .error (.unknownVariant "PHY mode" "dmg_mcs5") := by
  refine ⟨?padded, ?signed, ?zero, ?none, ?lower⟩
  case padded =>
    have name : trim " DMG_MCS12\n".toList = nameOf 12 := by decide +kernel
    exact (((parse_names " DMG_MCS12\n").2.1 ⟨12, by decide⟩).mp name).1
  case signed =>
    have spelled : trim "DMG_MCS+5".toList = spelling true 0 5 := by decide +kernel
    exact ((parse_names "DMG_MCS+5").1 ⟨5, by decide⟩).mpr ⟨_, _, spelled⟩
  case zero =>
    have spelled : trim "DMG_MCS05".toList = spelling false 1 5 := by decide +kernel
    exact ((parse_names "DMG_MCS05").1 ⟨5, by decide⟩).mpr ⟨_, _, spelled⟩
  case none =>
    have spelled : trim " DMG_MCS013".toList = spelling false 1 13 := by decide +kernel
    exact (parse_names " DMG_MCS013").2.2.1 _ _ 13 spelled (by decide) (by decide)
  case lower =>
    refine (parse_names "dmg_mcs5").2.2.2 fun plus zeros n _ spelled => ?_
    have first := congrArg List.head? spelled
    cases first

end PhyMode

end DenseDmg
