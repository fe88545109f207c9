import DenseDmg.Text.Blank
import Mathlib.Data.List.TakeWhile

/-!
# Blank characters around a text

Trimming is insensitive to what blank characters stand around a text, and what it takes off is
blank.

* `trim_padded`: blank characters around a text do not change its trimmed form.
-/

namespace DenseDmg

/-- A text of blank characters only. -/
def AllBlank (cs : List Char) : Prop := ∀ c ∈ cs, isBlank c = true

instance (cs : List Char) : Decidable (AllBlank cs) :=
  List.decidableBAll (isBlank · = true) cs

variable {cs front back : List Char}

theorem AllBlank.dropWhile (blank : AllBlank cs) : cs.dropWhile isBlank = [] :=
  List.dropWhile_eq_nil_iff.mpr blank

theorem AllBlank.reverse (blank : AllBlank cs) : AllBlank cs.reverse :=
  fun c mem => blank c (List.mem_reverse.mp mem)

/-- Blank characters in front of a text are dropped with those it begins with. -/
theorem dropWhile_blank_append (blank : AllBlank front) :
    (front ++ cs).dropWhile isBlank = cs.dropWhile isBlank :=
  List.dropWhile_append_of_pos blank

theorem trim_append (blank : AllBlank back) : trim (cs ++ back) = trim cs := by
  unfold trim
  rw [List.dropWhile_append]
  split
  next empty =>
    -- Nothing but blank characters is left, before and behind.
    rw [blank.dropWhile, List.isEmpty_iff.mp empty]
  next =>
    rw [List.reverse_append, dropWhile_blank_append blank.reverse]

/-- Blank characters around a text do not change its trimmed form. -/
theorem trim_padded (blankFront : AllBlank front) (blankBack : AllBlank back) :
    trim (front ++ cs ++ back) = trim cs := by
  rw [trim_append blankBack, trim, dropWhile_blank_append blankFront, trim]

end DenseDmg
