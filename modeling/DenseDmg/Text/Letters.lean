/-!
# Lower case

Keywords of the program are ASCII words, compared without regard to case.  `lower` maps a text to
lower case as far as such a comparison can tell: outside ASCII the only character whose lower
case is an ASCII letter is the Kelvin sign, and every other character keeps the text apart from
every keyword, in lower case or not.
-/

namespace DenseDmg

/-- The lower case of a character: ASCII letters, and the Kelvin sign as `k`. -/
def lowerChar (c : Char) : Char := if c = '\u212A' then 'k' else c.toLower

/-- A text in lower case, for comparison with ASCII words. -/
def lower (cs : List Char) : List Char := cs.map lowerChar

theorem length_lower (cs : List Char) : (lower cs).length = cs.length := List.length_map ..

/-- The text behind a given beginning, if it begins so. -/
def after? : List Char → List Char → Option (List Char)
  | [], cs => some cs
  | _ :: _, [] => none
  | p :: ps, c :: cs => if p = c then after? ps cs else none

/-- The text before a given ending, if it ends so. -/
def before? (ending cs : List Char) : Option (List Char) :=
  (after? ending.reverse cs.reverse).map List.reverse

theorem after?_append (p cs : List Char) : after? p (p ++ cs) = some cs := by
  induction p with
  | nil => rfl
  | cons c p ih => simp [after?, ih]

theorem eq_append_of_after? {p cs r : List Char} (h : after? p cs = some r) : cs = p ++ r := by
  induction p generalizing cs with
  | nil => simpa [after?] using h
  | cons c p ih =>
    cases cs with
    | nil => simp [after?] at h
    | cons d cs =>
      by_cases hcd : c = d
      · subst hcd
        simp only [after?, if_true] at h
        rw [ih h, List.cons_append]
      · simp [after?, hcd] at h

/-- Taking a beginning off succeeds exactly on the texts that begin so. -/
theorem after?_eq_some_iff {p cs r : List Char} : after? p cs = some r ↔ cs = p ++ r :=
  ⟨eq_append_of_after?, fun h => h ▸ after?_append p r⟩

end DenseDmg
