import DenseDmg.Proofs.Document.Grammar

/-!
# White space and texts of a document

The scanners of white space and of texts against the grammar: what the grammar allows is scanned,
and what is scanned is allowed.

* `Gap.skipSpace`, `gap_skipSpace`: white space is passed over.
* `scanText_iff`: the texts that are scanned, and their characters.
* `skipText_of_body`, `exists_body_of_skipText`: the texts that are passed over.
-/

namespace DenseDmg

namespace Document

variable {cs rest body s : List Char} {c : Char}

/-! ## White space -/

namespace Gap

theorem refl (cs : List Char) : Gap cs cs := ⟨[], nofun, rfl⟩

theorem skipSpace (gap : Gap cs rest) : Document.skipSpace cs = Document.skipSpace rest := by
  obtain ⟨blank, spaces, rfl⟩ := gap
  exact List.dropWhile_append_of_pos spaces

theorem length_le (gap : Gap cs rest) : rest.length ≤ cs.length := by
  obtain ⟨blank, -, rfl⟩ := gap
  rw [List.length_append]
  exact Nat.le_add_left _ _

theorem trans {cs₁ cs₂ cs₃ : List Char} (first : Gap cs₁ cs₂) (second : Gap cs₂ cs₃) :
    Gap cs₁ cs₃ := by
  obtain ⟨blank, spaces, rfl⟩ := first
  obtain ⟨blank', spaces', rfl⟩ := second
  refine ⟨blank ++ blank', fun c mem => ?_, (List.append_assoc ..).symm⟩
  exact (List.mem_append.mp mem).elim (spaces c) (spaces' c)

end Gap

theorem gap_skipSpace (cs : List Char) : Gap cs (skipSpace cs) :=
  ⟨cs.takeWhile isSpace, fun _ mem => List.mem_takeWhile_imp mem,
    List.takeWhile_append_dropWhile.symm⟩

theorem skipSpace_cons (visible : isSpace c = false) : skipSpace (c :: cs) = c :: cs := by
  rw [skipSpace, List.dropWhile_cons_of_neg (by simp [visible])]

/-- White space ends where something else stands. -/
theorem skipSpace_eq_cons_iff (visible : isSpace c = false) :
    skipSpace cs = c :: rest ↔ Gap cs (c :: rest) := by
  constructor
  · intro same
    rw [← same]
    exact gap_skipSpace cs
  · intro gap
    rw [gap.skipSpace, skipSpace_cons visible]

theorem skipSpace_eq_nil_iff : skipSpace cs = [] ↔ Gap cs [] := by
  constructor
  · intro same
    rw [← same]
    exact gap_skipSpace cs
  · intro gap
    exact gap.skipSpace

/-! ## Texts -/

theorem consChar_eq_ok_iff {scanned : Scanned (List Char)} :
    consChar c scanned = .ok (s, rest) ↔ ∃ tail, scanned = .ok (tail, rest) ∧ s = c :: tail := by
  cases scanned with
  | error fault => simp [consChar]
  | ok found =>
    obtain ⟨tail, left⟩ := found
    simp only [consChar, Except.ok.injEq, Prod.mk.injEq]
    constructor
    · rintro ⟨rfl, rfl⟩
      exact ⟨tail, ⟨rfl, rfl⟩, rfl⟩
    · rintro ⟨_, ⟨rfl, rfl⟩, rfl⟩
      exact ⟨rfl, rfl⟩

theorem scanText_plain (visible : ' ' ≤ c) (quote : c ≠ '"') (slash : c ≠ '\\') :
    scanText (c :: cs) = consChar c (scanText cs) := by
  rw [scanText.eq_7 c cs quote (absurd · slash) (fun _ _ _ _ _ => (absurd · slash))
    (fun _ => (absurd · slash)) (fun _ _ => (absurd · slash)), if_neg (by simpa using visible)]

theorem skipText_plain (visible : ' ' ≤ c) (quote : c ≠ '"') (slash : c ≠ '\\') :
    skipText (c :: cs) = skipText cs := by
  rw [skipText.eq_7 c cs quote (absurd · slash) (fun _ _ _ _ _ => (absurd · slash))
    (fun _ => (absurd · slash)) (fun _ _ => (absurd · slash)), if_neg (by simpa using visible)]

/-- The letter that announces a code is no escape of its own. -/
theorem ne_u_of_escape? {e : Char} (letter : escape? c = some e) : c ≠ 'u' := by
  rintro rfl
  have code : escape? 'u' = none := by decide
  rw [code] at letter
  cases letter

theorem scanText_escape {e : Char} (letter : escape? c = some e) :
    scanText ('\\' :: c :: cs) = consChar e (scanText cs) := by
  have other := ne_u_of_escape? letter
  rw [scanText.eq_6 c cs (fun _ _ _ _ _ => (absurd · other)) other, letter]

theorem skipText_escape {e : Char} (letter : escape? c = some e) :
    skipText ('\\' :: c :: cs) = skipText cs := by
  have other := ne_u_of_escape? letter
  rw [skipText.eq_6 c cs (fun _ _ _ _ _ => (absurd · other)) other, letter]
  rfl

theorem skipText_code {a b c d : Char} {n : Nat} (hex : hexNumber? [a, b, c, d] = some n) :
    skipText ('\\' :: 'u' :: a :: b :: c :: d :: cs) = skipText cs := by
  rw [skipText.eq_4, hex]
  rfl

/-- What denotes characters has the form of a text. -/
theorem Denotes.formed (denotes : Denotes body s) : Body body := by
  induction denotes with
  | nil => exact .nil
  | plain visible quote slash _ ih => exact .plain visible quote slash ih
  | escape letter _ ih => exact .escape letter ih
  | code hex _ _ _ ih => exact .code hex ih
  | pair hex _ hex' _ _ ih => exact .code hex (.code hex' ih)

theorem scanText_of_denotes (denotes : Denotes body s) :
    scanText (body ++ '"' :: rest) = .ok (s, rest) := by
  induction denotes with
  | nil => rfl
  | plain visible quote slash _ ih =>
    rw [List.cons_append, scanText_plain visible quote slash, ih]
    rfl
  | escape letter _ ih =>
    rw [List.cons_append, List.cons_append, scanText_escape letter, ih]
    rfl
  | code hex low high _ ih =>
    simp only [List.cons_append, scanText.eq_4, hex, low, high, ih]
    rfl
  | @pair a b c d e f g h n m body s hex high hex' low _ ih =>
    have other : isLowHalf n = false := by
      unfold isHighHalf isLowHalf at *
      simp only [Bool.and_eq_true, decide_eq_true_eq] at high
      simp only [Bool.and_eq_false_iff, decide_eq_false_iff_not]
      omega
    simp only [List.cons_append, scanText.eq_4, hex, hex', other, high, low, ih]
    rfl

theorem skipText_of_body (formed : Body body) : skipText (body ++ '"' :: rest) = .ok rest := by
  induction formed with
  | nil => rfl
  | plain visible quote slash _ ih =>
    rw [List.cons_append, skipText_plain visible quote slash, ih]
  | escape letter _ ih => rw [List.cons_append, List.cons_append, skipText_escape letter, ih]
  | code hex _ ih => simp only [List.cons_append, skipText_code hex, ih]

/-- A character is no slash if it is none at the end, and none before anything that follows. -/
theorem ne_slash (last : c = '\\' → cs = [] → False)
    (before : ∀ d r, c = '\\' → cs = d :: r → False) : c ≠ '\\' := by
  intro same
  cases cs with
  | nil => exact last same rfl
  | cons d r => exact before d r same rfl

/-- What is scanned as a text ends with a quote, and denotes the characters that are returned. -/
theorem exists_denotes_of_scanText (done : scanText cs = .ok (s, rest)) :
    ∃ body, cs = body ++ '"' :: rest ∧ Denotes body s := by
  fun_induction scanText cs generalizing s with
  | case2 r =>
    cases done
    exact ⟨[], rfl, .nil⟩
  | case9 a b c d n hex _ high e f g h r m hex' low ih =>
    obtain ⟨tail, scanned, rfl⟩ := consChar_eq_ok_iff.mp done
    obtain ⟨body, rfl, denotes⟩ := ih scanned
    exact ⟨_, rfl, .pair hex high hex' low denotes⟩
  | case13 a b c d r n hex low high ih =>
    obtain ⟨tail, scanned, rfl⟩ := consChar_eq_ok_iff.mp done
    obtain ⟨body, rfl, denotes⟩ := ih scanned
    exact ⟨_, rfl, .code hex (by simpa using low) (by simpa using high) denotes⟩
  | case16 c r _ _ e letter ih =>
    obtain ⟨tail, scanned, rfl⟩ := consChar_eq_ok_iff.mp done
    obtain ⟨body, rfl, denotes⟩ := ih scanned
    exact ⟨_, rfl, .escape letter denotes⟩
  | case18 c r quote last _ _ slash visible ih =>
    obtain ⟨tail, scanned, rfl⟩ := consChar_eq_ok_iff.mp done
    obtain ⟨body, rfl, denotes⟩ := ih scanned
    exact ⟨_, rfl, .plain (by simpa using visible) quote (ne_slash last slash) denotes⟩
  | _ => cases done

theorem exists_body_of_skipText (done : skipText cs = .ok rest) :
    ∃ body, cs = body ++ '"' :: rest ∧ Body body := by
  fun_induction skipText cs with
  | case2 r =>
    cases done
    exact ⟨[], rfl, .nil⟩
  | case4 a b c d r hex ih =>
    obtain ⟨body, rfl, formed⟩ := ih done
    obtain ⟨n, hex⟩ := Option.isSome_iff_exists.mp hex
    exact ⟨_, rfl, .code hex formed⟩
  | case7 c r _ _ letter ih =>
    obtain ⟨body, rfl, formed⟩ := ih done
    obtain ⟨e, letter⟩ := Option.isSome_iff_exists.mp letter
    exact ⟨_, rfl, .escape letter formed⟩
  | case10 c r quote last _ _ slash visible ih =>
    obtain ⟨body, rfl, formed⟩ := ih done
    exact ⟨_, rfl, .plain (by simpa using visible) quote (ne_slash last slash) formed⟩
  | _ => cases done

/-- A text ends at the first quote that is not escaped, so its form fixes its end. -/
theorem Body.unique {body' rest' : List Char} (formed : Body body) (formed' : Body body')
    (same : body ++ '"' :: rest = body' ++ '"' :: rest') : body = body' ∧ rest = rest' := by
  have ends : rest = rest' := by
    have first : skipText (body ++ '"' :: rest) = .ok rest := skipText_of_body formed
    rw [same, skipText_of_body formed'] at first
    exact (Except.ok.inj first).symm
  subst ends
  exact ⟨List.append_cancel_right same, rfl⟩

theorem Denotes.unique {s' : List Char} (denotes : Denotes body s) (denotes' : Denotes body s') :
    s = s' := by
  have first : scanText (body ++ ['"']) = .ok (s, []) := scanText_of_denotes denotes
  rw [scanText_of_denotes denotes'] at first
  simpa using first.symm

/-- A text that has its form is scanned exactly if it denotes characters. -/
theorem scanText_iff {r : List Char} (formed : Body body) :
    scanText (body ++ '"' :: rest) = .ok (s, r) ↔ Denotes body s ∧ r = rest := by
  constructor
  · intro done
    obtain ⟨body', same, denotes⟩ := exists_denotes_of_scanText done
    obtain ⟨rfl, rfl⟩ := formed.unique denotes.formed same
    exact ⟨denotes, rfl⟩
  · rintro ⟨denotes, rfl⟩
    exact scanText_of_denotes denotes

end Document

end DenseDmg
