import DenseDmg.Fault
import Mathlib.Data.List.Basic

/-!
# Which texts are hardware addresses

A text is an address when, without the blank characters around it, it is six groups with single
colons between them.  A group is two characters, and the number reader that takes it allows a plus
sign in place of the first digit.  So a text without a plus sign is an address exactly when its
groups are pairs of hexadecimal digits, and then the address is written as that text in lower case.
With a plus sign more texts are addresses, and what is written has a zero in its place.

* `SixGroups`: groups of one kind, joined by colons; `SignedPair` and `HexPair` are the two kinds.
* `MacAddress.parse_grammar`: which texts are read, how the result is written, what the fault is.
-/

namespace DenseDmg

/-- A hexadecimal digit, its letters in either case. -/
def IsHexDigit (c : Char) : Prop :=
  ('0' ≤ c ∧ c ≤ '9') ∨ ('a' ≤ c ∧ c ≤ 'f') ∨ ('A' ≤ c ∧ c ≤ 'F')

namespace IsHexDigit

variable {c : Char}

/-- Every hexadecimal digit is among the first 128 characters. -/
theorem toNat_lt (h : IsHexDigit c) : c.toNat < 128 := by
  simp only [IsHexDigit, Char.le_def, UInt32.le_iff_toNat_le] at h
  have nine : '9'.val.toNat = 57 := rfl
  have f : 'f'.val.toNat = 102 := rfl
  have upperF : 'F'.val.toNat = 70 := rfl
  rcases h with h | h | h <;> simp only [Char.toNat] <;> omega

theorem ne_colon (h : IsHexDigit c) : c ≠ ':' := by
  rintro rfl
  revert h
  unfold IsHexDigit
  decide

theorem ne_plus (h : IsHexDigit c) : c ≠ '+' := by
  rintro rfl
  revert h
  unfold IsHexDigit
  decide

end IsHexDigit

/-- What is read as a digit is a hexadecimal digit, and every hexadecimal digit is read. -/
theorem isSome_hexValue?_iff {c : Char} : (hexValue? c).isSome ↔ IsHexDigit c := by
  unfold hexValue? IsHexDigit
  split_ifs <;> simp_all

/-- A digit that is read is below sixteen, and is written in lower case. -/
theorem digitChar_of_hexValue? {c : Char} {n : Nat} (h : hexValue? c = some n) :
    n < 16 ∧ Nat.digitChar n = c.toLower := by
  have all : ∀ k : Fin 128, ∀ v ∈ hexValue? (Char.ofNat k.val),
      v < 16 ∧ Nat.digitChar v = (Char.ofNat k.val).toLower := by decide
  have small : c.toNat < 128 := (isSome_hexValue?_iff.mp (by simp [h])).toNat_lt
  have := all ⟨c.toNat, small⟩ n
  rw [Char.ofNat_toNat] at this
  exact this h

namespace MacAddress

/-! ## Groups -/

/-- Two hexadecimal digits. -/
def HexPair (group : List Char) : Prop :=
  ∃ a b, group = [a, b] ∧ IsHexDigit a ∧ IsHexDigit b

/-- Two hexadecimal digits, or a plus sign and one. -/
def SignedPair (group : List Char) : Prop :=
  ∃ a b, group = [a, b] ∧ (IsHexDigit a ∨ a = '+') ∧ IsHexDigit b

/-- Six groups of a kind, with single colons between them. -/
def SixGroups (Group : List Char → Prop) (cs : List Char) : Prop :=
  ∃ groups : List (List Char), groups.length = 6 ∧ (∀ group ∈ groups, Group group) ∧
    cs = [':'].intercalate groups

/-- How a character of an address that was read is written: letters in lower case, and a zero for a
plus sign. -/
def writtenFor (c : Char) : Char := if c = '+' then '0' else c.toLower

variable {group : List Char} {cs : List Char} {m : MacAddress} {o : UInt8}

theorem HexPair.signed (h : HexPair group) : SignedPair group := by
  obtain ⟨a, b, rfl, first, second⟩ := h
  exact ⟨a, b, rfl, .inl first, second⟩

theorem SignedPair.hexPair (h : SignedPair group) (unsigned : '+' ∉ group) : HexPair group := by
  obtain ⟨a, b, rfl, first, second⟩ := h
  refine ⟨a, b, rfl, first.resolve_right ?_, second⟩
  rintro rfl
  exact unsigned (by simp)

theorem SignedPair.not_mem_colon (h : SignedPair group) : ':' ∉ group := by
  obtain ⟨a, b, rfl, first, second⟩ := h
  have one : a ≠ ':' := by
    rcases first with digit | rfl
    · exact digit.ne_colon
    · decide
  simp [one.symm, second.ne_colon.symm]

theorem HexPair.not_mem_plus (h : HexPair group) : '+' ∉ group := by
  obtain ⟨a, b, rfl, first, second⟩ := h
  simp [first.ne_plus.symm, second.ne_plus.symm]

/-- Two digits are what an octet is written as. -/
theorem octetText_pair {high low : Nat} (hhigh : high < 16) (hlow : low < 16) :
    octetText (UInt8.ofNat (16 * high + low)) = [Nat.digitChar high, Nat.digitChar low] := by
  have value : (UInt8.ofNat (16 * high + low)).toNat = 16 * high + low := by
    rw [UInt8.toNat_ofNat']
    omega
  have front : (16 * high + low) / 16 % 16 = high := by omega
  have back : (16 * high + low) % 16 = low := by omega
  rw [octetText, value]
  simp only [hexDigits, List.nil_append, List.cons_append, front, back]

/-- An octet that is read is a signed pair, and is written as that pair is. -/
theorem signedPair_of_readOctet? (h : readOctet? group = some o) :
    SignedPair group ∧ octetText o = group.map writtenFor := by
  match group, h with
  | [a, b], h =>
    simp only [readOctet?, Option.bind_eq_some_iff] at h
    obtain ⟨low, hlow, h⟩ := h
    have second : IsHexDigit b := isSome_hexValue?_iff.mp (by simp [hlow])
    obtain ⟨low16, lowText⟩ := digitChar_of_hexValue? hlow
    have written : writtenFor b = b.toLower := if_neg second.ne_plus
    split_ifs at h with plus
    · subst plus
      cases h
      have text := octetText_pair (show 0 < 16 by decide) low16
      rw [Nat.mul_zero, Nat.zero_add] at text
      refine ⟨⟨'+', b, rfl, .inr rfl, second⟩, ?_⟩
      rw [text, lowText, List.map_cons, List.map_cons, List.map_nil, written]
      rfl
    · obtain ⟨high, hhigh, rfl⟩ := Option.map_eq_some_iff.mp h
      have first : IsHexDigit a := isSome_hexValue?_iff.mp (by simp [hhigh])
      obtain ⟨high16, highText⟩ := digitChar_of_hexValue? hhigh
      have writtenFirst : writtenFor a = a.toLower := if_neg plus
      refine ⟨⟨a, b, rfl, .inl first, second⟩, ?_⟩
      rw [octetText_pair high16 low16, lowText, highText, List.map_cons, List.map_cons,
        List.map_nil, written, writtenFirst]

/-- Every signed pair is read. -/
theorem SignedPair.readOctet? (h : SignedPair group) :
    ∃ o, MacAddress.readOctet? group = some o := by
  obtain ⟨a, b, rfl, first, second⟩ := h
  obtain ⟨low, hlow⟩ := Option.isSome_iff_exists.mp (isSome_hexValue?_iff.mpr second)
  by_cases plus : a = '+'
  · exact ⟨UInt8.ofNat low, by simp [MacAddress.readOctet?, hlow, plus]⟩
  · have digit : IsHexDigit a := first.resolve_right plus
    obtain ⟨high, hhigh⟩ := Option.isSome_iff_exists.mp (isSome_hexValue?_iff.mpr digit)
    exact ⟨UInt8.ofNat (16 * high + low), by simp [MacAddress.readOctet?, hlow, hhigh, plus]⟩

/-! ## Colons -/

/-- The parts between the colons are those of the library's splitting. -/
theorem splitAtColons_eq_splitOn (cs : List Char) : splitAtColons cs = cs.splitOn ':' := by
  rw [List.splitOn_eq_splitOnP]
  induction cs with
  | nil => rfl
  | cons c cs ih =>
    rw [splitAtColons, ih, List.splitOnP_cons_eq_if_modifyHead]
    split_ifs with colon h h
    · rfl
    · exact absurd (beq_iff_eq.mpr colon) h
    · exact absurd (beq_iff_eq.mp h) colon
    · match parts : List.splitOnP (fun x => x == ':') cs with
      | [] => exact absurd parts (List.splitOnP_ne_nil _ cs)
      | part :: rest => rfl

/-- Parts joined by colons are the parts found between the colons, if none of them has one. -/
theorem splitAtColons_intercalate {groups : List (List Char)} (ne : groups ≠ [])
    (none : ∀ group ∈ groups, ':' ∉ group) :
    splitAtColons ([':'].intercalate groups) = groups := by
  rw [splitAtColons_eq_splitOn]
  exact List.splitOn_intercalate ':' none ne

/-- The parts joined by colons are the text again. -/
theorem intercalate_splitAtColons (cs : List Char) :
    [':'].intercalate (splitAtColons cs) = cs := by
  rw [splitAtColons_eq_splitOn]
  exact List.intercalate_splitOn ':'

/-- A change of characters that keeps colons may be made in each part. -/
theorem map_intercalate {f : Char → Char} (colon : f ':' = ':') (groups : List (List Char)) :
    ([':'].intercalate groups).map f = [':'].intercalate (groups.map (List.map f)) := by
  induction groups with
  | nil => rfl
  | cons group groups ih =>
    cases groups with
    | nil => simp
    | cons next rest =>
      rw [List.intercalate_cons_cons, List.map_append, ih]
      simp [List.intercalate_cons_cons, colon]

/-- The characters of joined parts are those of the parts, but for the colons. -/
theorem mem_intercalate {c : Char} (ne : c ≠ ':') {groups : List (List Char)} :
    c ∈ [':'].intercalate groups ↔ ∃ group ∈ groups, c ∈ group := by
  induction groups with
  | nil => simp [List.intercalate]
  | cons group groups ih =>
    cases groups with
    | nil => simp
    | cons next rest =>
      rw [List.intercalate_cons_cons, List.append_assoc, List.mem_append, List.singleton_append,
        List.mem_cons, ih]
      simp only [ne, false_or, List.exists_mem_cons_iff]

/-! ## The whole text -/

/-- An address is written as its octets joined by colons. -/
theorem chars_eq_intercalate (m : MacAddress) :
    m.chars = [':'].intercalate (m.octets.map octetText) := by
  simp [chars, octets, List.intercalate_cons_cons]

/-- A text is read as the address whose octets are read from its parts. -/
theorem read?_eq_some_iff :
    read? cs = some m ↔ (splitAtColons (trim cs)).map readOctet? = m.octets.map some := by
  unfold read?
  constructor
  · intro h
    split at h
    case h_1 a b c d e f parts =>
      cases h
      exact parts
    case h_2 => cases h
  · intro h
    rw [h]
    rfl

/-- Parts that are read as octets are signed pairs, and the octets are written as they are. -/
theorem signedPairs_of_map_readOctet? {parts : List (List Char)} {os : List UInt8}
    (h : parts.map readOctet? = os.map some) :
    (∀ part ∈ parts, SignedPair part) ∧
      os.map octetText = parts.map (List.map writtenFor) := by
  induction parts generalizing os with
  | nil =>
    cases os with
    | nil => exact ⟨by simp, rfl⟩
    | cons o os => cases h
  | cons part parts ih =>
    cases os with
    | nil => cases h
    | cons o os =>
      rw [List.map_cons, List.map_cons, List.cons.injEq] at h
      obtain ⟨pair, text⟩ := signedPair_of_readOctet? h.1
      obtain ⟨pairs, texts⟩ := ih h.2
      refine ⟨List.forall_mem_cons.mpr ⟨pair, pairs⟩, ?_⟩
      rw [List.map_cons, List.map_cons, text, texts]

/-- A text that is read is six signed pairs, and the address is written as they are. -/
theorem sixGroups_of_read? (h : read? cs = some m) :
    SixGroups SignedPair (trim cs) ∧ m.chars = (trim cs).map writtenFor := by
  have parts := read?_eq_some_iff.mp h
  have count : (splitAtColons (trim cs)).length = 6 := by
    have := congrArg List.length parts
    simpa [octets] using this
  obtain ⟨pairs, texts⟩ := signedPairs_of_map_readOctet? parts
  have whole := map_intercalate (show writtenFor ':' = ':' by decide) (splitAtColons (trim cs))
  rw [intercalate_splitAtColons] at whole
  refine ⟨⟨splitAtColons (trim cs), count, pairs, (intercalate_splitAtColons _).symm⟩, ?_⟩
  rw [chars_eq_intercalate, texts, whole]

/-- Six signed pairs are read. -/
theorem SixGroups.read? (h : SixGroups SignedPair (trim cs)) :
    ∃ m, MacAddress.read? cs = some m := by
  obtain ⟨groups, count, pairs, text⟩ := h
  have ne : groups ≠ [] := by
    rintro rfl
    cases count
  have split := splitAtColons_intercalate ne fun group mem => (pairs group mem).not_mem_colon
  rw [← text] at split
  match groups, count, pairs, split with
  | [g1, g2, g3, g4, g5, g6], _, pairs, split =>
    simp only [List.forall_mem_cons, List.not_mem_nil, false_implies, implies_true,
      and_true] at pairs
    obtain ⟨p1, p2, p3, p4, p5, p6⟩ := pairs
    obtain ⟨o1, h1⟩ := p1.readOctet?
    obtain ⟨o2, h2⟩ := p2.readOctet?
    obtain ⟨o3, h3⟩ := p3.readOctet?
    obtain ⟨o4, h4⟩ := p4.readOctet?
    obtain ⟨o5, h5⟩ := p5.readOctet?
    obtain ⟨o6, h6⟩ := p6.readOctet?
    refine ⟨⟨o1, o2, o3, o4, o5, o6⟩, read?_eq_some_iff.mpr ?_⟩
    simp [split, h1, h2, h3, h4, h5, h6, octets]

/-- Pairs of hexadecimal digits are the signed pairs of a text without a plus sign. -/
theorem sixGroups_hexPair_iff :
    SixGroups HexPair cs ↔ SixGroups SignedPair cs ∧ '+' ∉ cs := by
  constructor
  · rintro ⟨groups, count, pairs, rfl⟩
    refine ⟨⟨groups, count, fun group mem => (pairs group mem).signed, rfl⟩, ?_⟩
    intro plus
    obtain ⟨group, mem, inside⟩ := (mem_intercalate (by decide)).mp plus
    exact (pairs group mem).not_mem_plus inside
  · rintro ⟨⟨groups, count, pairs, rfl⟩, unsigned⟩
    refine ⟨groups, count, fun group mem => (pairs group mem).hexPair fun plus => ?_, rfl⟩
    exact unsigned ((mem_intercalate (by decide)).mpr ⟨group, mem, plus⟩)

/-- A text is parsed as what it is read as. -/
theorem parse_eq_ok_iff {s : String} : parse s = .ok m ↔ read? s.toList = some m := by
  unfold parse
  cases read? s.toList <;> simp

/-- A text is an address exactly when, trimmed, it is six groups with colons between them, each two
hexadecimal digits or a plus sign and one digit; all groups are pairs of digits exactly when there
is no plus sign.  The address is written as the trimmed text with its letters in lower case and a
zero for each plus sign.  The fault of any other text carries that text as it was given. -/
theorem parse_grammar (s : String) :
    ((∃ m, parse s = .ok m) ↔ SixGroups SignedPair (trim s.toList)) ∧
    (SixGroups HexPair (trim s.toList) ↔ (∃ m, parse s = .ok m) ∧ '+' ∉ trim s.toList) ∧
    (∀ m, parse s = .ok m →
      m.text = String.ofList ((trim s.toList).map writtenFor) ∧
      ('+' ∉ trim s.toList → m.text = String.ofList ((trim s.toList).map Char.toLower))) ∧
    ∀ fault, parse s = .error fault → fault = .invalidValue "MAC address" s := by
  have accepted : (∃ m, parse s = .ok m) ↔ SixGroups SignedPair (trim s.toList) := by
    simp only [parse_eq_ok_iff]
    exact ⟨fun ⟨m, h⟩ => (sixGroups_of_read? h).1, SixGroups.read?⟩
  refine ⟨accepted, ?_, fun m h => ?_, fun fault h => ?_⟩
  · rw [accepted]
    exact sixGroups_hexPair_iff
  · have text : m.text = String.ofList ((trim s.toList).map writtenFor) := by
      rw [MacAddress.text, (sixGroups_of_read? (parse_eq_ok_iff.mp h)).2]
    refine ⟨text, fun unsigned => ?_⟩
    have same : ∀ c ∈ trim s.toList, writtenFor c = c.toLower := by
      intro c mem
      refine if_neg ?_
      rintro rfl
      exact unsigned mem
    rw [text, List.map_congr_left same]
  · unfold parse at h
    split at h
    · cases h
    · cases h
      rfl

/-- A trimmed address in mixed case is written in lower case, and a plus sign is taken for a zero
in a text that is no address in the strict sense. -/
theorem parse_grammar_cases :
    (parse "\t00:1A:2b:3C:4d:5E ").toOption.map text = some "00:1a:2b:3c:4d:5e" ∧
    ¬ SixGroups HexPair (trim "+a:00:00:00:00:01".toList) ∧
    (parse "+a:00:00:00:00:01").toOption.map text = some "0a:00:00:00:00:01" ∧
    parse "00:1A" = .error (.invalidValue "MAC address" "00:1A") := by
  have mixed : parse "\t00:1A:2b:3C:4d:5E " = .ok ⟨0x00, 0x1a, 0x2b, 0x3c, 0x4d, 0x5e⟩ := by
    decide +kernel
  have plus : parse "+a:00:00:00:00:01" = .ok ⟨0x0a, 0, 0, 0, 0, 1⟩ := by decide +kernel
  refine ⟨?_, ?_, ?_, ?_⟩
  · have text := ((parse_grammar "\t00:1A:2b:3C:4d:5E ").2.2.1 _ mixed).2 (by decide +kernel)
    rw [mixed]
    exact congrArg some (text.trans (by decide +kernel))
  · intro pairs
    have unsigned := ((parse_grammar "+a:00:00:00:00:01").2.1.mp pairs).2
    exact unsigned (by decide +kernel)
  · have text := ((parse_grammar "+a:00:00:00:00:01").2.2.1 _ plus).1
    rw [plus]
    exact congrArg some (text.trans (by decide +kernel))
  · match h : parse "00:1A" with
    | .ok m =>
      have : (parse "00:1A").toOption = none := by decide +kernel
      rw [h] at this
      cases this
    | .error fault => rw [(parse_grammar "00:1A").2.2.2 fault h]

end MacAddress

end DenseDmg
