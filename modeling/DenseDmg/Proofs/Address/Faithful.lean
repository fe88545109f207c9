import DenseDmg.Proofs.Address.Grammar
import DenseDmg.Proofs.Text.Trimming
import Mathlib.Algebra.Group.Nat.Defs
import Mathlib.Data.List.Forall2

/-!
# Addresses and their texts, addresses and their numbers

What is written for an address is read as that address, whatever blank characters stand around it
and in whichever case its letters are.  Allocation takes a number apart into octets, so that the
octets of different numbers below `2 ^ 48` differ, and so do their texts.

* `readOctet?_recased`: the case of the letters makes no difference to an octet.
* `parse_recased`: a text written in any case, with blank characters around it, is read back.
* `value_allocate`: the octets that are allocated for a number are its digits to the base 256.
-/

namespace DenseDmg

/-! ## Letters in either case -/

/-- A text in which any letters may have been put into upper case. -/
def Recased (cs ds : List Char) : Prop := List.Forall₂ (fun c d => d = c ∨ d = c.toUpper) cs ds

instance (cs ds : List Char) : Decidable (Recased cs ds) :=
  inferInstanceAs (Decidable (List.Forall₂ _ cs ds))

theorem Recased.refl (cs : List Char) : Recased cs cs :=
  List.forall₂_same.mpr fun _ _ => .inl rfl

theorem Recased.exists_of_mem {cs ds : List Char} (recased : Recased cs ds) {d : Char}
    (mem : d ∈ ds) : ∃ c ∈ cs, d = c ∨ d = c.toUpper := by
  induction recased with
  | nil => cases mem
  | @cons c _ cs _ same _ ih =>
    rcases List.mem_cons.mp mem with rfl | mem
    · exact ⟨c, List.mem_cons_self, same⟩
    · obtain ⟨c', inside, same'⟩ := ih mem
      exact ⟨c', List.mem_cons_of_mem c inside, same'⟩

/-- Only ASCII letters have an upper case. -/
theorem toUpper_eq_self {c : Char} (high : 128 ≤ c.toNat) : c.toUpper = c := by
  unfold Char.toUpper
  rw [dif_neg]
  rintro ⟨-, small⟩
  have : c.toNat ≤ 122 := UInt32.le_iff_toNat_le.mp small
  omega

/-- What holds of the first 128 characters and of all that have no upper case holds of all. -/
theorem toUpper_cases {P : Char → Char → Prop}
    (low : ∀ k : Fin 128, P (Char.ofNat k.val) (Char.ofNat k.val).toUpper)
    (same : ∀ c, P c c) (c : Char) : P c c.toUpper := by
  rcases Nat.lt_or_ge c.toNat 128 with small | high
  · have := low ⟨c.toNat, small⟩
    rwa [Char.ofNat_toNat] at this
  · rw [toUpper_eq_self high]
    exact same c

theorem hexValue?_toUpper (c : Char) : hexValue? c.toUpper = hexValue? c :=
  toUpper_cases (P := fun c d => hexValue? d = hexValue? c) (by decide) (fun _ => rfl) c

theorem isBlank_toUpper (c : Char) : isBlank c.toUpper = isBlank c :=
  toUpper_cases (P := fun c d => isBlank d = isBlank c) (by decide) (fun _ => rfl) c

theorem toUpper_eq_colon_iff (c : Char) : c.toUpper = ':' ↔ c = ':' :=
  toUpper_cases (P := fun c d => d = ':' ↔ c = ':') (by decide) (fun _ => Iff.rfl) c

theorem toUpper_eq_plus_iff (c : Char) : c.toUpper = '+' ↔ c = '+' :=
  toUpper_cases (P := fun c d => d = '+' ↔ c = '+') (by decide) (fun _ => Iff.rfl) c

namespace MacAddress

/-! ## Reading what is written -/

/-- The case of the letters makes no difference to an octet. -/
theorem readOctet?_recased {cs ds : List Char} (recased : Recased cs ds) :
    readOctet? ds = readOctet? cs := by
  have digit : ∀ {c d : Char}, d = c ∨ d = c.toUpper → hexValue? d = hexValue? c := by
    rintro c d (rfl | rfl)
    · rfl
    · exact hexValue?_toUpper c
  have plus : ∀ {c d : Char}, d = c ∨ d = c.toUpper → (d = '+' ↔ c = '+') := by
    rintro c d (rfl | rfl)
    · exact Iff.rfl
    · exact toUpper_eq_plus_iff c
  match cs, ds, recased with
  | [], [], _ => rfl
  | [_], [_], _ => rfl
  | [a, b], [a', b'], .cons first (.cons second .nil) =>
    simp only [readOctet?, digit first, digit second, plus first]
  | _ :: _ :: _ :: _, _ :: _ :: _ :: _, .cons _ (.cons _ (.cons _ _)) => rfl

/-- Colons have no case, so the parts between them are recased one by one. -/
theorem splitAtColons_recased {cs ds : List Char} (recased : Recased cs ds) :
    List.Forall₂ Recased (splitAtColons cs) (splitAtColons ds) := by
  induction recased with
  | nil => exact .cons .nil .nil
  | @cons c d cs ds same _ ih =>
    have colon : d = ':' ↔ c = ':' := by
      rcases same with rfl | rfl
      · exact Iff.rfl
      · exact toUpper_eq_colon_iff c
    unfold splitAtColons
    simp only [colon]
    split_ifs with h
    · exact .cons .nil ih
    · generalize splitAtColons cs = parts at ih ⊢
      generalize splitAtColons ds = parts' at ih ⊢
      cases ih with
      | nil => exact .cons (.cons same .nil) .nil
      | cons part parts => exact .cons (.cons same part) parts

/-- An octet is written as the digits of its two halves. -/
theorem octetText_eq (o : UInt8) :
    octetText o = [Nat.digitChar (o.toNat / 16), Nat.digitChar (o.toNat % 16)] := by
  have high : o.toNat / 16 % 16 = o.toNat / 16 := by
    have := o.toNat_lt
    omega
  simp only [octetText, hexDigits, List.nil_append, List.cons_append, high]

theorem hexPair_octetText (o : UInt8) : HexPair (octetText o) := by
  have digit : ∀ n < 16, IsHexDigit (Nat.digitChar n) := fun n small =>
    isSome_hexValue?_iff.mp (by rw [hexValue?_digitChar small]; rfl)
  have := o.toNat_lt
  exact ⟨_, _, octetText_eq o, digit _ (by omega), digit _ (by omega)⟩

/-- What is written for an octet is read as that octet. -/
theorem readOctet?_octetText (o : UInt8) : readOctet? (octetText o) = some o := by
  obtain ⟨a, b, text, first, -⟩ := hexPair_octetText o
  have unsigned : a ≠ '+' := first.ne_plus
  obtain ⟨rfl, rfl⟩ : a = Nat.digitChar (o.toNat / 16) ∧ b = Nat.digitChar (o.toNat % 16) := by
    simpa [octetText_eq] using text.symm
  have := o.toNat_lt
  rw [octetText_eq, readOctet?, hexValue?_digitChar (by omega), hexValue?_digitChar (by omega),
    Option.bind_some, if_neg unsigned, Option.map_some, Nat.div_add_mod, UInt8.ofNat_toNat]

/-- The parts between the colons of an address are its octets as they are written. -/
theorem splitAtColons_chars (m : MacAddress) :
    splitAtColons m.chars = m.octets.map octetText := by
  rw [chars_eq_intercalate]
  refine splitAtColons_intercalate (by simp [octets]) fun group mem => ?_
  obtain ⟨o, -, rfl⟩ := List.mem_map.mp mem
  exact (hexPair_octetText o).signed.not_mem_colon

/-- No character of an address is blank. -/
theorem isBlank_of_mem_chars {m : MacAddress} {c : Char} (mem : c ∈ m.chars) :
    isBlank c = false := by
  have digit : ∀ n : Fin 16, isBlank (Nat.digitChar n.val) = false := by decide
  by_cases colon : c = ':'
  · rw [colon]
    decide
  rw [chars_eq_intercalate, mem_intercalate colon] at mem
  obtain ⟨group, octet, mem⟩ := mem
  obtain ⟨o, -, rfl⟩ := List.mem_map.mp octet
  have := o.toNat_lt
  rw [octetText_eq, List.mem_cons, List.mem_singleton] at mem
  rcases mem with rfl | rfl
  · exact digit ⟨o.toNat / 16, by omega⟩
  · exact digit ⟨o.toNat % 16, by omega⟩

/-- The text of an address has no blank characters at its ends, in whichever case it is. -/
theorem trim_recased {m : MacAddress} {written : List Char} (recased : Recased m.chars written) :
    trim written = written := by
  have dark : ∀ d ∈ written, isBlank d = false := by
    intro d mem
    obtain ⟨c, inside, same⟩ := recased.exists_of_mem mem
    rcases same with rfl | rfl
    · exact isBlank_of_mem_chars inside
    · rw [isBlank_toUpper]
      exact isBlank_of_mem_chars inside
  exact trim_eq_self (fun c head => dark c (List.mem_of_mem_head? head))
    fun c last => dark c (List.mem_of_mem_getLast? last)

/-- The text of an address is read back, with letters in either case and with blank characters
around it. -/
theorem parse_recased {m : MacAddress} {front written back : List Char}
    (blankFront : AllBlank front) (recased : Recased m.chars written) (blankBack : AllBlank back) :
    parse (String.ofList (front ++ written ++ back)) = .ok m := by
  rw [parse_eq_ok_iff, String.toList_ofList, read?_eq_some_iff,
    trim_padded blankFront blankBack, trim_recased recased]
  have parts := splitAtColons_recased recased
  rw [splitAtColons_chars] at parts
  have read : (m.octets.map octetText).map readOctet? =
      (splitAtColons written).map readOctet? := by
    rw [← List.forall₂_eq_eq_eq, List.forall₂_map_left_iff, List.forall₂_map_right_iff]
    exact parts.imp fun _ _ part => (readOctet?_recased part).symm
  rw [← read, List.map_map]
  exact List.map_congr_left fun o _ => readOctet?_octetText o

theorem parse_text (m : MacAddress) : parse m.text = .ok m := by
  have read := @parse_recased m [] m.chars [] nofun (.refl m.chars) nofun
  rwa [List.nil_append, List.append_nil] at read

/-! ## Allocation -/

/-- The octets allocated for a number below `2 ^ 48` are its digits to the base 256. -/
theorem value_allocate {n : Nat} (small : n < 2 ^ 48) : (allocate n).value = n := by
  simp only [value, octets, allocate, List.foldl_cons, List.foldl_nil, UInt8.toNat_ofNat',
    Nat.shiftRight_eq_div_pow]
  omega

/-- Addresses are read back from their texts in either case and with blank characters around them;
the octets that are allocated for a number are its digits to the base 256, first digit first; so
different numbers get different addresses, and these have different texts. -/
theorem texts_and_numbers_faithful :
    (∀ m : MacAddress, parse m.text = .ok m) ∧
    (∀ (m : MacAddress) (front written back : List Char), AllBlank front →
      Recased m.chars written → AllBlank back →
      parse (String.ofList (front ++ written ++ back)) = .ok m) ∧
    (∀ n < 2 ^ 48, (allocate n).value = n) ∧
    ∀ n < 2 ^ 48, ∀ k < 2 ^ 48, n ≠ k →
      allocate n ≠ allocate k ∧ (allocate n).text ≠ (allocate k).text := by
  refine ⟨parse_text, fun m front written back => parse_recased, fun n => value_allocate, ?_⟩
  intro n smallN k smallK differ
  have addresses : allocate n ≠ allocate k := by
    intro same
    apply differ
    rw [← value_allocate smallN, same, value_allocate smallK]
  refine ⟨addresses, fun texts => addresses ?_⟩
  have read := parse_text (allocate n)
  rw [texts, parse_text] at read
  exact (Except.ok.inj read).symm

/-- An address in mixed case between blank characters, and the two highest numbers. -/
theorem texts_and_numbers_faithful_highest :
    parse " \tFf:fF:ff:fF:FF:Fe\n" = .ok (allocate (2 ^ 48 - 2)) ∧
    (allocate (2 ^ 48 - 1)).value = 2 ^ 48 - 1 ∧
    (allocate (2 ^ 48 - 1)).text ≠ (allocate (2 ^ 48 - 2)).text := by
  obtain ⟨-, padded, value, different⟩ := texts_and_numbers_faithful
  refine ⟨?_, value _ (by decide), (different _ (by decide) _ (by decide) (by decide)).2⟩
  have read := padded (allocate (2 ^ 48 - 2)) " \t".toList "Ff:fF:ff:fF:FF:Fe".toList
    "\n".toList (by decide +kernel) (by decide +kernel) (by decide +kernel)
  exact read

end MacAddress

end DenseDmg
