import DenseDmg.Text.Blank
import DenseDmg.Text.Hex

/-!
# Hardware addresses

A hardware address is six octets.  Its text is six pairs of hexadecimal digits with colons
between them; devices get theirs by counting.
-/

namespace DenseDmg

/-- A 48-bit hardware address, first octet first. -/
structure MacAddress where
  o1 : UInt8
  o2 : UInt8
  o3 : UInt8
  o4 : UInt8
  o5 : UInt8
  o6 : UInt8
deriving DecidableEq, Inhabited

namespace MacAddress

def octets (m : MacAddress) : List UInt8 := [m.o1, m.o2, m.o3, m.o4, m.o5, m.o6]

/-- The octets as one number, the first octet being the highest. -/
def value (m : MacAddress) : Nat := m.octets.foldl (fun n o => n * 256 + o.toNat) 0

/-- The address of the `n`-th device: the low 48 bits of `n`, highest octet first. -/
def allocate (n : Nat) : MacAddress where
  o1 := UInt8.ofNat (n >>> 40)
  o2 := UInt8.ofNat (n >>> 32)
  o3 := UInt8.ofNat (n >>> 24)
  o4 := UInt8.ofNat (n >>> 16)
  o5 := UInt8.ofNat (n >>> 8)
  o6 := UInt8.ofNat n

/-! ## Text -/

/-- Two hexadecimal digits, letters in lower case. -/
def octetText (o : UInt8) : List Char := hexDigits 2 o.toNat

def chars (m : MacAddress) : List Char :=
  octetText m.o1 ++ ':' :: octetText m.o2 ++ ':' :: octetText m.o3 ++ ':' :: octetText m.o4 ++
    ':' :: octetText m.o5 ++ ':' :: octetText m.o6

def text (m : MacAddress) : String := String.ofList m.chars

/-- The pieces in which an octet is written: a zero that fills it up stands alone. -/
def octetPieces (o : UInt8) : List (List Char) :=
  if o < 16 then (octetText o).map fun c => [c] else [octetText o]

/-- The pieces in which an address is written. -/
def pieces (m : MacAddress) : List (List Char) :=
  octetPieces m.o1 ++ m.octets.tail.flatMap fun o => [':'] :: octetPieces o

/-! ## Reading -/

/-- An octet of two characters: hexadecimal digits, the first of which may be a plus sign. -/
def readOctet? : List Char → Option UInt8
  | [a, b] =>
    (hexValue? b).bind fun low =>
      if a = '+' then some (UInt8.ofNat low)
      else (hexValue? a).map fun high => UInt8.ofNat (16 * high + low)
  | _ => none

/-- The parts of a text between its colons. -/
def splitAtColons : List Char → List (List Char)
  | [] => [[]]
  | c :: cs =>
    if c = ':' then [] :: splitAtColons cs
    else
      match splitAtColons cs with
      | [] => [[c]]
      | part :: parts => (c :: part) :: parts

/-- The address that a text denotes, blank characters around it set aside. -/
def read? (cs : List Char) : Option MacAddress :=
  match (splitAtColons (trim cs)).map readOctet? with
  | [some a, some b, some c, some d, some e, some f] => some ⟨a, b, c, d, e, f⟩
  | _ => none

end MacAddress

end DenseDmg
