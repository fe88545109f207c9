import DenseDmg.Document.Scan
import DenseDmg.Proofs.Decimal.Digits

/-!
# The grammar of documents

`Tree` is what a document says, apart from its white space and from the ways to write a text.
`Spells v cs rest` relates a tree to a text that begins with a spelling of it: `rest` is what
follows the spelling.  The relation is the syntax of documents as such, without a type that is
expected and without a reader.

* `Denotes`: what the characters between two quotes stand for.
* `IsNumber`: the spellings of numbers.
* `Spells`, `SpellsMember`, `MoreItems`, `MoreMembers`: values and their parts.
* `SpellsDocument`: a whole document.
-/

namespace DenseDmg

namespace Document

/-- The tree of a document.  Numbers keep their spelling; a text, or a key, whose escapes do not
make up characters stands for no text. -/
inductive Tree
  | null
  | bool (b : Bool)
  | number (digits : List Char)
  | text (s : Option String)
  | array (items : List Tree)
  | object (members : List (Option String × Tree))

/-! ## White space -/

/-- The texts differ by white space that the first of them begins with. -/
def Gap (cs rest : List Char) : Prop :=
  ∃ gap : List Char, (∀ c ∈ gap, isSpace c = true) ∧ cs = gap ++ rest

/-! ## Texts -/

/-- What stands between quotes, as far as its form goes: escapes are complete. -/
inductive Body : List Char → Prop
  | nil : Body []
  | plain {c : Char} {body : List Char} : ' ' ≤ c → c ≠ '"' → c ≠ '\\' → Body body →
    Body (c :: body)
  | escape {c e : Char} {body : List Char} : escape? c = some e → Body body →
    Body ('\\' :: c :: body)
  | code {a b c d : Char} {n : Nat} {body : List Char} : hexNumber? [a, b, c, d] = some n →
    Body body → Body ('\\' :: 'u' :: a :: b :: c :: d :: body)

/-- The characters that the characters between quotes stand for: themselves, or what is escaped.  A
code that is half of a pair counts together with the other half only. -/
inductive Denotes : List Char → List Char → Prop
  | nil : Denotes [] []
  | plain {c : Char} {body s : List Char} : ' ' ≤ c → c ≠ '"' → c ≠ '\\' → Denotes body s →
    Denotes (c :: body) (c :: s)
  | escape {c e : Char} {body s : List Char} : escape? c = some e → Denotes body s →
    Denotes ('\\' :: c :: body) (e :: s)
  | code {a b c d : Char} {n : Nat} {body s : List Char} : hexNumber? [a, b, c, d] = some n →
    isLowHalf n = false → isHighHalf n = false → Denotes body s →
    Denotes ('\\' :: 'u' :: a :: b :: c :: d :: body) (Char.ofNat n :: s)
  | pair {a b c d e f g h : Char} {n m : Nat} {body s : List Char} :
    hexNumber? [a, b, c, d] = some n → isHighHalf n = true →
    hexNumber? [e, f, g, h] = some m → isLowHalf m = true → Denotes body s →
    Denotes ('\\' :: 'u' :: a :: b :: c :: d :: '\\' :: 'u' :: e :: f :: g :: h :: body)
      (joinHalves n m :: s)

/-- A text between quotes. -/
inductive SpellsText : Option String → List Char → List Char → Prop
  | whole {s : String} {body rest : List Char} : Denotes body s.toList →
    SpellsText (some s) ('"' :: (body ++ '"' :: rest)) rest
  | broken {body rest : List Char} : Body body → (∀ s, ¬ Denotes body s) →
    SpellsText none ('"' :: (body ++ '"' :: rest)) rest

/-! ## Numbers -/

/-- At least one digit, and nothing but digits. -/
def IsDigits (ds : List Char) : Prop := ds ≠ [] ∧ AllDigits ds

/-- Digits without a zero in front of others. -/
def IsWhole (ds : List Char) : Prop := IsDigits ds ∧ (ds.head? = some '0' → ds = ['0'])

/-- Nothing, or a point and digits. -/
def IsFraction (cs : List Char) : Prop := cs = [] ∨ ∃ ds, IsDigits ds ∧ cs = '.' :: ds

/-- Nothing, or the letter of an exponent, perhaps a sign, and digits. -/
def IsExponent (cs : List Char) : Prop :=
  cs = [] ∨ ∃ letter sign ds, (letter = 'e' ∨ letter = 'E') ∧
    (sign = [] ∨ sign = ['+'] ∨ sign = ['-']) ∧ IsDigits ds ∧ cs = letter :: (sign ++ ds)

/-- A number without its sign. -/
def IsUnsigned (cs : List Char) : Prop :=
  ∃ whole fraction exponent, IsWhole whole ∧ IsFraction fraction ∧ IsExponent exponent ∧
    cs = whole ++ (fraction ++ exponent)

/-- The spelling of a number. -/
def IsNumber (cs : List Char) : Prop :=
  IsUnsigned cs ∨ ∃ digits, IsUnsigned digits ∧ cs = '-' :: digits

/-! ## Values -/

mutual

/-- A text begins with a spelling of a tree, and this is what follows it. -/
inductive Spells : Tree → List Char → List Char → Prop
  | null {rest : List Char} : Spells .null ('n' :: 'u' :: 'l' :: 'l' :: rest) rest
  | yes {rest : List Char} : Spells (.bool true) ('t' :: 'r' :: 'u' :: 'e' :: rest) rest
  | no {rest : List Char} : Spells (.bool false) ('f' :: 'a' :: 'l' :: 's' :: 'e' :: rest) rest
  | number {digits rest : List Char} : IsNumber digits →
    Spells (.number digits) (digits ++ rest) rest
  | text {s : Option String} {cs rest : List Char} : SpellsText s cs rest →
    Spells (.text s) cs rest
  | noItems {cs rest : List Char} : Gap cs (']' :: rest) → Spells (.array []) ('[' :: cs) rest
  | items {v : Tree} {items : List Tree} {cs first more rest : List Char} : Gap cs first →
    Spells v first more → MoreItems items more rest → Spells (.array (v :: items)) ('[' :: cs) rest
  | noMembers {cs rest : List Char} : Gap cs ('}' :: rest) →
    Spells (.object []) ('{' :: cs) rest
  | members {m : Option String × Tree} {ms : List (Option String × Tree)}
    {cs first more rest : List Char} : Gap cs first → SpellsMember m first more →
    MoreMembers ms more rest → Spells (.object (m :: ms)) ('{' :: cs) rest

/-- A key, a colon and a value. -/
inductive SpellsMember : Option String × Tree → List Char → List Char → Prop
  | member {key : Option String} {v : Tree} {cs colon gap value rest : List Char} :
    SpellsText key cs colon → Gap colon (':' :: gap) → Gap gap value → Spells v value rest →
    SpellsMember (key, v) cs rest

/-- What follows an item: the end of the array, or a comma and further items. -/
inductive MoreItems : List Tree → List Char → List Char → Prop
  | close {cs rest : List Char} : Gap cs (']' :: rest) → MoreItems [] cs rest
  | item {v : Tree} {items : List Tree} {cs gap next more rest : List Char} :
    Gap cs (',' :: gap) → Gap gap next → Spells v next more → MoreItems items more rest →
    MoreItems (v :: items) cs rest

/-- What follows a member: the end of the object, or a comma and further members. -/
inductive MoreMembers : List (Option String × Tree) → List Char → List Char → Prop
  | close {cs rest : List Char} : Gap cs ('}' :: rest) → MoreMembers [] cs rest
  | member {m : Option String × Tree} {ms : List (Option String × Tree)}
    {cs gap next more rest : List Char} : Gap cs (',' :: gap) → Gap gap next →
    SpellsMember m next more → MoreMembers ms more rest → MoreMembers (m :: ms) cs rest

end

/-- A document is a spelling of a tree, with white space around it and nothing else. -/
def SpellsDocument (v : Tree) (raw : String) : Prop :=
  ∃ cs rest, Gap raw.toList cs ∧ Spells v cs rest ∧ Gap rest []

end Document

end DenseDmg
