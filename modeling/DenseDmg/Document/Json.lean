import DenseDmg.Decimal.Layout
import DenseDmg.Text.Hex

/-!
# Writing documents

`Json` is the tree of a document to be written.  `Json.compact` writes it without any space,
`Json.pretty` with one member a line and two spaces of indentation per level.
-/

namespace DenseDmg

inductive Json
  | null
  | bool (b : Bool)
  | count (n : Nat)
  | double (x : Float)
  | text (s : String)
  | array (items : List Json)
  | object (members : List (String × Json))
deriving Inhabited

namespace Json

/-! ## Texts -/

/-- How one character stands inside a text: quotes, backslashes and control characters are
escaped, everything else stands for itself. -/
def escapedChar (c : Char) : List Char :=
  if c = '"' then ['\\', '"']
  else if c = '\\' then ['\\', '\\']
  else if c = '\n' then ['\\', 'n']
  else if c = '\r' then ['\\', 'r']
  else if c = '\t' then ['\\', 't']
  else if c = '\x08' then ['\\', 'b']
  else if c = '\x0c' then ['\\', 'f']
  else if c < ' ' then '\\' :: 'u' :: hexDigits 4 c.toNat
  else [c]

def quotedText (s : String) : List Char := '"' :: s.toList.flatMap escapedChar ++ ['"']

/-- The text of a value that has no parts. -/
def leaf : Json → List Char
  | null => "null".toList
  | bool true => "true".toList
  | bool false => "false".toList
  | count n => Nat.toDigits 10 n
  | double x => documentFloat x
  | text s => quotedText s
  | array _ => ['[', ']']
  | object _ => ['{', '}']

/-! ## Without space -/

mutual

def compact : Json → List Char
  | array items => '[' :: compactItems items ++ [']']
  | object members => '{' :: compactMembers members ++ ['}']
  | v => leaf v

def compactItems : List Json → List Char
  | [] => []
  | [v] => compact v
  | v :: rest => compact v ++ ',' :: compactItems rest

def compactMembers : List (String × Json) → List Char
  | [] => []
  | [(k, v)] => quotedText k ++ ':' :: compact v
  | (k, v) :: rest => quotedText k ++ ':' :: compact v ++ ',' :: compactMembers rest

end

/-! ## On lines of their own -/

/-- A new line, indented by two spaces per level. -/
def lineBreak (level : Nat) : List Char := '\n' :: List.replicate (2 * level) ' '

mutual

def prettyAt (level : Nat) : Json → List Char
  | array (v :: rest) =>
    '[' :: prettyItems (level + 1) (v :: rest) ++ lineBreak level ++ [']']
  | object (m :: rest) =>
    '{' :: prettyMembers (level + 1) (m :: rest) ++ lineBreak level ++ ['}']
  | v => leaf v

def prettyItems (level : Nat) : List Json → List Char
  | [] => []
  | [v] => lineBreak level ++ prettyAt level v
  | v :: rest => lineBreak level ++ prettyAt level v ++ ',' :: prettyItems level rest

def prettyMembers (level : Nat) : List (String × Json) → List Char
  | [] => []
  | [(k, v)] => lineBreak level ++ quotedText k ++ ':' :: ' ' :: prettyAt level v
  | (k, v) :: rest =>
    lineBreak level ++ quotedText k ++ ':' :: ' ' :: prettyAt level v ++
      ',' :: prettyMembers level rest

end

def pretty (v : Json) : String := String.ofList (prettyAt 0 v)

end Json

end DenseDmg
