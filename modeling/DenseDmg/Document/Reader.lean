import DenseDmg.Document.Scan

/-!
# Reading documents

A reader takes one value of the type it expects off the front of a document.  Documents are read
from left to right, and the first fault met is the one reported: a value of another type is
reported where it stands, whatever follows it.

A record is read from an object, whose keys may come in any order and whose unknown keys are
skipped with their values, or from an array that lists the fields in order.  Reading starts from
a draft and replaces the fields that are given.
-/

namespace DenseDmg

namespace Document

/-- A reader of values of one type. -/
abbrev Reader (α : Type) := List Char → Scanned α

/-! ## Values that nobody reads -/

mutual

/-- Skip one value, nested as deeply as it may be. -/
def skipValue : Nat → List Char → Except DocumentFault (List Char)
  | 0, _ => .error .malformed
  | fuel + 1, cs =>
    match skipSpace cs with
    | [] => .error .truncated
    | '"' :: r => skipText r
    | '[' :: r =>
      match skipSpace r with
      | [] => .error .truncated
      | ']' :: r => .ok r
      | r => skipItems fuel r
    | '{' :: r =>
      match skipSpace r with
      | [] => .error .truncated
      | '}' :: r => .ok r
      | r => skipMembers fuel r
    | 'n' :: r => expectWord "ull".toList r
    | 't' :: r => expectWord "rue".toList r
    | 'f' :: r => expectWord "alse".toList r
    | '-' :: r => skipNumber r
    | c :: r => if isDecimalDigit c then skipNumber (c :: r) else .error .malformed

/-- Skip the items of an array up to its end; there is at least one. -/
def skipItems : Nat → List Char → Except DocumentFault (List Char)
  | 0, _ => .error .malformed
  | fuel + 1, cs =>
    match skipValue fuel cs with
    | .error f => .error f
    | .ok cs =>
      match skipSpace cs with
      | [] => .error .truncated
      | ',' :: r => skipItems fuel r
      | ']' :: r => .ok r
      | _ => .error .malformed

/-- Skip the members of an object up to its end; there is at least one. -/
def skipMembers : Nat → List Char → Except DocumentFault (List Char)
  | 0, _ => .error .malformed
  | fuel + 1, cs =>
    match skipSpace cs with
    | [] => .error .truncated
    | '"' :: r =>
      match skipText r with
      | .error f => .error f
      | .ok cs =>
        match skipSpace cs with
        | [] => .error .truncated
        | ':' :: r =>
          match skipValue fuel r with
          | .error f => .error f
          | .ok cs =>
            match skipSpace cs with
            | [] => .error .truncated
            | ',' :: r => skipMembers fuel r
            | '}' :: r => .ok r
            | _ => .error .malformed
        | _ => .error .malformed
    | _ => .error .malformed

end

/-- Skip one value.  A value takes at most two calls per character. -/
def skipAny (cs : List Char) : Except DocumentFault (List Char) := skipValue (2 * cs.length + 2) cs

/-! ## Values without parts -/

/-- A mismatch behind a scalar that was scanned, or the fault met in scanning it. -/
def mismatchAfter {α : Type} : Except DocumentFault α → DocumentFault
  | .ok _ => .mismatched
  | .error f => f

/-- The fault of a value that stands where another type is expected: a scalar must be well formed
to count as a mismatch, of an array or an object the first character is enough. -/
def mismatch (cs : List Char) : DocumentFault :=
  match cs with
  | [] => .truncated
  | 'n' :: r => mismatchAfter (expectWord "ull".toList r)
  | 't' :: r => mismatchAfter (expectWord "rue".toList r)
  | 'f' :: r => mismatchAfter (expectWord "alse".toList r)
  | '-' :: r => mismatchAfter (scanNumber true r)
  | '"' :: r => mismatchAfter (scanText r)
  | '[' :: _ => .mismatched
  | '{' :: _ => .mismatched
  | c :: r => if isDecimalDigit c then mismatchAfter (scanNumber false (c :: r)) else .malformed

def readBool : Reader Bool := fun cs =>
  match skipSpace cs with
  | 't' :: r => (expectWord "rue".toList r).map fun r => (true, r)
  | 'f' :: r => (expectWord "alse".toList r).map fun r => (false, r)
  | cs => .error (mismatch cs)

def readText : Reader String := fun cs =>
  match skipSpace cs with
  | '"' :: r => (scanText r).map fun (s, r) => (String.ofList s, r)
  | cs => .error (mismatch cs)

def readNumber : Reader Number := fun cs =>
  match skipSpace cs with
  | [] => .error .truncated
  | '-' :: r => scanNumber true r
  | c :: r => if isDecimalDigit c then scanNumber false (c :: r) else .error (mismatch (c :: r))

/-- A whole number from zero to a limit, written without point and exponent. -/
def readCount (limit : Nat) : Reader Nat := fun cs =>
  match readNumber cs with
  | .ok (.natural n, r) => if n ≤ limit then .ok (n, r) else .error .mismatched
  | .ok _ => .error .mismatched
  | .error f => .error f

def readDouble : Reader Float := fun cs =>
  (readNumber cs).map fun
    | (.natural n, r) => (countFloat n, r)
    | (.negative n, r) => (-(countFloat n), r)
    | (.real x, r) => (x, r)

/-! ## Lists -/

/-- The items of an array from one of them on, up to the end of the array. -/
def readItems {α : Type} (item : Reader α) : Nat → List Char → Scanned (List α)
  | 0, _ => .error .malformed
  | fuel + 1, cs =>
    match item cs with
    | .error f => .error f
    | .ok (a, cs) =>
      match skipSpace cs with
      | [] => .error .truncated
      | ']' :: r => .ok ([a], r)
      | ',' :: r =>
        match skipSpace r with
        | [] => .error .truncated
        | ']' :: _ => .error .malformed
        | r => (readItems item fuel r).map fun (as, r) => (a :: as, r)
      | _ => .error .malformed

/-- An array of values of one type. -/
def readList {α : Type} (item : Reader α) : Reader (List α) := fun cs =>
  match skipSpace cs with
  | '[' :: r =>
    match skipSpace r with
    | [] => .error .truncated
    | ']' :: r => .ok ([], r)
    | r => readItems item r.length r
  | cs => .error (mismatch cs)

/-! ## Records -/

/-- A field of a record: its key, and how a value for it is read into a draft. -/
structure Field (σ : Type) where
  key : String
  read : σ → Reader σ

/-- A field of a given type. -/
def Field.of {σ α : Type} (key : String) (read : Reader α) (set : σ → α → σ) : Field σ where
  key := key
  read := fun draft cs => (read cs).map fun (a, r) => (set draft a, r)

/-- A record type: its fields in order, and whether all of them must be given. -/
structure Shape (σ : Type) where
  fields : List (Field σ)
  complete : Bool

/-- The end of an object: all fields given, or not all of them needed. -/
def Shape.close {σ : Type} (shape : Shape σ) (seen : List String) (draft : σ) (cs : List Char) :
    Scanned σ :=
  if shape.complete && !shape.fields.all fun f => seen.contains f.key then .error .mismatched
  else .ok (draft, cs)

/--
The members of an object from the quote of a key on, up to the end of the object.  A known key
must not come twice; an unknown one is skipped.
-/
def readMembers {σ : Type} (shape : Shape σ) :
    Nat → List String → σ → List Char → Scanned σ
  | 0, _, _, _ => .error .malformed
  | fuel + 1, seen, draft, cs =>
    match cs with
    | '"' :: r =>
      match scanText r with
      | .error f => .error f
      | .ok (key, cs) =>
        let key := String.ofList key
        let field := shape.fields.find? fun f => f.key == key
        if field.isSome && seen.contains key then .error .mismatched
        else
          match skipSpace cs with
          | [] => .error .truncated
          | ':' :: r =>
            let value : Scanned σ := match field with
              | some field => field.read draft r
              | none => (skipAny r).map fun r => (draft, r)
            match value with
            | .error f => .error f
            | .ok (draft, cs) =>
              match skipSpace cs with
              | [] => .error .truncated
              | '}' :: r => shape.close (key :: seen) draft r
              | ',' :: r =>
                match skipSpace r with
                | [] => .error .truncated
                | r => readMembers shape fuel (key :: seen) draft r
              | _ => .error .malformed
          | _ => .error .malformed
    | _ => .error .malformed

/-- The end of an array that stands for a record and has no item left to read. -/
def closeArray {σ : Type} (draft : σ) (cs : List Char) : Scanned σ :=
  match skipSpace cs with
  | [] => .error .truncated
  | ']' :: r => .ok (draft, r)
  | _ => .error .malformed

/-- The items of an array that stand for fields, in the order of the fields.  `first` tells
whether the array has just been opened; an array may stop early if not all fields are needed. -/
def readPositional {σ : Type} (complete : Bool) :
    List (Field σ) → Bool → σ → List Char → Scanned σ
  | [], _, draft, cs => closeArray draft cs
  | field :: fields, first, draft, cs =>
    match skipSpace cs with
    | [] => .error .truncated
    | ']' :: r => if complete then .error .mismatched else .ok (draft, r)
    | c :: r =>
      let item : Except DocumentFault (List Char) :=
        if first then .ok (c :: r)
        else if c = ',' then
          match skipSpace r with
          | [] => .error .truncated
          | ']' :: _ => .error .malformed
          | r => .ok r
        else .error .malformed
      match item with
      | .error f => .error f
      | .ok cs =>
        match field.read draft cs with
        | .error f => .error f
        | .ok (draft, cs) => readPositional complete fields false draft cs

/-- A record, read into a draft. -/
def readRecord {σ : Type} (shape : Shape σ) (draft : σ) : Reader σ := fun cs =>
  match skipSpace cs with
  | '{' :: r =>
    match skipSpace r with
    | [] => .error .truncated
    | '}' :: r => shape.close [] draft r
    | r => readMembers shape r.length [] draft r
  | '[' :: r => readPositional shape.complete shape.fields true draft r
  | cs => .error (mismatch cs)

/-- A whole document, which holds one value and nothing else. -/
def readDocument {α : Type} (read : Reader α) (cs : List Char) : Except DocumentFault α :=
  match read cs with
  | .error f => .error f
  | .ok (a, rest) => if (skipSpace rest).isEmpty then .ok a else .error .malformed

end Document

end DenseDmg
