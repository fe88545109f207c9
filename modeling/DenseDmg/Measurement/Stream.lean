import DenseDmg.Fault

/-!
# Output streams

A stream takes lines, one by one.  Any write or flush may fail; a failed write leaves nothing in
the stream and is not counted.  Which operations fail is part of the stream, so that runs with
unreliable outputs can be followed too.
-/

namespace DenseDmg

structure Stream where
  name : String
  /-- How many lines have been taken. -/
  lines : Nat
  /-- The lines that were taken, first line first, unless the stream drops them. -/
  written : Array String
  /-- Whether the stream keeps what it takes. -/
  keeps : Bool
  /-- How many writes and flushes have been tried. -/
  operations : Nat
  /-- Whether the operation of a given number fails. -/
  fails : Nat → Bool

namespace Stream

/-- An empty stream on which nothing fails. -/
def fresh (name : String) : Stream := ⟨name, 0, #[], true, 0, fun _ => false⟩

/-- A stream that counts its lines and drops them. -/
def discard : Stream := { fresh "discard" with keeps := false }

instance : Inhabited Stream := ⟨discard⟩

/-- Let every further operation fail, or none.  A stream that drops its lines has nothing that
could break. -/
def setBroken (s : Stream) (broken : Bool) : Stream := { s with fails := fun _ => broken && s.keeps }

/-- Write a line.  The second part tells whether that worked. -/
def writeLine (s : Stream) (line : String) : Stream × Bool :=
  if s.fails s.operations then ({ s with operations := s.operations + 1 }, false)
  else
    ({ s with
        operations := s.operations + 1
        lines := s.lines + 1
        written := if s.keeps then s.written.push line else s.written }, true)

/-- Write lines up to the first that fails. -/
def writeLines (s : Stream) : List String → Stream × Bool
  | [] => (s, true)
  | line :: rest =>
    let (s, ok) := s.writeLine line
    if ok then s.writeLines rest else (s, false)

/-- Hand on everything written. -/
def flush (s : Stream) : Stream × Bool :=
  ({ s with operations := s.operations + 1 }, !s.fails s.operations)

/-- A description for diagnostics: name and number of lines. -/
def description (s : Stream) : String :=
  "OutputStream \x7b name: " ++ quoted s.name ++ ", lines: " ++ toString s.lines ++ " \x7d"

end Stream

end DenseDmg
