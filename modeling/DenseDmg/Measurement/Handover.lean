import DenseDmg.Measurement.Log

/-!
# Handing logs on

Both logs are held back in buffers and handed on to their files in chunks.  A chunk is handed on
when a piece of a line does not fit behind it any more, so that a line may be torn between two of
its pieces; what is left is handed on at the end of the run, the training log first.  The order
of the chunks matters where both logs go to one file, as each of them is written from the
beginning of the file on and over what the other has left there.
-/

namespace DenseDmg

/-- How many bytes of a log are held back at most. -/
def bufferBytes : Nat := 8192

inductive Log
  | training
  | quality
deriving DecidableEq, Inhabited

/-- A chunk of a log that is handed on. -/
structure Handover where
  log : Log
  text : String
deriving DecidableEq, Inhabited

/-- As many pieces from the front as fit into some room, and the others. -/
def tear : Nat → List (List Char) → List (List Char) × List (List Char)
  | _, [] => ([], [])
  | room, piece :: rest =>
    if room < piece.length then ([], piece :: rest)
    else
      let (front, back) := tear (room - piece.length) rest
      (piece :: front, back)

theorem tear_append (room : Nat) (pieces : List (List Char)) :
    (tear room pieces).1 ++ (tear room pieces).2 = pieces := by
  induction pieces generalizing room with
  | nil => rfl
  | cons piece rest ih =>
    unfold tear
    split
    · rfl
    · rw [List.cons_append, ih]

/-- Add a line to what is held back.  The second part is the chunk that has to be handed on for
it.  Log lines are far shorter than a buffer and made of one-byte characters. -/
def hold (held : String) (pieces : List (List Char)) : String × Option String :=
  let line := pieces ++ [['\n']]
  let (front, back) := tear (bufferBytes - held.utf8ByteSize) line
  let filled := held ++ String.ofList front.flatten
  if back.isEmpty then (filled, none) else (String.ofList back.flatten, some filled)

/-- The chunks of a run, in the order in which they are handed on, given what is held back of the
two logs. -/
def handoversFrom (training quality : String) : List LogRecord → List Handover
  | [] => [⟨.training, training⟩, ⟨.quality, quality⟩]
  | .training record :: rest =>
    match hold training record.pieces with
    | (held, none) => handoversFrom held quality rest
    | (held, some chunk) => ⟨.training, chunk⟩ :: handoversFrom held quality rest
  | .quality record :: rest =>
    match hold quality record.pieces with
    | (held, none) => handoversFrom training held rest
    | (held, some chunk) => ⟨.quality, chunk⟩ :: handoversFrom training held rest

/-- The chunks of a run with the given history, headers included. -/
def handovers (history : List LogRecord) : List Handover :=
  handoversFrom (trainingHeader ++ "\n") (qualityHeader ++ "\n") history

/-! ## Files -/

/-- A text with another one written over it, from a given byte of it on. -/
def writtenOver (before : String) (start : Nat) (text : String) : String :=
  if start = before.utf8ByteSize then before ++ text
  else
    let bytes := before.toUTF8
    let behind := bytes.extract (start + text.utf8ByteSize) bytes.size
    (String.fromUTF8? (bytes.extract 0 start ++ text.toUTF8 ++ behind)).getD before

/-- What a file holds after the given chunks, each of which is written where the one before it of
the same log has ended.  The text so far is given, and how far either log has got in it. -/
def mergedFrom (text : String) (training quality : Nat) : List Handover → String
  | [] => text
  | ⟨.training, chunk⟩ :: rest =>
    mergedFrom (writtenOver text training chunk) (training + chunk.utf8ByteSize) quality rest
  | ⟨.quality, chunk⟩ :: rest =>
    mergedFrom (writtenOver text quality chunk) training (quality + chunk.utf8ByteSize) rest

/-- What an empty file holds after the given chunks. -/
def merged (chunks : List Handover) : String := mergedFrom "" 0 0 chunks

end DenseDmg
