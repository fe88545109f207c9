import DenseDmg.Engine.Agenda

/-!
# The event loop

A simulator is a clock and an agenda.  Executing an event changes the world and asks the
simulator for something: to schedule further events, or to stop.  Events are executed one at a
time in the order of the agenda; a world that reports itself halted stops the simulator, and a
stopped simulator stays stopped, with an empty agenda.
-/

namespace DenseDmg

/-- What an event asks of the simulator. -/
inductive Request (ε : Type)
  /-- Schedule an event at an instant, or now if the instant is past. -/
  | atTime (due : Time) (event : ε)
  /-- Schedule an event some time from now. -/
  | afterDelay (delay : Time) (event : ε)
  | stop
deriving DecidableEq

structure Simulator (ε : Type) where
  now : Time
  /-- The next position in the order of scheduling. -/
  nextSeq : Nat
  /-- How many events have been executed. -/
  executed : Nat
  stopped : Bool
  pending : List (Entry ε)

/-- How events act on a world: what an event does, seen from the state of the simulator in which
it is executed, and when a world is halted. -/
structure Behaviour (ε ω : Type) where
  act : Simulator ε → ε → ω → ω × List (Request ε)
  halted : ω → Bool

namespace Simulator

variable {ε ω : Type}

/-- A simulator at time zero with nothing to do. -/
def fresh : Simulator ε := ⟨.zero, 0, 0, false, []⟩

instance : Inhabited (Simulator ε) := ⟨fresh⟩

/-- Schedule an event at an instant, or now if the instant is past.  A stopped simulator takes
no more events. -/
def schedule (s : Simulator ε) (due : Time) (event : ε) : Simulator ε :=
  if s.stopped then s
  else
    { s with
      nextSeq := s.nextSeq + 1
      pending := Agenda.insert ⟨max due s.now, s.nextSeq, event⟩ s.pending }

/-- Schedule an event some time from now. -/
def scheduleIn (s : Simulator ε) (delay : Time) (event : ε) : Simulator ε :=
  s.schedule (s.now + delay) event

/-- Stop for good, and drop what is pending. -/
def stop (s : Simulator ε) : Simulator ε := { s with stopped := true, pending := [] }

/-- Do what an event asks for. -/
def serve (s : Simulator ε) : Request ε → Simulator ε
  | .atTime due event => s.schedule due event
  | .afterDelay delay event => s.scheduleIn delay event
  | .stop => s.stop

/-- Execute an entry that has been taken off the agenda. -/
def step (b : Behaviour ε ω) (entry : Entry ε) (rest : List (Entry ε)) (s : Simulator ε)
    (w : ω) : Simulator ε × ω :=
  let s := { s with now := entry.due, executed := s.executed + 1, pending := rest }
  let (w, requests) := b.act s entry.event w
  let s := requests.foldl serve s
  (if b.halted w then s.stop else s, w)

/-- The clock at the end of a run up to `limit`: a run that was stopped leaves it alone. -/
def settle (limit : Time) (s : Simulator ε) : Simulator ε :=
  if s.stopped then s else { s with now := max s.now limit }

/--
Execute what is due up to and including `limit`, until nothing of that is left or the simulator
is stopped.  `none` if that takes more than `fuel` events.
-/
def runUntil (b : Behaviour ε ω) (limit : Time) :
    Nat → Simulator ε → ω → Option (Simulator ε × ω)
  | fuel, s, w =>
    match s.pending with
    | [] => some (s.settle limit, w)
    | entry :: rest =>
      if limit < entry.due then some (s.settle limit, w)
      else
        match fuel with
        | 0 => none
        | fuel + 1 =>
          let (s, w) := step b entry rest s w
          if s.stopped then some (s, w) else runUntil b limit fuel s w

/-- Execute what is pending until nothing is left or the simulator is stopped.  `none` if that
takes more than `fuel` events. -/
def run (b : Behaviour ε ω) : Nat → Simulator ε → ω → Option (Simulator ε × ω)
  | fuel, s, w =>
    match s.pending with
    | [] => some (s, w)
    | entry :: rest =>
      match fuel with
      | 0 => none
      | fuel + 1 =>
        let (s, w) := step b entry rest s w
        if s.stopped then some (s, w) else run b fuel s w

/-- As many events as a run may execute: more than any run will in practice. -/
def eventLimit : Nat := 0x4000000000000000

end Simulator

end DenseDmg
