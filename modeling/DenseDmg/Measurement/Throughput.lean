import DenseDmg.Measurement.Pair

/-!
# The throughput table

A sample reads the receive counter of every pair, turns the growth since the last sample into
Mbit/s and adds a row to the table.  A row is written in columns of fixed width for people or
with commas for programs.
-/

namespace DenseDmg

/-- The width of a column; longer entries are not cut. -/
def columnWidth : Nat := 12

/-- A text filled up with spaces to the width of a column. -/
def inColumn (cs : List Char) : List Char := cs ++ List.replicate (columnWidth - cs.length) ' '

structure ThroughputRow where
  windowStart : Time
  time : Time
  /-- In Mbit/s, in the order of registration. -/
  perPair : List Float
  total : Float
deriving Inhabited

namespace ThroughputRow

/-- Seconds with one place. -/
def tenths (t : Time) : List Char := fixedFloat 1 t.seconds

def human (r : ThroughputRow) : String :=
  String.ofList
    (inColumn (tenths r.windowStart ++ [' ', '-', ' '] ++ tenths r.time) ++
      (r.perPair ++ [r.total]).flatMap fun v => inColumn (throughputText v))

def csv (r : ThroughputRow) : String :=
  String.ofList
    (tenths r.time ++ (r.perPair ++ [r.total]).flatMap fun v => ',' :: throughputText v)

/-- A row as the table shows it. -/
def text (asCsv : Bool) (r : ThroughputRow) : String := if asCsv then r.csv else r.human

end ThroughputRow

/-- The two lines above the table for people. -/
def tableHeader (pairs : Nat) : List String :=
  let titles := "Time [s]" :: (List.range pairs).map (fun i => s!"Pair ({i + 1})") ++ ["Total"]
  ["Application Layer Throughput per Communicating Pair [Mbps]",
    String.ofList (titles.flatMap fun t => inColumn t.toList)]

/-! ## Sampling -/

/-- The divisor that turns bits per period into Mbit/s: the period in microseconds, or the least
normal double for an empty period. -/
def sampleScale (period : Time) : Float :=
  let micros := countFloat period.nanos / 1000.0
  let least := Float.ofBits 0x0010000000000000
  if least < micros then micros else least

/-- Mbit/s that the growth of a receive counter amounts to. -/
def sampledThroughput (scale : Float) (growth : Nat) : Float := countFloat growth * 8.0 / scale

/--
Sample the pairs from column `index` on.  The first counter that shrank ends the sample with a
fault; that pair and those behind it stay as they were.
-/
def samplePairs (scale : Float) (received : SinkId → Nat) :
    Nat → List Pair → List Pair × Except Fault (List Float)
  | _, [] => ([], .ok [])
  | index, p :: rest =>
    let current := received p.sink
    if current < p.lastTotal then
      (p :: rest, .error (.counterRegression index p.lastTotal current))
    else
      let throughput := sampledThroughput scale (current - p.lastTotal)
      let (rest, answer) := samplePairs scale received (index + 1) rest
      (p.observe current throughput :: rest, answer.map (throughput :: ·))

/-- A sum of doubles from left to right; the sum of none is negative zero. -/
def sumFloats (xs : List Float) : Float := xs.foldl (· + ·) (-0.0)

structure Sampler where
  period : Time
  /-- Samples completed. -/
  rows : Nat
deriving DecidableEq, Inhabited

namespace Sampler

def scale (s : Sampler) : Float := sampleScale s.period

/-- Sample all pairs. -/
def sample (s : Sampler) (now : Time) (pairs : PairRegistry) (received : SinkId → Nat) :
    Sampler × PairRegistry × Except Fault ThroughputRow :=
  match samplePairs s.scale received 0 pairs.pairs with
  | (ps, .error f) => (s, ⟨ps⟩, .error f)
  | (ps, .ok values) =>
    ({ s with rows := s.rows + 1 }, ⟨ps⟩, .ok ⟨now - s.period, now, values, sumFloats values⟩)

end Sampler

end DenseDmg
