import DenseDmg.Network.LinkEvent

/-!
# Forced retraining

Every associated station retrains its beams after a fixed number of data transfer intervals.  The
intervals in which it is not associated do not count, and losing the association does not reset
its count.
-/

namespace DenseDmg

/-- The largest count, a 16-bit word. -/
def maxCount : Nat := 65535

structure RetrainingTrigger where
  /-- How many intervals make a retraining due; at least one. -/
  threshold : Nat
  /-- Intervals counted since the last retraining, by address. -/
  counts : List (MacAddress × Nat)
  /-- Retrainings asked for. -/
  fired : Nat
deriving DecidableEq, Inhabited

namespace RetrainingTrigger

def ofThreshold (threshold : Nat) : RetrainingTrigger := ⟨max threshold 1, [], 0⟩

/-- The count of an address; zero for one that never appeared. -/
def count (t : RetrainingTrigger) (address : MacAddress) : Nat :=
  (t.counts.lookup address).getD 0

def setCount (t : RetrainingTrigger) (address : MacAddress) (n : Nat) : RetrainingTrigger :=
  if (t.counts.lookup address).isSome then
    { t with counts := t.counts.map fun e => if e.1 = address then (address, n) else e }
  else { t with counts := t.counts ++ [(address, n)] }

/-- Let an address begin at zero. -/
def register (t : RetrainingTrigger) (address : MacAddress) : RetrainingTrigger :=
  t.setCount address 0

/-- Count the start of an interval.  The second part tells whether a retraining is due. -/
def onTransferStarted (t : RetrainingTrigger) (event : TransferStarted) :
    RetrainingTrigger × Bool :=
  if !event.associated then (t, false)
  else
    let n := min (t.count event.address + 1) maxCount
    if n < t.threshold then (t.setCount event.address n, false)
    else ({ t.setCount event.address 0 with fired := t.fired + 1 }, true)

end RetrainingTrigger

end DenseDmg
