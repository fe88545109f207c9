import DenseDmg.Fault
import DenseDmg.Text.Letters
import DenseDmg.Decimal.Reading
import DenseDmg.Word

/-!
# Modulation and coding schemes

The control and single-carrier PHY has thirteen modulation and coding schemes.  Each has a
nominal rate, from which follows how long a frame occupies the air.
-/

namespace DenseDmg

/-- Nominal rates in bit/s, by scheme number. -/
def mcsRates : List Nat :=
  [27500000, 385000000, 770000000, 962500000, 1155000000, 1251250000, 1540000000, 1925000000,
    2310000000, 2502500000, 3080000000, 3850000000, 4620000000]

/-- What the preamble and header of every frame add to its air time, in nanoseconds. -/
def frameOverhead : Nat := 1891

/-- A modulation and coding scheme. -/
structure PhyMode where
  mcs : Nat
  mcs_lt : mcs < mcsRates.length
deriving DecidableEq

/-- `a / b` rounded up. -/
def ceilDiv (a b : Nat) : Nat := (a + b - 1) / b

namespace PhyMode

instance : Inhabited PhyMode := ⟨⟨12, by decide⟩⟩

/-- The scheme of a given number. -/
def ofMcs (n : Nat) : Except Fault PhyMode :=
  if h : n < mcsRates.length then .ok ⟨n, h⟩
  else .error (.unknownVariant "PHY mode" s!"DMG_MCS{n}")

/-- The nominal rate in bit/s. -/
def rate (m : PhyMode) : Nat := mcsRates.get ⟨m.mcs, m.mcs_lt⟩

end PhyMode

/-- How long `bytes` take at `rate` bit/s, in whole nanoseconds rounded up. -/
def transferNanos (bytes rate : Nat) : Nat :=
  ceilDiv (capped (bytes * 8 * 1000000000)) (max rate 1)

namespace PhyMode

/-- How long a frame with a payload of `bytes` occupies the air, in nanoseconds. -/
def airtime (m : PhyMode) (bytes : Nat) : Nat :=
  capped (transferNanos bytes m.rate + frameOverhead)

/-- The scheme that a name denotes, blank characters around it set aside. -/
def parse (s : String) : Except Fault PhyMode :=
  match (after? "DMG_MCS".toList (trim s.toList)).bind (readWord? 255) with
  | some n => ofMcs n
  | none => .error (.unknownVariant "PHY mode" s)

end PhyMode

end DenseDmg
