import DenseDmg.Decimal.Layout
import DenseDmg.Word

/-!
# Simulated time

Instants and lengths of simulated time are whole nanoseconds that fit into a 64-bit word.  Sums
and unit conversions stop at the last such time, differences at zero.
-/

namespace DenseDmg

/-- An instant, or a length, of simulated time in whole nanoseconds. -/
structure Time where
  nanos : Nat
  nanos_le : nanos ≤ lastWord
deriving DecidableEq

namespace Time

@[ext] theorem ext {a b : Time} (h : a.nanos = b.nanos) : a = b := by
  cases a; cases b; simp_all

/-- The time of `n` nanoseconds, or the last time if `n` is more than that. -/
def ofNanos (n : Nat) : Time := ⟨min n lastWord, Nat.min_le_right ..⟩

def zero : Time := ⟨0, Nat.zero_le _⟩

def last : Time := ⟨lastWord, Nat.le_refl _⟩

instance : Inhabited Time := ⟨zero⟩

def ofMicros (n : Nat) : Time := ofNanos (n * 1000)

def ofMillis (n : Nat) : Time := ofNanos (n * 1000000)

def ofSecs (n : Nat) : Time := ofNanos (n * 1000000000)

/-- Nothing before zero, nothing that is no number, and otherwise the nearest nanosecond, a half
going up. -/
def ofSeconds (s : Float) : Time :=
  if s.isFinite && 0 < s then ofNanos (roundedWord (s * 1e9)) else zero

/-- Whole microseconds. -/
def micros (t : Time) : Nat := t.nanos / 1000

def seconds (t : Time) : Float := countFloat t.nanos / 1e9

/-- Seconds with six places. -/
def text (t : Time) : String := String.ofList (fixedFloat 6 t.seconds ++ ['s'])

/-! ## Order and saturating arithmetic -/

instance : LE Time := ⟨fun a b => a.nanos ≤ b.nanos⟩

instance : LT Time := ⟨fun a b => a.nanos < b.nanos⟩

instance (a b : Time) : Decidable (a ≤ b) := inferInstanceAs (Decidable (a.nanos ≤ b.nanos))

instance (a b : Time) : Decidable (a < b) := inferInstanceAs (Decidable (a.nanos < b.nanos))

instance : Max Time := maxOfLe

instance : Add Time := ⟨fun a b => ofNanos (a.nanos + b.nanos)⟩

instance : Sub Time := ⟨fun a b => ofNanos (a.nanos - b.nanos)⟩

/-- A length repeated `k` times, stopping at the last time. -/
def repeated (t : Time) (k : Nat) : Time := ofNanos (t.nanos * k)

/-- A length repeated `k` times as a 64-bit product: what does not fit into the word is cut off
at its top. -/
def repeatedWord (t : Time) (k : Nat) : Time := ofNanos (t.nanos * k % (lastWord + 1))

theorem le_def {a b : Time} : a ≤ b ↔ a.nanos ≤ b.nanos := Iff.rfl

theorem lt_def {a b : Time} : a < b ↔ a.nanos < b.nanos := Iff.rfl

theorem nanos_ofNanos (n : Nat) : (ofNanos n).nanos = min n lastWord := rfl

theorem nanos_add (a b : Time) : (a + b).nanos = min (a.nanos + b.nanos) lastWord := rfl

theorem nanos_sub (a b : Time) : (a - b).nanos = a.nanos - b.nanos := by
  show min (a.nanos - b.nanos) lastWord = a.nanos - b.nanos
  have := a.nanos_le
  omega

theorem nanos_max (a b : Time) : (max a b).nanos = max a.nanos b.nanos := by
  show (if a ≤ b then b else a).nanos = _
  simp only [le_def]
  split <;> omega

end Time

end DenseDmg
