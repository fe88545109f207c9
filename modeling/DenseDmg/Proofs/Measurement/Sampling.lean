import DenseDmg.Proofs.Measurement.Course
import Mathlib.Algebra.GroupWithZero.Nat

/-!
# The bytes that samples account for

A sample goes through the pairs in the order of their columns and stops at the first one whose
receive counter has shrunk.  `Samplings period registry cs sampler pairs` says that the calls `cs`
of a sampler, the latest one first, led from the registry to `pairs`; the counters that they read
are arbitrary, and any of the calls may have failed.

* `samplePairs_eq`: the pairs in front of the first counter that shrank are sampled, the others are
  left alone.
* `Sampling.behaves`: when a call fails, with which fault, and what it does to every pair.
* `Samplings.accounting`: the growths that were accumulated for a pair add up to what it read last.
-/

namespace DenseDmg

/-! ## One sample -/

namespace Pair

variable (scale : Float) (received : SinkId → Nat) (p : Pair)

/-- Whether the receive counter of a pair has not shrunk since the last sample. -/
def grew : Bool := decide (p.lastTotal ≤ received p.sink)

/-- By how many bytes the receive counter has grown since the last sample. -/
def growth : Nat := received p.sink - p.lastTotal

/-- The pair when it has been sampled. -/
def sampled : Pair :=
  p.observe (received p.sink) (sampledThroughput scale (p.growth received))

end Pair

/-- The pairs in front of the first counter that shrank are sampled.  The fault names the column of
that counter, what was read there last and what is read now. -/
theorem samplePairs_eq (scale : Float) (received : SinkId → Nat) (index : Nat)
    (pairs : List Pair) :
    samplePairs scale received index pairs =
      ((pairs.takeWhile (Pair.grew received)).map (Pair.sampled scale received) ++
          pairs.dropWhile (Pair.grew received),
        match pairs.dropWhile (Pair.grew received) with
        | [] => .ok (pairs.map fun p => sampledThroughput scale (p.growth received))
        | p :: _ => .error (.counterRegression
            (index + (pairs.takeWhile (Pair.grew received)).length) p.lastTotal
            (received p.sink))) := by
  induction pairs generalizing index with
  | nil => rfl
  | cons p rest ih =>
    unfold samplePairs
    dsimp only
    by_cases grew : p.lastTotal ≤ received p.sink
    · have kept : p.grew received = true := decide_eq_true grew
      rw [if_neg (Nat.not_lt.2 grew), ih, List.takeWhile_cons_of_pos kept,
        List.dropWhile_cons_of_pos kept]
      refine Prod.ext rfl ?_
      dsimp only
      split
      · rfl
      · rw [List.length_cons, Nat.add_assoc, Nat.add_comm 1]
        rfl
    · have shrank : ¬ p.grew received = true := by simpa [Pair.grew] using grew
      rw [if_pos (Nat.lt_of_not_le grew), List.takeWhile_cons_of_neg shrank,
        List.dropWhile_cons_of_neg shrank]
      rfl

/-! ## Calls -/

/-- A call of a sampler, with the state in which it is made. -/
structure Sampling where
  sampler : Sampler
  pairs : PairRegistry
  now : Time
  /-- What the receivers have counted. -/
  received : SinkId → Nat

namespace Sampling

variable {c : Sampling}

/-- What a call leaves and answers. -/
def outcome (c : Sampling) : Sampler × PairRegistry × Except Fault ThroughputRow :=
  c.sampler.sample c.now c.pairs c.received

/-- The sampler after a call. -/
def after (c : Sampling) : Sampler := c.outcome.1

/-- The pairs after a call. -/
def left (c : Sampling) : PairRegistry := c.outcome.2.1

def answer (c : Sampling) : Except Fault ThroughputRow := c.outcome.2.2

def succeeds (c : Sampling) : Bool := c.answer.isOk

/-- The pairs that a call samples: those in front of the first counter that shrank. -/
def reached (c : Sampling) : List Pair := c.pairs.pairs.takeWhile (Pair.grew c.received)

/-- The pairs that a call leaves alone. -/
def spared (c : Sampling) : List Pair := c.pairs.pairs.dropWhile (Pair.grew c.received)

/-- The growth that a call accumulates for the pair of a column, if it samples that pair. -/
def growth? (c : Sampling) (column : Nat) : Option Nat :=
  c.reached[column]?.map (Pair.growth c.received)

/-- The first counter that shrank is the one of this column, which belongs to this pair. -/
structure Regresses (c : Sampling) (column : Nat) (p : Pair) : Prop where
  at_column : c.pairs.pairs[column]? = some p
  shrank : c.received p.sink < p.lastTotal
  first : ∀ i q, i < column → c.pairs.pairs[i]? = some q → q.lastTotal ≤ c.received q.sink

theorem reached_append_spared (c : Sampling) : c.reached ++ c.spared = c.pairs.pairs :=
  List.takeWhile_append_dropWhile

theorem pairs_left (c : Sampling) :
    c.left.pairs = c.reached.map (Pair.sampled c.sampler.scale c.received) ++ c.spared := by
  unfold left outcome
  rw [Sampler.pairs_sample, samplePairs_eq]
  rfl

theorem le_of_mem_reached {p : Pair} (mem : p ∈ c.reached) : p.lastTotal ≤ c.received p.sink :=
  of_decide_eq_true (List.all_eq_true.1 (List.all_takeWhile (p := Pair.grew c.received)) p mem)

/-- The first pair that is left alone is the one whose counter shrank. -/
theorem regresses_of_spared {p : Pair} {rest : List Pair} (spared : c.spared = p :: rest) :
    c.Regresses c.reached.length p := by
  have split := c.reached_append_spared
  rw [spared] at split
  refine ⟨?_, ?_, fun i q before at_i => ?_⟩
  · rw [← split, List.getElem?_append_right (Nat.le_refl _), Nat.sub_self]
    rfl
  · have head := List.head?_dropWhile_not (Pair.grew c.received) c.pairs.pairs
    rw [show c.pairs.pairs.dropWhile (Pair.grew c.received) = p :: rest from spared] at head
    simpa [Pair.grew] using head
  · rw [← split, List.getElem?_append_left before] at at_i
    exact le_of_mem_reached (List.mem_of_getElem? at_i)

/-- There is one first counter that shrank. -/
theorem Regresses.unique {i j : Nat} {p q : Pair} (first : c.Regresses i p)
    (second : c.Regresses j q) : i = j ∧ p = q := by
  have le {i j : Nat} {p q : Pair} (first : c.Regresses i p) (second : c.Regresses j q) :
      i ≤ j := by
    apply Nat.le_of_not_lt
    intro before
    exact Nat.not_lt.2 (first.first j q before second.at_column) second.shrank
  obtain rfl := Nat.le_antisymm (le first second) (le second first)
  exact ⟨rfl, Option.some.inj (first.at_column.symm.trans second.at_column)⟩

/-- Nothing is left alone if no counter shrank, and everything from the first that did. -/
theorem Regresses.length_reached {i : Nat} {p : Pair} (regresses : c.Regresses i p) :
    c.reached.length = i := by
  cases spared : c.spared with
  | nil =>
    have all := c.reached_append_spared
    rw [spared, List.append_nil] at all
    have mem := List.mem_of_getElem? regresses.at_column
    rw [← all] at mem
    exact absurd regresses.shrank (Nat.not_lt.2 (le_of_mem_reached mem))
  | cons q rest => exact ((regresses_of_spared spared).unique regresses).1

/-- A call succeeds if no counter shrank.  Otherwise its fault tells of the first one that did. -/
theorem answer_eq (c : Sampling) :
    (c.spared = [] ∧ c.after = { c.sampler with rows := c.sampler.rows + 1 } ∧
        ∃ row, c.answer = .ok row ∧
          row.perPair = c.pairs.pairs.map fun p =>
            sampledThroughput c.sampler.scale (p.growth c.received)) ∨
      ∃ p rest, c.spared = p :: rest ∧ c.after = c.sampler ∧
        c.answer =
          .error (.counterRegression c.reached.length p.lastTotal (c.received p.sink)) := by
  unfold answer after outcome Sampler.sample
  rw [samplePairs_eq, Nat.zero_add]
  cases spared : c.spared with
  | nil =>
    rw [show c.pairs.pairs.dropWhile (Pair.grew c.received) = [] from spared]
    exact .inl ⟨rfl, rfl, _, rfl, rfl⟩
  | cons p rest =>
    rw [show c.pairs.pairs.dropWhile (Pair.grew c.received) = p :: rest from spared]
    exact .inr ⟨p, rest, rfl, rfl, rfl⟩

/-- What a call of a sampler does. -/
structure Behaves (c : Sampling) : Prop where
  /-- It fails if some counter is below what its pair read last. -/
  fails_iff : c.succeeds = false ↔ ∃ p ∈ c.pairs.pairs, c.received p.sink < p.lastTotal
  /-- Its fault tells of the first such column. -/
  fault_iff : ∀ f, c.answer = .error f ↔ ∃ column p, c.Regresses column p ∧
    f = .counterRegression column p.lastTotal (c.received p.sink)
  /-- A row shows the growth of every pair. -/
  row : ∀ row, c.answer = .ok row → row.perPair = c.pairs.pairs.map fun p =>
    sampledThroughput c.sampler.scale (p.growth c.received)
  size : c.left.size = c.pairs.size
  /-- Every pair stays in its column and reads no less than before.  It reads its counter if the
  call succeeds; if it fails, the pair that it fails at and all behind it stay as they are. -/
  pairs : ∀ column p, c.pairs.pairs[column]? = some p →
    ∃ q, c.left.pairs[column]? = some q ∧ q.setup = p.setup ∧ p.lastTotal ≤ q.lastTotal ∧
      (c.succeeds = true → q.lastTotal = c.received q.sink) ∧
      ∀ first r, c.Regresses first r → first ≤ column → q = p

/-- The pair of a column after a call: sampled if the call reaches it, and otherwise as before. -/
theorem getElem?_left (c : Sampling) {column : Nat} {p : Pair}
    (at_column : c.pairs.pairs[column]? = some p) :
    (column < c.reached.length ∧ c.reached[column]? = some p ∧
        c.left.pairs[column]? = some (p.sampled c.sampler.scale c.received)) ∨
      (c.reached.length ≤ column ∧ c.reached[column]? = none ∧
        c.left.pairs[column]? = some p) := by
  rw [c.pairs_left]
  rw [← c.reached_append_spared] at at_column
  rcases Nat.lt_or_ge column c.reached.length with before | behind
  · rw [List.getElem?_append_left before] at at_column
    refine .inl ⟨before, at_column, ?_⟩
    rw [List.getElem?_append_left (by rwa [List.length_map]), List.getElem?_map, at_column]
    rfl
  · rw [List.getElem?_append_right behind] at at_column
    refine .inr ⟨behind, List.getElem?_eq_none behind, ?_⟩
    rw [List.getElem?_append_right (by rwa [List.length_map]), List.length_map, at_column]

theorem behaves (c : Sampling) : c.Behaves := by
  have size : c.left.size = c.pairs.size := by
    rw [PairRegistry.size, PairRegistry.size, c.pairs_left, ← c.reached_append_spared,
      List.length_append, List.length_append, List.length_map]
  obtain ⟨all, -, row, answer, perPair⟩ | ⟨r, rest, spared, -, answer⟩ := c.answer_eq
  · -- No counter shrank.
    have whole : c.reached = c.pairs.pairs := by simpa [all] using c.reached_append_spared
    have grew : ∀ p ∈ c.pairs.pairs, p.lastTotal ≤ c.received p.sink :=
      fun p mem => le_of_mem_reached (whole ▸ mem)
    have none : ∀ column p, ¬ c.Regresses column p := fun column p regresses =>
      Nat.not_lt.2 (grew p (List.mem_of_getElem? regresses.at_column)) regresses.shrank
    have succeeds : c.succeeds = true := by rw [Sampling.succeeds, answer]; rfl
    refine ⟨?_, ?_, ?_, size, ?_⟩
    · rw [succeeds]
      exact ⟨nofun, fun ⟨p, mem, shrank⟩ => absurd shrank (Nat.not_lt.2 (grew p mem))⟩
    · intro f
      rw [answer]
      exact ⟨nofun, fun ⟨column, p, regresses, _⟩ => absurd regresses (none column p)⟩
    · intro row' same
      rw [answer] at same
      cases same
      exact perPair
    · intro column p at_column
      obtain ⟨-, -, sampled⟩ | ⟨behind, -, -⟩ := c.getElem?_left at_column
      · exact ⟨_, sampled, rfl, grew p (List.mem_of_getElem? at_column), fun _ => rfl,
          fun first r regresses => absurd regresses (none first r)⟩
      · have inside := (List.getElem?_eq_some_iff.1 at_column).1
        rw [whole] at behind
        exact absurd inside (Nat.not_lt.2 behind)
  · -- The counter of `r` is the first that shrank.
    have regresses := regresses_of_spared spared
    have fails : c.succeeds = false := by rw [Sampling.succeeds, answer]; rfl
    refine ⟨?_, ?_, ?_, size, ?_⟩
    · exact ⟨fun _ => ⟨r, List.mem_of_getElem? regresses.at_column, regresses.shrank⟩,
        fun _ => fails⟩
    · intro f
      rw [answer]
      constructor
      · rintro ⟨⟩
        exact ⟨_, r, regresses, rfl⟩
      · rintro ⟨column, p, regresses', rfl⟩
        obtain ⟨rfl, rfl⟩ := regresses.unique regresses'
        rfl
    · intro row' same
      rw [answer] at same
      cases same
    · intro column p at_column
      obtain ⟨before, inside, sampled⟩ | ⟨-, -, kept⟩ := c.getElem?_left at_column
      · refine ⟨_, sampled, rfl, le_of_mem_reached (List.mem_of_getElem? inside), ?_, ?_⟩
        · rw [fails]
          exact nofun
        · intro first r' regresses' behind
          rw [regresses'.length_reached] at before
          exact absurd before (Nat.not_lt.2 behind)
      · refine ⟨p, kept, rfl, Nat.le_refl _, ?_, fun _ _ _ _ => rfl⟩
        rw [fails]
        exact nofun

end Sampling

/-! ## All calls of a sampler -/

/-- `Samplings period registry cs sampler pairs`: a new sampler was called with the registry and
then with what its calls left of it.  The calls `cs`, the latest one first, led to `sampler` and
`pairs`, whatever the receivers counted and whether or not they succeeded. -/
inductive Samplings (period : Time) (registry : PairRegistry) :
    List Sampling → Sampler → PairRegistry → Prop
  | start : Samplings period registry [] ⟨period, 0⟩ registry
  | call {cs : List Sampling} (c : Sampling) : Samplings period registry cs c.sampler c.pairs →
    Samplings period registry (c :: cs) c.after c.left

/-- The growths that calls accumulated for the pair of a column, the earliest one first. -/
def growths (cs : List Sampling) (column : Nat) : List Nat :=
  cs.reverse.filterMap fun c => c.growth? column

/-- What a pair keeps is what was accumulated for it: what it read last is the sum of the growths,
and its throughput the sum of what they amount to. -/
structure Pair.Accounts (scale : Float) (growths : List Nat) (p : Pair) : Prop where
  lastTotal : growths.sum = p.lastTotal
  samples : growths.length = p.samples
  throughputSum :
    growths.foldl (fun sum growth => sum + sampledThroughput scale growth) 0.0 = p.throughputSum

/-- Sampling a pair accumulates its growth. -/
theorem Pair.Accounts.sampled {scale : Float} {growths : List Nat} {p : Pair}
    {received : SinkId → Nat} (accounts : p.Accounts scale growths)
    (grew : p.lastTotal ≤ received p.sink) :
    (p.sampled scale received).Accounts scale (growths ++ [p.growth received]) where
  lastTotal := by
    rw [List.sum_append, accounts.lastTotal, List.sum_singleton]
    exact Nat.add_sub_of_le grew
  samples := by
    rw [List.length_append, accounts.samples]
    rfl
  throughputSum := by
    rw [List.foldl_append, accounts.throughputSum]
    rfl

namespace Samplings

variable {period : Time} {registry pairs : PairRegistry} {cs : List Sampling} {sampler : Sampler}

/-- The sampler keeps its period and counts the calls that succeed. -/
theorem sampler_eq (calls : Samplings period registry cs sampler pairs) :
    sampler = ⟨period, (cs.filter Sampling.succeeds).length⟩ := by
  induction calls with
  | start => rfl
  | call c _ ih =>
    obtain ⟨-, after, row, answer, -⟩ | ⟨p, rest, -, after, answer⟩ := c.answer_eq
    · have succeeds : c.succeeds = true := by rw [Sampling.succeeds, answer]; rfl
      rw [after, ih, List.filter_cons_of_pos succeeds, List.length_cons]
    · have fails : ¬ c.succeeds = true := by rw [Sampling.succeeds, answer]; exact nofun
      rw [after, ih, List.filter_cons_of_neg fails]

theorem growths_cons (c : Sampling) (cs : List Sampling) (column : Nat) :
    growths (c :: cs) column = growths cs column ++ (c.growth? column).toList := by
  rw [growths, List.reverse_cons, List.filterMap_append, ← growths]
  cases grown : c.growth? column <;> simp [grown]

/-- What every pair keeps is what was accumulated for it. -/
theorem accounts (registered : registry.Registered)
    (calls : Samplings period registry cs sampler pairs) {column : Nat} {p : Pair}
    (at_column : pairs.pairs[column]? = some p) :
    p.Accounts (sampleScale period) (growths cs column) := by
  induction calls generalizing p with
  | start =>
    rw [← registered.setup_eq p (List.mem_of_getElem? at_column)]
    exact ⟨rfl, rfl, rfl⟩
  | call c before ih =>
    have scale : c.sampler.scale = sampleScale period := by
      rw [before.sampler_eq]
      rfl
    -- The pair of the column before the call.
    obtain ⟨q, at_column'⟩ : ∃ q, c.pairs.pairs[column]? = some q := by
      have inside := (List.getElem?_eq_some_iff.1 at_column).1
      have size : c.left.pairs.length = c.pairs.pairs.length := c.behaves.size
      exact ⟨_, List.getElem?_eq_getElem (size ▸ inside)⟩
    have accounts := ih at_column'
    rw [growths_cons, Sampling.growth?]
    obtain ⟨-, inside, sampled⟩ | ⟨-, outside, kept⟩ := c.getElem?_left at_column'
    · cases Option.some.inj (at_column.symm.trans sampled)
      rw [inside, scale]
      exact accounts.sampled (Sampling.le_of_mem_reached (List.mem_of_getElem? inside))
    · cases Option.some.inj (at_column.symm.trans kept)
      rw [outside]
      simpa using accounts

/-- No call moves a pair to another column. -/
theorem setup_eq (calls : Samplings period registry cs sampler pairs) :
    pairs.setup = registry.setup := by
  induction calls with
  | start => rfl
  | call c _ ih =>
    rw [← ih, PairRegistry.setup, PairRegistry.setup, c.pairs_left, ← c.reached_append_spared,
      List.map_append, List.map_append, List.map_map]
    rfl

/-- After any calls of a sampler with registered pairs, whatever the receivers counted: the growths
accumulated for a pair add up to what it read last, and there are as many as its samples; the rows
are the calls that succeeded; and the next call behaves as a sample should. -/
theorem accounting (registered : registry.Registered)
    (calls : Samplings period registry cs sampler pairs) :
    pairs.setup = registry.setup ∧
      (∀ (column : Nat) (p : Pair), pairs.pairs[column]? = some p →
        p.Accounts (sampleScale period) (growths cs column)) ∧
      sampler = ⟨period, (cs.filter Sampling.succeeds).length⟩ ∧
      ∀ now received, Sampling.Behaves ⟨sampler, pairs, now, received⟩ :=
  ⟨calls.setup_eq, fun _ _ => calls.accounts registered, calls.sampler_eq,
    fun _ _ => Sampling.behaves _⟩

end Samplings

/-! ## A counter that shrinks once -/

namespace Resumed

/-- Two pairs with a sink each. -/
def registry : PairRegistry :=
  ⟨[.idle 1 0 0 (.allocate 2) (.allocate 1), .idle 2 1 1 (.allocate 3) (.allocate 1)]⟩

theorem registered : registry.Registered := by
  have first : PairRegistry.empty.register 1 0 0 (.allocate 2) (.allocate 1) =
      .ok (⟨registry.pairs.take 1⟩, 0) := rfl
  have second : PairRegistry.register ⟨registry.pairs.take 1⟩ 2 1 1 (.allocate 3) (.allocate 1) =
      .ok (registry, 1) := rfl
  exact .register (.register .empty first) second

/-- What two receivers have counted. -/
def counts (a b : Nat) (sink : SinkId) : Nat := if sink = 0 then a else b

def first : Sampling := ⟨⟨.ofMillis 100, 0⟩, registry, .ofMillis 100, counts 5 7⟩

/-- The first receiver counts on, the second one down. -/
def second : Sampling := ⟨first.after, first.left, .ofMillis 200, counts 9 3⟩

def third : Sampling := ⟨second.after, second.left, .ofMillis 300, counts 9 8⟩

theorem calls :
    Samplings (.ofMillis 100) registry [third, second, first] third.after third.left :=
  .call third (.call second (.call first .start))

end Resumed

/-- A call fails at the second pair and reads the first one; the next call goes on from there. -/
theorem Samplings.accounting_resumed :
    Resumed.second.answer = .error (.counterRegression 1 7 3) ∧
      growths [Resumed.third, Resumed.second, Resumed.first] 0 = [5, 4, 0] ∧
      growths [Resumed.third, Resumed.second, Resumed.first] 1 = [7, 1] ∧
      (∀ p ∈ Resumed.third.left.pairs[0]?, p.lastTotal = 9 ∧ p.samples = 3) ∧
      (∀ p ∈ Resumed.third.left.pairs[1]?, p.lastTotal = 8 ∧ p.samples = 2) ∧
      Resumed.third.after.rows = 2 := by
  obtain ⟨-, accounts, sampler, -⟩ := accounting Resumed.registered Resumed.calls
  have first : growths [Resumed.third, Resumed.second, Resumed.first] 0 = [5, 4, 0] := by
    decide +kernel
  have second : growths [Resumed.third, Resumed.second, Resumed.first] 1 = [7, 1] := by
    decide +kernel
  refine ⟨rfl, first, second, fun p at_zero => ?_, fun p at_one => ?_, ?_⟩
  · have kept := accounts 0 p at_zero
    rw [first] at kept
    exact ⟨kept.lastTotal.symm, kept.samples.symm⟩
  · have kept := accounts 1 p at_one
    rw [second] at kept
    exact ⟨kept.lastTotal.symm, kept.samples.symm⟩
  · rw [sampler]
    decide +kernel

end DenseDmg
