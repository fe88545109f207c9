import DenseDmg.Proofs.Decimal.Widths
import DenseDmg.Proofs.Measurement.Sampling

/-!
# The columns of the throughput table

A column is twelve characters wide, and what is longer is not cut.  The values of a row are sums of
throughputs, so they are zero, infinite, or so large that their exponents have two digits: they
never take more than eleven characters.  The window is another matter, for its two instants grow.

* `inRow_sampledThroughput`, `InRow.sumFloats`: what the values of a row can be.
* `InRow.length_le`: how many characters they take.
* `length_tenths_le`: how many an instant takes at the beginning of a run.
* `Sampler.columns_of_sample`: the columns of a row stay apart as long as its window leaves a blank
  in the first one.
-/

namespace DenseDmg

open Float.Model Float.Model.UnpackedFloat

/-! ## Values of a row -/

/-- What a value of a row can be: no number, infinity, zero, or a positive number that is not too
small. -/
def InRow (x : Float) : Prop :=
  x.toModel.unpack.isFinite = false ∨ (∃ s, x.toModel.unpack = .zero s) ∨
    ∃ v, FullPrecision x.toModel.unpack v ∧ 1 / 2 ^ 80 ≤ v

variable {x y : Float} {u : UnpackedFloat} {v : ℚ}

/-- A value of a row takes at most eleven characters. -/
theorem InRow.length_le (h : InRow x) : (throughputText x).length ≤ 11 := by
  rcases h with nonfinite | ⟨s, zero⟩ | ⟨v, full, least⟩
  · exact (length_throughputText_of_nonfinite nonfinite).trans (by decide)
  · rw [throughputText_of_zero zero]
    decide
  · refine length_throughputText_of_full full (le_trans ?_ least)
    norm_num

/-- Packing keeps what is no finite number. -/
theorem unpack_pack_of_nonfinite (h : u.isFinite = false) : (Float.Model.pack u).unpack = u := by
  cases u with
  | notANumber => rfl
  | infinity s => exact unpack_packedInfinity s
  | zero s => cases h
  | finite s m e pos => cases h

theorem unpack_pack_zero (s : Sign) : (Float.Model.pack (.zero s)).unpack = .zero s := by
  cases s <;> rfl

/-- What is not too small for a row is far above the least number in full precision. -/
theorem tall_of_le (h : 2 / 2 ^ 80 ≤ v) : 2 ^ (-1020 : ℤ) ≤ v := by
  have less : (2 : ℚ) ^ (-1020 : ℤ) ≤ 2 ^ (-79 : ℤ) :=
    zpow_le_zpow_right₀ (by norm_num) (by norm_num)
  have power : (2 : ℚ) ^ (-79 : ℤ) = 2 / 2 ^ 80 := by norm_num
  exact (less.trans power.le).trans h

/-- A rounded number is at least half the exact one. -/
theorem RoundedTo.cases (h : RoundedTo u v) (pos : 0 < v) :
    u = .infinity .positive ∨ ∃ w, FullPrecision u w ∧ v / 2 ≤ w ∧ w ≤ v * (1 + precision) := by
  rcases h with infinite | ⟨w, full, low, high⟩
  · exact .inl infinite
  · refine .inr ⟨w, full, le_trans ?_ low, high⟩
    have : precision ≤ 1 / 2 := by norm_num [precision]
    nlinarith

theorem InRow.of_rounded (h : RoundedTo x.toModel.unpack v) (least : 2 / 2 ^ 80 ≤ v) : InRow x := by
  rcases h.cases (by linarith [show (0 : ℚ) < 2 / 2 ^ 80 by positivity]) with
    infinite | ⟨w, full, low, -⟩
  · exact .inl (by rw [infinite]; rfl)
  · exact .inr (.inr ⟨w, full, by linarith⟩)

/-- A result that is zero or no finite number is packed as it is. -/
theorem InRow.of_special (packed : x.toModel.unpack = (Float.Model.pack u).unpack)
    (special : u.isFinite = false ∨ ∃ s, u = .zero s) : InRow x := by
  rcases special with none | ⟨s, rfl⟩
  · left
    rw [packed, unpack_pack_of_nonfinite none]
    exact none
  · exact .inr (.inl ⟨s, packed.trans (unpack_pack_zero s)⟩)

/-- A sum with what is no finite number is none either. -/
theorem isFinite_add {f : Format} {a b : UnpackedFloat}
    (h : a.isFinite = false ∨ b.isFinite = false) :
    (UnpackedFloat.add f a b).isFinite = false := by
  cases a <;> cases b <;> simp_all [UnpackedFloat.add, UnpackedFloat.isFinite]
  rename_i s t
  cases s <;> cases t <;> rfl

/-- Values of a row add up to a value of a row. -/
theorem InRow.add (hx : InRow x) (hy : InRow y) : InRow (x + y) := by
  have nonfinite (h : x.toModel.unpack.isFinite = false ∨ y.toModel.unpack.isFinite = false) :
      InRow (x + y) :=
    .of_special (unpack_add x y) (.inl (isFinite_add h))
  rcases hx with h | ⟨s, zero⟩ | ⟨v, full, least⟩
  · exact nonfinite (.inl h)
  · rcases hy with h | ⟨t, zero'⟩ | ⟨w, full', least'⟩
    · exact nonfinite (.inr h)
    · refine .of_special (unpack_add x y) (.inr ?_)
      rw [zero, zero']
      cases s <;> cases t <;> exact ⟨_, rfl⟩
    · right; right
      obtain ⟨m, e, pos, unpacked, -⟩ := id full'
      have kept : (x + y).toModel.unpack = y.toModel.unpack := by
        rw [unpack_add, zero, unpacked]
        rw [unpacked] at full'
        exact full'.repack
      exact ⟨w, kept ▸ full', least'⟩
  · rcases hy with h | ⟨t, zero'⟩ | ⟨w, full', least'⟩
    · exact nonfinite (.inr h)
    · right; right
      obtain ⟨m, e, pos, unpacked, -⟩ := id full
      have kept : (x + y).toModel.unpack = x.toModel.unpack := by
        rw [unpack_add, zero', unpacked]
        rw [unpacked] at full
        exact full.repack
      exact ⟨v, kept ▸ full, least⟩
    · have enough : (2 : ℚ) / 2 ^ 80 ≤ v + w := by
        refine le_trans ?_ (add_le_add least least')
        norm_num
      exact InRow.of_rounded (full.add full' (tall_of_le enough)) enough

theorem InRow.sumFloats {values : List Float} (h : ∀ x ∈ values, InRow x) :
    InRow (sumFloats values) := by
  have general : ∀ (xs : List Float), (∀ x ∈ xs, InRow x) → ∀ start, InRow start →
      InRow (xs.foldl (· + ·) start) := by
    intro xs all
    induction xs with
    | nil => exact fun _ first => first
    | cons x xs ih =>
      intro start first
      exact ih (fun y mem => all y (List.mem_cons_of_mem x mem)) _
        (first.add (all x List.mem_cons_self))
  exact general values h _ (.inr (.inl ⟨.negative, rfl⟩))

/-! ## Throughput of a period -/

/-- What is taken apart is zero, infinity, or a positive number within bounds. -/
def Bounded (low high : ℚ) (u : UnpackedFloat) : Prop :=
  u = .zero .positive ∨ u = .infinity .positive ∨ ∃ v, FullPrecision u v ∧ low ≤ v ∧ v ≤ high

theorem Bounded.of_rounded {low high : ℚ} (h : RoundedTo u v) (pos : 0 < v) (below : low ≤ v / 2)
    (above : 2 * v ≤ high) : Bounded low high u := by
  rcases h.cases pos with infinite | ⟨w, full, least, most⟩
  · exact .inr (.inl infinite)
  · refine .inr (.inr ⟨w, full, below.trans least, most.trans (le_trans ?_ above)⟩)
    have : precision ≤ 1 := by norm_num [precision]
    nlinarith

/-- A count as a double is zero or at least one half. -/
theorem bounded_countFloat (n : ℕ) : Bounded (1 / 2) (2 ^ 65) (countFloat n).toModel.unpack := by
  rcases unpack_toFloat (UInt64.ofNat n) with zero | ⟨pos, rounded⟩
  · exact .inl zero
  · have small := (UInt64.ofNat n).toNat_lt
    have least : (1 : ℚ) ≤ (UInt64.ofNat n).toNat := by exact_mod_cast pos
    have most : ((UInt64.ofNat n).toNat : ℚ) ≤ 2 ^ 64 := by exact_mod_cast small.le
    refine Bounded.of_rounded rounded (by linarith) (by linarith) ?_
    linarith [show (2 : ℚ) ^ 65 = 2 * 2 ^ 64 by norm_num]

/-- Eight bits for each byte of a growth. -/
theorem bounded_bits (growth : ℕ) :
    Bounded 2 (2 ^ 70) (countFloat growth * 8.0).toModel.unpack := by
  have eight : FullPrecision (8.0 : Float).toModel.unpack 8 :=
    ⟨2 ^ 52, -49, by decide, rfl, le_rfl, by decide, by decide, by decide, by norm_num⟩
  rcases bounded_countFloat growth with zero | infinite | ⟨v, full, least, most⟩
  · rw [unpack_mul, zero]
    exact .inl rfl
  · rw [unpack_mul, infinite]
    exact .inr (.inl rfl)
  · refine Bounded.of_rounded (full.mul eight (tall_of_le ?_)) (by linarith) (by linarith) ?_
    · linarith [show (2 : ℚ) / 2 ^ 80 ≤ 4 by norm_num]
    · linarith [show (2 : ℚ) ^ 70 = 32 * 2 ^ 65 by norm_num]

/-- A period in microseconds. -/
theorem bounded_micros (n : ℕ) :
    Bounded (1 / 4000) (2 ^ 66) (countFloat n / 1000.0).toModel.unpack := by
  have thousand : FullPrecision (1000.0 : Float).toModel.unpack 1000 :=
    ⟨1000 * 2 ^ 43, -43, by decide, rfl, by decide, by decide, by decide, by decide, by norm_num⟩
  rcases bounded_countFloat n with zero | infinite | ⟨v, full, least, most⟩
  · rw [unpack_div, zero]
    exact .inl rfl
  · rw [unpack_div, infinite]
    exact .inr (.inl rfl)
  · refine Bounded.of_rounded (full.div thousand (tall_of_le ?_)) (by linarith) (by linarith) ?_
    · linarith [show (2 : ℚ) / 2 ^ 80 ≤ 1 / 2000 by norm_num]
    · linarith [show (2 : ℚ) ^ 66 = 2 * 2 ^ 65 by norm_num]

theorem lt_iff_model (x y : Float) : x < y ↔ x.toModel.unpack.lt y.toModel.unpack = true := by
  have unfolded : (x < y) = (decide (x.toModel < y.toModel) = true) := rfl
  rw [unfolded, decide_eq_true_iff]
  exact Iff.rfl

/-- The divisor that turns bits per period into Mbit/s is not zero, and not too large. -/
theorem scale_cases (period : Time) :
    (sampleScale period).toModel.unpack = .infinity .positive ∨
      ∃ v, FullPrecision (sampleScale period).toModel.unpack v ∧ v ≤ 2 ^ 66 := by
  have least : FullPrecision (Float.ofBits 0x0010000000000000).toModel.unpack
      (2 ^ (-1022 : ℤ)) := by
    refine ⟨2 ^ 52, -1074, by decide, rfl, le_rfl, by decide, le_rfl, by decide, ?_⟩
    rw [Nat.cast_pow, Nat.cast_ofNat, ← zpow_natCast, ← zpow_add₀ (by norm_num)]
    rfl
  have small : (2 : ℚ) ^ (-1022 : ℤ) ≤ 2 ^ 66 := by
    rw [← zpow_natCast]
    exact zpow_le_zpow_right₀ (by norm_num) (by norm_num)
  unfold sampleScale
  dsimp only
  split_ifs with above
  · rcases bounded_micros period.nanos with zero | infinite | ⟨v, full, -, most⟩
    · rw [lt_iff_model, zero] at above
      cases above
    · exact .inl infinite
    · exact .inr ⟨v, full, most⟩
  · exact .inr ⟨_, least, small⟩

/-- A quotient of a sum of bits and a divisor that is not too large. -/
theorem InRow.div {high : ℚ} (hx : Bounded 2 high x.toModel.unpack)
    (hy : y.toModel.unpack = .infinity .positive ∨
      ∃ w, FullPrecision y.toModel.unpack w ∧ w ≤ 2 ^ 66) : InRow (x / y) := by
  rcases hy with beyond | ⟨w, full', most⟩
  · -- A quotient by infinity is zero or no number.
    refine .of_special (unpack_div x y) ?_
    rw [beyond]
    rcases hx with zero | infinite | ⟨v, ⟨m, e, pos, unpacked, -⟩, -⟩
    · rw [zero]
      exact .inr ⟨_, rfl⟩
    · rw [infinite]
      exact .inl rfl
    · rw [unpacked]
      exact .inr ⟨_, rfl⟩
  · obtain ⟨m, e, pos, unpacked, -⟩ := id full'
    rcases hx with zero | infinite | ⟨v, full, least, -⟩
    · refine .of_special (unpack_div x y) ?_
      rw [zero, unpacked]
      exact .inr ⟨_, rfl⟩
    · refine .of_special (unpack_div x y) ?_
      rw [infinite, unpacked]
      exact .inl rfl
    · have enough : (2 : ℚ) / 2 ^ 80 ≤ v / w := by
        rw [le_div_iff₀ full'.pos]
        calc (2 : ℚ) / 2 ^ 80 * w ≤ 2 / 2 ^ 80 * 2 ^ 66 :=
            mul_le_mul_of_nonneg_left most (by positivity)
          _ ≤ 2 := by norm_num
          _ ≤ v := least
      exact InRow.of_rounded (full.div full' (tall_of_le enough)) enough

/-- The throughput of a period, whatever its length and however much was received. -/
theorem inRow_sampledThroughput (period : Time) (growth : ℕ) :
    InRow (sampledThroughput (sampleScale period) growth) :=
  InRow.div (bounded_bits growth) (scale_cases period)

/-! ## The window -/

/-- Before 99.95 s an instant takes at most four characters. -/
theorem length_tenths_le {t : Time} (early : t.nanos < 99950000000) :
    (ThroughputRow.tenths t).length ≤ 4 := by
  have billion : FullPrecision (1e9 : Float).toModel.unpack 1000000000 :=
    ⟨1000000000 * 2 ^ 23, -23, by decide, rfl, by decide, by decide, by decide, by decide,
      by norm_num⟩
  have word : (UInt64.ofNat t.nanos).toNat = t.nanos := by
    rw [UInt64.toNat_ofNat']
    exact Nat.mod_eq_of_lt (by omega)
  unfold ThroughputRow.tenths
  rcases unpack_toFloat (UInt64.ofNat t.nanos) with zero | ⟨pos, infinite | ⟨c, full, low, high⟩⟩
  · have none : t.seconds.toModel.unpack = .zero .positive := by
      rw [Time.seconds, unpack_div, countFloat, zero]
      rfl
    exact length_fixedFloat_one_of_zero none
  · refine length_fixedFloat_of_nonfinite ?_ 1
    rw [Time.seconds, unpack_div, countFloat, infinite]
    rfl
  · rw [word] at pos low high
    have least : (1 : ℚ) ≤ t.nanos := by exact_mod_cast pos
    have most : (t.nanos : ℚ) ≤ 99949999999 := by exact_mod_cast Nat.le_of_lt_succ early
    have enough : (2 : ℚ) / 2 ^ 80 ≤ c / 1000000000 := by
      norm_num [precision] at low ⊢
      linarith
    rcases full.div billion (tall_of_le enough) with infinite | ⟨v, full', -, high'⟩
    · refine length_fixedFloat_of_nonfinite ?_ 1
      have same : t.seconds.toModel.unpack = .infinity .positive := infinite
      rw [same]
      rfl
    · refine length_fixedFloat_one_of_full (x := t.seconds) full' ?_
      norm_num [precision] at high high' ⊢
      linarith

/-! ## Words of a line -/

/-- The words of a text: what stands between its blank characters. -/
def words (cs : List Char) : List (List Char) :=
  (cs.splitOnP isBlank).filter fun word => !word.isEmpty

section Words

variable {word : List Char} {ws : List (List Char)}

theorem words_blank (cs : List Char) : words (' ' :: cs) = words cs := by
  unfold words
  rw [List.splitOnP_cons_eq_if_modifyHead, if_pos (by decide)]
  rfl

theorem words_replicate (k : ℕ) (cs : List Char) :
    words (List.replicate k ' ' ++ cs) = words cs := by
  induction k with
  | zero => rfl
  | succ k ih => rw [List.replicate_succ, List.cons_append, words_blank, ih]

theorem words_append (h : Unbroken word) (cs : List Char) :
    words (word ++ ' ' :: cs) = word :: words cs := by
  unfold words
  rw [List.splitOnP_append_cons_of_forall_mem h.solid ' ' (by decide), List.filter_cons_of_pos]
  simpa using h.ne

/-- What fills a column up begins with a blank if there is room. -/
theorem padding_of_lt {k : ℕ} (room : k < columnWidth) :
    List.replicate (columnWidth - k) ' ' = ' ' :: List.replicate (columnWidth - k - 1) ' ' := by
  rw [← List.replicate_succ, Nat.sub_add_cancel (Nat.sub_pos_of_lt room)]

/-- A column that is not full ends in a blank, so its text is a word. -/
theorem words_inColumn (h : Unbroken word) (short : word.length < columnWidth) (cs : List Char) :
    words (inColumn word ++ cs) = word :: words cs := by
  rw [inColumn, padding_of_lt short, List.append_assoc, List.cons_append, words_append h,
    words_replicate]

theorem words_columns (h : ∀ word ∈ ws, Unbroken word ∧ word.length < columnWidth) :
    words (ws.flatMap inColumn) = ws := by
  induction ws with
  | nil => rfl
  | cons word ws ih =>
    obtain ⟨unbroken, short⟩ := h word List.mem_cons_self
    rw [List.flatMap_cons, words_inColumn unbroken short,
      ih fun other mem => h other (List.mem_cons_of_mem word mem)]

/-- A word in front of the columns runs into the first of them. -/
theorem words_append_columns {figure : List Char} (h : Unbroken word)
    (short : ∀ other ∈ figure :: ws, Unbroken other ∧ other.length < columnWidth) :
    words (word ++ (figure :: ws).flatMap inColumn) = (word ++ figure) :: ws := by
  obtain ⟨unbroken, fits⟩ := short figure List.mem_cons_self
  have joined : Unbroken (word ++ figure) := h.append unbroken.solid
  rw [List.flatMap_cons, inColumn, padding_of_lt fits, List.append_assoc, ← List.append_assoc,
    List.cons_append, words_append joined, words_replicate,
    words_columns fun other mem => short other (List.mem_cons_of_mem figure mem)]

theorem length_inColumn (cs : List Char) :
    (inColumn cs).length = max columnWidth cs.length := by
  rw [inColumn, List.length_append, List.length_replicate]
  omega

theorem length_columns (h : ∀ word ∈ ws, Unbroken word ∧ word.length < columnWidth) :
    (ws.flatMap inColumn).length = columnWidth * ws.length := by
  induction ws with
  | nil => rfl
  | cons word ws ih =>
    obtain ⟨-, short⟩ := h word List.mem_cons_self
    rw [List.flatMap_cons, List.length_append, length_inColumn,
      ih fun other mem => h other (List.mem_cons_of_mem word mem), List.length_cons,
      Nat.mul_succ]
    omega

end Words

/-! ## Rows -/

namespace ThroughputRow

/-- What the first column shows. -/
def window (row : ThroughputRow) : List Char :=
  tenths row.windowStart ++ [' ', '-', ' '] ++ tenths row.time

/-- What the other columns show. -/
def figures (row : ThroughputRow) : List (List Char) :=
  (row.perPair ++ [row.total]).map throughputText

variable {row : ThroughputRow}

theorem toList_human (row : ThroughputRow) :
    row.human.toList = inColumn row.window ++ row.figures.flatMap inColumn := by
  unfold human figures
  rw [String.toList_ofList, List.flatMap_map]
  rfl

/-- A row has the width of its columns if its window does not leave the first one. -/
theorem length_human (short : ∀ word ∈ row.figures, Unbroken word ∧ word.length < columnWidth) :
    row.human.toList.length = columnWidth * (row.perPair.length + 2) ↔
      row.window.length ≤ columnWidth := by
  have count : row.figures.length = row.perPair.length + 1 := by
    unfold figures
    rw [List.length_map, List.length_append, List.length_singleton]
  rw [toList_human, List.length_append, length_inColumn, length_columns short, count]
  have wide : columnWidth * (row.perPair.length + 2) =
      columnWidth + columnWidth * (row.perPair.length + 1) := by ring
  omega

/-- The words of a row are those of its columns if its window does not fill the first one. -/
theorem words_human (short : ∀ word ∈ row.figures, Unbroken word ∧ word.length < columnWidth) :
    words row.human.toList =
        tenths row.windowStart :: ['-'] :: tenths row.time :: row.figures ↔
      row.window.length < columnWidth := by
  have first : Unbroken (tenths row.windowStart) := unbroken_fixedFloat 1 _
  have second : Unbroken (tenths row.time) := unbroken_fixedFloat 1 _
  have dash : Unbroken ['-'] := .of_all (by decide)
  have split : words row.human.toList = tenths row.windowStart :: ['-'] ::
      words (tenths row.time ++ (List.replicate (columnWidth - row.window.length) ' ' ++
        row.figures.flatMap inColumn)) := by
    have text : row.human.toList = tenths row.windowStart ++ ' ' :: (['-'] ++ ' ' ::
        (tenths row.time ++ (List.replicate (columnWidth - row.window.length) ' ' ++
          row.figures.flatMap inColumn))) := by
      rw [toList_human, inColumn]
      generalize columnWidth - row.window.length = pad
      simp only [window, List.append_assoc, List.cons_append, List.nil_append]
    rw [text, words_append first, words_append dash]
  rw [split, List.cons.injEq, List.cons.injEq]
  simp only [true_and]
  rcases Nat.lt_or_ge row.window.length columnWidth with inside | full
  · rw [padding_of_lt inside, List.cons_append, words_append second, words_replicate,
      words_columns short]
    simp only [inside]
  · have none : columnWidth - row.window.length = 0 := by omega
    rw [none, List.replicate_zero, List.nil_append]
    refine ⟨fun same => ?_, fun inside => absurd inside full.not_gt⟩
    -- The end of the window and the first figure are one word, so a word is missing.
    cases columns : row.figures with
    | nil => simp [figures] at columns
    | cons figure rest =>
      rw [columns] at short same
      rw [words_append_columns second short] at same
      have := congrArg List.length same
      simp at this

/-- Before 99.95 s the window does not fill its column. -/
theorem length_window_lt (order : row.windowStart ≤ row.time)
    (early : row.time.nanos < 99950000000) : row.window.length < columnWidth := by
  have start := length_tenths_le (lt_of_le_of_lt order early)
  have stop := length_tenths_le early
  simp only [window, List.length_append, List.length_cons, List.length_nil]
  exact Nat.lt_of_le_of_lt (Nat.add_le_add (Nat.add_le_add_right start 3) stop) (by decide)

end ThroughputRow

/-! ## Samples -/

namespace Sampler

open ThroughputRow

/-- What the row of a sample holds, and how it is laid out for people. -/
structure ShowsColumns (s : Sampler) (now : Time) (pairs : PairRegistry) (received : SinkId → Nat)
    (row : ThroughputRow) : Prop where
  windowStart : row.windowStart = now - s.period
  time : row.time = now
  /-- The values are in the order of registration. -/
  perPair : row.perPair = pairs.pairs.map fun p => sampledThroughput s.scale (p.growth received)
  total : row.total = sumFloats row.perPair
  /-- No value fills its column. -/
  figures : ∀ word ∈ row.figures, Unbroken word ∧ word.length < columnWidth
  length : row.human.toList.length = columnWidth * (pairs.size + 2) ↔
    row.window.length ≤ columnWidth
  words : words row.human.toList =
      tenths row.windowStart :: ['-'] :: tenths row.time :: row.figures ↔
    row.window.length < columnWidth
  early : now.nanos < 99950000000 → row.window.length < columnWidth

/-- The columns of a row that a sample adds to the table stay apart if and only if the window does
not fill the first one. -/
theorem columns_of_sample {s : Sampler} {now : Time} {pairs : PairRegistry}
    {received : SinkId → Nat} {row : ThroughputRow}
    (sampled : (s.sample now pairs received).2.2 = .ok row) :
    s.ShowsColumns now pairs received row := by
  have perPair := (Sampling.behaves ⟨s, pairs, now, received⟩).row row sampled
  have rest : row.windowStart = now - s.period ∧ row.time = now ∧
      row.total = sumFloats row.perPair := by
    unfold sample at sampled
    split at sampled
    · cases sampled
    · cases sampled
      exact ⟨rfl, rfl, rfl⟩
  obtain ⟨windowStart, time, total⟩ := rest
  have values : ∀ x ∈ row.perPair, InRow x := by
    rw [perPair]
    rintro x mem
    obtain ⟨p, -, rfl⟩ := List.mem_map.1 mem
    exact inRow_sampledThroughput s.period _
  have all : ∀ x ∈ row.perPair ++ [row.total], InRow x := by
    intro x mem
    rcases List.mem_append.1 mem with value | sum
    · exact values x value
    · rw [List.mem_singleton.1 sum, total]
      exact InRow.sumFloats values
  have figures : ∀ word ∈ row.figures, Unbroken word ∧ word.length < columnWidth := by
    intro word mem
    obtain ⟨x, value, rfl⟩ := List.mem_map.1 mem
    exact ⟨unbroken_throughputText x, Nat.lt_succ_of_le (all x value).length_le⟩
  have size : row.perPair.length = pairs.size := by
    rw [perPair, List.length_map]
    rfl
  refine ⟨windowStart, time, perPair, total, figures, ?_, words_human figures, fun early => ?_⟩
  · rw [← size]
    exact length_human figures
  · refine length_window_lt ?_ (time ▸ early)
    rw [windowStart, time]
    exact (Time.nanos_sub now s.period).le.trans (Nat.sub_le _ _)

/-- An idle pair, sampled every 50 s.  The row of 100 s has a window of twelve characters, which
runs into the first value. -/
theorem columns_of_sample_hundred :
    let pairs : PairRegistry := ⟨[.idle 1 0 0 (.allocate 2) (.allocate 1)]⟩
    let s : Sampler := ⟨.ofSecs 50, 0⟩
    let fifty : ThroughputRow := ⟨.zero, .ofSecs 50, [0], 0⟩
    let hundred : ThroughputRow := ⟨.ofSecs 50, .ofSecs 100, [0], 0⟩
    (s.sample (.ofSecs 50) pairs fun _ => 0).2.2 = .ok fifty ∧
      s.ShowsColumns (.ofSecs 50) pairs (fun _ => 0) fifty ∧
      fifty.human = "0.0 - 50.0  0           0           " ∧
      (s.sample (.ofSecs 100) pairs fun _ => 0).2.2 = .ok hundred ∧
      s.ShowsColumns (.ofSecs 100) pairs (fun _ => 0) hundred ∧
      hundred.human = "50.0 - 100.00           0           " ∧
      words hundred.human.toList =
        ["50.0".toList, ['-'], "100.00".toList, ['0']] := by
  have first : ((⟨.ofSecs 50, 0⟩ : Sampler).sample (.ofSecs 50)
      ⟨[.idle 1 0 0 (.allocate 2) (.allocate 1)]⟩ fun _ => 0).2.2 =
      .ok ⟨.zero, .ofSecs 50, [0], 0⟩ := by rfl
  have second : ((⟨.ofSecs 50, 0⟩ : Sampler).sample (.ofSecs 100)
      ⟨[.idle 1 0 0 (.allocate 2) (.allocate 1)]⟩ fun _ => 0).2.2 =
      .ok ⟨.ofSecs 50, .ofSecs 100, [0], 0⟩ := by rfl
  exact ⟨first, columns_of_sample first, by decide +kernel, second, columns_of_sample second,
    by decide +kernel, by decide +kernel⟩

end Sampler

end DenseDmg
