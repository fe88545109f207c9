import DenseDmg.Proofs.Running.Alike
import DenseDmg.Proofs.Running.LastSample
import DenseDmg.Proofs.World.Deeds

/-!
# The rows of a run

Every sample asks for the next one from its own instant, while all else goes on around it.  The
rows of the table therefore cover the time of the run window by window.

* `Built.samplingInstants`: the samples of a history are taken at the multiples of the period.
* `Tiles`: rows that cover a time without a gap and without an overlap.
* `Built.rows_tile`: the rows of a run.
-/

namespace DenseDmg

variable {s : Scenario} {outputs : Outputs} {w : World} {now : Time} {event : NetworkEvent}

/-! ## The frame of a row -/

/-- What a row says besides the throughput: its window and how many values there are. -/
def ThroughputRow.frame (row : ThroughputRow) : Time × Time × Nat :=
  (row.windowStart, row.time, row.perPair.length)

/-- The window of a sample is the period that ends with it. -/
theorem Experiment.windowStart_of_sample {x : Experiment} {received : SinkId → Nat}
    {row : ThroughputRow} (sampled : (x.sample now received).2 = .ok row) :
    row.windowStart = now - x.sampler.period := by
  obtain ⟨answer, -⟩ := Experiment.sampled_of_sample sampled
  exact (Sampler.of_sample (Prod.ext rfl (Prod.ext rfl answer))).2.1

/-- A sample that gives a row is counted. -/
theorem Experiment.rows_of_sample {x : Experiment} {received : SinkId → Nat} {row : ThroughputRow}
    (sampled : (x.sample now received).2 = .ok row) :
    (x.sample now received).1.sampler.rows = x.sampler.rows + 1 := by
  obtain ⟨answer, -⟩ := Experiment.sampled_of_sample sampled
  unfold Experiment.sample
  split
  next taken =>
    rw [taken] at answer
    cases answer
  next taken => exact (Sampler.of_sample taken).1

/-- The frame of the row that a moment adds, if it is the moment of a sample. -/
def Moment.rowFrame (s : Scenario) (m : Moment NetworkEvent World) : Time × Time × Nat :=
  (m.entry.due - s.samplePeriod, m.entry.due, s.numStas)

namespace World

theorem InScene.length_pairs (scene : w.InScene s outputs) :
    w.experiment.pairs.pairs.length = s.numStas := by
  have lengths := congrArg List.length scene.map_pairs
  simpa only [List.length_map, List.length_range'] using lengths

/-- The row of a sample has a value for every pair. -/
theorem InScene.frame_of_sample (scene : w.InScene s outputs) {period : Time}
    (sound : (w.takeSample period now).1.fatal = none) :
    (w.writtenSample now).rows.map ThroughputRow.frame =
      [(now - s.samplePeriod, now, s.numStas)] := by
  rcases of_takeSample sound with ⟨row, sampled, -⟩
  rcases Experiment.sampled_of_sample sampled with ⟨answer, time⟩
  have window := Experiment.windowStart_of_sample sampled
  have behaves := Sampling.behaves ⟨w.experiment.sampler, w.experiment.pairs, now,
    fun sink => (w.network.apps.received sink).bytes⟩
  have values := congrArg List.length (behaves.row row answer)
  have sampler : w.experiment.sampler.period = s.samplePeriod :=
    congrArg (·.experiment.sampler.period) scene
  rw [List.length_map, scene.length_pairs] at values
  rw [sampler] at window
  rw [writtenSample, answer]
  change [row.frame] = _
  rw [ThroughputRow.frame, window, time, values]

/-- A sample has one row with the frame of its moment, and no other event has any. -/
theorem InScene.frames_written (scene : w.InScene s outputs)
    (sound : (w.act now event).1.fatal = none) :
    (w.written now event).rows.map ThroughputRow.frame =
      if event.samples then [(now - s.samplePeriod, now, s.numStas)] else [] := by
  split
  next samples =>
    rcases NetworkEvent.samples_iff.1 samples with ⟨period, rfl⟩
    exact scene.frame_of_sample sound
  next other =>
    have none := (dated_written sound).rows
    rw [if_neg other, List.map_eq_nil_iff] at none
    rw [none]
    rfl

end World

/-! ## The count of the sampler -/

namespace World

theorem sampler_dispatch (w : World) (e : LinkEvent) (now : Time) :
    (w.dispatch e now).1.experiment.sampler = w.experiment.sampler := by
  unfold dispatch
  split
  · rfl
  · dsimp only
    rw [experiment_obeyAll, (sameParts_check _ _).experiment]
    exact w.experiment.sampler_handle e _ now

/-- A sample that brings no fault is counted by the sampler, and no other event is. -/
theorem rows_act (sound : (w.act now event).1.fatal = none) :
    (w.act now event).1.experiment.sampler.rows =
      if event.samples then w.experiment.sampler.rows + 1 else w.experiment.sampler.rows := by
  split
  next samples =>
    rcases NetworkEvent.samples_iff.1 samples with ⟨period, rfl⟩
    rcases of_takeSample sound with ⟨row, sampled, experiment⟩
    rw [act, experiment]
    exact Experiment.rows_of_sample sampled
  next other =>
    have other : event.samples = false := by simpa using other
    refine act_keeps (fun w => w.experiment.sampler.rows) (fun d does w => ?_) w
    cases does with
    | report e => exact congrArg Sampler.rows (w.sampler_dispatch e now)
    | loss | association | stranger | arrival | finish | send => rfl
    | sample => cases other

end World

/-! ## Along a run -/

namespace DenseRun

variable {spec : ScenarioSpec} {r : DenseRun} {sim : Simulator NetworkEvent}
  {ms : List (Moment NetworkEvent World)}

/-- The frames of the rows of a history are those of its samples. -/
theorem Built.frames_rows (run : Built spec s outputs r)
    (history : History World.behaviour r.simulator r.world ms sim w) (sound : w.fatal = none) :
    (Written.ofMoments ms).rows.map ThroughputRow.frame =
      (ms.reverse.filter Moment.samples).map (Moment.rowFrame s) := by
  refine Written.map_rows_ofMoments _ _ fun m mem => ?_
  rcases run.sound_of_mem history sound m mem with ⟨scene, intact⟩
  exact scene.frames_written intact

/-- The samples of a history are taken at the multiples of the sample period, one after the
other. -/
theorem Built.samplingInstants (run : Built spec s outputs r) (reliable : outputs.Reliable)
    (history : History World.behaviour r.simulator r.world ms sim w) :
    (ms.reverse.filter Moment.samples).map (fun m => m.entry.due) =
      (List.range (sampleCount ms)).map fun i => s.samplePeriod.repeated (i + 1) := by
  induction history with
  | start => rfl
  | @execute ms sim w entry rest before pending ih =>
    rw [List.reverse_cons, List.filter_append, List.map_append, ih, sampleCount_cons]
    cases samples : Moment.samples ⟨sim, w, entry, rest⟩ with
    | false =>
      rw [List.filter_cons_of_neg (by rw [samples]; exact Bool.false_ne_true)]
      exact List.append_nil _
    | true =>
      -- The sample is the one that was pending.
      have due := run.pendingSamples_eq reliable before
      have taken : entry.event.samples = true := samples
      rw [pending, pendingSamples_cons, if_pos taken, List.cons.injEq] at due
      rw [List.filter_cons_of_pos samples, if_pos rfl, List.range_succ, List.map_append]
      change _ ++ [entry.due] = _
      rw [due.1]
      rfl
  | settle limit _ _ ih => exact ih

/-- The sampler counts the samples of a history. -/
theorem Built.rows_eq (run : Built spec s outputs r)
    (history : History World.behaviour r.simulator r.world ms sim w) (sound : w.fatal = none) :
    w.experiment.sampler.rows = sampleCount ms := by
  induction history with
  | start =>
    rw [run.laidOut.sampler]
    rfl
  | @execute ms sim w entry rest before pending ih =>
    change (w.act entry.due entry.event).1.experiment.sampler.rows = _
    rw [World.rows_act sound, sampleCount_cons, ih (run.sound_of_pending before pending)]
    rfl
  | settle limit _ _ ih => exact ih sound

/-- In every state between two events exactly one sample is pending. -/
theorem Built.exists_pendingSample (run : Built spec s outputs r) (reliable : outputs.Reliable)
    (history : History World.behaviour r.simulator r.world ms sim w) :
    ∃ e, sim.pending.filter (fun e => e.event.samples) = [e] ∧
      e.due = s.samplePeriod.repeated (sampleCount ms + 1) := by
  have due := run.pendingSamples_eq reliable history
  rw [pendingSamples, List.map_eq_singleton_iff] at due
  exact due

end DenseRun

/-! ## Rows that tile a time -/

/-- The rows cover the time from zero on in windows of one period, as many as fit in before
`stop`, with as many values in each as there are columns. -/
structure Tiles (period stop : Time) (columns : Nat) (rows : List ThroughputRow) : Prop where
  length : rows.length = stop.nanos / period.nanos
  window : ∀ i row, rows[i]? = some row → row.windowStart.nanos = i * period.nanos ∧
    row.time.nanos = (i + 1) * period.nanos ∧ row.perPair.length = columns
  /-- A window begins where the one before it ended. -/
  meet : ∀ i earlier later, rows[i]? = some earlier → rows[i + 1]? = some later →
    later.windowStart = earlier.time

/-- The windows of rows that are framed by the multiples of a period meet. -/
theorem Tiles.of_frames {period stop : Time} {columns : Nat} {rows : List ThroughputRow}
    (positive : 0 < period.nanos)
    (frames : rows.map ThroughputRow.frame = (List.range (stop.nanos / period.nanos)).map
      fun i => (period.repeated (i + 1) - period, period.repeated (i + 1), columns)) :
    Tiles period stop columns rows := by
  have length : rows.length = stop.nanos / period.nanos := by
    have lengths := congrArg List.length frames
    rwa [List.length_map, List.length_map, List.length_range] at lengths
  have window : ∀ i row, rows[i]? = some row → row.windowStart.nanos = i * period.nanos ∧
      row.time.nanos = (i + 1) * period.nanos ∧ row.perPair.length = columns := by
    intro i row at_i
    have inside : i < stop.nanos / period.nanos := by
      rw [← length]
      exact (List.getElem?_eq_some_iff.1 at_i).1
    have fits : period.nanos * (i + 1) ≤ lastWord := by
      have reached : (i + 1) * period.nanos ≤ stop.nanos :=
        (Nat.le_div_iff_mul_le positive).1 inside
      rw [Nat.mul_comm]
      exact Nat.le_trans reached stop.nanos_le
    have frame := congrArg (fun frames => frames[i]?) frames
    simp only [List.getElem?_map, at_i, List.getElem?_range inside, Option.map_some,
      Option.some_inj, ThroughputRow.frame, Prod.mk.injEq] at frame
    obtain ⟨start, time, values⟩ := frame
    have exactly : (period.repeated (i + 1)).nanos = (i + 1) * period.nanos := by
      rw [Time.repeated, Time.nanos_ofNanos, Nat.min_eq_left fits, Nat.mul_comm]
    refine ⟨?_, ?_, values⟩
    · rw [start, Time.nanos_sub, exactly, Nat.succ_mul, Nat.add_sub_cancel]
    · rw [time, exactly]
  refine ⟨length, window, fun i earlier later at_i at_next => ?_⟩
  apply Time.ext
  rw [(window (i + 1) later at_next).1, (window i earlier at_i).2.1]

namespace DenseRun

variable {spec : ScenarioSpec} {r : DenseRun}

/-- The rows of a run that is to stop before the last instant, with streams that do not fail, tile
its time: the run ends, and has one row for every sample period that fits into it, each with the
values of all stations in their order.  What is in a column is what was read for its station, and
in every state on the way exactly one sample is pending. -/
theorem Built.rows_tile (run : Built spec s outputs r) (reliable : outputs.Reliable)
    (early : s.stopTime.nanos < lastWord) :
    (∀ ms sim w, History World.behaviour r.simulator r.world ms sim w →
      ∃ e, sim.pending.filter (fun e => e.event.samples) = [e] ∧
        e.due = s.samplePeriod.repeated (sampleCount ms + 1)) ∧
    (∃ fuel out, r.run fuel = some out) ∧
    ∀ fuel final answer, r.run fuel = some (final, answer) →
      ∃ summary ms sim w, answer = .ok summary ∧
        History World.behaviour r.simulator r.world ms sim w ∧
        Simulator.runUntil World.behaviour r.stopAt fuel r.simulator r.world = some (sim, w) ∧
        summary.throughputRows = s.stopTime.nanos / s.samplePeriod.nanos ∧
        (outputs.Unused → Transcript s ms final.experiment.outputs summary) ∧
        Tiles s.samplePeriod s.stopTime s.numStas (Written.ofMoments ms).rows ∧
        ∀ k, k < s.numStas → ∃ p, final.experiment.pairs.pairs[k]? = some p ∧
          p.node = k + 1 ∧ p.sink = k ∧
          (Written.ofMoments ms).rows.map (fun row => row.perPair[k]?) =
            (sampledGrowths k ms).map fun growth =>
              some (sampledThroughput (sampleScale s.samplePeriod) growth) := by
  refine ⟨fun ms sim w history => run.exists_pendingSample reliable history, ?_, ?_⟩
  · obtain ⟨fuel, final, summary, ended⟩ := run.exists_figures reliable early
    exact ⟨fuel, _, ended⟩
  intro fuel final answer ended
  obtain ⟨summary, rfl⟩ := run.exists_summary reliable ended
  obtain ⟨sim, w, loop, sound, figures, finished, rfl⟩ := of_run_eq_ok ended
  obtain ⟨ms, history⟩ := History.of_runUntil loop
  have count := run.sampleCount_eq reliable early history loop
  have period := (ScenarioSpec.paced_of_resolve run.accepted).samples
  have instants := run.samplingInstants reliable history
  have tiles : Tiles s.samplePeriod s.stopTime s.numStas (Written.ofMoments ms).rows := by
    apply Tiles.of_frames period
    rw [run.frames_rows history sound, ← count]
    have framed := congrArg
      (List.map fun due => (due - s.samplePeriod, due, s.numStas)) instants
    rw [List.map_map, List.map_map] at framed
    exact framed
  refine ⟨summary, ms, sim, w, rfl, history, loop, ?_, fun unused => ?_, tiles, fun k inside => ?_⟩
  · rw [figures, ← count]
    exact run.rows_eq history sound
  · exact run.transcript_of_finish unused history sound finished (by rw [figures]; rfl)
      (by rw [figures]; rfl) (by rw [figures]; rfl)
  · have growths := run.rows_growths history sound inside
    have setup := (run.inScene history).getElem?_pairs_setup k
    rw [if_pos inside] at setup
    obtain ⟨p, at_k, setup⟩ := Option.map_eq_some_iff.1 setup
    rw [Experiment.pairs_finish]
    exact ⟨p, at_k, congrArg Pair.node setup, congrArg Pair.sink setup, growths⟩

/-- The rows of a lone station. -/
theorem rows_tile_lone : Lone.outputs.Reliable ∧ Lone.scenario.stopTime.nanos < lastWord ∧
    ∃ fuel final summary ms, Lone.run.run fuel = some (final, .ok summary) ∧
      summary.throughputRows =
        Lone.scenario.stopTime.nanos / Lone.scenario.samplePeriod.nanos ∧
      Transcript Lone.scenario ms final.experiment.outputs summary ∧
      Tiles Lone.scenario.samplePeriod Lone.scenario.stopTime 1 (Written.ofMoments ms).rows := by
  have early : Lone.scenario.stopTime.nanos < lastWord := by decide +kernel
  obtain ⟨-, ⟨fuel, ⟨final, answer⟩, ended⟩, finished⟩ := Lone.built.rows_tile Lone.reliable early
  obtain ⟨summary, ms, -, -, rfl, -, -, count, transcript, tiles, -⟩ :=
    finished fuel final answer ended
  exact ⟨Lone.reliable, early, fuel, final, summary, ms, ended, count, transcript Lone.unused,
    tiles⟩

end DenseRun

end DenseDmg
