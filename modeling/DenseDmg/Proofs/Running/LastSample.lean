import DenseDmg.Proofs.Running.Readings

/-!
# The last sample of a run

Samples follow each other at the sample period.  A run goes on for one period and a millisecond
after the simulated time, while nothing is sent from the simulated time on, so that there is a last
sample more than a millisecond later.  A packet that takes longer on the air may arrive behind it:
then its bytes have been received, but no row shows them.

* `Built.pendingSamples_eq`, `Built.sampleCount_eq`: when samples are due, and how many a run takes.
* `Built.arrival_lt`: until when packets arrive.
* `not_all_sampled`: a run that receives a packet behind its last sample.
* `Built.samples_account`: what the samples of a run have read, and when that is all.
-/

namespace DenseDmg

variable {s : Scenario} {outputs : Outputs} {w : World} {now : Time} {event : NetworkEvent}

/-! ## When samples are due -/

theorem Time.repeated_succ (t : Time) (n : Nat) :
    max (t.repeated n + t) (t.repeated n) = t.repeated (n + 1) := by
  rw [Time.ext_iff]
  simp only [Time.nanos_max, Time.nanos_add, Time.repeated, Time.nanos_ofNanos, Nat.mul_succ]
  omega

theorem NetworkEvent.samples_iff : event.samples = true ↔ ∃ period, event = .sampleDue period := by
  cases event with
  | sampleDue period => exact ⟨fun _ => ⟨period, rfl⟩, fun _ => rfl⟩
  | _ => exact ⟨nofun, fun ⟨_, same⟩ => nomatch same⟩

/-- Nothing but a sample asks for a sample. -/
theorem NetworkEvent.Causes.samples {e : NetworkEvent} (caused : event.Causes e)
    (other : event.samples = false) : e.samples = false := by
  cases caused with
  | sample period => cases other
  | _ => rfl

/-- A sample that brings no fault asks for the next one. -/
theorem World.requests_takeSample {period : Time}
    (sound : (w.takeSample period now).1.fatal = none) :
    (w.takeSample period now).2 = [.afterDelay period (.sampleDue period)] := by
  have running : ¬ (w.sampleThroughput now).halted = true := by
    intro halted
    change (w.sampleThroughput now).fatal = none at sound
    rw [World.halted, sound] at halted
    cases halted
  unfold takeSample
  dsimp only
  rw [if_neg running]

/-- When those samples are due that are pending. -/
def pendingSamples (es : List (Entry NetworkEvent)) : List Time :=
  (es.filter fun e => e.event.samples).map Entry.due

theorem pendingSamples_append (es es' : List (Entry NetworkEvent)) :
    pendingSamples (es ++ es') = pendingSamples es ++ pendingSamples es' := by
  rw [pendingSamples, List.filter_append, List.map_append]
  rfl

theorem pendingSamples_cons (e : Entry NetworkEvent) (es : List (Entry NetworkEvent)) :
    pendingSamples (e :: es) =
      if e.event.samples then e.due :: pendingSamples es else pendingSamples es := by
  unfold pendingSamples
  rw [List.filter_cons]
  split <;> rfl

/-- How many samples a history has taken. -/
def sampleCount (ms : List (Moment NetworkEvent World)) : Nat := (ms.filter Moment.samples).length

theorem sampleCount_cons (m : Moment NetworkEvent World) (ms : List (Moment NetworkEvent World)) :
    sampleCount (m :: ms) = if m.samples then sampleCount ms + 1 else sampleCount ms := by
  unfold sampleCount
  rw [List.filter_cons]
  split <;> rfl

namespace DenseRun

variable {spec : ScenarioSpec} {r : DenseRun} {sim : Simulator NetworkEvent}
  {ms : List (Moment NetworkEvent World)} {entry : Entry NetworkEvent}
  {rest : List (Entry NetworkEvent)} {k : Nat}

/-- There is one sample pending, and it is due when its turn comes. -/
theorem Built.pendingSamples_eq (run : Built spec s outputs r) (reliable : outputs.Reliable)
    (history : History World.behaviour r.simulator r.world ms sim w) :
    pendingSamples sim.pending = [s.samplePeriod.repeated (sampleCount ms + 1)] := by
  induction history with
  | start =>
    have first : s.samplePeriod.repeated 1 = s.samplePeriod := by
      have le := s.samplePeriod.nanos_le
      rw [Time.ext_iff, Time.repeated, Time.nanos_ofNanos]
      omega
    rw [run.laidOut.simulator, s.pending_simulator, show sampleCount [] + 1 = 1 from rfl, first]
    rfl
  | @execute ms sim w entry rest before pending ih =>
    have perm := run.perm_pending_of_reliable reliable before pending
    have perm : (pendingSamples (sim.step World.behaviour entry rest w).1.pending).Perm
        (pendingSamples (Request.entries entry.due sim.nextSeq (w.act entry.due entry.event).2) ++
          pendingSamples rest) := by
      rw [← pendingSamples_append]
      exact (perm.filter _).map _
    have sound : (w.act entry.due entry.event).1.fatal = none :=
      (run.healthy reliable (before.execute pending)).sound
    have belongs := (run.healthy reliable before).belongs entry (by simp [pending])
    rw [pending, pendingSamples_cons] at ih
    rw [sampleCount_cons]
    change _ = [s.samplePeriod.repeated ((if entry.event.samples then _ else _) + 1)]
    cases samples : entry.event.samples with
    | true =>
      -- The sample that was pending is taken, and asks for the next one.
      rw [samples, if_pos rfl, List.cons.injEq] at ih
      obtain ⟨due, none⟩ := ih
      obtain ⟨period, event⟩ := NetworkEvent.samples_iff.1 samples
      rw [event] at belongs
      obtain rfl : period = s.samplePeriod := belongs
      have asked : pendingSamples (Request.entries entry.due sim.nextSeq
          (w.act entry.due entry.event).2) = [max (entry.due + s.samplePeriod) entry.due] := by
        rw [event] at sound ⊢
        rw [World.act, World.requests_takeSample sound]
        rfl
      rw [asked, none, List.append_nil, due, Time.repeated_succ] at perm
      exact List.perm_singleton.1 perm
    | false =>
      rw [samples, if_neg Bool.false_ne_true] at ih
      have asked : pendingSamples (Request.entries entry.due sim.nextSeq
          (w.act entry.due entry.event).2) = [] := by
        rw [pendingSamples, List.map_eq_nil_iff, List.filter_eq_nil_iff]
        intro e mem
        obtain ⟨⟨r, memr, asked⟩, -, -⟩ := Request.of_mem_entries mem
        obtain ⟨e', asks, caused⟩ := World.causes_of_mem_act memr
        rw [(Request.of_entry? asked).2, Option.some_inj] at asks
        rw [asks, caused.samples samples]
        exact Bool.false_ne_true
      rw [asked, ih, List.nil_append] at perm
      exact List.perm_singleton.1 perm
  | settle limit _ _ ih => rwa [Simulator.pending_settle]

/-- The last sample of a history has been due, and nothing since then was due before it. -/
theorem Built.lastSample_le (run : Built spec s outputs r) (reliable : outputs.Reliable)
    (history : History World.behaviour r.simulator r.world ms sim w) :
    s.samplePeriod.repeated (sampleCount ms) ≤ sim.now ∧
      ∀ m ∈ sinceSample ms, s.samplePeriod.repeated (sampleCount ms) ≤ m.entry.due := by
  induction history with
  | start =>
    refine ⟨?_, fun m mem => ?_⟩
    · simp [sampleCount, Time.repeated, Time.le_def, Time.nanos_ofNanos]
    · cases mem
  | @execute ms sim w entry rest before pending ih =>
    have later := (run.inOrder before).now_le entry (by simp [pending])
    rw [Simulator.now_step]
    rw [sinceSample_cons, sampleCount_cons]
    change s.samplePeriod.repeated (if entry.event.samples then _ else _) ≤ _ ∧
      ∀ m ∈ (if entry.event.samples then _ else _ : List _),
        s.samplePeriod.repeated (if entry.event.samples then _ else _) ≤ _
    cases samples : entry.event.samples with
    | true =>
      have due := run.pendingSamples_eq reliable before
      rw [pending, pendingSamples_cons, samples, if_pos rfl, List.cons.injEq] at due
      rw [if_pos rfl, if_pos rfl, due.1]
      refine ⟨Nat.le_refl _, fun m mem => ?_⟩
      cases mem
    | false =>
      have due : s.samplePeriod.repeated (sampleCount ms) ≤ entry.due := Nat.le_trans ih.1 later
      rw [if_neg Bool.false_ne_true, if_neg Bool.false_ne_true]
      refine ⟨due, fun m mem => ?_⟩
      rcases List.mem_cons.1 mem with rfl | mem
      · exact due
      · exact ih.2 m mem
  | settle limit _ _ ih => exact ⟨Nat.le_trans ih.1 (Simulator.now_le_settle _ limit), ih.2⟩

/-! ## When packets arrive -/

/-- A packet that is on its way was sent before the simulated time was over. -/
theorem Built.arrival_lt (run : Built spec s outputs r)
    (history : History World.behaviour r.simulator r.world ms sim w) :
    ∀ e ∈ sim.pending, ∀ sink, e.event.sink? = some sink →
      e.due.nanos < s.simulationTime.nanos + s.packetAirtime.nanos := by
  have stopAt := ScenarioSpec.stopAt_of_resolve run.accepted
  refine history.forall_pending run.laidOut.inOrder World.schedules_of_mem_act ?_ ?_
  · rw [run.laidOut.simulator, s.pending_simulator]
    intro e mem sink counted
    simp only [List.mem_cons, List.not_mem_nil, or_false] at mem
    rcases mem with rfl | rfl
    · cases counted
    · cases counted
  · intro _ _ w entry _ before _ _ r memr e asked sink counted
    have scene := run.inScene before
    have asks := (Request.of_entry? asked).2
    rcases scene.of_sink?_of_mem_act memr asks counted with
      ⟨f, generation, flow, -, ⟨-, unfinished⟩, rfl⟩
    have config := (scene.of_sender flow.sender).2.2.2.2
    have early : entry.due < s.simulationTime := by
      rw [Sender.isFinished, config, stopAt, Bool.or_eq_false_iff] at unfinished
      exact Nat.lt_of_not_le (of_decide_eq_false unfinished.2)
    rw [Request.entry?, Option.some_inj] at asked
    rw [Time.lt_def] at early
    rw [← asked, Time.nanos_max, Time.nanos_add]
    omega

/-- Every packet that arrived did so within the time that one packet is on the air from the
simulated time on. -/
theorem Built.due_lt_of_delivers (run : Built spec s outputs r)
    (history : History World.behaviour r.simulator r.world ms sim w) :
    ∀ m ∈ ms, m.entry.event.delivers k = true →
      m.entry.due.nanos < s.simulationTime.nanos + s.packetAirtime.nanos := by
  intro m mem delivers
  obtain ⟨later, earlier, split⟩ := List.append_of_mem mem
  obtain ⟨before, pending⟩ := history.of_mem split
  have first : m.entry ∈ m.simulator.pending := by simp [pending]
  have packet := (run.carries before m.entry first).eq_packet delivers
  exact run.arrival_lt before m.entry first k (by rw [packet]; rfl)

/-! ## The end of a run -/

end DenseRun

/-- When the last sample of a run is due. -/
def Scenario.lastSample (s : Scenario) : Time :=
  s.samplePeriod.repeated (s.stopTime.nanos / s.samplePeriod.nanos)

/-- Even a packet that is sent at the last moment has arrived by the last sample. -/
def Scenario.Drains (s : Scenario) : Prop :=
  s.simulationTime.nanos + s.packetAirtime.nanos ≤ s.lastSample.nanos

/-- The last sample is more than a millisecond behind the simulated time. -/
theorem Scenario.drains_of_short (paced : s.Paced) (early : s.stopTime.nanos < lastWord)
    (short : s.packetAirtime.nanos ≤ 1000000) : s.Drains := by
  have stop : s.stopTime.nanos = s.simulationTime.nanos + s.samplePeriod.nanos + 1000000 := by
    have millisecond : (Time.ofMillis 1).nanos = 1000000 := rfl
    unfold Scenario.stopTime at early ⊢
    rw [Time.nanos_add, Time.nanos_add, millisecond] at early ⊢
    omega
  have period := paced.samples
  have whole := Nat.div_add_mod s.stopTime.nanos s.samplePeriod.nanos
  have part := Nat.mod_lt s.stopTime.nanos period
  unfold Scenario.Drains Scenario.lastSample Time.repeated
  rw [Time.nanos_ofNanos]
  omega

namespace DenseRun

/-- A run takes as many samples as sample periods fit into it. -/
theorem Built.sampleCount_eq (run : Built spec s outputs r) (reliable : outputs.Reliable)
    (early : s.stopTime.nanos < lastWord)
    (history : History World.behaviour r.simulator r.world ms sim w) {fuel : Nat}
    (loop : Simulator.runUntil World.behaviour r.stopAt fuel r.simulator r.world = some (sim, w)) :
    sampleCount ms = s.stopTime.nanos / s.samplePeriod.nanos := by
  have ends := Simulator.Ends.of_runUntil loop
  rw [run.laidOut.stopAt] at ends
  have started : r.simulator.now ≤ s.stopTime := by
    rw [run.laidOut.simulator]
    exact Nat.zero_le _
  have last : s.samplePeriod.repeated (sampleCount ms) ≤ s.stopTime :=
    Nat.le_trans (run.lastSample_le reliable history).1 (ends.now_le started)
  have next : s.stopTime < s.samplePeriod.repeated (sampleCount ms + 1) := by
    have mem : s.samplePeriod.repeated (sampleCount ms + 1) ∈ pendingSamples sim.pending := by
      rw [run.pendingSamples_eq reliable history]
      exact List.mem_singleton_self _
    rcases List.mem_map.1 mem with ⟨e, meme, due⟩
    have idle := ends.idle_of_running (run.healthy reliable history).running
    rw [← due]
    exact (run.inOrder history).lt_due idle e (List.mem_filter.1 meme).1
  rw [Time.repeated, Time.le_def, Time.nanos_ofNanos] at last
  rw [Time.repeated, Time.lt_def, Time.nanos_ofNanos] at next
  refine (Nat.div_eq_of_lt_le ?_ ?_).symm
  · rw [Nat.mul_comm]
    omega
  · rw [Nat.mul_comm]
    omega

/-- Nothing arrives behind the last sample of a run if even the last packet has arrived by then. -/
theorem Built.countP_countsArrival (run : Built spec s outputs r) (reliable : outputs.Reliable)
    (drains : s.Drains) (history : History World.behaviour r.simulator r.world ms sim w)
    (count : sampleCount ms = s.stopTime.nanos / s.samplePeriod.nanos) :
    (sinceSample ms).countP (Moment.countsArrival k) = 0 := by
  refine List.countP_eq_zero.2 fun m mem arrives => ?_
  have behind := (run.lastSample_le reliable history).2 m mem
  have memm : m ∈ ms := (List.takeWhile_sublist _).subset mem
  have early := run.due_lt_of_delivers history m memm (Bool.and_eq_true_iff.1 arrives).1
  rw [count, ← Scenario.lastSample, Time.le_def] at behind
  unfold Scenario.Drains at drains
  omega

/-- What the samples of a run have read of the counter of a sink, and what is reported of its
link. -/
structure SamplesAccount (s : Scenario) (ms : List (Moment NetworkEvent World)) (n : Network)
    (k : Nat) (p : Pair) (link : LinkSummary) : Prop where
  /-- The rows show by how much the counter had grown at each sample. -/
  rows : (Written.ofMoments ms).rows.map (fun row => row.perPair[k]?) =
    (sampledGrowths k ms).map fun growth =>
      some (sampledThroughput (sampleScale s.samplePeriod) growth)
  growths : (sampledGrowths k ms).sum = p.lastTotal
  reported : link.received = n.apps.received p.sink
  /-- What has been received and has not been read arrived behind the last sample. -/
  behind : link.received.bytes =
    p.lastTotal + (sinceSample ms).countP (Moment.countsArrival k) * s.sender.packetBytes
  /-- That is nothing if even the last packet has arrived by then. -/
  complete : s.Drains → p.lastTotal = link.received.bytes

theorem Built.samplesAccount_of_history (run : Built spec s outputs r)
    (reliable : outputs.Reliable)
    (history : History World.behaviour r.simulator r.world ms sim w)
    (count : sampleCount ms = s.stopTime.nanos / s.samplePeriod.nanos) (inside : k < s.numStas)
    (simulationTime : Time) :
    ∃ p link, w.experiment.pairs.pairs[k]? = some p ∧
      (w.summary simulationTime).links[k]? = some link ∧
        SamplesAccount s ms w.network k p link := by
  have sound := (run.healthy reliable history).sound
  rcases (run.inScene history).exists_pair_at inside with ⟨p, at_k, sink⟩
  have received := run.received_eq reliable history inside
  rw [World.lastRead_eq at_k] at received
  refine ⟨p, _, at_k, w.experiment.getElem?_links _ _ simulationTime at_k, ?_⟩
  refine ⟨run.rows_growths history sound inside, ?_, rfl, ?_, fun drains => ?_⟩
  · rw [← World.lastRead_eq at_k]
    exact run.sum_growths reliable history inside
  · change (w.network.apps.received p.sink).bytes = _
    rw [sink]
    exact received
  · change _ = (w.network.apps.received p.sink).bytes
    rw [sink, received, run.countP_countsArrival reliable drains history count, Nat.zero_mul]
    rfl

end DenseRun

theorem Experiment.pairs_finish (x : Experiment) (s : Summary) :
    (x.finish s).1.pairs = x.pairs := by
  rw [x.finish_eq s]

namespace DenseRun

/-- A run that is to stop before the last instant, with streams that do not fail, takes as many
samples as sample periods fit into it.  Its rows show all bytes that were received, but for those
that arrived behind the last sample; and none do if no packet is longer than a millisecond on the
air, or if even the last one has arrived by the last sample. -/
theorem Built.samples_account (run : Built spec s outputs r) (reliable : outputs.Reliable)
    (early : s.stopTime.nanos < lastWord) :
    (s.packetAirtime.nanos ≤ 1000000 → s.Drains) ∧ (∃ fuel out, r.run fuel = some out) ∧
      ∀ fuel final answer, r.run fuel = some (final, answer) →
        ∃ summary ms sim w, answer = .ok summary ∧
          History World.behaviour r.simulator r.world ms sim w ∧
          Simulator.runUntil World.behaviour r.stopAt fuel r.simulator r.world = some (sim, w) ∧
          sampleCount ms = s.stopTime.nanos / s.samplePeriod.nanos ∧
          ∀ k, k < s.numStas → ∃ p link, final.experiment.pairs.pairs[k]? = some p ∧
            summary.links[k]? = some link ∧ SamplesAccount s ms final.network k p link := by
  refine ⟨Scenario.drains_of_short (ScenarioSpec.paced_of_resolve run.accepted) early, ?_, ?_⟩
  · obtain ⟨fuel, final, summary, ended⟩ := run.exists_figures reliable early
    exact ⟨fuel, _, ended⟩
  · intro fuel final answer ended
    obtain ⟨summary, rfl⟩ := run.exists_summary reliable ended
    obtain ⟨sim, w, loop, -, figures, -, rfl⟩ := of_run_eq_ok ended
    obtain ⟨ms, history⟩ := History.of_runUntil loop
    have count := run.sampleCount_eq reliable early history loop
    refine ⟨summary, ms, sim, w, rfl, history, loop, count, fun k inside => ?_⟩
    obtain ⟨p, link, at_k, reported, account⟩ :=
      run.samplesAccount_of_history reliable history count inside r.simulationTime
    refine ⟨p, link, ?_, ?_, account⟩
    · rw [Experiment.pairs_finish]
      exact at_k
    · rw [figures]
      exact reported

/-- A lone station with short packets: its rows show all that is received. -/
theorem samples_account_lone : Lone.outputs.Reliable ∧
    Lone.scenario.stopTime.nanos < lastWord ∧
    ∃ fuel final summary p link, Lone.run.run fuel = some (final, .ok summary) ∧
      final.experiment.pairs.pairs[0]? = some p ∧ summary.links[0]? = some link ∧
      p.lastTotal = link.received.bytes := by
  have early : Lone.scenario.stopTime.nanos < lastWord := by decide +kernel
  obtain ⟨drains, ⟨fuel, ⟨final, answer⟩, ended⟩, finished⟩ :=
    Lone.built.samples_account Lone.reliable early
  obtain ⟨summary, ms, sim, w, rfl, -, -, -, links⟩ := finished fuel final answer ended
  obtain ⟨p, link, at_zero, reported, account⟩ := links 0 (by decide)
  exact ⟨Lone.reliable, early, fuel, final, summary, p, link, ended, at_zero, reported,
    account.complete (drains (by decide +kernel))⟩

end DenseRun

/-! ### A packet behind the last sample -/

namespace Slow

/-- One station that associates just before the simulated time is over and sends one packet, which
takes more than two milliseconds at the lowest rate. -/
def spec : ScenarioSpec :=
  { numStas := 1
    simulationTime := 0.0029
    application := { packetSize := 7935 }
    phyMode := "DMG_MCS0"
    channel := { apSectors := 1, staSectors := 1 }
    output := { csv := true, samplePeriod := 2 } }

def scenario : Scenario :=
  match spec.resolve with
  | .ok s => s
  | .error _ => default

def run : DenseRun :=
  match DenseRun.build scenario Lone.outputs with
  | .ok r => r
  | .error _ => default

theorem built : DenseRun.Built spec scenario Lone.outputs run := ⟨rfl, rfl⟩

def requests : List NetworkRequest :=
  World.soloRequests run.world.network.mac scenario.accessPointDevice (scenario.stationDevice 0) 0
    .zero

/-- The simulator after the first event, which leaves the world as it is. -/
def simulator : Simulator NetworkEvent :=
  requests.foldl .serve (run.simulator.taking ⟨.zero, 0, .beaconInterval 0⟩
    [⟨scenario.samplePeriod, 1, .sampleDue scenario.samplePeriod⟩])

theorem beginInterval : run.world.beginInterval 0 .zero = (run.world, requests) := by
  have at_zero : run.world.network.devices[0]? = some scenario.accessPointDevice := by rfl
  have stations : run.world.network.stations = [scenario.stationDevice 0] := by rfl
  have up : run.world.network.linkUp 0 1 .zero = true := by rfl
  exact World.beginInterval_solo rfl at_zero stations rfl (by decide) up rfl 0

theorem pending_start : run.simulator.pending = ⟨.zero, 0, .beaconInterval 0⟩ ::
    [⟨scenario.samplePeriod, 1, .sampleDue scenario.samplePeriod⟩] := by
  rfl

theorem step_start : run.simulator.step World.behaviour ⟨.zero, 0, .beaconInterval 0⟩
    [⟨scenario.samplePeriod, 1, .sampleDue scenario.samplePeriod⟩] run.world =
      (simulator, run.world) := by
  have goesOn : World.behaviour.halted run.world = false := by rfl
  exact Simulator.step_of_act beginInterval goesOn

/-- The run ends after twelve events, with a packet that has been received and not been read. -/
theorem exists_runUntil : ∃ sim w,
    Simulator.runUntil World.behaviour run.stopAt 12 run.simulator run.world = some (sim, w) ∧
      w.lastRead 0 = 0 ∧ (w.network.apps.received 0).bytes = 7935 := by
  have running : ¬ simulator.stopped = true := by decide +kernel
  have outcome : (Simulator.runUntil World.behaviour run.stopAt 11 simulator run.world).map
      (fun out => (out.2.lastRead 0, (out.2.network.apps.received 0).bytes)) = some (0, 7935) := by
    decide +kernel
  rcases Option.map_eq_some_iff.1 outcome with ⟨⟨sim, w⟩, loop, counts⟩
  refine ⟨sim, w, ?_, congrArg Prod.fst counts, congrArg Prod.snd counts⟩
  rw [Simulator.runUntil_of_due pending_start (Nat.not_lt_zero _), step_start, if_neg running]
  dsimp only
  exact loop

end Slow

/-- Not all that is received in a run is sampled before its end. -/
theorem not_all_sampled : ¬ ∀ (spec : ScenarioSpec) (s : Scenario) (outputs : Outputs)
    (r : DenseRun) (fuel : Nat) (final : World) (summary : Summary) (k : Nat) (p : Pair),
      DenseRun.Built spec s outputs r → outputs.Reliable → s.stopTime.nanos < lastWord →
        r.run fuel = some (final, .ok summary) → final.experiment.pairs.pairs[k]? = some p →
          p.lastTotal = (final.network.apps.received p.sink).bytes := by
  intro claim
  rcases Slow.exists_runUntil with ⟨sim, w, loop, read, received⟩
  obtain ⟨ms, history⟩ := History.of_runUntil loop
  rcases (Slow.built.inScene history).exists_pair_at (k := 0) (by decide +kernel) with
    ⟨p, at_zero, sink⟩
  obtain ⟨final, answer, ended⟩ : ∃ final answer, Slow.run.run 12 = some (final, answer) := by
    rw [DenseRun.run, loop]
    exact ⟨_, _, rfl⟩
  obtain ⟨summary, rfl⟩ := Slow.built.exists_summary Lone.reliable ended
  obtain ⟨sim', w', loop', -, -, -, rfl⟩ := DenseRun.of_run_eq_ok ended
  cases loop.symm.trans loop'
  have all := claim Slow.spec Slow.scenario Lone.outputs Slow.run 12 _ summary 0 p Slow.built
    Lone.reliable (by decide +kernel) ended (by rw [Experiment.pairs_finish]; exact at_zero)
  rw [sink] at all
  rw [World.lastRead_eq at_zero] at read
  exact absurd (read.symm.trans (all.trans received)) (by decide)

end DenseDmg
