import DenseDmg.Proofs.Measurement.Sampling
import DenseDmg.Proofs.Running.Transcript
import DenseDmg.Proofs.Traffic.Packets

/-!
# What the samples of a run read

Every sample of a run reads the receive counters of all pairs, and shows in its row by how much they
have grown.  Between two samples nothing is read, and a counter grows by one packet with every
arrival that finds the link up.

* `Built.rows_growths`: the rows show what the samples have read.
* `Built.sum_growths`: it adds up to what the pair read last.
* `Built.received_eq`: what has not been read are the packets that arrived since the last sample.
-/

namespace DenseDmg

/-! ## One event -/

namespace World

variable {s : Scenario} {outputs : Outputs} {w w' : World} {k : Nat} {now : Time}
  {event : NetworkEvent}

/-- What the pair of the station counted `k` from zero read when it was sampled last. -/
def lastRead (w : World) (k : Nat) : Nat :=
  match w.experiment.pairs.pairs[k]? with
  | some p => p.lastTotal
  | none => 0

theorem lastRead_eq {p : Pair} (at_k : w.experiment.pairs.pairs[k]? = some p) :
    w.lastRead k = p.lastTotal := by
  rw [lastRead, at_k]

theorem lastRead_congr (same : w'.experiment.pairs.pairs.map Pair.reading =
    w.experiment.pairs.pairs.map Pair.reading) : w'.lastRead k = w.lastRead k := by
  have at_k := congrArg (fun rs : List (SinkId × Nat) => rs[k]?) same
  simp only [List.getElem?_map] at at_k
  unfold lastRead
  cases first : w.experiment.pairs.pairs[k]? with
  | none =>
    rw [first] at at_k
    rw [Option.map_eq_none_iff.1 at_k]
  | some p =>
    rw [first] at at_k
    obtain ⟨q, second, reading⟩ := Option.map_eq_some_iff.1 at_k
    rw [second]
    exact congrArg Prod.snd reading

/-- The pair at position `k` reads the sink at position `k`. -/
theorem InScene.exists_pair_at (scene : w.InScene s outputs) (inside : k < s.numStas) :
    ∃ p, w.experiment.pairs.pairs[k]? = some p ∧ p.sink = k := by
  have setup := scene.getElem?_pairs_setup k
  rw [if_pos inside] at setup
  obtain ⟨p, at_k, setup⟩ := Option.map_eq_some_iff.1 setup
  exact ⟨p, at_k, congrArg Pair.sink setup⟩

/-- Nothing but a sample reads a counter. -/
theorem map_reading_act (w : World) (now : Time) (other : event.samples = false) :
    (w.act now event).1.experiment.pairs.pairs.map Pair.reading =
      w.experiment.pairs.pairs.map Pair.reading := by
  cases event with
  | beaconInterval index => exact congrArg Prod.snd (w.readings_beginInterval index now)
  | transferInterval duration => exact congrArg Prod.snd (w.readings_beginTransfer duration now)
  | associationComplete station =>
    exact congrArg Prod.snd (w.readings_completeAssociation station now)
  | trainingRequested initiator responder => rw [act, fst_beginTraining]
  | trainingDone initiator responder period =>
    exact congrArg Prod.snd (w.readings_endTraining initiator responder period now)
  | frameArrives tx rx kind bytes sink =>
    unfold act receiveFrame
    dsimp only
    split
    · split
      · refine (congrArg Prod.snd (readings_dispatch ..)).trans ?_
        cases sink <;> rfl
      · rfl
    · rfl
  | sendTimer sender generation =>
    exact congrArg Prod.snd (w.readings_sendPacket sender generation now)
  | sampleDue period => cases other

/-- A sample reads what the sinks have counted, and no other event reads anything. -/
theorem InScene.lastRead_act (scene : w.InScene s outputs) (counted : w.Counted)
    (inside : k < s.numStas) (sound : (w.act now event).1.fatal = none) :
    (w.act now event).1.lastRead k =
      if event.samples then (w.network.apps.received k).bytes else w.lastRead k := by
  split
  next samples =>
    cases event with
    | sampleDue period =>
      rcases of_takeSample sound with ⟨row, -, experiment⟩
      have scene' : (w.takeSample period now).1.InScene s outputs :=
        (w.setup_takeSample period now).trans scene
      rcases scene'.exists_pair_at inside with ⟨p, at_k, sink⟩
      rw [act, lastRead_eq at_k]
      rw [experiment] at at_k
      have read := (w.experiment.sample_of_counted now
        (fun sink => (w.network.apps.received sink).bytes) counted.le).1
      rw [read p (List.mem_of_getElem? at_k), sink]
    | _ => cases samples
  next other => exact lastRead_congr (w.map_reading_act now (by simpa using other))

/-- The counter of a sink after an event: one packet more if one has arrived with the link up. -/
theorem InScene.received_act_eq (scene : w.InScene s outputs) (carries : event.Carries s) :
    (w.act now event).1.network.apps.received k =
      if event.delivers k && w.network.linkUp (k + 1) 0 now then
        (w.network.apps.received k).add s.sender.packetBytes
      else w.network.apps.received k := by
  cases counted : event.sink? with
  | none =>
    rw [w.received_act now counted, NetworkEvent.not_delivers_of_sink? counted k, Bool.false_and,
      if_neg nofun]
  | some sink =>
    obtain ⟨inside, rfl⟩ := carries sink counted
    rw [scene.received_packet inside, NetworkEvent.delivers_packet]
    by_cases same : sink = k
    · subst same
      simp
    · rw [if_neg fun both => same both.1.symm, decide_eq_false same, Bool.false_and, if_neg nofun]

/-- The row of a sample shows by how much the counter of each pair has grown. -/
theorem InScene.exists_row (scene : w.InScene s outputs) (inside : k < s.numStas) {period : Time}
    (sound : (w.takeSample period now).1.fatal = none) :
    ∃ row, w.writtenSample now = ⟨[.row row], [], []⟩ ∧
      row.perPair[k]? = some (sampledThroughput (sampleScale s.samplePeriod)
        ((w.network.apps.received k).bytes - w.lastRead k)) := by
  rcases of_takeSample sound with ⟨row, sampled, -⟩
  rcases Experiment.sampled_of_sample sampled with ⟨answer, -⟩
  rcases scene.exists_pair_at inside with ⟨p, at_k, sink⟩
  have behaves := Sampling.behaves ⟨w.experiment.sampler, w.experiment.pairs, now,
    fun sink => (w.network.apps.received sink).bytes⟩
  have period : w.experiment.sampler.period = s.samplePeriod :=
    congrArg (·.experiment.sampler.period) scene
  refine ⟨row, by rw [writtenSample, answer], ?_⟩
  rw [behaves.row row answer, List.getElem?_map, at_k, Option.map_some, Sampler.scale, period,
    Pair.growth, sink, lastRead_eq at_k]

end World

/-! ## Along a run -/

/-- By how much the counter of a sink has grown since it was read last. -/
def Moment.growth (k : Nat) (m : Moment NetworkEvent World) : Nat :=
  (m.world.network.apps.received k).bytes - m.world.lastRead k

/-- A packet for a sink arrives with its link up. -/
def Moment.countsArrival (k : Nat) (m : Moment NetworkEvent World) : Bool :=
  m.entry.event.delivers k && m.hasLink k

/-- By how much the counter of a sink had grown at each sample of a history, the earliest one
first. -/
def sampledGrowths (k : Nat) (ms : List (Moment NetworkEvent World)) : List Nat :=
  (ms.reverse.filter Moment.samples).map (Moment.growth k)

/-- The moments since the last sample of a history, all of them if there was none. -/
def sinceSample (ms : List (Moment NetworkEvent World)) : List (Moment NetworkEvent World) :=
  ms.takeWhile fun m => !m.samples

theorem sampledGrowths_cons (k : Nat) (m : Moment NetworkEvent World)
    (ms : List (Moment NetworkEvent World)) :
    sampledGrowths k (m :: ms) =
      sampledGrowths k ms ++ if m.samples then [m.growth k] else [] := by
  unfold sampledGrowths
  rw [List.reverse_cons, List.filter_append, List.map_append]
  cases samples : m.samples <;> simp [samples]

theorem sinceSample_cons (m : Moment NetworkEvent World) (ms : List (Moment NetworkEvent World)) :
    sinceSample (m :: ms) = if m.samples then [] else m :: sinceSample ms := by
  rw [sinceSample, List.takeWhile_cons]
  cases m.samples <;> rfl

namespace DenseRun

variable {spec : ScenarioSpec} {s : Scenario} {outputs : Outputs} {r : DenseRun}
  {sim : Simulator NetworkEvent} {w : World} {ms : List (Moment NetworkEvent World)} {k : Nat}

/-- The rows of a history without a fault show what its samples have read. -/
theorem Built.rows_growths (run : Built spec s outputs r)
    (history : History World.behaviour r.simulator r.world ms sim w) (sound : w.fatal = none)
    (inside : k < s.numStas) :
    (Written.ofMoments ms).rows.map (fun row => row.perPair[k]?) =
      (sampledGrowths k ms).map fun growth =>
        some (sampledThroughput (sampleScale s.samplePeriod) growth) := by
  rw [sampledGrowths, List.map_map]
  refine Written.map_rows_ofMoments _ _ fun m mem => ?_
  have dated := run.dated history sound m mem
  rcases run.sound_of_mem history sound m mem with ⟨scene, intact⟩
  cases samples : m.samples with
  | false =>
    have none := dated.rows
    rw [samples, if_neg nofun, List.map_eq_nil_iff] at none
    rw [none]
    rfl
  | true =>
    rw [if_pos rfl]
    rcases m with ⟨sim, w, ⟨due, seq, event⟩, rest⟩
    cases event with
    | sampleDue period =>
      obtain ⟨row, written, shown⟩ := scene.exists_row inside intact
      rw [show Moment.written ⟨sim, w, ⟨due, seq, .sampleDue period⟩, rest⟩ = w.writtenSample due
        from rfl, written]
      exact congrArg (fun x => [x]) shown
    | _ => cases samples

theorem LaidOut.lastRead (run : LaidOut s outputs r) (inside : k < s.numStas) :
    r.world.lastRead k = 0 := by
  have at_k : r.world.experiment.pairs.pairs[k]? = some (Scenario.flowPair k) := by
    rw [run.pairs]
    simp only [Scenario.pairs, List.getElem?_map, List.getElem?_range' inside, Option.map_some,
      Nat.zero_add, Nat.one_mul]
  rw [World.lastRead_eq at_k]
  rfl

/-- What the samples have read of a counter adds up to what was read last. -/
theorem Built.sum_growths (run : Built spec s outputs r) (reliable : outputs.Reliable)
    (history : History World.behaviour r.simulator r.world ms sim w) (inside : k < s.numStas) :
    (sampledGrowths k ms).sum = w.lastRead k := by
  induction history with
  | start => exact (run.laidOut.lastRead inside).symm
  | @execute ms sim w entry rest before pending ih =>
    have counted := (run.healthy reliable before).counted
    have sound : (w.act entry.due entry.event).1.fatal = none :=
      (run.healthy reliable (before.execute pending)).sound
    change _ = (w.act entry.due entry.event).1.lastRead k
    rw [(run.inScene before).lastRead_act counted inside sound, sampledGrowths_cons,
      List.sum_append, ih]
    change _ + List.sum (if entry.event.samples then _ else _) = _
    split
    next =>
      rcases (run.inScene before).exists_pair_at inside with ⟨p, at_k, sink⟩
      have le := counted.le p (List.mem_of_getElem? at_k)
      rw [sink, ← World.lastRead_eq at_k] at le
      rw [List.sum_singleton]
      exact Nat.add_sub_of_le le
    next => rfl
  | settle limit _ _ ih => exact ih

/-- The bytes that a sink has counted and that have not been read are those of the packets that
arrived since the last sample. -/
theorem Built.received_eq (run : Built spec s outputs r) (reliable : outputs.Reliable)
    (history : History World.behaviour r.simulator r.world ms sim w) (inside : k < s.numStas) :
    (w.network.apps.received k).bytes =
      w.lastRead k + (sinceSample ms).countP (Moment.countsArrival k) * s.sender.packetBytes := by
  induction history with
  | start =>
    rw [run.laidOut.received inside, run.laidOut.lastRead inside, Nat.zero_add]
    exact (Nat.zero_mul _).symm
  | @execute ms sim w entry rest before pending ih =>
    have scene := run.inScene before
    have carries := run.carries before entry (by simp [pending])
    have counted := (run.healthy reliable before).counted
    have sound : (w.act entry.due entry.event).1.fatal = none :=
      (run.healthy reliable (before.execute pending)).sound
    change ((w.act entry.due entry.event).1.network.apps.received k).bytes =
      (w.act entry.due entry.event).1.lastRead k + _
    rw [scene.lastRead_act counted inside sound, scene.received_act_eq carries, sinceSample_cons]
    change _ = _ + (if entry.event.samples then _ else _ : List _).countP _ * _
    cases samples : entry.event.samples with
    | true =>
      have quiet : entry.event.delivers k = false := by
        cases event : entry.event with
        | sampleDue period => rfl
        | _ => rw [event] at samples; cases samples
      rw [quiet, Bool.false_and, if_neg Bool.false_ne_true, if_pos rfl, if_pos rfl, List.countP_nil,
        Nat.zero_mul]
      rfl
    | false =>
      rw [if_neg Bool.false_ne_true, if_neg Bool.false_ne_true, List.countP_cons]
      change _ = _ + (_ + if (entry.event.delivers k && w.network.linkUp (k + 1) 0 entry.due) = true
        then 1 else 0) * _
      cases entry.event.delivers k && w.network.linkUp (k + 1) 0 entry.due with
      | true =>
        rw [if_pos rfl, if_pos rfl, Nat.succ_mul, ← Nat.add_assoc, ← ih]
        rfl
      | false =>
        rw [if_neg Bool.false_ne_true, if_neg Bool.false_ne_true]
        exact ih
  | settle limit _ _ ih => exact ih

end DenseRun

end DenseDmg
