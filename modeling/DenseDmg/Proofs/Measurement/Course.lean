import DenseDmg.Proofs.World.Effects

/-!
# The figures since the most recent association

An experiment is driven by calls: link events are handed to it and samples are taken, while the
receivers count on.  `Course x₀ cs x` says that the calls `cs`, the latest one first, led from `x₀`
to `x` without a fault, and with receivers that never count down.

* `Course.startTime_eq`: the start time of a pair is when its node was associated most recently.
* `Course.appThroughput_eq`: what the application view divides by the time since then are all the
  bytes that its receiver ever counted, those counted before the association included.
-/

namespace DenseDmg

/-! ## Calls -/

inductive CallKind
  /-- A link event is handed on, with the trace index of the channel. -/
  | event (event : LinkEvent) (traceIndex : Nat)
  | sample

/-- A call of an experiment, and what the receivers have counted by then. -/
structure Call where
  kind : CallKind
  now : Time
  received : SinkId → Nat

namespace Call

/-- What a call leaves, and whether it was a success. -/
def perform (c : Call) (x : Experiment) : Experiment × Except Fault Unit :=
  match c.kind with
  | .event event traceIndex =>
    let h := x.handle event traceIndex c.now
    (h.experiment, h.answer)
  | .sample =>
    let (x, answer) := x.sample c.now c.received
    (x, answer.map fun _ => ())

/-- Whether a call tells of the association of a node. -/
def associates (c : Call) (node : NodeId) : Bool :=
  match c.kind with
  | .event (.associated e) _ => e.node == node
  | _ => false

end Call

/-- `Course x₀ cs x`: the calls `cs`, the latest one first, lead from `x₀` to `x`.  All of them were
successful, and no receiver counted down from one to the next. -/
inductive Course (x₀ : Experiment) : List Call → Experiment → Prop
  | start : Course x₀ [] x₀
  | call {cs : List Call} {x : Experiment} (c : Call) : Course x₀ cs x →
    (∀ earlier ∈ cs.head?, ∀ sink, earlier.received sink ≤ c.received sink) →
    (c.perform x).2 = .ok () → Course x₀ (c :: cs) (c.perform x).1

/-- The registries that are built up by registering pairs. -/
inductive PairRegistry.Registered : PairRegistry → Prop
  | empty : Registered .empty
  | register {r r' : PairRegistry} {node : NodeId} {sender : SenderId} {sink : SinkId}
    {source destination : MacAddress} {column : Nat} : Registered r →
    r.register node sender sink source destination = .ok (r', column) → Registered r'

/-! ## The most recent association -/

/-- A registered pair has been set up and nothing else. -/
theorem PairRegistry.Registered.setup_eq {r : PairRegistry} (registered : r.Registered) :
    ∀ p ∈ r.pairs, p.setup = p := by
  induction registered with
  | empty => exact nofun
  | register _ accepted ih =>
    unfold PairRegistry.register at accepted
    split at accepted
    · cases accepted
    · cases accepted
      intro p mem
      rcases List.mem_append.1 mem with mem | mem
      · exact ih p mem
      · rw [List.mem_singleton.1 mem]
        rfl

theorem PairRegistry.Registered.startTime {r : PairRegistry} (registered : r.Registered) :
    ∀ p ∈ r.pairs, p.startTime = none := by
  intro p mem
  rw [← registered.setup_eq p mem]
  rfl

/-- A pair after a change of one node's pair comes from a pair before it. -/
theorem PairRegistry.of_mem_update {r : PairRegistry} {node : NodeId} {g : Pair → Pair} {p : Pair}
    (mem : p ∈ (r.update node g).pairs) :
    ∃ q ∈ r.pairs, p = if q.node = node then g q else q := by
  obtain ⟨q, memq, rfl⟩ := List.mem_map.1 mem
  exact ⟨q, memq, rfl⟩

/-- A successful call sets the start times of the pairs whose node it associates, and no others. -/
theorem Call.of_mem_perform {c : Call} {x : Experiment} (done : (c.perform x).2 = .ok ()) {p : Pair}
    (mem : p ∈ (c.perform x).1.pairs.pairs) :
    ∃ q ∈ x.pairs.pairs, p.node = q.node ∧
      p.startTime = if c.associates q.node then some c.now else q.startTime := by
  obtain ⟨kind, now, received⟩ := c
  have quiet (event : LinkEvent) {traceIndex : Nat} (quiet : event.IsQuiet)
      (mem : p ∈ (Call.perform ⟨.event event traceIndex, now, received⟩ x).1.pairs.pairs) :
      p ∈ x.pairs.pairs := by
    rwa [← x.pairs_handle quiet traceIndex now]
  cases kind with
  | sample =>
    have same := x.unmeasured_sample now received
    have mem' := List.mem_map_of_mem (f := Pair.unmeasured) mem
    rw [show (Call.perform ⟨.sample, now, received⟩ x).1 = (x.sample now received).1 from rfl,
      same] at mem'
    rcases List.mem_map.1 mem' with ⟨q, memq, unmeasured⟩
    exact ⟨q, memq, (congrArg (·.node) unmeasured).symm, (congrArg (·.startTime) unmeasured).symm⟩
  | event event traceIndex =>
    cases event with
    | associated e =>
      rcases Experiment.of_onAssociated done with ⟨-, -, pairs, -⟩
      rw [show (Call.perform ⟨.event (.associated e) traceIndex, now, received⟩ x).1.pairs =
        (x.onAssociated e now).experiment.pairs from rfl, pairs] at mem
      rcases PairRegistry.of_mem_update mem with ⟨q, memq, rfl⟩
      refine ⟨q, memq, ?_, ?_⟩
      · split <;> rfl
      · simp only [associates, beq_iff_eq, eq_comm (a := e.node)]
        split <;> rfl
    | deassociated e =>
      rcases Experiment.of_onDeassociated done with ⟨-, -, pairs, -⟩
      rw [show (Call.perform ⟨.event (.deassociated e) traceIndex, now, received⟩ x).1.pairs =
        (x.onDeassociated e).experiment.pairs from rfl, pairs] at mem
      rcases PairRegistry.of_mem_update mem with ⟨q, memq, rfl⟩
      refine ⟨q, memq, ?_, ?_⟩
      · split <;> rfl
      · simp only [associates]
        split <;> rfl
    | trainingCompleted e => exact ⟨p, quiet (.trainingCompleted e) trivial mem, rfl, rfl⟩
    | transferStarted e => exact ⟨p, quiet (.transferStarted e) trivial mem, rfl, rfl⟩
    | frameReceived e => exact ⟨p, quiet (.frameReceived e) trivial mem, rfl, rfl⟩

namespace Course

variable {x₀ x : Experiment} {cs : List Call}

/-- The start time of a pair is when its node was associated most recently. -/
theorem startTime_eq (course : Course x₀ cs x) (fresh : ∀ p ∈ x₀.pairs.pairs, p.startTime = none) :
    ∀ p ∈ x.pairs.pairs, p.startTime = (cs.find? fun c => c.associates p.node).map Call.now := by
  induction course with
  | start => exact fresh
  | call c _ _ done ih =>
    intro p mem
    rcases Call.of_mem_perform done mem with ⟨q, memq, node, startTime⟩
    rw [node, startTime, List.find?_cons]
    cases associates : c.associates q.node with
    | true => rfl
    | false => exact ih q memq

/-- No receiver has counted less than at any earlier call. -/
theorem received_le (course : Course x₀ cs x) {received : SinkId → Nat}
    (grown : ∀ c ∈ cs.head?, ∀ sink, c.received sink ≤ received sink) :
    ∀ c ∈ cs, ∀ sink, c.received sink ≤ received sink := by
  induction course generalizing received with
  | start => exact nofun
  | call c _ grown' _ ih =>
    intro c' mem sink
    have latest := grown c rfl sink
    rcases List.mem_cons.1 mem with rfl | mem
    · exact latest
    · exact Nat.le_trans (ih grown' c' mem sink) latest

end Course

/-- The application view of a pair that has been started before the end. -/
theorem Pair.appThroughput_summarize {p : Pair} {start finish : Time}
    (started : p.startTime = some start) (later : start < finish) (link : Nat)
    (sent received : Counters) (window : Float) :
    (p.summarize link sent received window finish).appThroughput =
      meanThroughput received.bytes (finish - start).seconds := by
  have active : activeSeconds? p.startTime finish = some (finish - start).seconds := by
    rw [started, activeSeconds?, Option.bind_some, if_pos later]
  simp only [summarize, active]

theorem Experiment.getElem?_links (x : Experiment) (sent : SenderId → Counters)
    (received : SinkId → Counters) (finish : Time) {i : Nat} {p : Pair}
    (at_i : x.pairs.pairs[i]? = some p) :
    (x.summary sent received finish).links[i]? =
      some (p.summarize (i + 1) (sent p.sender) (received p.sink)
        (finish - x.sampler.period).seconds finish) := by
  simp only [summary, List.getElem?_map, List.getElem?_zipIdx, at_i, Option.map_some, Nat.zero_add]

namespace Course

variable {x₀ x : Experiment} {cs : List Call}

/-- The throughput of the application view.  For a pair that has been started before the end there
is a most recent call that associated its node, at its start time.  The figure divides by the time
since then, but the bytes are all that the receiver has counted: those that it counted until that
association, and the `b` bytes since.  So it is the throughput since the association if the
receiver had counted nothing until then. -/
theorem appThroughput_eq {config : ExperimentConfig} {addresses : AddressBook}
    {registry : PairRegistry} {outputs : Outputs} (registered : registry.Registered)
    (begun : Experiment.start config addresses registry outputs = .ok x₀) (course : Course x₀ cs x)
    (sent : SenderId → Counters) (received : SinkId → Counters) (finish : Time)
    (grown : ∀ c ∈ cs.head?, ∀ sink, c.received sink ≤ (received sink).bytes)
    {i : Nat} {p : Pair} (at_i : x.pairs.pairs[i]? = some p) {start : Time}
    (started : p.startTime = some start) (later : start < finish) :
    ∃ c l b, cs.find? (fun c => c.associates p.node) = some c ∧ c.now = start ∧
      (x.summary sent received finish).links[i]? = some l ∧
      (received p.sink).bytes = c.received p.sink + b ∧
      l.appThroughput = meanThroughput (c.received p.sink + b) (finish - start).seconds ∧
      (c.received p.sink = 0 → l.appThroughput = meanThroughput b (finish - start).seconds) := by
  have fresh : ∀ p ∈ x₀.pairs.pairs, p.startTime = none := by
    rcases Experiment.of_start begun with ⟨-, -, pairs, -⟩
    rw [pairs]
    exact registered.startTime
  have recent := course.startTime_eq fresh p (List.mem_of_getElem? at_i)
  rw [started] at recent
  obtain ⟨c, found, now⟩ := Option.map_eq_some_iff.1 recent.symm
  have counted := course.received_le grown c (List.mem_of_find?_eq_some found) p.sink
  obtain ⟨b, total⟩ := Nat.exists_eq_add_of_le counted
  have figure := Pair.appThroughput_summarize started later (i + 1) (sent p.sender)
    (received p.sink) (finish - x.sampler.period).seconds
  rw [total] at figure
  refine ⟨c, _, b, found, now, x.getElem?_links sent received finish at_i, total, figure, ?_⟩
  intro nothing
  rw [figure, nothing, Nat.zero_add]

/-! ## A station that associates twice -/

/-- The registry of one pair, of node 1. -/
def onePair : PairRegistry := ⟨[.idle 1 0 0 (.allocate 2) (.allocate 1)]⟩

theorem registered_onePair : onePair.Registered :=
  .register .empty (show PairRegistry.register _ _ _ _ _ _ = .ok (_, 0) from rfl)

/-- Node 1 associates at once, lets go after a second and associates again after another one.  Its
receiver has counted some bytes until it lets go. -/
def reassociation (bytes : Nat) : List Call :=
  [⟨.event (.associated ⟨1, .allocate 2, .allocate 1, 2⟩) 0, .ofSecs 2, fun _ => bytes⟩,
    ⟨.event (.deassociated ⟨1, .allocate 2, .allocate 1⟩) 0, .ofSecs 1, fun _ => bytes⟩,
    ⟨.event (.associated ⟨1, .allocate 2, .allocate 1, 1⟩) 0, .ofSecs 0, fun _ => 0⟩]

theorem course_reassociation (bytes : Nat) :
    ∃ x₀ x p, Experiment.start ⟨10, true, true, .ofMillis 100⟩ ⟨[]⟩ onePair
        ⟨.discard, .discard, .discard⟩ = .ok x₀ ∧
      Course x₀ (reassociation bytes) x ∧ x.pairs.pairs[0]? = some p ∧ p.node = 1 ∧ p.sink = 0 ∧
      p.startTime = some (.ofSecs 2) := by
  refine ⟨_, _, _, rfl, .call _ (.call _ (.call _ .start nofun rfl) ?_ rfl) ?_ rfl, rfl, rfl, rfl,
    rfl⟩
  · rintro _ ⟨⟩ _
    exact Nat.zero_le _
  · rintro _ ⟨⟩ _
    exact Nat.le_refl _

/-- With nothing received before it associates again, the figure is the throughput since. -/
theorem appThroughput_reassociation_zero :
    ∃ x₀ x l, onePair.Registered ∧
      Experiment.start ⟨10, true, true, .ofMillis 100⟩ ⟨[]⟩ onePair
        ⟨.discard, .discard, .discard⟩ = .ok x₀ ∧
      Course x₀ (reassociation 0) x ∧
      (x.summary (fun _ => .zero) (fun _ => ⟨2, 2000⟩) (.ofSecs 3)).links[0]? = some l ∧
      l.appThroughput = meanThroughput 2000 (Time.ofSecs 3 - Time.ofSecs 2).seconds := by
  obtain ⟨x₀, x, p, begun, course, at_zero, node, sink, started⟩ := course_reassociation 0
  obtain ⟨c, l, b, found, -, link, total, -, figure⟩ := appThroughput_eq registered_onePair begun
    course (fun _ => .zero) (fun _ => ⟨2, 2000⟩) (.ofSecs 3)
    (by rintro _ ⟨⟩ _; exact Nat.zero_le _) at_zero started (by decide)
  rw [node] at found
  cases found
  have all : 2000 = b := total.trans (Nat.zero_add b)
  rw [← all] at figure
  exact ⟨x₀, x, l, registered_onePair, begun, course, link, figure rfl⟩

/-- With something received before it associates again, the figure is a different one. -/
theorem appThroughput_reassociation_ne :
    ∃ x₀ x p l, onePair.Registered ∧
      Experiment.start ⟨10, true, true, .ofMillis 100⟩ ⟨[]⟩ onePair
        ⟨.discard, .discard, .discard⟩ = .ok x₀ ∧
      Course x₀ (reassociation 1000) x ∧ x.pairs.pairs[0]? = some p ∧
      p.startTime = some (.ofSecs 2) ∧
      (x.summary (fun _ => .zero) (fun _ => ⟨3, 3000⟩) (.ofSecs 3)).links[0]? = some l ∧
      l.appThroughput ≠ meanThroughput (3000 - 1000) (Time.ofSecs 3 - Time.ofSecs 2).seconds := by
  obtain ⟨x₀, x, p, begun, course, at_zero, -, -, started⟩ := course_reassociation 1000
  refine ⟨x₀, x, p, _, registered_onePair, begun, course, at_zero, started,
    x.getElem?_links _ _ _ at_zero, ?_⟩
  rw [Pair.appThroughput_summarize started (by decide)]
  have ne_of_lt {a b : Float} (more : a < b) (same : ¬ b < b) : b ≠ a := by
    rintro rfl
    exact same more
  exact ne_of_lt (by decide) (by decide)

end Course

end DenseDmg
