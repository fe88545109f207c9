import DenseDmg.Measurement.PairTable
import DenseDmg.Proofs.Calls
import DenseDmg.Proofs.Measurement.Alternation

/-!
# The index of the pairs

`PairTable.run calls` makes calls on an empty table, the earliest one first, whichever of them are
refused, and gives the table with the history of calls and answers; `PairRegistry.run calls` makes
the same calls on the registry that searches for its pairs.

* `PairTable.Indexed.exists_step`: while the index is that of the pairs, a call stays inside the
  table and does the same as on the registry.
* `PairTable.Consistent.step`: a call keeps what the calls before it have made of the columns.
* `PairTable.pairs_consistent`: the columns after any calls.
* `Handlings.exists_table`: the pairs of an experiment, however it is driven, are those of such a
  table.
-/

namespace DenseDmg

/-! ## Calls -/

/-- What is asked of the pairs. -/
inductive PairCall
  | register (node : NodeId) (sender : SenderId) (sink : SinkId) (source destination : MacAddress)
  | activate (node : NodeId) (now : Time)
  | deactivate (node : NodeId)
  | sample (sampler : Sampler) (now : Time) (received : SinkId → Nat)

inductive PairAnswer
  /-- The column of a new pair. -/
  | column (column : Nat)
  /-- Whether the pair has turned from idle to active or back. -/
  | turned (turned : Bool)
  | row (row : ThroughputRow)

/-- Calls with their answers. -/
abbrev PairHistory := List (PairCall × Except Fault PairAnswer)

namespace PairCall

/-- Whether a call asks for a pair of a node. -/
def registers (node : NodeId) : PairCall → Bool
  | register other .. => other == node
  | _ => false

/-- The column that a registration was given, if it was accepted. -/
def column? : PairCall × Except Fault PairAnswer → Option Nat
  | (register .., .ok (.column column)) => some column
  | _ => none

/-- The pair that a registration has added, if it was accepted. -/
def pair? : PairCall × Except Fault PairAnswer → Option Pair
  | (register node sender sink source destination, .ok _) =>
    some (.idle node sender sink source destination)
  | _ => none

end PairCall

namespace PairRegistry

def perform (r : PairRegistry) : PairCall → PairRegistry × Except Fault PairAnswer
  | .register node sender sink source destination =>
    match r.register node sender sink source destination with
    | .ok (r, column) => (r, .ok (.column column))
    | .error f => (r, .error f)
  | .activate node now =>
    match r.get node with
    | .ok p => (r.update node fun p => p.activate now, .ok (.turned !p.active))
    | .error f => (r, .error f)
  | .deactivate node =>
    match r.get node with
    | .ok p => (r.update node Pair.deactivate, .ok (.turned p.active))
    | .error f => (r, .error f)
  | .sample sampler now received =>
    let (_, r, answer) := sampler.sample now r received
    (r, answer.map .row)

def run (calls : List PairCall) : Option (PairRegistry × PairHistory) :=
  answered (fun r call => some (r.perform call)) .empty calls

end PairRegistry

namespace PairTable

def perform (t : PairTable) : PairCall → Option (PairTable × Except Fault PairAnswer)
  | .register node sender sink source destination =>
    let (t, answer) := t.register node sender sink source destination
    some (t, answer.map .column)
  | .activate node now => (t.activate node now).map fun (t, answer) => (t, answer.map .turned)
  | .deactivate node => (t.deactivate node).map fun (t, answer) => (t, answer.map .turned)
  | .sample sampler now received =>
    let (t, answer) := t.sample sampler now received
    some (t, answer.map .row)

def run (calls : List PairCall) : Option (PairTable × PairHistory) :=
  answered perform .empty calls

/-! ## The registry that a table stands for -/

variable {t t' : PairTable} {node other : NodeId} {column : Nat} {f : Pair → Pair}

/-- The pairs in the order of their columns. -/
def registry (t : PairTable) : PairRegistry := ⟨t.pairs.toList⟩

/-- The index gives the column of every pair, and of nothing else. -/
def Indexed (t : PairTable) : Prop :=
  ∀ node column, t.columns.lookup node = some column ↔ t.nodes[column]? = some node

theorem length_nodes (t : PairTable) : t.nodes.length = t.size := by
  rw [nodes, List.length_map, Array.length_toList, size]

theorem nodes_push (t : PairTable) (p : Pair) (columns : List (NodeId × Nat)) :
    (⟨t.pairs.push p, columns⟩ : PairTable).nodes = t.nodes ++ [p.node] := by
  rw [nodes, Array.toList_push, List.map_append]
  rfl

theorem getElem?_nodes :
    t.nodes[column]? = some node ↔ ∃ p, t.pairs[column]? = some p ∧ p.node = node := by
  rw [nodes, List.getElem?_map, Array.getElem?_toList, Option.map_eq_some_iff]

theorem indexed_empty : empty.Indexed :=
  fun _ _ => iff_of_false nofun nofun

namespace Indexed

theorem congr (indexed : t.Indexed) (columns : t'.columns = t.columns)
    (nodes : t'.nodes = t.nodes) : t'.Indexed := by
  intro node column
  rw [columns, nodes]
  exact indexed node column

/-- What a search finds is what stands in the column that the index gives. -/
theorem search (indexed : t.Indexed) (node : NodeId) :
    (t.columns.lookup node = none ∧ t.registry.get? node = none) ∨
      ∃ column p, t.columns.lookup node = some column ∧ t.pairs[column]? = some p ∧
        p.node = node ∧ t.registry.get? node = some p := by
  cases found : t.registry.get? node with
  | none =>
    refine .inl ⟨Option.eq_none_iff_forall_ne_some.2 fun column known => ?_, rfl⟩
    obtain ⟨p, at_column, of_node⟩ := getElem?_nodes.1 ((indexed node column).1 known)
    have mem : p ∈ t.pairs.toList := Array.mem_toList_iff.2 (Array.mem_of_getElem? at_column)
    exact List.find?_eq_none.1 found p mem (beq_iff_eq.2 of_node)
  | some p =>
    obtain ⟨mem, of_node⟩ := PairRegistry.of_get? found
    obtain ⟨column, at_column⟩ := List.mem_iff_getElem?.1 mem
    have at_column : t.pairs[column]? = some p := Array.getElem?_toList ▸ at_column
    exact .inr ⟨column, p, (indexed node column).2 (getElem?_nodes.2 ⟨p, at_column, of_node⟩),
      at_column, of_node, rfl⟩

/-- The pair of a node is never out of range. -/
theorem get_eq (indexed : t.Indexed) (node : NodeId) :
    t.get node = some (t.registry.get node) := by
  unfold get PairTable.column PairRegistry.get
  rcases indexed.search node with ⟨unknown, missing⟩ | ⟨column, p, known, at_column, -, found⟩
  · rw [unknown, missing]
  · rw [known, found]
    dsimp only
    rw [at_column]
    rfl

/-- To change the pair in the column of a node is to change the pairs of the node. -/
theorem registry_modify (indexed : t.Indexed) (known : t.columns.lookup node = some column) :
    ({ t with pairs := t.pairs.modify column f } : PairTable).registry =
      t.registry.update node f := by
  refine congrArg PairRegistry.mk (List.ext_getElem? fun i => ?_)
  rw [Array.getElem?_toList, Array.getElem?_modify, registry, List.getElem?_map,
    Array.getElem?_toList]
  cases at_i : t.pairs[i]? with
  | none => simp
  | some p =>
    have own : column = i ↔ p.node = node := by
      have here := (indexed node i).trans getElem?_nodes
      rw [known, Option.some.injEq] at here
      simpa [at_i] using here
    by_cases same : column = i
    · rw [if_pos same, Option.map_some, Option.map_some, if_pos (own.1 same)]
    · rw [if_neg same, Option.map_some, if_neg (mt own.2 same)]

/-- A pair is changed in its column as it would be by a search for its node. -/
theorem modify_cases (indexed : t.Indexed) (node : NodeId)
    (unseen : ∀ p, (f p).setup = p.setup) :
    (∃ fault, t.registry.get node = .error fault ∧ t.modify node f = some (t, .error fault)) ∨
      ∃ p t', t.registry.get node = .ok p ∧ t.modify node f = some (t', .ok p) ∧
        t'.registry = t.registry.update node f ∧ t'.columns = t.columns ∧
        t'.registry.setup = t.registry.setup := by
  unfold modify PairTable.column PairRegistry.get
  rcases indexed.search node with ⟨unknown, missing⟩ | ⟨column, p, known, at_column, -, found⟩
  · rw [unknown, missing]
    exact .inl ⟨_, rfl, rfl⟩
  · rw [known, found]
    dsimp only
    rw [at_column]
    have changed := indexed.registry_modify (f := f) known
    exact .inr ⟨p, _, rfl, rfl, changed, rfl, changed ▸ PairRegistry.setup_update _ _ unseen⟩

end Indexed

/-! ## One call -/

/-- What a call does to a table. -/
inductive Step (t : PairTable) : PairCall → PairTable → Except Fault PairAnswer → Prop
  /-- A pair is added in a new column. -/
  | added {node : NodeId} {sender : SenderId} {sink : SinkId} {source destination : MacAddress} :
    t.columns.lookup node = none →
    Step t (.register node sender sink source destination)
      ⟨t.pairs.push (.idle node sender sink source destination), (node, t.size) :: t.columns⟩
      (.ok (.column t.size))
  /-- No pair is added, and every pair stays in its column. -/
  | kept {call : PairCall} {t' : PairTable} {answer : Except Fault PairAnswer} :
    (∀ node, call.registers node → (t.columns.lookup node).isSome) →
    PairCall.column? (call, answer) = none → PairCall.pair? (call, answer) = none →
    t'.columns = t.columns → t'.registry.setup = t.registry.setup → Step t call t' answer

section Register

variable (t : PairTable) (sender : SenderId) (sink : SinkId) (source destination : MacAddress)

theorem register_of_unknown (unknown : t.columns.lookup node = none) :
    t.register node sender sink source destination =
      (⟨t.pairs.push (.idle node sender sink source destination), (node, t.size) :: t.columns⟩,
        .ok t.size) := by
  rw [register, unknown]
  rfl

/-- A registration that is refused leaves the table exactly as it was. -/
theorem register_of_known (known : (t.columns.lookup node).isSome) :
    t.register node sender sink source destination =
      (t, .error (.invalidValue "traffic configuration"
        s!"node {node} already has a communication pair")) :=
  if_pos known

end Register

/-- While the index is that of the pairs, a call stays inside the table, and the registry does the
same. -/
theorem Indexed.exists_step (indexed : t.Indexed) (call : PairCall) :
    ∃ t' answer, t.perform call = some (t', answer) ∧
      t.registry.perform call = (t'.registry, answer) ∧ Step t call t' answer := by
  cases call with
  | register node sender sink source destination =>
    rcases indexed.search node with ⟨unknown, missing⟩ | ⟨column, p, known, -, -, found⟩
    · refine ⟨_, _, ?_, ?_, .added unknown⟩
      · rw [perform, register_of_unknown t sender sink source destination unknown]
        rfl
      · have missing : (⟨t.pairs.toList⟩ : PairRegistry).get? node = none := missing
        simp [PairRegistry.perform, PairRegistry.register, registry, missing, size,
          PairRegistry.size]
    · have known : (t.columns.lookup node).isSome := by rw [known]; rfl
      have twice (other : NodeId) (same : (node == other) = true) :
          (t.columns.lookup other).isSome := by rwa [← beq_iff_eq.1 same]
      refine ⟨t, .error (.invalidValue "traffic configuration"
        s!"node {node} already has a communication pair"), ?_, ?_, .kept twice rfl rfl rfl rfl⟩
      · rw [perform, register_of_known t sender sink source destination known]
        rfl
      · simp [PairRegistry.perform, PairRegistry.register, found]
  | activate node now =>
    rcases indexed.modify_cases node (f := fun p => p.activate now) fun _ => rfl with
      ⟨fault, missing, modified⟩ | ⟨p, t', found, modified, same, columns, setup⟩
    · refine ⟨t, .error fault, ?_, ?_, .kept nofun rfl rfl rfl rfl⟩
      · simp [perform, activate, modified, Except.map]
      · simp [PairRegistry.perform, missing]
    · refine ⟨t', .ok (.turned !p.active), ?_, ?_, .kept nofun rfl rfl columns setup⟩
      · simp [perform, activate, modified, Except.map]
      · simp [PairRegistry.perform, found, same]
  | deactivate node =>
    rcases indexed.modify_cases node (f := Pair.deactivate) fun _ => rfl with
      ⟨fault, missing, modified⟩ | ⟨p, t', found, modified, same, columns, setup⟩
    · refine ⟨t, .error fault, ?_, ?_, .kept nofun rfl rfl rfl rfl⟩
      · simp [perform, deactivate, modified, Except.map]
      · simp [PairRegistry.perform, missing]
    · refine ⟨t', .ok (.turned p.active), ?_, ?_, .kept nofun rfl rfl columns setup⟩
      · simp [perform, deactivate, modified, Except.map]
      · simp [PairRegistry.perform, found, same]
  | sample sampler now received =>
    refine ⟨_, _, rfl, rfl, .kept nofun rfl rfl rfl ?_⟩
    exact sampler.setup_pairs_sample now t.registry received

theorem Step.indexed {call : PairCall} {answer : Except Fault PairAnswer}
    (step : Step t call t' answer) (indexed : t.Indexed) : t'.Indexed := by
  cases step with
  | kept _ _ _ columns setup =>
    refine indexed.congr columns ?_
    have same := congrArg PairRegistry.nodes setup
    rw [PairRegistry.nodes_setup, PairRegistry.nodes_setup] at same
    exact same
  | @added node sender sink source destination unknown =>
    have unused (column : Nat) : t.nodes[column]? ≠ some node := fun at_column => by
      rw [(indexed node column).2 at_column] at unknown
      cases unknown
    intro other column
    rw [List.lookup_cons, nodes_push, getElem?_concat_eq_some_iff, length_nodes]
    by_cases same : other = node
    · subst same
      rw [beq_self_eq_true, Option.some.injEq, or_iff_right (unused column), eq_comm (a := t.size)]
      exact (and_iff_left rfl).symm
    · rw [beq_false_of_ne same, indexed other column, or_iff_left]
      exact fun ⟨_, new⟩ => same new.symm

/-! ## Any calls -/

/-- What a history of calls and answers has made of a table. -/
structure Consistent (t : PairTable) (history : PairHistory) : Prop where
  /-- The index gives the column of the one pair of a node, and nothing for other nodes. -/
  columns_iff : ∀ node column, t.columns.lookup node = some column ↔
    ∃ p, t.pairs[column]? = some p ∧ p.node = node
  /-- The nodes in the index are those that were to be registered. -/
  known_iff : ∀ node, (t.columns.lookup node).isSome ↔ ∃ entry ∈ history, entry.1.registers node
  /-- The accepted registrations were given the columns from zero on, in their order. -/
  given : history.filterMap PairCall.column? = List.range t.size
  /-- The pairs stand in the order in which they were registered. -/
  order : t.pairs.toList.map Pair.setup = history.filterMap PairCall.pair?
  /-- A pair is still in the column that its registration was given. -/
  stays : ∀ node sender sink source destination column,
    (.register node sender sink source destination, .ok (.column column)) ∈ history →
      ∃ p, t.pairs[column]? = some p ∧ p.setup = .idle node sender sink source destination

theorem Consistent.indexed {history : PairHistory} (consistent : t.Consistent history) :
    t.Indexed :=
  fun node column => (consistent.columns_iff node column).trans getElem?_nodes.symm

theorem consistent_empty : empty.Consistent [] where
  columns_iff node column := (indexed_empty node column).trans getElem?_nodes
  known_iff _ := iff_of_false nofun nofun
  given := rfl
  order := rfl
  stays := nofun

/-- A call keeps what the calls before it have made of the table. -/
theorem Consistent.step {history : PairHistory} {call : PairCall}
    {answer : Except Fault PairAnswer} (consistent : t.Consistent history)
    (step : Step t call t' answer) : t'.Consistent (history ++ [(call, answer)]) := by
  have indexed := step.indexed consistent.indexed
  have registered (node : NodeId) :
      (∃ entry ∈ history ++ [(call, answer)], entry.1.registers node) ↔
        (t.columns.lookup node).isSome ∨ call.registers node := by
    rw [consistent.known_iff]
    simp [or_and_right, exists_or]
  have columns_iff node column := (indexed node column).trans getElem?_nodes
  cases step with
  | @added node sender sink source destination unknown =>
    constructor
    case columns_iff => exact columns_iff
    case known_iff =>
      intro other
      rw [registered, List.lookup_cons]
      by_cases same : other = node
      · simp [same, PairCall.registers]
      · simp [beq_false_of_ne same, PairCall.registers, Ne.symm same]
    case given =>
      have this : PairCall.column? (.register node sender sink source destination,
          .ok (.column t.size)) = some t.size := rfl
      rw [filterMap_concat_of_some this, consistent.given, PairTable.size, PairTable.size,
        Array.size_push, List.range_succ]
    case order =>
      have this : PairCall.pair? (.register node sender sink source destination,
          .ok (.column t.size)) = some (.idle node sender sink source destination) := rfl
      rw [filterMap_concat_of_some this, ← consistent.order, Array.toList_push, List.map_append]
      rfl
    case stays =>
      intro other sender' sink' source' destination' column mem
      rcases List.mem_append.1 mem with before | last
      · obtain ⟨p, at_column, own⟩ :=
          consistent.stays other sender' sink' source' destination' column before
        have inside := (Array.getElem?_eq_some_iff.1 at_column).1
        exact ⟨p, (Array.getElem?_push_lt inside).trans
          (Array.getElem?_eq_getElem inside ▸ at_column), own⟩
      · cases List.mem_singleton.1 last
        exact ⟨_, Array.getElem?_push_size, rfl⟩
  | kept known noColumn noPair columns setup =>
    have pairs : t'.pairs.toList.map Pair.setup = t.pairs.toList.map Pair.setup :=
      congrArg PairRegistry.pairs setup
    have size : t'.size = t.size := by simpa [PairTable.size] using congrArg List.length pairs
    constructor
    case columns_iff => exact columns_iff
    case known_iff =>
      intro other
      rw [registered, columns]
      exact (or_iff_left_of_imp (known other)).symm
    case given => rw [filterMap_concat_of_none noColumn, consistent.given, size]
    case order => rw [filterMap_concat_of_none noPair, pairs, consistent.order]
    case stays =>
      intro other sender' sink' source' destination' column mem
      rcases List.mem_append.1 mem with before | last
      · obtain ⟨p, at_column, own⟩ :=
          consistent.stays other sender' sink' source' destination' column before
        have same := congrArg (·[column]?) pairs
        simp only [List.getElem?_map, Array.getElem?_toList, at_column, Option.map_some,
          Option.map_eq_some_iff] at same
        obtain ⟨p', at_column', same⟩ := same
        exact ⟨p', at_column', same.trans own⟩
      · cases List.mem_singleton.1 last
        cases noColumn

/-- How a table answers after a history of calls. -/
structure Answers (t : PairTable) (history : PairHistory) : Prop where
  /-- The column of a pair is never out of range, and its pair is the one that a search finds. -/
  get_eq : ∀ node, t.get node = some (t.registry.get node)
  /-- The pair of a node is the one that was registered for it, in the column that was given. -/
  found : ∀ node sender sink source destination column,
    (.register node sender sink source destination, .ok (.column column)) ∈ history →
      ∃ p, t.get node = some (.ok p) ∧ t.columns.lookup node = some column ∧
        t.pairs[column]? = some p ∧ p.setup = .idle node sender sink source destination
  /-- A node has a pair of its own once it was to be registered, and none before. -/
  present : ∀ node, (∃ entry ∈ history, entry.1.registers node) →
    ∃ p, t.get node = some (.ok p) ∧ p.node = node
  missing : ∀ node, (¬∃ entry ∈ history, entry.1.registers node) →
    t.get node = some (.error (.missingTraffic node))
  /-- The first registration of a node is accepted. -/
  accepted : ∀ node sender sink source destination,
    (¬∃ entry ∈ history, entry.1.registers node) →
      (t.register node sender sink source destination).2 = .ok t.size
  /-- The others are refused, and leave the table exactly as it was. -/
  refused : ∀ node sender sink source destination,
    (∃ entry ∈ history, entry.1.registers node) →
      t.register node sender sink source destination =
        (t, .error (.invalidValue "traffic configuration"
          s!"node {node} already has a communication pair"))

theorem get_of_column {p : Pair} (known : t.columns.lookup node = some column)
    (at_column : t.pairs[column]? = some p) : t.get node = some (.ok p) := by
  rw [get, PairTable.column, known]
  dsimp only
  rw [at_column]
  rfl

theorem get_of_unknown (unknown : t.columns.lookup node = none) :
    t.get node = some (.error (.missingTraffic node)) := by
  rw [get, PairTable.column, unknown]

theorem Consistent.answers {history : PairHistory} (consistent : t.Consistent history) :
    t.Answers history := by
  have unknown (node : NodeId) (never : ¬∃ entry ∈ history, entry.1.registers node) :
      t.columns.lookup node = none := by
    rwa [← consistent.known_iff, Bool.not_eq_true, Option.isSome_eq_false_iff,
      Option.isNone_iff_eq_none] at never
  constructor
  case get_eq => exact consistent.indexed.get_eq
  case found =>
    intro node sender sink source destination column entered
    obtain ⟨p, at_column, own⟩ :=
      consistent.stays node sender sink source destination column entered
    have known : t.columns.lookup node = some column :=
      (consistent.columns_iff node column).2 ⟨p, at_column, congrArg Pair.node own⟩
    exact ⟨p, get_of_column known at_column, known, at_column, own⟩
  case present =>
    intro node before
    obtain ⟨column, known⟩ := Option.isSome_iff_exists.1 ((consistent.known_iff node).2 before)
    obtain ⟨p, at_column, of_node⟩ := (consistent.columns_iff node column).1 known
    exact ⟨p, get_of_column known at_column, of_node⟩
  case missing => exact fun node never => get_of_unknown (unknown node never)
  case accepted =>
    intro node sender sink source destination never
    rw [register_of_unknown t sender sink source destination (unknown node never)]
  case refused =>
    intro node sender sink source destination before
    exact register_of_known t sender sink source destination ((consistent.known_iff node).2 before)

/-- A table can take any calls, and the registry does the same through all of them. -/
theorem exists_run (calls : List PairCall) : ∃ t history, run calls = some (t, history) ∧
    PairRegistry.run calls = some (t.registry, history) := by
  have same : PairRegistry.run calls =
      (run calls).map fun (t, history) => (t.registry, history) := by
    refine answered_map (f := registry) (P := Indexed) indexed_empty ?_ ?_
    · intro t call t' answer indexed performed
      obtain ⟨t'', answer', performed', -, step⟩ := indexed.exists_step call
      cases performed.symm.trans performed'
      exact step.indexed indexed
    · intro t call indexed
      obtain ⟨t', answer, performed, searched, -⟩ := indexed.exists_step call
      rw [performed, searched]
      rfl
  obtain ⟨r, history, searched⟩ := exists_answered PairRegistry.perform .empty calls
  obtain ⟨⟨t, history⟩, ran, -⟩ := Option.map_eq_some_iff.1 (same.symm.trans searched)
  rw [ran] at same
  exact ⟨t, history, ran, same⟩

theorem consistent_of_run {calls : List PairCall} {history : PairHistory}
    (ran : run calls = some (t, history)) : t.Consistent history := by
  refine invariant_of_answered (P := Consistent) consistent_empty ?_ ran
  intro t history call t' answer consistent performed
  obtain ⟨t'', answer', performed', -, step⟩ := consistent.indexed.exists_step call
  cases performed.symm.trans performed'
  exact consistent.step step

/-- Whatever is asked of the pairs, the table is never left and answers as a search through the
registry does; its index gives every node the column that its pair was registered in, which is still
the column of that pair. -/
theorem pairs_consistent (calls : List PairCall) :
    ∃ t history, run calls = some (t, history) ∧
      PairRegistry.run calls = some (t.registry, history) ∧ history.map Prod.fst = calls ∧
      t.Consistent history ∧ t.Answers history := by
  obtain ⟨t, history, ran, searched⟩ := exists_run calls
  have consistent := consistent_of_run ran
  exact ⟨t, history, ran, searched, map_fst_of_answered ran, consistent, consistent.answers⟩

end PairTable

/-! ## The pairs of an experiment -/

/-- The registries that calls lead to. -/
def PairRegistry.Called (r : PairRegistry) : Prop := ∃ calls history, run calls = some (r, history)

theorem PairRegistry.Called.perform {r : PairRegistry} (called : r.Called) (call : PairCall) :
    (r.perform call).1.Called := by
  obtain ⟨calls, history, ran⟩ := called
  exact ⟨calls ++ [call], _, answered_concat_eq_some_iff.2 ⟨r, history, _, ran, rfl, rfl⟩⟩

theorem PairRegistry.Registered.called {r : PairRegistry} (registered : r.Registered) :
    r.Called := by
  induction registered with
  | empty => exact ⟨[], [], rfl⟩
  | @register r r' node sender sink source destination column _ accepted ih =>
    have called := ih.perform (.register node sender sink source destination)
    rwa [PairRegistry.perform, accepted] at called

/-- What the handling of an event does to the pairs is a call, or nothing. -/
theorem Handling.pairs_after (c : Handling) : c.after.pairs = c.before.pairs ∨
    ∃ call, c.after.pairs = (c.before.pairs.perform call).1 := by
  have quiet (quiet : c.event.IsQuiet) : c.after.pairs = c.before.pairs := (of_quiet quiet).1
  cases event : c.event with
  | associated e =>
    rcases of_associated event with ⟨-, -, same, -⟩ | ⟨-, p, found, pairs, -⟩
    · exact .inl same
    · refine .inr ⟨.activate e.node c.now, ?_⟩
      simp [PairRegistry.perform, PairRegistry.get, found, pairs]
  | deassociated e =>
    rcases of_deassociated event with ⟨-, -, same, -⟩ | ⟨-, p, found, pairs, -⟩
    · exact .inl same
    · refine .inr ⟨.deactivate e.node, ?_⟩
      simp [PairRegistry.perform, PairRegistry.get, found, pairs]
  | trainingCompleted e => exact .inl (quiet (by rw [event]; trivial))
  | transferStarted e => exact .inl (quiet (by rw [event]; trivial))
  | frameReceived e => exact .inl (quiet (by rw [event]; trivial))

theorem Handlings.called {x₀ x : Experiment} {cs : List Handling} (start : x₀.pairs.Called)
    (calls : Handlings x₀ cs x) : x.pairs.Called := by
  induction calls with
  | start => exact start
  | @call _ c _ ih =>
    rcases c.pairs_after with same | ⟨call, pairs⟩
    · rwa [same]
    · rw [pairs]
      exact ih.perform call
  | @sample _ x now received _ ih =>
    rw [x.pairs_sample now received]
    exact ih.perform (.sample x.sampler now received)

/-- However an experiment is driven, its pairs are those of a table that calls lead to. -/
theorem Handlings.exists_table {x₀ x : Experiment} {cs : List Handling}
    (registered : x₀.pairs.Registered) (calls : Handlings x₀ cs x) :
    ∃ (t : PairTable) (history : PairHistory),
      t.registry = x.pairs ∧ t.Consistent history ∧ t.Answers history := by
  obtain ⟨asked, _, searched⟩ := calls.called registered.called
  obtain ⟨t, history, ran, same⟩ := PairTable.exists_run asked
  have pairs := congrArg Prod.fst (Option.some.inj (same.symm.trans searched))
  have consistent := PairTable.consistent_of_run ran
  exact ⟨t, history, pairs, consistent, consistent.answers⟩

end DenseDmg
