import DenseDmg.Proofs.Document.Records

/-!
# The records of a scenario document

Each record type of a scenario document with its slots, and what the tree of a whole document means.
-/

namespace DenseDmg

open Document

def ApplicationSpec.layout : Layout ApplicationSpec.shape where
  slots := [
    .of "kind" reads_readText (·.kind)
      (fun s v => { s with kind := v }) fun _ _ => rfl,
    .of "packet_size" (reads_readCount lastLong) (·.packetSize)
      (fun s v => { s with packetSize := v }) fun _ _ => rfl,
    .of "data_rate" reads_readText (·.dataRate)
      (fun s v => { s with dataRate := v }) fun _ _ => rfl,
    .of "max_bytes" (reads_readCount lastWord) (·.maxBytes)
      (fun s v => { s with maxBytes := v }) fun _ _ => rfl,
    .of "socket" reads_readText (·.socket)
      (fun s v => { s with socket := v }) fun _ _ => rfl,
    .of "tcp_variant" reads_readText (·.tcpVariant)
      (fun s v => { s with tcpVariant := v }) fun _ _ => rfl]
  fields := rfl
  nodup := by decide
  get_set_of_ne := by
    simp only [List.forall_mem_cons]
    and_intros
    all_goals first | exact fun _ _ _ => rfl | exact fun other => absurd rfl other | exact nofun
  ext := by
    rintro ⟨⟩ ⟨⟩ same
    simp only [List.forall_mem_cons] at same
    obtain ⟨rfl, rfl, rfl, rfl, rfl, rfl, -⟩ := same
    rfl

def ChannelSpec.layout : Layout ChannelSpec.shape where
  slots := [
    .of "radius_m" reads_readDouble (·.radius)
      (fun s v => { s with radius := v }) fun _ _ => rfl,
    .of "num_traces" (reads_readCount lastLong) (·.numTraces)
      (fun s v => { s with numTraces := v }) fun _ _ => rfl,
    .of "trace_period_ms" reads_readDouble (·.tracePeriod)
      (fun s v => { s with tracePeriod := v }) fun _ _ => rfl,
    .of "ap_sectors" (reads_readCount lastOctet) (·.apSectors)
      (fun s v => { s with apSectors := v }) fun _ _ => rfl,
    .of "sta_sectors" (reads_readCount lastOctet) (·.staSectors)
      (fun s v => { s with staSectors := v }) fun _ _ => rfl,
    .of "tx_power_dbm" reads_readDouble (·.txPower)
      (fun s v => { s with txPower := v }) fun _ _ => rfl]
  fields := rfl
  nodup := by decide
  get_set_of_ne := by
    simp only [List.forall_mem_cons]
    and_intros
    all_goals first | exact fun _ _ _ => rfl | exact fun other => absurd rfl other | exact nofun
  ext := by
    rintro ⟨⟩ ⟨⟩ same
    simp only [List.forall_mem_cons] at same
    obtain ⟨rfl, rfl, rfl, rfl, rfl, rfl, -⟩ := same
    rfl

def MacSpec.layout : Layout MacSpec.shape where
  slots := [
    .of "beacon_interval_us" (reads_readCount lastWord) (·.beaconInterval)
      (fun s v => { s with beaconInterval := v }) fun _ _ => rfl,
    .of "bi_threshold" (reads_readCount lastShort) (·.biThreshold)
      (fun s v => { s with biThreshold := v }) fun _ _ => rfl]
  fields := rfl
  nodup := by decide
  get_set_of_ne := by
    simp only [List.forall_mem_cons]
    and_intros
    all_goals first | exact fun _ _ _ => rfl | exact fun other => absurd rfl other | exact nofun
  ext := by
    rintro ⟨⟩ ⟨⟩ same
    simp only [List.forall_mem_cons] at same
    obtain ⟨rfl, rfl, -⟩ := same
    rfl

def OutputSpec.layout : Layout OutputSpec.shape where
  slots := [
    .of "csv" reads_readBool (·.csv)
      (fun s v => { s with csv := v }) fun _ _ => rfl,
    .of "report_data_snr" reads_readBool (·.reportDataSnr)
      (fun s v => { s with reportDataSnr := v }) fun _ _ => rfl,
    .of "sample_period_ms" (reads_readCount lastWord) (·.samplePeriod)
      (fun s v => { s with samplePeriod := v }) fun _ _ => rfl]
  fields := rfl
  nodup := by decide
  get_set_of_ne := by
    simp only [List.forall_mem_cons]
    and_intros
    all_goals first | exact fun _ _ _ => rfl | exact fun other => absurd rfl other | exact nofun
  ext := by
    rintro ⟨⟩ ⟨⟩ same
    simp only [List.forall_mem_cons] at same
    obtain ⟨rfl, rfl, rfl, -⟩ := same
    rfl

def BlockageSpec.layout : Layout BlockageSpec.shape where
  slots := [
    .of "sta" (reads_readCount lastShort) (·.sta)
      (fun s v => { s with sta := v }) fun _ _ => rfl,
    .of "from_ms" (reads_readCount lastWord) (·.start)
      (fun s v => { s with start := v }) fun _ _ => rfl,
    .of "to_ms" (reads_readCount lastWord) (·.finish)
      (fun s v => { s with finish := v }) fun _ _ => rfl]
  fields := rfl
  nodup := by decide
  get_set_of_ne := by
    simp only [List.forall_mem_cons]
    and_intros
    all_goals first | exact fun _ _ _ => rfl | exact fun other => absurd rfl other | exact nofun
  ext := by
    rintro ⟨⟩ ⟨⟩ same
    simp only [List.forall_mem_cons] at same
    obtain ⟨rfl, rfl, rfl, -⟩ := same
    rfl

def ScenarioSpec.layout : Layout ScenarioSpec.shape where
  slots := [
    .of "num_stas" (reads_readCount lastShort) (·.numStas)
      (fun s v => { s with numStas := v }) fun _ _ => rfl,
    .of "simulation_time_s" reads_readDouble (·.simulationTime)
      (fun s v => { s with simulationTime := v }) fun _ _ => rfl,
    .of "application" (ApplicationSpec.layout.reads_readRecord {}) (·.application)
      (fun s v => { s with application := v }) fun _ _ => rfl,
    .of "phy_mode" reads_readText (·.phyMode)
      (fun s v => { s with phyMode := v }) fun _ _ => rfl,
    .of "channel" (ChannelSpec.layout.reads_readRecord {}) (·.channel)
      (fun s v => { s with channel := v }) fun _ _ => rfl,
    .of "mac" (MacSpec.layout.reads_readRecord {}) (·.mac)
      (fun s v => { s with mac := v }) fun _ _ => rfl,
    .of "output" (OutputSpec.layout.reads_readRecord {}) (·.output)
      (fun s v => { s with output := v }) fun _ _ => rfl,
    .of "blockages" (reads_readList (BlockageSpec.layout.reads_readRecord default)) (·.blockages)
      (fun s v => { s with blockages := v }) fun _ _ => rfl]
  fields := rfl
  nodup := by decide
  get_set_of_ne := by
    simp only [List.forall_mem_cons]
    and_intros
    all_goals first | exact fun _ _ _ => rfl | exact fun other => absurd rfl other | exact nofun
  ext := by
    rintro ⟨⟩ ⟨⟩ same
    simp only [List.forall_mem_cons] at same
    obtain ⟨rfl, rfl, rfl, rfl, rfl, rfl, rfl, rfl, -⟩ := same
    rfl

deriving instance DecidableEq for ApplicationSpec, ChannelSpec, MacSpec, OutputSpec, BlockageSpec
deriving instance DecidableEq for ScenarioSpec

namespace ScenarioSpec

variable {raw : String} {spec : ScenarioSpec} {v : Tree}

theorem ofDocument_eq_ok_iff : ofDocument raw = .ok spec ↔
    readDocument (readRecord ScenarioSpec.shape {}) raw.toList = .ok spec := by
  unfold ofDocument
  split <;> simp [*]

theorem exists_of_ofDocument_eq_error {fault : Fault} (refused : ofDocument raw = .error fault) :
    ∃ f, fault = .document f := by
  unfold ofDocument at refused
  split at refused
  next => cases refused
  next f _ =>
    cases refused
    exact ⟨f, rfl⟩

/-- A document is accepted exactly if its tree means a scenario. -/
theorem ofDocument_iff (spells : SpellsDocument v raw) :
    ofDocument raw = .ok spec ↔ layout.Means {} v spec :=
  ofDocument_eq_ok_iff.trans ((layout.reads_readRecord {}).document_iff spells)

/-- Every accepted document has a tree. -/
theorem exists_tree (accepted : ofDocument raw = .ok spec) :
    ∃ v, SpellsDocument v raw ∧ layout.Means {} v spec :=
  (layout.reads_readRecord {}).exists_tree (ofDocument_eq_ok_iff.mp accepted)

end ScenarioSpec

end DenseDmg
