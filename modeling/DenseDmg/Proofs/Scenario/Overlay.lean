import DenseDmg.Proofs.Document.Edits
import DenseDmg.Proofs.Document.Writing
import DenseDmg.Proofs.Scenario.Layouts

/-!
# Scenario documents as overlays

A scenario document says what differs from the defaults.  The order of its keys and its unknown keys
do not count, and a key that is removed leaves its field, or its whole section, at the default; only
in an entry of the blockages every key must stand.

* `ScenarioSpec.without`: what is left of a scenario when keys are removed from its document.
* `ScenarioSpec.overlays`: what changes do to what a tree means.
* `ScenarioSpec.overlay`: documents.
-/

namespace DenseDmg

open Document

/-! ## What is read where -/

def ApplicationSpec.schema : Schema := .record false [
  ("kind", .plain), ("packet_size", .plain), ("data_rate", .plain), ("max_bytes", .plain),
  ("socket", .plain), ("tcp_variant", .plain)]

def ChannelSpec.schema : Schema := .record false [
  ("radius_m", .plain), ("num_traces", .plain), ("trace_period_ms", .plain),
  ("ap_sectors", .plain), ("sta_sectors", .plain), ("tx_power_dbm", .plain)]

def MacSpec.schema : Schema := .record false [
  ("beacon_interval_us", .plain), ("bi_threshold", .plain)]

def OutputSpec.schema : Schema := .record false [
  ("csv", .plain), ("report_data_snr", .plain), ("sample_period_ms", .plain)]

def BlockageSpec.schema : Schema := .record true [
  ("sta", .plain), ("from_ms", .plain), ("to_ms", .plain)]

def ScenarioSpec.schema : Schema := .record false [
  ("num_stas", .plain), ("simulation_time_s", .plain), ("application", ApplicationSpec.schema),
  ("phy_mode", .plain), ("channel", ChannelSpec.schema), ("mac", MacSpec.schema),
  ("output", OutputSpec.schema), ("blockages", .list BlockageSpec.schema)]

/-! ## Defaults for removed keys -/

/-- An application whose fields are at their defaults where their keys are removed; so it is with
the other records. -/
def ApplicationSpec.without (gone : List Path) (a : ApplicationSpec) : ApplicationSpec where
  kind := resetIf gone "kind" ({} : ApplicationSpec).kind a.kind
  packetSize := resetIf gone "packet_size" ({} : ApplicationSpec).packetSize a.packetSize
  dataRate := resetIf gone "data_rate" ({} : ApplicationSpec).dataRate a.dataRate
  maxBytes := resetIf gone "max_bytes" ({} : ApplicationSpec).maxBytes a.maxBytes
  socket := resetIf gone "socket" ({} : ApplicationSpec).socket a.socket
  tcpVariant := resetIf gone "tcp_variant" ({} : ApplicationSpec).tcpVariant a.tcpVariant

def ChannelSpec.without (gone : List Path) (c : ChannelSpec) : ChannelSpec where
  radius := resetIf gone "radius_m" ({} : ChannelSpec).radius c.radius
  numTraces := resetIf gone "num_traces" ({} : ChannelSpec).numTraces c.numTraces
  tracePeriod := resetIf gone "trace_period_ms" ({} : ChannelSpec).tracePeriod c.tracePeriod
  apSectors := resetIf gone "ap_sectors" ({} : ChannelSpec).apSectors c.apSectors
  staSectors := resetIf gone "sta_sectors" ({} : ChannelSpec).staSectors c.staSectors
  txPower := resetIf gone "tx_power_dbm" ({} : ChannelSpec).txPower c.txPower

def MacSpec.without (gone : List Path) (m : MacSpec) : MacSpec where
  beaconInterval := resetIf gone "beacon_interval_us" ({} : MacSpec).beaconInterval m.beaconInterval
  biThreshold := resetIf gone "bi_threshold" ({} : MacSpec).biThreshold m.biThreshold

def OutputSpec.without (gone : List Path) (o : OutputSpec) : OutputSpec where
  csv := resetIf gone "csv" ({} : OutputSpec).csv o.csv
  reportDataSnr := resetIf gone "report_data_snr" ({} : OutputSpec).reportDataSnr o.reportDataSnr
  samplePeriod := resetIf gone "sample_period_ms" ({} : OutputSpec).samplePeriod o.samplePeriod

/-- A scenario without some keys of its document.  A section is at its default when its own key is
removed, and otherwise loses the keys that are removed in it. -/
def ScenarioSpec.without (gone : List Path) (s : ScenarioSpec) : ScenarioSpec where
  numStas := resetIf gone "num_stas" ({} : ScenarioSpec).numStas s.numStas
  simulationTime :=
    resetIf gone "simulation_time_s" ({} : ScenarioSpec).simulationTime s.simulationTime
  application := resetIf gone "application" {} (s.application.without (below "application" gone))
  phyMode := resetIf gone "phy_mode" ({} : ScenarioSpec).phyMode s.phyMode
  channel := resetIf gone "channel" {} (s.channel.without (below "channel" gone))
  mac := resetIf gone "mac" {} (s.mac.without (below "mac" gone))
  output := resetIf gone "output" {} (s.output.without (below "output" gone))
  blockages := resetIf gone "blockages" [] s.blockages

section Without

variable (gone more : List Path)

theorem ApplicationSpec.without_default : ({} : ApplicationSpec).without gone = {} := by
  simp [without]

theorem ChannelSpec.without_default : ({} : ChannelSpec).without gone = {} := by simp [without]

theorem MacSpec.without_default : ({} : MacSpec).without gone = {} := by simp [without]

theorem OutputSpec.without_default : ({} : OutputSpec).without gone = {} := by simp [without]

theorem ApplicationSpec.without_append (a : ApplicationSpec) :
    a.without (gone ++ more) = (a.without gone).without more := by
  simp [without]

theorem ChannelSpec.without_append (c : ChannelSpec) :
    c.without (gone ++ more) = (c.without gone).without more := by
  simp [without]

theorem MacSpec.without_append (m : MacSpec) :
    m.without (gone ++ more) = (m.without gone).without more := by
  simp [without]

theorem OutputSpec.without_append (o : OutputSpec) :
    o.without (gone ++ more) = (o.without gone).without more := by
  simp [without]

/-- Keys may be removed at once or one after another. -/
theorem ScenarioSpec.without_append (s : ScenarioSpec) :
    s.without (gone ++ more) = (s.without gone).without more := by
  simp [without, apply_resetIf (ApplicationSpec.without _), apply_resetIf (ChannelSpec.without _),
    apply_resetIf (MacSpec.without _), apply_resetIf (OutputSpec.without _),
    ApplicationSpec.without_append, ChannelSpec.without_append, MacSpec.without_append,
    OutputSpec.without_append, ApplicationSpec.without_default, ChannelSpec.without_default,
    MacSpec.without_default, OutputSpec.without_default]

end Without

/-! ## Records -/

theorem ApplicationSpec.overlays :
    Overlays ApplicationSpec.schema (ApplicationSpec.layout.Means {}) ApplicationSpec.without := by
  refine ApplicationSpec.layout.overlays ?_
  refine .cons (.plain ?_) (.cons (.plain ?_) (.cons (.plain ?_) (.cons (.plain ?_)
    (.cons (.plain ?_) (.cons (.plain ?_) .nil)))))
  all_goals exact fun _ _ _ => rfl

theorem ChannelSpec.overlays :
    Overlays ChannelSpec.schema (ChannelSpec.layout.Means {}) ChannelSpec.without := by
  refine ChannelSpec.layout.overlays ?_
  refine .cons (.plain ?_) (.cons (.plain ?_) (.cons (.plain ?_) (.cons (.plain ?_)
    (.cons (.plain ?_) (.cons (.plain ?_) .nil)))))
  all_goals exact fun _ _ _ => rfl

theorem MacSpec.overlays :
    Overlays MacSpec.schema (MacSpec.layout.Means {}) MacSpec.without := by
  refine MacSpec.layout.overlays ?_
  refine .cons (.plain ?_) (.cons (.plain ?_) .nil)
  all_goals exact fun _ _ _ => rfl

theorem OutputSpec.overlays :
    Overlays OutputSpec.schema (OutputSpec.layout.Means {}) OutputSpec.without := by
  refine OutputSpec.layout.overlays ?_
  refine .cons (.plain ?_) (.cons (.plain ?_) (.cons (.plain ?_) .nil))
  all_goals exact fun _ _ _ => rfl

/-- No key of a blockage can be removed, so none of its fields takes a default. -/
theorem BlockageSpec.overlays :
    Overlays BlockageSpec.schema (BlockageSpec.layout.Means default) fun _ b => b := by
  refine BlockageSpec.layout.overlays ?_
  refine .cons (.plain ?_) (.cons (.plain ?_) (.cons (.plain ?_) .nil))
  all_goals exact fun gone b kept => (if_neg (kept rfl)).symm

theorem ScenarioSpec.overlays :
    Overlays ScenarioSpec.schema (ScenarioSpec.layout.Means {}) ScenarioSpec.without := by
  refine ScenarioSpec.layout.overlays ?_
  refine .cons (.plain ?_) (.cons (.plain ?_) (.cons ?application (.cons (.plain ?_)
    (.cons ?channel (.cons ?mac (.cons ?output (.cons ?blockages .nil)))))))
  case application => exact .inner ApplicationSpec.overlays fun _ _ => rfl
  case channel => exact .inner ChannelSpec.overlays fun _ _ => rfl
  case mac => exact .inner MacSpec.overlays fun _ _ => rfl
  case output => exact .inner OutputSpec.overlays fun _ _ => rfl
  case blockages => exact .inner (overlays_list BlockageSpec.overlays) fun _ _ => rfl
  all_goals exact fun _ _ _ => rfl

/-! ## Documents -/

namespace ScenarioSpec

variable {raw : String} {spec : ScenarioSpec} {v : Tree}

/--
An accepted document has a tree.  With its keys in another order, with other unknown keys, and
without some keys outside the entries of blockages, the document is accepted with the same scenario,
except for the defaults of the fields and sections whose keys are gone.  Without a key of a blockage
it is refused.
-/
theorem overlay (accepted : ofDocument raw = .ok spec) :
    (∃ v, SpellsDocument v raw) ∧ ∀ v, SpellsDocument v raw → ∀ gone v₁, Edits schema v gone v₁ →
      (∀ raw₁, SpellsDocument v₁ raw₁ → ofDocument raw₁ = .ok (spec.without gone)) ∧
      ∀ v₂, Within Omission schema v₁ [] v₂ → ∀ raw₂, SpellsDocument v₂ raw₂ →
        ∃ fault, ofDocument raw₂ = .error (.document fault) := by
  obtain ⟨v, spells, -⟩ := exists_tree accepted
  refine ⟨⟨v, spells⟩, fun v spells gone v₁ edits => ?_⟩
  have means : layout.Means {} v₁ (spec.without gone) :=
    overlays.edits without_append edits ((ofDocument_iff spells).mp accepted)
  refine ⟨fun raw₁ spells₁ => (ofDocument_iff spells₁).mpr means, ?_⟩
  intro v₂ omission raw₂ spells₂
  cases result : ofDocument raw₂ with
  | ok spec₂ => exact absurd ((ofDocument_iff spells₂).mp result) (overlays.refuses omission means)
  | error fault =>
    obtain ⟨f, rfl⟩ := exists_of_ofDocument_eq_error result
    exact ⟨f, rfl⟩

/-- A document with one blockage. -/
def sampleDocument (members entry : List (String × Json)) : Json :=
  .object (members ++ [("blockages", .array [.object entry])])

/-- Two keys are removed, one of them in a section, an unknown key is put in, and the keys of a
blockage change places. -/
theorem edits_sample : Edits schema
    (sampleDocument [("num_stas", .count 3), ("mac", .object [("bi_threshold", .count 7)])]
      [("sta", .count 1), ("from_ms", .count 2), ("to_ms", .count 3)]).tree
    [["num_stas"], ["mac", "bi_threshold"]]
    (sampleDocument [("note", .array [.null]), ("mac", .object [])]
      [("from_ms", .count 2), ("sta", .count 1), ("to_ms", .count 3)]).tree := by
  have mac : ("mac", MacSpec.schema) ∈ schema.fields := by simp [schema, Schema.fields]
  have blockages : ("blockages", .list BlockageSpec.schema) ∈ schema.fields := by
    simp [schema, Schema.fields]
  have swapped (m m' ms) : Within Edit BlockageSpec.schema (.object (m' :: m :: ms)) []
      (.object (m :: m' :: ms)) := .here (.reorder (.swap m m' ms))
  exact .step (.step (.step (.step (.refl _)
    (.here (.reset (.number ['3']) [] _ (by decide))))
    (.member [] _ mac (.here (.reset (.number ['7']) [] [] (by decide)))))
    (.here (.insert _ [] _ (by decide))))
    (.member [_, _] [] blockages (.entry [] [] (swapped _ _ _)))

/-- After that the blockage loses a key. -/
theorem overlay_sample : ∃ spec,
    ofDocument (String.ofList (sampleDocument
      [("num_stas", .count 3), ("mac", .object [("bi_threshold", .count 7)])]
      [("sta", .count 1), ("from_ms", .count 2), ("to_ms", .count 3)]).compact) = .ok spec ∧
    spec.numStas = 3 ∧ spec.mac.biThreshold = 7 ∧
    ofDocument (String.ofList (sampleDocument
      [("note", .array [.null]), ("mac", .object [])]
      [("from_ms", .count 2), ("sta", .count 1), ("to_ms", .count 3)]).compact) =
        .ok { spec with numStas := 10, mac := {} } ∧
    ∃ fault, ofDocument (String.ofList (sampleDocument
      [("note", .array [.null]), ("mac", .object [])]
      [("from_ms", .count 2), ("to_ms", .count 3)]).compact) = .error (.document fault) := by
  let spec : ScenarioSpec := { numStas := 3, mac := { biThreshold := 7 }, blockages := [⟨1, 2, 3⟩] }
  have accepted : ofDocument (String.ofList (sampleDocument
      [("num_stas", .count 3), ("mac", .object [("bi_threshold", .count 7)])]
      [("sta", .count 1), ("from_ms", .count 2), ("to_ms", .count 3)]).compact) = .ok spec :=
    eq_ok_of_toOption (by decide +kernel)
  obtain ⟨changed, refused⟩ :=
    (overlay accepted).2 _ (Json.spellsDocument_compact _) _ _ edits_sample
  refine ⟨spec, accepted, rfl, rfl, changed _ (Json.spellsDocument_compact _),
    refused _ ?_ _ (Json.spellsDocument_compact _)⟩
  have blockages : ("blockages", .list BlockageSpec.schema) ∈ schema.fields := by
    simp [schema, Schema.fields]
  have missing (v m ms) : Within Omission BlockageSpec.schema
      (.object (m :: (some "sta", v) :: ms)) [] (.object (m :: ms)) :=
    .here (.missing v [m] ms (by decide))
  exact .member [_, _] [] blockages (.entry [] [] (missing _ _ _))

end ScenarioSpec

end DenseDmg
