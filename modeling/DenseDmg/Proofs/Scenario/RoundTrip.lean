import DenseDmg.Proofs.Document.FiniteNumbers
import DenseDmg.Proofs.Document.Rereading
import DenseDmg.Proofs.Scenario.Layouts

/-!
# Scenario documents that were written

The document of a scenario is accepted again, and is read as the same scenario, but for the doubles,
each of which is read as what the reader makes of its digits.

* `ScenarioSpec.Rereads`: what a scenario that was written is read as.
* `ScenarioSpec.ofDocument_document_iff`: nothing else is read, and nothing else can be refused.
* `ScenarioSpec.document_survives`: a scenario with doubles that the reader gives back.
-/

namespace DenseDmg

open Document

/-! ## Records -/

theorem ApplicationSpec.means_json_iff {a a' : ApplicationSpec} (fits : a.Fits) :
    layout.Means {} a.json.tree a' ↔ a' = a := by
  rw [json, Json.tree, Layout.means_object_iff rfl]
  simp only [layout, Json.treeMembers, Slot.of, List.forall₂_cons, List.Forall₂.nil, and_true,
    text_means_iff, count_means_iff (show lastLong ≤ lastWord by decide) fits.packetSize,
    count_means_iff le_rfl fits.maxBytes]
  obtain ⟨⟩ := a
  obtain ⟨⟩ := a'
  rw [mk.injEq]

theorem MacSpec.means_json_iff {m m' : MacSpec} (fits : m.Fits) :
    layout.Means {} m.json.tree m' ↔ m' = m := by
  rw [json, Json.tree, Layout.means_object_iff rfl]
  simp only [layout, Json.treeMembers, Slot.of, List.forall₂_cons, List.Forall₂.nil, and_true,
    count_means_iff le_rfl fits.beaconInterval,
    count_means_iff (show lastShort ≤ lastWord by decide) fits.biThreshold]
  obtain ⟨⟩ := m
  obtain ⟨⟩ := m'
  rw [mk.injEq]

theorem OutputSpec.means_json_iff {o o' : OutputSpec} (fits : o.Fits) :
    layout.Means {} o.json.tree o' ↔ o' = o := by
  rw [json, Json.tree, Layout.means_object_iff rfl]
  simp only [layout, Json.treeMembers, Slot.of, List.forall₂_cons, List.Forall₂.nil, and_true,
    bool_means_iff, count_means_iff le_rfl fits.samplePeriod]
  obtain ⟨⟩ := o
  obtain ⟨⟩ := o'
  rw [mk.injEq]

theorem BlockageSpec.means_json_iff {b b' : BlockageSpec} (fits : b.Fits) :
    layout.Means default b.json.tree b' ↔ b' = b := by
  rw [json, Json.tree, Layout.means_object_iff rfl]
  simp only [layout, Json.treeMembers, Slot.of, List.forall₂_cons, List.Forall₂.nil, and_true,
    count_means_iff (show lastShort ≤ lastWord by decide) fits.sta,
    count_means_iff le_rfl fits.start, count_means_iff le_rfl fits.finish]
  obtain ⟨⟩ := b
  obtain ⟨⟩ := b'
  rw [mk.injEq]

/-- A channel is read back, but for its doubles. -/
structure ChannelSpec.Rereads (c c' : ChannelSpec) : Prop where
  radius : Document.Rereads c.radius c'.radius
  tracePeriod : Document.Rereads c.tracePeriod c'.tracePeriod
  txPower : Document.Rereads c.txPower c'.txPower
  others : c' =
    { c with radius := c'.radius, tracePeriod := c'.tracePeriod, txPower := c'.txPower }

theorem ChannelSpec.means_json_iff {c c' : ChannelSpec} (fits : c.Fits) (finite : c.Finite) :
    layout.Means {} c.json.tree c' ↔ c.Rereads c' := by
  rw [json, Json.tree, Layout.means_object_iff rfl]
  simp only [layout, Json.treeMembers, Slot.of, List.forall₂_cons, List.Forall₂.nil, and_true,
    double_means_iff finite.radius, double_means_iff finite.tracePeriod,
    double_means_iff finite.txPower,
    count_means_iff (show lastLong ≤ lastWord by decide) fits.numTraces,
    count_means_iff (show lastOctet ≤ lastWord by decide) fits.apSectors,
    count_means_iff (show lastOctet ≤ lastWord by decide) fits.staSectors]
  obtain ⟨⟩ := c
  obtain ⟨⟩ := c'
  constructor
  · rintro ⟨radius, rfl, period, rfl, rfl, power⟩
    exact ⟨radius, period, power, rfl⟩
  · rintro ⟨radius, period, power, ⟨⟩⟩
    exact ⟨radius, rfl, period, rfl, rfl, power⟩

namespace ScenarioSpec

variable {raw : String} {s s' : ScenarioSpec}

/-- A scenario is read back, but for its doubles. -/
structure Rereads (s s' : ScenarioSpec) : Prop where
  simulationTime : Document.Rereads s.simulationTime s'.simulationTime
  channel : s.channel.Rereads s'.channel
  others : s' = { s with simulationTime := s'.simulationTime, channel := s'.channel }

theorem means_json_iff (fits : s.Fits) (finite : s.Finite) :
    layout.Means {} s.json.tree s' ↔ s.Rereads s' := by
  rw [json, Json.tree, Layout.means_object_iff rfl]
  simp only [layout, Json.treeMembers, Slot.of, List.forall₂_cons, List.Forall₂.nil, and_true,
    text_means_iff, count_means_iff (show lastShort ≤ lastWord by decide) fits.numStas,
    double_means_iff finite.simulationTime, ApplicationSpec.means_json_iff fits.application,
    ChannelSpec.means_json_iff fits.channel finite.channel, MacSpec.means_json_iff fits.mac,
    OutputSpec.means_json_iff fits.output,
    list_means_iff fun b mem b' => BlockageSpec.means_json_iff (fits.blockages b mem)]
  obtain ⟨⟩ := s
  obtain ⟨⟩ := s'
  constructor
  · rintro ⟨rfl, time, rfl, rfl, channel, rfl, rfl, rfl⟩
    exact ⟨time, channel, rfl⟩
  · rintro ⟨time, channel, ⟨⟩⟩
    exact ⟨rfl, time, rfl, rfl, channel, rfl, rfl, rfl⟩

/-- The document of a scenario is read as the scenario, but for its doubles; it is refused only if
one of them cannot be read. -/
theorem ofDocument_document_iff (fits : s.Fits) (finite : s.Finite) :
    ofDocument s.document = .ok s' ↔ s.Rereads s' :=
  (ofDocument_iff (Json.spellsDocument_compact s.json)).trans (means_json_iff fits finite)

/-! ## Round trips -/

def doubles (s : ScenarioSpec) : List Float :=
  [s.simulationTime, s.channel.radius, s.channel.tracePeriod, s.channel.txPower]

theorem rereads_self : s.Rereads s ↔ ∀ x ∈ s.doubles, Document.Rereads x x := by
  simp only [doubles, List.forall_mem_cons]
  constructor
  · rintro ⟨time, ⟨radius, period, power, -⟩, -⟩
    exact ⟨time, radius, period, power, List.forall_mem_nil _⟩
  · rintro ⟨time, radius, period, power, -⟩
    exact ⟨time, ⟨radius, period, power, rfl⟩, rfl⟩

theorem Finite.doubles (finite : s.Finite) : ∀ x ∈ s.doubles, x.isFinite = true := by
  simp only [ScenarioSpec.doubles, List.forall_mem_cons]
  obtain ⟨time, radius, period, power⟩ := finite
  exact ⟨time, radius, period, power, List.forall_mem_nil _⟩

/-- Whatever document a scenario was read from, the document that is written for it is read as the
same scenario, if its doubles are read back, and then the next document is the same text.  In any
case all fields but the doubles are read back. -/
theorem document_survives (accepted : ofDocument raw = .ok s) :
    (∀ s', ofDocument s.document = .ok s' ↔ s.Rereads s') ∧
      ((∀ x ∈ s.doubles, x.isFinite = true → readDouble (documentFloat x) = .ok (x, [])) →
        ofDocument s.document = .ok s ∧ (ofDocument s.document).map document = .ok s.document) := by
  have finite := finite_of_document accepted
  have reread (s') : ofDocument s.document = .ok s' ↔ s.Rereads s' :=
    ofDocument_document_iff (fits_of_document accepted) finite
  refine ⟨reread, fun printed => ?_⟩
  have same := (reread s).mpr (rereads_self.mpr fun x mem => printed x mem (finite.doubles x mem))
  exact ⟨same, by rw [same]; rfl⟩

/-- A document with white space, escapes, an unknown key, a blockage without keys, the greatest
word, a negative zero, and its keys out of order. -/
def unusualDocument : String :=
  "\x7b \"phy_mode\" : \"\\u00e9\\ud83d\\ude00\\n\\\"\",\n\"note\":[1, \x7b\x7d], " ++
  "\"channel\":\x7b\"tx_power_dbm\":-0.0,\"radius_m\":2.5e0\x7d, \"blockages\":[[3,4,5], " ++
  "\x7b\"to_ms\":18446744073709551615,\"sta\":1,\"from_ms\":2\x7d]\x7d"

theorem document_survives_unusual : ∃ s, ofDocument unusualDocument = .ok s ∧
    s.phyMode = "é😀\n\"" ∧ s.channel.txPower = -0.0 ∧
    s.blockages = [⟨3, 4, 5⟩, ⟨1, 2, lastWord⟩] ∧ ofDocument s.document = .ok s := by
  let s : ScenarioSpec := {
    phyMode := "é😀\n\"", channel := { txPower := -0.0, radius := 2.5 },
    blockages := [⟨3, 4, 5⟩, ⟨1, 2, lastWord⟩] }
  have accepted : ofDocument unusualDocument = .ok s := eq_ok_of_toOption (by decide +kernel)
  have printed : ∀ x ∈ s.doubles, (readDouble (documentFloat x)).toOption = some (x, []) := by
    decide +kernel
  have again := (document_survives accepted).2 fun x mem _ => eq_ok_of_toOption (printed x mem)
  exact ⟨s, accepted, rfl, rfl, rfl, again.1⟩

end ScenarioSpec

end DenseDmg
