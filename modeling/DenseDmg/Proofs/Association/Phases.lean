import DenseDmg.Proofs.Association.Training
import DenseDmg.Proofs.Running.BeaconClock

/-!
# The phases of a beacon interval

A beacon interval begins with the beacons of a sweep, goes on with training slots and ends with data
transfer, and all of this is scheduled when it begins.  How long a phase lasts is fixed, and so are
the slots.  The sweep is not: it takes as long as the access point has sectors, and only the first
fifty of them fit into the time for beacons.

* `InScene.plans`: what the entries are that a beacon interval asks for.
* `Built.beaconPhase`, `Built.slotPhase`, `Built.transferPhase`: the phases one by one.
* `Built.phases`: no phase spills into the next one, except for beacons of late sectors.
-/

namespace DenseDmg

namespace NetworkEvent

/-- A beacon arrives at a station. -/
def beacon (station : NodeId) : NetworkEvent := .controlFrame 0 station .beacon

/-- What happens in the slot of a station: its sweep, the feedback to it and the end of the slot. -/
inductive OfSlot (station : NodeId) : NetworkEvent → Prop
  | sweep : OfSlot station (.controlFrame station 0 .sectorSweep)
  | feedback : OfSlot station (.controlFrame 0 station .sweepFeedback)
  | ended : OfSlot station (.slotEnd station)

theorem OfSlot.unique {a b : NodeId} {event : NetworkEvent} (of_a : event.OfSlot a)
    (of_b : event.OfSlot b) : a = b := by
  cases of_a <;> cases of_b <;> rfl

theorem OfSlot.ne_beacon {a b : NodeId} {event : NetworkEvent} (of_slot : event.OfSlot a) :
    event ≠ .beacon b := by
  cases of_slot <;> simp [beacon, controlFrame, slotEnd]

end NetworkEvent

/-- What the event of a moment asks for. -/
def Moment.asked (m : Moment NetworkEvent World) : List (Entry NetworkEvent) :=
  Request.entries m.entry.due m.simulator.nextSeq (m.world.act m.entry.due m.entry.event).2

/-! ## Instants -/

/-- When the slot at position `k` begins in a beacon interval, and the one before it ends. -/
def slotStart (start : Time) (k : Nat) : Time :=
  start + MacParams.standard.bti + MacParams.standard.abftSlot.repeated k

/-- A beacon interval is over by the last instant there is. -/
def Scenario.Fits (s : Scenario) (start : Time) : Prop :=
  start.nanos + s.beaconInterval.nanos ≤ lastWord

/-- A product that fits into a word is not cut off. -/
theorem Time.repeatedWord_eq {t : Time} {k : Nat} (fits : t.nanos * k ≤ lastWord) :
    t.repeatedWord k = t.repeated k := by
  rw [repeatedWord, Nat.mod_eq_of_lt (Nat.lt_succ_of_le fits)]
  rfl

/-- A station is within reach of the access point. -/
def Scenario.ReachedAt (s : Scenario) (station : NodeId) (now : Time) : Prop :=
  1 ≤ station ∧ station ≤ s.numStas ∧ ¬ s.BlockedAt station now

section Instants

variable {start : Time} {k : Nat}

theorem nanos_bti : MacParams.standard.bti.nanos = 800000 := rfl

theorem nanos_transferOffset : MacParams.standard.transferOffset.nanos = 2800000 := by decide

theorem nanos_slotStart (start : Time) (k : Nat) :
    (slotStart start k).nanos = min (start.nanos + 800000 + 250000 * k) lastWord := by
  have slot : MacParams.standard.abftSlot.nanos = 250000 := rfl
  rw [slotStart, Time.nanos_add, Time.nanos_add, nanos_bti, Time.repeated, Time.nanos_ofNanos, slot]
  omega

/-- The first slot begins with the end of the time for beacons. -/
theorem slotStart_zero (start : Time) : slotStart start 0 = start + MacParams.standard.bti := by
  rw [Time.ext_iff, nanos_slotStart, Time.nanos_add, nanos_bti, Nat.mul_zero, Nat.add_zero]

/-- The last slot ends when the data transfer interval begins. -/
theorem slotStart_eight (start : Time) :
    slotStart start 8 = start + MacParams.standard.transferOffset := by
  have slots := nanos_slotStart start 8
  have offset := Time.nanos_add start MacParams.standard.transferOffset
  rw [nanos_transferOffset] at offset
  exact Time.ext (by omega)

theorem slotStart_succ (start : Time) (k : Nat) :
    slotStart start k + MacParams.standard.abftSlot = slotStart start (k + 1) := by
  have slot : MacParams.standard.abftSlot.nanos = 250000 := rfl
  rw [Time.ext_iff, Time.nanos_add, nanos_slotStart, nanos_slotStart, slot]
  omega

theorem slotStart_mono {j : Nat} (le : j ≤ k) : slotStart start j ≤ slotStart start k := by
  rw [Time.le_def, nanos_slotStart, nanos_slotStart]
  omega

/-- What happens in a slot happens behind the beacons. -/
theorem bti_lt_of_slot {t : Time} (after : slotStart start k < t) :
    start + MacParams.standard.bti < t := by
  have first : slotStart start 0 ≤ slotStart start k := slotStart_mono (Nat.zero_le k)
  rw [slotStart_zero] at first
  exact Time.lt_def.2 (Nat.lt_of_le_of_lt (Time.le_def.1 first) (Time.lt_def.1 after))

/-- The slots are over when the data transfer interval begins. -/
theorem le_transfer_of_slot {t : Time} (few : k < 8) (upTo : t ≤ slotStart start (k + 1)) :
    t ≤ start + MacParams.standard.transferOffset := by
  have last : slotStart start (k + 1) ≤ slotStart start 8 :=
    slotStart_mono (Nat.succ_le_of_lt few)
  rw [slotStart_eight] at last
  exact Time.le_def.2 (Nat.le_trans (Time.le_def.1 upTo) (Time.le_def.1 last))

/-- A beacon arrives while beacons are sent if its sector is one of the first fifty. -/
theorem beacon_times {s : Scenario} (longer : MacParams.standard.transferOffset < s.beaconInterval)
    (fits : s.Fits start) {sector : Nat} (first : 1 ≤ sector) {t : Time}
    (due : t = start + MacParams.standard.sweepFrame.repeated sector) :
    start < t ∧ (t ≤ start + MacParams.standard.bti ↔ sector ≤ 50) := by
  have frame : MacParams.standard.sweepFrame.nanos = 16000 := rfl
  unfold Scenario.Fits at fits
  rw [Time.lt_def, nanos_transferOffset] at longer
  rw [due, Time.lt_def, Time.le_def, Time.nanos_add, Time.nanos_add, nanos_bti, Time.repeated,
    Time.nanos_ofNanos, frame]
  generalize lastWord = last at fits ⊢
  generalize start.nanos = t at fits ⊢
  constructor <;> omega

theorem beacon_le_transfer {sector : Nat} (few : sector ≤ 50) :
    start + MacParams.standard.sweepFrame.repeated sector ≤
      start + MacParams.standard.transferOffset := by
  have frame : MacParams.standard.sweepFrame.nanos = 16000 := rfl
  rw [Time.le_def, Time.nanos_add, Time.nanos_add, nanos_transferOffset, Time.repeated,
    Time.nanos_ofNanos, frame]
  generalize lastWord = last
  omega

/-- The sweep and the feedback take place between the ends of their slot. -/
theorem slot_times (few : k < 8) (fits : start.nanos + 2800000 ≤ lastWord) {t : Time}
    (at_t : t = slotStart start k + MacParams.standard.sweepFrame ∨
      t = slotStart start (k + 1) - MacParams.standard.sweepFrame ∨ t = slotStart start (k + 1)) :
    slotStart start k < t := by
  have frame : MacParams.standard.sweepFrame.nanos = 16000 := rfl
  rw [Time.lt_def, nanos_slotStart]
  rcases at_t with rfl | rfl | rfl
  · rw [Time.nanos_add, nanos_slotStart, frame]
    omega
  · rw [Time.nanos_sub, nanos_slotStart, frame]
    omega
  · rw [nanos_slotStart]
    omega

theorem slot_le {t : Time}
    (at_t : t = slotStart start k + MacParams.standard.sweepFrame ∨
      t = slotStart start (k + 1) - MacParams.standard.sweepFrame ∨ t = slotStart start (k + 1)) :
    max t start ≤ slotStart start (k + 1) := by
  have frame : MacParams.standard.sweepFrame.nanos = 16000 := rfl
  have le := start.nanos_le
  rw [Time.le_def, Time.nanos_max, nanos_slotStart]
  rcases at_t with rfl | rfl | rfl
  · rw [Time.nanos_add, nanos_slotStart, frame]
    omega
  · rw [Time.nanos_sub, nanos_slotStart, frame]
    omega
  · rw [nanos_slotStart]
    omega

end Instants

/-! ## The entries of a beacon interval -/

attribute [ext] Entry

/-- When an entry is due that is asked for at an instant, and what it is. -/
theorem Request.of_atTime {ε : Type} {due now : Time} {event : ε} {seq : Nat}
    {e : Entry ε} (asked : Request.entry? now seq (.atTime due event) = some e) :
    e.due = max due now ∧ e.event = event := by
  cases asked
  exact ⟨rfl, rfl⟩

/-- Sectors are counted from one. -/
theorem Network.one_le_bestSector (origin target : Device) :
    1 ≤ Network.bestSector origin target := Nat.le_add_left ..

theorem Network.bestSector_le {origin : Device} (target : Device) (some : 0 < origin.sectors) :
    Network.bestSector origin target ≤ origin.sectors := by
  unfold bestSector Channel.bestSector
  dsimp only
  omega

theorem Network.bestSector_le_word (origin target : Device) :
    Network.bestSector origin target ≤ 256 := by
  unfold bestSector Channel.bestSector
  have word := (origin.position.azimuth target.position /
    Channel.sectorWidth origin.sectors).floor.toUInt8.toNat_lt
  dsimp only
  omega

namespace World

variable {s : Scenario} {outputs : Outputs} {w : World} {index seq : Nat} {now : Time}

/-- What an entry is that a beacon interval asks for.  The entry of its data transfer interval has
the number `n` in the order of scheduling. -/
inductive Plans (s : Scenario) (w : World) (ap : Device) (index : Nat) (now : Time) (n : Nat)
    (e : Entry NetworkEvent) : Prop
  | beacon (d : Device) : d ∈ w.reachable now → e.event = .beacon d.node →
    e.due = now + MacParams.standard.sweepFrame.repeated (Network.bestSector ap d) → e.seq < n →
    Plans s w ap index now n e
  | slot (d : Device) (k : Nat) : (d, k) ∈ (w.trainees now).zipIdx → e.event.OfSlot d.node →
    (s.Fits now → slotStart now k < e.due) → e.due ≤ slotStart now (k + 1) → e.seq < n →
    Plans s w ap index now n e
  | transfer : e.event = .transferInterval (s.beaconInterval - MacParams.standard.transferOffset) →
    e.due = now + MacParams.standard.transferOffset → e.seq = n → Plans s w ap index now n e
  | association (d : Device) (k : Nat) : (d, k) ∈ (w.trainees now).zipIdx →
    e.event = .associationComplete d.node →
    e.due.nanos = min (now.nanos + 2800000 + 50000 * (k + 1)) lastWord → n < e.seq →
    Plans s w ap index now n e
  | next : e.event = .beaconInterval (index + 1) → e.due = now + s.beaconInterval → n < e.seq →
    Plans s w ap index now n e

namespace Plans

variable {ap : Device} {n : Nat} {e : Entry NetworkEvent} {station : NodeId}

theorem of_beacon (plans : w.Plans s ap index now n e) (event : e.event = .beacon station) :
    ∃ d ∈ w.reachable now, d.node = station ∧
      e.due = now + MacParams.standard.sweepFrame.repeated (Network.bestSector ap d) ∧
      e.seq < n := by
  cases plans with
  | beacon d mem event' due before =>
    rw [event] at event'
    cases event'
    exact ⟨d, mem, rfl, due, before⟩
  | slot d k mem of_slot => exact absurd event of_slot.ne_beacon
  | transfer event' | association d k mem event' | next event' =>
    rw [event] at event'
    cases event'

theorem of_slot (plans : w.Plans s ap index now n e) (of_slot : e.event.OfSlot station) :
    ∃ d k, (d, k) ∈ (w.trainees now).zipIdx ∧ d.node = station ∧
      (s.Fits now → slotStart now k < e.due) ∧ e.due ≤ slotStart now (k + 1) ∧ e.seq < n := by
  cases plans with
  | beacon d mem event => exact absurd event of_slot.ne_beacon
  | slot d k mem of_slot' after upTo before =>
    exact ⟨d, k, mem, of_slot'.unique of_slot, after, upTo, before⟩
  | transfer event | association d k mem event | next event =>
    rw [event] at of_slot
    cases of_slot

theorem of_transfer (plans : w.Plans s ap index now n e) {duration : Time}
    (event : e.event = .transferInterval duration) :
    e.due = now + MacParams.standard.transferOffset ∧ e.seq = n ∧
      e.event = .transferInterval (s.beaconInterval - MacParams.standard.transferOffset) := by
  cases plans with
  | slot d k mem of_slot =>
    rw [event] at of_slot
    cases of_slot
  | transfer event' due seq => exact ⟨due, seq, event'⟩
  | beacon d mem event' | association d k mem event' | next event' =>
    rw [event] at event'
    cases event'

theorem of_next (plans : w.Plans s ap index now n e) {i : Nat}
    (event : e.event = .beaconInterval i) : e.due = now + s.beaconInterval ∧ n < e.seq := by
  cases plans with
  | slot d k mem of_slot =>
    rw [event] at of_slot
    cases of_slot
  | next _ due behind => exact ⟨due, behind⟩
  | transfer event' | beacon d mem event' | association d k mem event' =>
    rw [event] at event'
    cases event'

end Plans

theorem lt_eight_of_mem_trainees {d : Device} {k : Nat} (mem : (d, k) ∈ (w.trainees now).zipIdx) :
    k < 8 := by
  have inside := (List.mem_zipIdx mem).2.1
  rw [trainees, List.length_take] at inside
  omega

theorem of_mem_beacons {bi : Time} {ap : Device} (node : ap.node = 0) {ds : List Device}
    {e : Entry NetworkEvent}
    (mem : e ∈ Request.entries now seq (beaconRequests (.ofInterval bi) ap now ds)) :
    ∃ d ∈ ds, e.event = .beacon d.node ∧
      e.due = now + MacParams.standard.sweepFrame.repeated (Network.bestSector ap d) := by
  obtain ⟨⟨r, memr, asked⟩, -, -⟩ := Request.of_mem_entries mem
  obtain ⟨d, memd, rfl⟩ := List.mem_map.1 memr
  have entry := Option.some.inj asked
  have word := Network.bestSector_le_word ap d
  have frame : (MacParams.ofInterval bi).sweepFrame.nanos = 16000 := rfl
  refine ⟨d, memd, (congrArg Entry.event entry).symm.trans (by rw [node]; rfl),
    (congrArg Entry.due entry).symm.trans ?_⟩
  rw [Time.max_add, Time.repeatedWord_eq (by rw [frame, lastWord]; omega)]
  rfl

theorem of_mem_slots {bi : Time} {trained : List Device} (few : trained.length ≤ 8)
    {e : Entry NetworkEvent}
    (mem : e ∈ Request.entries now seq
      (trainingSlots (.ofInterval bi) (now + (MacParams.ofInterval bi).bti) trained)) :
    ∃ d k, (d, k) ∈ trained.zipIdx ∧ e.event.OfSlot d.node ∧
      (now.nanos + 2800000 ≤ lastWord → slotStart now k < e.due) ∧
      e.due ≤ slotStart now (k + 1) := by
  obtain ⟨⟨r, memr, asked⟩, -, -⟩ := Request.of_mem_entries mem
  obtain ⟨⟨d, k⟩, memd, memr⟩ := List.mem_flatMap.1 memr
  have inside : k < 8 := Nat.lt_of_lt_of_le (List.mem_zipIdx memd).2.1 (by omega)
  have slot : (MacParams.ofInterval bi).abftSlot.nanos = 250000 := rfl
  have start : now + (MacParams.ofInterval bi).bti +
      (MacParams.ofInterval bi).abftSlot.repeatedWord k = slotStart now k := by
    rw [Time.repeatedWord_eq (by rw [slot, lastWord]; omega)]
    rfl
  have finish : slotStart now k + (MacParams.ofInterval bi).abftSlot = slotStart now (k + 1) :=
    slotStart_succ now k
  have frame : (MacParams.ofInterval bi).sweepFrame = MacParams.standard.sweepFrame := rfl
  simp only [slotRequests, start, finish, frame, List.mem_cons, List.not_mem_nil, or_false] at memr
  have timed (t : Time) (due : e.due = max t now)
      (at_t : t = slotStart now k + MacParams.standard.sweepFrame ∨
        t = slotStart now (k + 1) - MacParams.standard.sweepFrame ∨ t = slotStart now (k + 1)) :
      (now.nanos + 2800000 ≤ lastWord → slotStart now k < e.due) ∧
        e.due ≤ slotStart now (k + 1) := by
    refine ⟨fun fits => ?_, due ▸ slot_le at_t⟩
    have after := slot_times inside fits at_t
    rw [Time.lt_def] at after ⊢
    rw [due, Time.nanos_max]
    exact Nat.lt_of_lt_of_le after (Nat.le_max_left ..)
  refine ⟨d, k, memd, ?_⟩
  rcases memr with rfl | rfl | rfl
  · obtain ⟨due, event⟩ := Request.of_atTime asked
    exact ⟨event ▸ .sweep, timed _ due (.inl rfl)⟩
  · obtain ⟨due, event⟩ := Request.of_atTime asked
    exact ⟨event ▸ .feedback, timed _ due (.inr (.inl rfl))⟩
  · obtain ⟨due, event⟩ := Request.of_atTime asked
    exact ⟨event ▸ .ended, timed _ due (.inr (.inr rfl))⟩

/-- What a beacon interval asks for is planned. -/
theorem InScene.plans (scene : w.InScene s outputs)
    (longer : MacParams.standard.transferOffset < s.beaconInterval) (index seq : Nat) (now : Time) :
    ∃ ap n, w.network.devices[0]? = some ap ∧
      ∀ e ∈ Request.entries now seq (w.beginInterval index now).2, w.Plans s ap index now n e := by
  obtain ⟨ap, at_zero, requests⟩ := scene.requests_beginInterval index now
  have mac : w.network.mac = MacParams.ofInterval s.beaconInterval := scene.mac
  have few : (w.trainees now).length ≤ 8 := by
    rw [trainees, List.length_take]
    exact Nat.min_le_left ..
  rw [requests, mac]
  refine ⟨ap, seq + (beaconRequests (.ofInterval s.beaconInterval) ap now (w.reachable now) ++
    trainingSlots (.ofInterval s.beaconInterval)
      (now + (MacParams.ofInterval s.beaconInterval).bti) (w.trainees now)).length, at_zero,
    fun e mem => ?_⟩
  rw [Time.lt_def, nanos_transferOffset] at longer
  simp only [Request.entries_append, List.mem_append] at mem
  rcases mem with (((beacon | slot) | transfer) | association) | next
  · obtain ⟨d, memd, event, due⟩ := of_mem_beacons (scene.node_eq at_zero) beacon
    have upTo := (Request.of_mem_entries beacon).2.2
    exact .beacon d memd event due (by rw [List.length_append]; omega)
  · obtain ⟨d, k, memd, event, after, upTo'⟩ := of_mem_slots few slot
    have upTo := (Request.of_mem_entries slot).2.2
    exact .slot d k memd event (fun fits => after (by unfold Scenario.Fits at fits; omega)) upTo'
      (by rw [List.length_append]; omega)
  · obtain rfl := List.mem_singleton.1 (show e ∈ [_] from transfer)
    exact .transfer rfl (Time.max_add ..) rfl
  · have behind := (Request.of_mem_entries association).2.1
    obtain ⟨d, k, memd, event, due⟩ := of_mem_associations association
    have inside := lt_eight_of_mem_trainees memd
    have le := now.nanos_le
    refine .association d k memd event ?_ ?_
    · rw [due, Time.nanos_max, MacParams.nanos_association inside]
      omega
    · simp only [List.length_append] at behind ⊢
      simp at behind
      omega
  · obtain rfl := List.mem_singleton.1 (show e ∈ [_] from next)
    exact .next rfl (Time.max_add ..) (by simp only [List.length_append]; simp; omega)

/-- A beacon interval asks for a beacon to each station within reach, for a slot of each station
that is trained, for a data transfer interval and for the next beacon interval. -/
theorem InScene.asks (scene : w.InScene s outputs) (index seq : Nat) (now : Time) :
    (∀ d ∈ w.reachable now, ∃ e ∈ Request.entries now seq (w.beginInterval index now).2,
      e.event = .beacon d.node) ∧
      (∀ d ∈ w.trainees now, ∃ e ∈ Request.entries now seq (w.beginInterval index now).2,
        e.event = .slotEnd d.node) ∧
      (∃ e ∈ Request.entries now seq (w.beginInterval index now).2,
        ∃ duration, e.event = .transferInterval duration) ∧
      ∃ e ∈ Request.entries now seq (w.beginInterval index now).2,
        e.event = .beaconInterval (index + 1) := by
  obtain ⟨ap, at_zero, requests⟩ := scene.requests_beginInterval index now
  have node : ap.node = 0 := scene.node_eq at_zero
  have asked {due : Time} {event : NetworkEvent}
      (mem : .atTime due event ∈ (w.beginInterval index now).2) :
      ∃ e ∈ Request.entries now seq (w.beginInterval index now).2, e.event = event := by
    obtain ⟨e, meme, -, event⟩ := Request.exists_mem_entries now seq mem
    exact ⟨e, meme, event⟩
  refine ⟨fun d mem => ?_, fun d mem => ?_, ?_, ?_⟩
  · have request := List.mem_map_of_mem (f := fun d => Request.atTime
      (now + w.network.mac.sweepFrame.repeatedWord (Network.bestSector ap d))
      (NetworkEvent.controlFrame ap.node d.node .beacon)) mem
    obtain ⟨e, meme, event⟩ := asked
      (by rw [requests]; simp only [List.mem_append]; exact .inl (.inl (.inl (.inl request))))
    exact ⟨e, meme, event.trans (by rw [node]; rfl)⟩
  · obtain ⟨k, inside, at_k⟩ := List.mem_iff_getElem.1 mem
    have request := slotEnd_mem_trainingSlots w.network.mac (now + w.network.mac.bti)
      (List.mk_mem_zipIdx_iff_getElem?.2 (List.getElem?_eq_some_iff.2 ⟨inside, at_k⟩))
    exact asked (by
      rw [requests]
      simp only [List.mem_append]
      exact .inl (.inl (.inl (.inr request))))
  · have request : Request.atTime (now + w.network.mac.transferOffset)
        (NetworkEvent.transferInterval w.network.mac.transferDuration) ∈
        (w.beginInterval index now).2 := by
      rw [requests]
      simp
    obtain ⟨e, mem, event⟩ := asked request
    exact ⟨e, mem, _, event⟩
  · have request : Request.atTime (now + s.beaconInterval)
        (NetworkEvent.beaconInterval (index + 1)) ∈ (w.beginInterval index now).2 := by
      rw [requests]
      simp
    exact asked request

/-- A station is among those within reach if it is not cut off. -/
theorem InScene.mem_map_node_reachable (scene : w.InScene s outputs) (accepted : s.Accepted)
    {station : NodeId} : station ∈ (w.reachable now).map Device.node ↔ s.ReachedAt station now := by
  constructor
  · intro mem
    obtain ⟨d, memd, rfl⟩ := List.mem_map.1 mem
    obtain ⟨first, last⟩ := scene.mem_reachable memd
    exact ⟨first, last, (scene.linkUp_iff accepted).1 (List.mem_filter.1 memd).2⟩
  · rintro ⟨first, last, free⟩
    obtain ⟨k, rfl⟩ := Nat.exists_eq_add_of_le' first
    have mem := scene.mem_map_node_stations last
    obtain ⟨d, memd, node⟩ := List.mem_map.1 mem
    rw [← node] at free ⊢
    exact List.mem_map_of_mem (List.mem_filter.2 ⟨memd, (scene.linkUp_iff accepted).2 free⟩)

/-- A station that is trained is not associated. -/
theorem InScene.isAssociated_of_mem_trainees (scene : w.InScene s outputs) {d : Device}
    (mem : d ∈ w.trainees now) : w.isAssociated d.node = false := by
  obtain ⟨memd, idle⟩ := List.mem_filter.1 (List.mem_of_mem_take mem)
  have at_d := (scene.mem_stations (List.mem_filter.1 memd).1).1
  rw [World.isAssociated, at_d]
  simpa using idle

theorem InScene.nodup_trainees (scene : w.InScene s outputs) (now : Time) :
    ((w.trainees now).map Device.node).Nodup := by
  refine scene.nodup_stations.sublist (List.Sublist.map _ ?_)
  exact (List.take_sublist ..).trans (List.filter_sublist.trans List.filter_sublist)

end World

/-! ## The phases -/

/-- The beacons of a beacon interval that begins at the moment `m`. -/
structure BeaconPhase (s : Scenario) (m : Moment NetworkEvent World) : Prop where
  /-- They go to the stations within reach. -/
  sent : ∀ station, (∃ e ∈ m.asked, e.event = .beacon station) ↔ s.ReachedAt station m.entry.due
  /-- Each arrives at the end of the sector that faces its station, and in time for the first slot
  if that is one of the first fifty. -/
  due : ∀ e ∈ m.asked, ∀ station, e.event = .beacon station →
    ∃ ap d sector, m.world.network.devices[0]? = some ap ∧
      m.world.network.devices[station]? = some d ∧ sector = Network.bestSector ap d ∧
      1 ≤ sector ∧ sector ≤ s.apSectors ∧
      e.due = m.entry.due + MacParams.standard.sweepFrame.repeated sector ∧
      (s.Fits m.entry.due → m.entry.due < e.due ∧
        (e.due ≤ m.entry.due + MacParams.standard.bti ↔ sector ≤ 50))

/-- The slots of a beacon interval that begins at the moment `m`. -/
structure SlotPhase (s : Scenario) (m : Moment NetworkEvent World) (trained : List NodeId) :
    Prop where
  few : trained.length ≤ MacParams.standard.abftSlots
  distinct : trained.Nodup
  apart : ∀ station ∈ trained,
    s.ReachedAt station m.entry.due ∧ m.world.isAssociated station = false
  given : ∀ station, (∃ e ∈ m.asked, e.event.OfSlot station) ↔ station ∈ trained
  /-- Slots follow each other in the order of their stations. -/
  due : ∀ e ∈ m.asked, ∀ k station, trained[k]? = some station → e.event.OfSlot station →
    (s.Fits m.entry.due → slotStart m.entry.due k < e.due) ∧
      e.due ≤ slotStart m.entry.due (k + 1)
  disjoint : s.Fits m.entry.due → ∀ (j k : Nat) (a b : NodeId), j < k →
    trained[j]? = some a → trained[k]? = some b →
    ∀ e ∈ m.asked, ∀ e' ∈ m.asked, e.event.OfSlot a → e'.event.OfSlot b → e.due < e'.due
  /-- Slots are over before the data transfer interval begins. -/
  within : ∀ e ∈ m.asked, ∀ station, e.event.OfSlot station →
    (s.Fits m.entry.due → m.entry.due + MacParams.standard.bti < e.due) ∧
      e.due ≤ m.entry.due + MacParams.standard.transferOffset

/-- The data transfer interval of a beacon interval that begins at the moment `m`, and the beacon
interval that follows. -/
structure TransferPhase (s : Scenario) (m : Moment NetworkEvent World) (index : Nat)
    (transfer next : Entry NetworkEvent) : Prop where
  asked : transfer ∈ m.asked ∧ next ∈ m.asked
  transfer_event :
    transfer.event = .transferInterval (s.beaconInterval - MacParams.standard.transferOffset)
  transfer_due : transfer.due = m.entry.due + MacParams.standard.transferOffset
  only : ∀ e ∈ m.asked, ∀ duration, e.event = .transferInterval duration → e = transfer
  next_event : next.event = .beaconInterval (index + 1)
  next_due : next.due = m.entry.due + s.beaconInterval
  behind_slots : ∀ e ∈ m.asked, ∀ station, e.event.OfSlot station → e.Before transfer
  /-- Beacons are over by then, too, unless the access point has too many sectors. -/
  behind_beacons : s.apSectors ≤ 50 → ∀ e ∈ m.asked, ∀ station, e.event = .beacon station →
    e.Before transfer
  before_next : transfer.Before next
  in_time : s.Fits m.entry.due → transfer.due < next.due

/-- The phases of a beacon interval that begins at the moment `m`. -/
structure Phases (s : Scenario) (m : Moment NetworkEvent World) (index : Nat) : Prop where
  /-- Unless there is a fault, what is asked for joins the agenda. -/
  scheduled : (m.outcome World.behaviour).2.fatal = none →
    (m.outcome World.behaviour).1.pending.Perm (m.asked ++ m.rest)
  beacons : BeaconPhase s m
  slots : ∃ trained, SlotPhase s m trained
  transfer : ∃ transfer next, TransferPhase s m index transfer next

namespace DenseRun

variable {spec : ScenarioSpec} {s : Scenario} {outputs : Outputs} {r : DenseRun}
  {sim : Simulator NetworkEvent} {w : World} {ms : List (Moment NetworkEvent World)}
  {m : Moment NetworkEvent World} {index : Nat}

theorem Built.plans (run : Built spec s outputs r)
    (history : History World.behaviour r.simulator r.world ms m.simulator m.world)
    (begins : m.entry.event = .beaconInterval index) :
    ∃ ap n, m.world.network.devices[0]? = some ap ∧ ap.sectors = s.apSectors ∧
      ∀ e ∈ m.asked, m.world.Plans s ap index m.entry.due n e := by
  have scene := run.inScene history
  have longer := ScenarioSpec.transferOffset_lt_of_resolve run.accepted
  obtain ⟨ap, n, at_zero, plans⟩ := scene.plans longer index m.simulator.nextSeq m.entry.due
  obtain ⟨ap', at_zero', setup⟩ := scene.exists_accessPoint
  cases Option.some.inj (at_zero.symm.trans at_zero')
  rw [Moment.asked, begins]
  exact ⟨ap, n, at_zero, congrArg Device.sectors setup, plans⟩

theorem Built.asks (run : Built spec s outputs r)
    (history : History World.behaviour r.simulator r.world ms m.simulator m.world)
    (begins : m.entry.event = .beaconInterval index) :
    (∀ d ∈ m.world.reachable m.entry.due, ∃ e ∈ m.asked, e.event = .beacon d.node) ∧
      (∀ d ∈ m.world.trainees m.entry.due, ∃ e ∈ m.asked, e.event = .slotEnd d.node) ∧
      (∃ e ∈ m.asked, ∃ duration, e.event = .transferInterval duration) ∧
      ∃ e ∈ m.asked, e.event = .beaconInterval (index + 1) := by
  rw [Moment.asked, begins]
  exact (run.inScene history).asks ..

theorem Built.beaconPhase (run : Built spec s outputs r)
    (history : History World.behaviour r.simulator r.world ms m.simulator m.world)
    (begins : m.entry.event = .beaconInterval index) : BeaconPhase s m := by
  have scene := run.inScene history
  have accepted := ScenarioSpec.accepted_of_resolve run.accepted
  have longer := ScenarioSpec.transferOffset_lt_of_resolve run.accepted
  obtain ⟨ap, n, at_zero, sectors, plans⟩ := run.plans history begins
  have some_sector := (ScenarioSpec.positive_of_resolve run.accepted).apSectors
  constructor
  · intro station
    rw [← scene.mem_map_node_reachable accepted]
    constructor
    · rintro ⟨e, mem, event⟩
      obtain ⟨d, memd, node, -⟩ := (plans e mem).of_beacon event
      exact node ▸ List.mem_map_of_mem memd
    · intro mem
      obtain ⟨d, memd, rfl⟩ := List.mem_map.1 mem
      exact (run.asks history begins).1 d memd
  · intro e mem station event
    obtain ⟨d, memd, rfl, due, -⟩ := (plans e mem).of_beacon event
    have at_d := (scene.mem_stations (List.mem_filter.1 memd).1).1
    have first := Network.one_le_bestSector ap d
    have last := Network.bestSector_le d (sectors ▸ some_sector)
    refine ⟨ap, d, _, at_zero, at_d, rfl, first, sectors ▸ last, due, fun fits => ?_⟩
    generalize Network.bestSector ap d = sector at due first
    exact beacon_times longer fits first due

/-- The position and the instant of what happens in a slot. -/
theorem Built.exists_slot (run : Built spec s outputs r)
    (history : History World.behaviour r.simulator r.world ms m.simulator m.world)
    (begins : m.entry.event = .beaconInterval index) {e : Entry NetworkEvent} (mem : e ∈ m.asked)
    {station : NodeId} (of_slot : e.event.OfSlot station) :
    ∃ k < 8, ((m.world.trainees m.entry.due).map Device.node)[k]? = some station ∧
      (s.Fits m.entry.due → slotStart m.entry.due k < e.due) ∧
      e.due ≤ slotStart m.entry.due (k + 1) := by
  obtain ⟨ap, n, -, -, plans⟩ := run.plans history begins
  obtain ⟨d, k, memd, node, after, upTo, -⟩ := (plans e mem).of_slot of_slot
  refine ⟨k, World.lt_eight_of_mem_trainees memd, ?_, after, upTo⟩
  rw [List.getElem?_map, List.mk_mem_zipIdx_iff_getElem?.1 memd, ← node]
  rfl

theorem Built.slotPhase (run : Built spec s outputs r)
    (history : History World.behaviour r.simulator r.world ms m.simulator m.world)
    (begins : m.entry.event = .beaconInterval index) :
    SlotPhase s m ((m.world.trainees m.entry.due).map Device.node) := by
  have scene := run.inScene history
  have accepted := ScenarioSpec.accepted_of_resolve run.accepted
  have distinct := scene.nodup_trainees m.entry.due
  have due : ∀ e ∈ m.asked, ∀ k station,
      ((m.world.trainees m.entry.due).map Device.node)[k]? = some station →
        e.event.OfSlot station →
          (s.Fits m.entry.due → slotStart m.entry.due k < e.due) ∧
            e.due ≤ slotStart m.entry.due (k + 1) := by
    intro e mem k station at_k of_slot
    obtain ⟨j, -, at_j, timed⟩ := run.exists_slot history begins mem of_slot
    have inside := (List.getElem?_eq_some_iff.1 at_k).1
    rw [(List.getElem?_inj inside distinct).1 (at_k.trans at_j.symm)]
    exact timed
  constructor
  · rw [List.length_map, World.trainees, List.length_take]
    exact Nat.min_le_left ..
  · exact distinct
  · intro station mem
    obtain ⟨d, memd, rfl⟩ := List.mem_map.1 mem
    have reached := List.mem_map_of_mem (f := Device.node)
      (World.mem_reachable_of_mem_trainees memd)
    exact ⟨(scene.mem_map_node_reachable accepted).1 reached,
      scene.isAssociated_of_mem_trainees memd⟩
  · intro station
    constructor
    · rintro ⟨e, mem, of_slot⟩
      obtain ⟨k, -, at_k, -⟩ := run.exists_slot history begins mem of_slot
      exact List.mem_of_getElem? at_k
    · intro mem
      obtain ⟨d, memd, rfl⟩ := List.mem_map.1 mem
      obtain ⟨e, meme, ends⟩ := (run.asks history begins).2.1 d memd
      exact ⟨e, meme, ends ▸ .ended⟩
  · exact due
  · intro fits j k a b earlier at_j at_k e mem e' mem' of_a of_b
    have upTo := (due e mem j a at_j of_a).2
    have after := (due e' mem' k b at_k of_b).1 fits
    have between : slotStart m.entry.due (j + 1) ≤ slotStart m.entry.due k := slotStart_mono earlier
    rw [Time.le_def] at upTo between
    rw [Time.lt_def] at after ⊢
    omega
  · intro e mem station of_slot
    obtain ⟨k, few, -, after, upTo⟩ := run.exists_slot history begins mem of_slot
    exact ⟨fun fits => bti_lt_of_slot (after fits), le_transfer_of_slot few upTo⟩

theorem Built.transferPhase (run : Built spec s outputs r)
    (history : History World.behaviour r.simulator r.world ms m.simulator m.world)
    (begins : m.entry.event = .beaconInterval index) :
    ∃ transfer next, TransferPhase s m index transfer next := by
  have longer := ScenarioSpec.transferOffset_lt_of_resolve run.accepted
  have some_sector := (ScenarioSpec.positive_of_resolve run.accepted).apSectors
  obtain ⟨ap, n, -, sectors, plans⟩ := run.plans history begins
  obtain ⟨-, -, ⟨transfer, asked, duration, event⟩, ⟨next, asked', event'⟩⟩ :=
    run.asks history begins
  obtain ⟨due, number, content⟩ := (plans transfer asked).of_transfer event
  obtain ⟨due', behind⟩ := (plans next asked').of_next event'
  exact ⟨transfer, next, {
    asked := ⟨asked, asked'⟩
    transfer_event := content
    transfer_due := due
    only := by
      intro e mem duration event
      obtain ⟨due', number', content'⟩ := (plans e mem).of_transfer event
      exact Entry.ext (due'.trans due.symm) (number'.trans number.symm)
        (content'.trans content.symm)
    next_event := event'
    next_due := due'
    behind_slots := by
      intro e mem station of_slot
      obtain ⟨d, k, memd, -, -, upTo, before⟩ := (plans e mem).of_slot of_slot
      have last := le_transfer_of_slot (World.lt_eight_of_mem_trainees memd) upTo
      rw [← due] at last
      exact Entry.before_of_le last (number ▸ before)
    behind_beacons := by
      intro few e mem station event
      obtain ⟨d, -, -, due', before⟩ := (plans e mem).of_beacon event
      have last := Network.bestSector_le d (sectors ▸ some_sector)
      refine Entry.before_of_le ?_ (number ▸ before)
      rw [due, due']
      exact beacon_le_transfer (by omega)
    before_next := by
      refine Entry.before_of_le ?_ (number ▸ behind)
      rw [Time.lt_def] at longer
      rw [due, due', Time.le_def, Time.nanos_add, Time.nanos_add]
      omega
    in_time := by
      intro fits
      unfold Scenario.Fits at fits
      rw [Time.lt_def] at longer
      rw [due, due', Time.lt_def, Time.nanos_add, Time.nanos_add]
      omega }⟩

/-- No phase of a beacon interval spills into the next one, except for beacons that are sent in a
sector behind the fiftieth: slots of their own for eight stations at most, all of them within reach
and not associated, then the data transfer interval, then the next beacon interval. -/
theorem Built.phases (run : Built spec s outputs r)
    (history : History World.behaviour r.simulator r.world ms sim w)
    {later earlier : List (Moment NetworkEvent World)} (split : ms = later ++ m :: earlier)
    (begins : m.entry.event = .beaconInterval index) : Phases s m index := by
  obtain ⟨before, pending⟩ := history.of_mem split
  exact {
    scheduled := run.perm_pending before pending
    beacons := run.beaconPhase before begins
    slots := ⟨_, run.slotPhase before begins⟩
    transfer := run.transferPhase before begins }

/-- The first beacon interval of a lone station trains it in the first slot. -/
theorem phases_lone : Phases Lone.scenario Lone.start 0 ∧ Lone.scenario.Fits Lone.start.entry.due ∧
    (∃ e ∈ Lone.start.asked, e.event = .beacon 1 ∧ e.due = .ofMicros 16) ∧
    ∃ e ∈ Lone.start.asked, e.event = .slotEnd 1 ∧ e.due = slotStart .zero 1 := by
  have split : Lone.moments 0 = [] ++ Lone.start :: [] := rfl
  have asked : Lone.start.asked = Request.entries .zero 2 Lone.requests :=
    congrArg (fun asked : World × List NetworkRequest => Request.entries .zero 2 asked.2)
      Lone.beginInterval
  refine ⟨Lone.built.phases (Lone.history 0) split rfl, ?_, ?_, ?_⟩
  · unfold Scenario.Fits
    decide +kernel
  · rw [asked]
    decide +kernel
  · rw [asked]
    decide +kernel

end DenseRun

end DenseDmg
