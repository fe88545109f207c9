import DenseDmg.Proofs.Scene.Flow

/-!
# Slots before associations

A beacon interval gives its stations a training slot each and an association behind it, both of
them in advance.  Whatever lies between, no association is executed before the slot that belongs to
it is over.

* `SlotsAhead.step`: executing an event keeps the slot in front of every pending association.
* `AssociationsFirst.step`: if beacon intervals are long enough, all associations of one interval
  are over before the next one begins.
-/

namespace DenseDmg

/-- The training slot of a station is over. -/
def NetworkEvent.slotEnd (station : NodeId) : NetworkEvent :=
  .trainingDone 0 station .associationTraining

/-- Events that neither complete an association nor begin a beacon interval. -/
def NetworkEvent.IsOther : NetworkEvent → Prop
  | .associationComplete _ | .beaconInterval _ => False
  | _ => True

/-- From the start of a beacon interval to the last association that it may schedule. -/
def associationSpan : Time := .ofMicros 3200

/-! ## Times -/

namespace MacParams

variable {bi : Time} {now : Time} {k : Nat}

/-- The timing of a scene: beacon intervals may have any length. -/
def ofInterval (bi : Time) : MacParams := { standard with beaconInterval := bi }

theorem nanos_slotEnd (few : k < 8) :
    (now + (ofInterval bi).bti + (ofInterval bi).abftSlot.repeatedWord k +
      (ofInterval bi).abftSlot).nanos = min (now.nanos + 800000 + 250000 * (k + 1)) lastWord := by
  have bti : (ofInterval bi).bti.nanos = 800000 := rfl
  have slot : (ofInterval bi).abftSlot.nanos = 250000 := rfl
  have slots : ((ofInterval bi).abftSlot.repeatedWord k).nanos = 250000 * k := by
    rw [Time.repeatedWord, Time.nanos_ofNanos, slot]
    unfold lastWord
    omega
  simp only [Time.nanos_add, bti, slot, slots]
  omega

theorem nanos_association (few : k < 8) :
    (now + (ofInterval bi).transferOffset + (ofInterval bi).assocDelay.repeatedWord (k + 1)).nanos =
      min (now.nanos + 2800000 + 50000 * (k + 1)) lastWord := by
  have offset : (ofInterval bi).transferOffset.nanos = 2800000 := by
    show standard.transferOffset.nanos = 2800000
    decide
  have delay : (ofInterval bi).assocDelay.nanos = 50000 := rfl
  have delays : ((ofInterval bi).assocDelay.repeatedWord (k + 1)).nanos = 50000 * (k + 1) := by
    rw [Time.repeatedWord, Time.nanos_ofNanos, delay]
    unfold lastWord
    omega
  simp only [Time.nanos_add, offset, delays]
  omega

/-- A slot is over when its association is due, at the latest. -/
theorem slotEnd_le_association (few : k < 8) :
    max (now + (ofInterval bi).bti + (ofInterval bi).abftSlot.repeatedWord k +
        (ofInterval bi).abftSlot) now ≤
      max (now + (ofInterval bi).transferOffset +
        (ofInterval bi).assocDelay.repeatedWord (k + 1)) now := by
  rw [Time.le_def, Time.nanos_max, Time.nanos_max, nanos_slotEnd few, nanos_association few]
  generalize lastWord = last
  generalize now.nanos = t
  omega

/-- An association is due when the next beacon interval begins, at the latest. -/
theorem association_le_interval (few : k < 8) (long : associationSpan ≤ bi) :
    max (now + (ofInterval bi).transferOffset +
        (ofInterval bi).assocDelay.repeatedWord (k + 1)) now ≤ max (now + bi) now := by
  have span : associationSpan.nanos = 3200000 := by decide
  rw [Time.le_def, span] at long
  rw [Time.le_def, Time.nanos_max, Time.nanos_max, nanos_association few, Time.nanos_add]
  generalize lastWord = last
  generalize now.nanos = t
  omega

end MacParams

/-! ## What a beacon interval schedules -/

namespace World

variable {s : Scenario} {outputs : Outputs} {w : World} {index seq : Nat} {now : Time}

/-- The slots of the stations that are trained, one after the other. -/
def trainingSlots (mac : MacParams) (start : Time) (trained : List Device) : List NetworkRequest :=
  trained.zipIdx.flatMap fun (d, slot) => slotRequests mac 0 start slot d

theorem slotEnd_mem_trainingSlots (mac : MacParams) (start : Time) {trained : List Device}
    {d : Device} {k : Nat} (mem : (d, k) ∈ trained.zipIdx) :
    .atTime (start + mac.abftSlot.repeatedWord k + mac.abftSlot) (.slotEnd d.node) ∈
      trainingSlots mac start trained :=
  List.mem_flatMap.2 ⟨(d, k), mem, by simp [slotRequests, NetworkEvent.slotEnd]⟩

theorem isOther_of_mem_trainingSlots {mac : MacParams} {start : Time} {trained : List Device}
    {r : NetworkRequest} (mem : r ∈ trainingSlots mac start trained) :
    ∃ e, r.event? = some e ∧ e.IsOther := by
  obtain ⟨⟨d, k⟩, -, mem⟩ := List.mem_flatMap.1 mem
  simp only [slotRequests, List.mem_cons, List.not_mem_nil, or_false] at mem
  rcases mem with rfl | rfl | rfl <;> exact ⟨_, rfl, trivial⟩

/-- The stations within reach of the access point. -/
def reachable (w : World) (now : Time) : List Device :=
  w.network.stations.filter fun d => w.network.linkUp 0 d.node now

/-- The stations that get a slot: the first of those within reach that are not associated. -/
def trainees (w : World) (now : Time) : List Device :=
  ((w.reachable now).filter fun d => !d.isAssociated).take 8

/-- Elements that are left out before a change and after it may as well be changed. -/
theorem filter_modify_of_not {α : Type} {p : α → Bool} {f : α → α} {xs : List α} {i : Nat}
    (out : ∀ a, xs[i]? = some a → p a = false ∧ p (f a) = false) :
    (xs.modify i f).filter p = xs.filter p := by
  induction xs generalizing i with
  | nil => cases i <;> rfl
  | cons a xs ih =>
    cases i with
    | zero =>
      obtain ⟨before, after⟩ := out a rfl
      rw [List.modify_zero_cons, List.filter_cons_of_neg (by simp [after]),
        List.filter_cons_of_neg (by simp [before])]
    | succ i =>
      rw [List.modify_succ_cons, List.filter_cons, List.filter_cons, ih fun b at_i => out b at_i]

/-- Who loses an association is cut off, and is not within reach before or after. -/
theorem InScene.reachable_loseStation (scene : w.InScene s outputs) (d : Device) :
    (loseStation now w d).reachable now = w.reachable now := by
  have links : (loseStation now w d).network.linkUp = w.network.linkUp := by
    unfold Network.linkUp
    rw [isBlocked_eq scene ((setup_loseStation now w d).trans scene)]
  unfold reachable Network.stations
  rw [links, List.filter_filter, List.filter_filter]
  unfold loseStation
  split
  next lost =>
    have blocked : w.network.isBlocked d.node now = true := (Bool.and_eq_true_iff.1 lost).1
    rw [devices_dispatch]
    dsimp only [Network.deassociate, Network.setAid]
    rw [Array.toList_modify]
    refine filter_modify_of_not fun a at_node => ?_
    have node : a.node = d.node := scene.node_eq (by simpa using at_node)
    simp [Network.linkUp, node, blocked]
  next => rfl

theorem InScene.reachable_foldl_loseStation (scene : w.InScene s outputs) (ds : List Device) :
    (ds.foldl (loseStation now) w).reachable now = w.reachable now := by
  induction ds generalizing w with
  | nil => rfl
  | cons d ds ih =>
    rw [List.foldl_cons, ih ((setup_loseStation now w d).trans scene), scene.reachable_loseStation]

/-- What a beacon interval asks for: beacons for the stations within reach, slots and associations
for those of them that are trained, and two intervals. -/
theorem InScene.requests_beginInterval (scene : w.InScene s outputs) (index : Nat) (now : Time) :
    ∃ ap, w.network.devices[0]? = some ap ∧
      (w.beginInterval index now).2 =
        beaconRequests w.network.mac ap now (w.reachable now) ++
          trainingSlots w.network.mac (now + w.network.mac.bti) (w.trainees now) ++
          [.atTime (now + w.network.mac.transferOffset)
            (.transferInterval w.network.mac.transferDuration)] ++
          associationRequests w.network.mac (now + w.network.mac.transferOffset) (w.trainees now) ++
          [.atTime (now + s.beaconInterval) (.beaconInterval (index + 1))] := by
  obtain ⟨ap, at_zero, -⟩ := scene.exists_accessPoint
  have node : ap.node = 0 := scene.node_eq at_zero
  have interval : w.network.mac.beaconInterval = s.beaconInterval := by rw [scene.mac]
  have few : w.network.mac.abftSlots = 8 := by rw [scene.mac]; rfl
  refine ⟨ap, at_zero, ?_⟩
  rw [trainees, ← scene.reachable_foldl_loseStation w.network.stations]
  unfold beginInterval trainingSlots reachable
  rw [scene.accessPoint, Option.bind_some, at_zero]
  dsimp only
  rw [node, interval, few]

theorem InScene.mem_reachable (scene : w.InScene s outputs) {d : Device}
    (mem : d ∈ w.reachable now) : 1 ≤ d.node ∧ d.node ≤ s.numStas :=
  scene.bounds_of_mem_stations (List.mem_filter.1 mem).1

theorem mem_reachable_of_mem_trainees {d : Device} (mem : d ∈ w.trainees now) :
    d ∈ w.reachable now :=
  (List.mem_filter.1 (List.mem_of_mem_take mem)).1

/-- The stations that a beacon interval reaches and those that it trains, and what it asks for. -/
theorem InScene.exists_reachable (scene : w.InScene s outputs) (index : Nat) (now : Time) :
    ∃ ap reachable trained, ap.node = 0 ∧ reachable.length ≤ s.numStas ∧ trained.length ≤ 8 ∧
      (∀ d ∈ reachable, 1 ≤ d.node ∧ d.node ≤ s.numStas) ∧
      (∀ d ∈ trained, 1 ≤ d.node ∧ d.node ≤ s.numStas) ∧
      (w.beginInterval index now).2 =
        beaconRequests w.network.mac ap now reachable ++
          trainingSlots w.network.mac (now + w.network.mac.bti) trained ++
          [.atTime (now + w.network.mac.transferOffset)
            (.transferInterval w.network.mac.transferDuration)] ++
          associationRequests w.network.mac (now + w.network.mac.transferOffset) trained ++
          [.atTime (now + s.beaconInterval) (.beaconInterval (index + 1))] := by
  obtain ⟨ap, at_zero, requests⟩ := scene.requests_beginInterval index now
  refine ⟨ap, w.reachable now, w.trainees now, scene.node_eq at_zero, ?_, ?_,
    fun d mem => scene.mem_reachable mem,
    fun d mem => scene.mem_reachable (mem_reachable_of_mem_trainees mem), requests⟩
  · exact scene.length_stations ▸ List.length_filter_le ..
  · rw [trainees, List.length_take]
    exact Nat.min_le_left ..

/-- What a beacon interval asks for: slots and associations of the stations that are trained, the
next beacon interval last, and other events in between. -/
theorem InScene.snd_beginInterval (scene : w.InScene s outputs) (index : Nat) (now : Time) :
    ∃ trained beacons slots transfer associations, trained.length ≤ 8 ∧
      (∀ r ∈ beacons ++ transfer, ∃ e, r.event? = some e ∧ e.IsOther) ∧
      slots = trainingSlots w.network.mac (now + w.network.mac.bti) trained ∧
      associations =
        associationRequests w.network.mac (now + w.network.mac.transferOffset) trained ∧
      (w.beginInterval index now).2 = beacons ++ slots ++ transfer ++ associations ++
        [.atTime (now + s.beaconInterval) (.beaconInterval (index + 1))] := by
  obtain ⟨ap, reachable, trained, -, -, few, -, -, requests⟩ := scene.exists_reachable index now
  refine ⟨trained, _, _, _, _, few, fun r mem => ?_, rfl, rfl, requests⟩
  rcases List.mem_append.1 mem with mem | mem
  · rcases List.mem_map.1 mem with ⟨d, -, rfl⟩
    exact ⟨_, rfl, trivial⟩
  · rw [List.mem_singleton.1 mem]
    exact ⟨_, rfl, trivial⟩

theorem of_mem_associations {mac : MacParams} {transferStart : Time} {trained : List Device}
    {e : Entry NetworkEvent}
    (mem : e ∈ Request.entries now seq (associationRequests mac transferStart trained)) :
    ∃ d k, (d, k) ∈ trained.zipIdx ∧ e.event = .associationComplete d.node ∧
      e.due = max (transferStart + mac.assocDelay.repeatedWord (k + 1)) now := by
  obtain ⟨⟨r, memr, asked⟩, -, -⟩ := Request.of_mem_entries mem
  obtain ⟨⟨d, k⟩, memd, rfl⟩ := List.mem_map.1 memr
  have entry := Option.some.inj asked
  exact ⟨d, k, memd, (congrArg Entry.event entry).symm, (congrArg Entry.due entry).symm⟩

theorem isOther_of_mem_entries {rs : List NetworkRequest}
    (other : ∀ r ∈ rs, ∃ e, r.event? = some e ∧ e.IsOther) {e : Entry NetworkEvent}
    (mem : e ∈ Request.entries now seq rs) : e.event.IsOther := by
  obtain ⟨⟨r, memr, asked⟩, -, -⟩ := Request.of_mem_entries mem
  obtain ⟨event, asks, other⟩ := other r memr
  rw [(Request.of_entry? asked).2] at asks
  exact Option.some.inj asks ▸ other

/-- What a beacon interval schedules: the next beacon interval, associations with their slots in
front of them, and events of other kinds.  The associations come before the next beacon interval if
beacon intervals are long enough. -/
theorem InScene.exists_next_interval (scene : w.InScene s outputs) (index seq : Nat) (now : Time) :
    ∃ next : Entry NetworkEvent, ∀ e ∈ Request.entries now seq (w.beginInterval index now).2,
      (∃ station, e.event = .associationComplete station ∧
          (∃ e' ∈ Request.entries now seq (w.beginInterval index now).2,
            e'.Before e ∧ e'.event = .slotEnd station) ∧
          (associationSpan ≤ s.beaconInterval → e.Before next)) ∨
        e = next ∧ e.event = .beaconInterval (index + 1) ∨
        e.event.IsOther := by
  obtain ⟨trained, beacons, slots, transfer, associations, few, other, slots_eq, associations_eq,
    requests⟩ := scene.snd_beginInterval index now
  rw [requests]
  refine ⟨⟨max (now + s.beaconInterval) now,
    seq + (beacons ++ slots ++ transfer ++ associations).length, .beaconInterval (index + 1)⟩,
    fun e mem => ?_⟩
  simp only [Request.entries_append, List.mem_append] at mem ⊢
  rcases mem with (((beacon | slot) | transfer) | association) | next
  · exact .inr (.inr (isOther_of_mem_entries
      (fun r memr => other r (List.mem_append_left _ memr)) beacon))
  · rw [slots_eq] at slot
    exact .inr (.inr (isOther_of_mem_entries (fun _ => isOther_of_mem_trainingSlots) slot))
  · exact .inr (.inr (isOther_of_mem_entries
      (fun r memr => other r (List.mem_append_right _ memr)) transfer))
  · left
    rcases Request.of_mem_entries association with ⟨-, behind, ahead⟩
    rw [associations_eq, scene.mac] at association
    rcases of_mem_associations association with ⟨d, k, memd, event, due⟩
    have inside : k < 8 := by
      have := (List.mem_zipIdx memd).2.1
      omega
    refine ⟨d.node, event, ?_, fun long => ?_⟩
    · have asked := slotEnd_mem_trainingSlots w.network.mac (now + w.network.mac.bti) memd
      rw [← slots_eq] at asked
      obtain ⟨e', mem', due', event'⟩ :=
        Request.exists_mem_entries now (seq + beacons.length) asked
      rcases Request.of_mem_entries mem' with ⟨-, -, ahead'⟩
      refine ⟨e', .inl (.inl (.inl (.inr mem'))), Entry.before_of_le ?_ ?_, event'⟩
      · rw [due, due', scene.mac]
        exact MacParams.slotEnd_le_association inside
      · simp only [List.length_append] at behind
        omega
    · refine Entry.before_of_le ?_ ?_
      · rw [due]
        exact MacParams.association_le_interval inside long
      · simp only [List.length_append] at ahead ⊢
        omega
  · obtain rfl := List.mem_singleton.1 (show e ∈ [_] from next)
    exact .inr (.inl ⟨rfl, rfl⟩)

end World

/-! ## The agenda -/

/-- Every pending association has its slot in front of it, or its slot is known to be over. -/
def SlotsAhead (ended : NodeId → Prop) (pending : List (Entry NetworkEvent)) : Prop :=
  ∀ e ∈ pending, ∀ station, e.event = .associationComplete station →
    (∃ e' ∈ pending, e'.Before e ∧ e'.event = .slotEnd station) ∨ ended station

/-- There is one pending beacon interval at most, and all pending associations come before it. -/
structure AssociationsFirst (pending : List (Entry NetworkEvent)) : Prop where
  one : ∀ b ∈ pending, ∀ b' ∈ pending, ∀ i j, b.event = .beaconInterval i →
    b'.event = .beaconInterval j → b = b'
  before : ∀ e ∈ pending, ∀ b ∈ pending, ∀ station i, e.event = .associationComplete station →
    b.event = .beaconInterval i → e.Before b

section Step

variable {s : Scenario} {outputs : Outputs} {w : World} {sim : Simulator NetworkEvent}
  {entry : Entry NetworkEvent} {rest pending : List (Entry NetworkEvent)} {seq : Nat}

/-- Of all events only a beacon interval asks for associations and beacon intervals. -/
theorem isOther_of_mem_entries_act {event : NetworkEvent} {now : Time} {e : Entry NetworkEvent}
    (other : ∀ i, event ≠ .beaconInterval i)
    (mem : e ∈ Request.entries now seq (w.act now event).2) : e.event.IsOther := by
  refine World.isOther_of_mem_entries (fun r memr => ?_) mem
  obtain ⟨asked, asks, causes⟩ := World.causes_of_mem_act memr
  refine ⟨asked, asks, ?_⟩
  cases causes <;> first | exact trivial | exact absurd rfl (other _)

theorem NetworkEvent.IsOther.ne_associationComplete {event : NetworkEvent} {station : NodeId}
    (other : event.IsOther) : event ≠ .associationComplete station := by
  rintro rfl
  exact other

theorem NetworkEvent.IsOther.ne_beaconInterval {event : NetworkEvent} {i : Nat}
    (other : event.IsOther) : event ≠ .beaconInterval i := by
  rintro rfl
  exact other

/-- Executing an event keeps a slot in front of every pending association, as long as slots that
are over count as such. -/
theorem SlotsAhead.step {ended ended' : NodeId → Prop} (scene : w.InScene s outputs)
    (ahead : SlotsAhead ended (entry :: rest))
    (kept : ∀ e ∈ rest, ∀ station, e.event = .associationComplete station → ended station →
      ended' station)
    (ends : ∀ station, entry.event = .slotEnd station → ended' station)
    (perm : pending.Perm
      (Request.entries entry.due seq (w.act entry.due entry.event).2 ++ rest)) :
    SlotsAhead ended' pending := by
  intro e mem station association
  rcases List.mem_append.1 (perm.mem_iff.1 mem) with mem | mem
  · by_cases interval : ∃ i, entry.event = .beaconInterval i
    · rcases interval with ⟨i, interval⟩
      rw [interval] at mem perm
      rcases scene.exists_next_interval i seq entry.due with ⟨next, planned⟩
      rcases planned e mem with ⟨_, event, ⟨e', mem', before, slot⟩, -⟩ | ⟨-, event⟩ | other
      · rw [association] at event
        cases event
        exact .inl ⟨e', perm.mem_iff.2 (List.mem_append_left _ mem'), before, slot⟩
      · rw [association] at event
        cases event
      · exact absurd association other.ne_associationComplete
    · exact absurd association
        (isOther_of_mem_entries_act (fun i event => interval ⟨i, event⟩) mem).ne_associationComplete
  · rcases ahead e (List.mem_cons_of_mem _ mem) station association with
      ⟨e', mem', before, slot⟩ | ended
    · rcases List.mem_cons.1 mem' with rfl | mem'
      · exact .inr (ends station slot)
      · exact .inl ⟨e', perm.mem_iff.2 (List.mem_append_right _ mem'), before, slot⟩
    · exact .inr (kept e mem station association ended)

/-- The slot of an association that is about to be executed is over. -/
theorem SlotsAhead.slot_ended {ended : NodeId → Prop} (ahead : SlotsAhead ended (entry :: rest))
    (sorted : ∀ e ∈ rest, entry.Before e) {station : NodeId}
    (association : entry.event = .associationComplete station) : ended station := by
  rcases ahead entry List.mem_cons_self station association with ⟨e, mem, before, slot⟩ | ended
  · rcases List.mem_cons.1 mem with rfl | mem
    · exact absurd before e.not_before_self
    · exact absurd (before.trans (sorted e mem)) e.not_before_self
  · exact ended

/-- Nothing is pending behind a beacon interval that begins but events of other kinds. -/
theorem AssociationsFirst.isOther (first : AssociationsFirst (entry :: rest))
    (sorted : ∀ e ∈ rest, entry.Before e) {i : Nat} (interval : entry.event = .beaconInterval i) :
    ∀ e ∈ rest, e.event.IsOther := by
  intro e mem
  have after := sorted e mem
  cases event : e.event with
  | associationComplete station =>
    have before := first.before e (List.mem_cons_of_mem _ mem) entry List.mem_cons_self _ _ event
      interval
    exact absurd (after.trans before) entry.not_before_self
  | beaconInterval j =>
    have same :=
      first.one entry List.mem_cons_self e (List.mem_cons_of_mem _ mem) _ _ interval event
    rw [← same] at after
    exact absurd after entry.not_before_self
  | _ => trivial

/-- If beacon intervals are long enough, executing an event keeps all associations in front of the
next beacon interval. -/
theorem AssociationsFirst.step (scene : w.InScene s outputs)
    (long : associationSpan ≤ s.beaconInterval) (first : AssociationsFirst (entry :: rest))
    (sorted : ∀ e ∈ rest, entry.Before e)
    (perm : pending.Perm
      (Request.entries entry.due seq (w.act entry.due entry.event).2 ++ rest)) :
    AssociationsFirst pending := by
  by_cases interval : ∃ i, entry.event = .beaconInterval i
  · obtain ⟨i, interval⟩ := interval
    have others := first.isOther sorted interval
    rw [interval] at perm
    rcases scene.exists_next_interval i seq entry.due with ⟨next, planned⟩
    have is_next : ∀ b ∈ pending, ∀ j, b.event = .beaconInterval j → b = next := by
      intro b mem j event
      rcases List.mem_append.1 (perm.mem_iff.1 mem) with mem | mem
      · rcases planned b mem with ⟨_, event', -⟩ | ⟨rfl, -⟩ | other
        · rw [event] at event'
          cases event'
        · rfl
        · exact absurd event other.ne_beaconInterval
      · exact absurd event (others b mem).ne_beaconInterval
    constructor
    · intro b mem b' mem' i j event event'
      rw [is_next b mem i event, is_next b' mem' j event']
    · intro e mem b memb station j association event
      rw [is_next b memb j event]
      rcases List.mem_append.1 (perm.mem_iff.1 mem) with mem | mem
      · rcases planned e mem with ⟨_, -, -, before⟩ | ⟨-, event'⟩ | other
        · exact before long
        · rw [association] at event'
          cases event'
        · exact absurd association other.ne_associationComplete
      · exact absurd association (others e mem).ne_associationComplete
  · have mem_rest : ∀ e ∈ pending, ¬ e.event.IsOther → e ∈ entry :: rest := by
      intro e mem busy
      rcases List.mem_append.1 (perm.mem_iff.1 mem) with mem | mem
      · exact absurd (isOther_of_mem_entries_act (fun i event => interval ⟨i, event⟩) mem) busy
      · exact List.mem_cons_of_mem _ mem
    constructor
    · intro b mem b' mem' i j event event'
      have mem := mem_rest b mem fun other => other.ne_beaconInterval event
      have mem' := mem_rest b' mem' fun other => other.ne_beaconInterval event'
      exact first.one b mem b' mem' i j event event'
    · intro e mem b memb station j association event
      have mem := mem_rest e mem fun other => other.ne_associationComplete association
      have memb := mem_rest b memb fun other => other.ne_beaconInterval event
      exact first.before e mem b memb station j association event

end Step

end DenseDmg
