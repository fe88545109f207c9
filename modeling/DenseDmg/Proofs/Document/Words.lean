import DenseDmg.Scenario.Spec

/-!
# The words of a document

A record is read field by field into a draft.  What holds of the first draft and is kept by every
field holds of the record; so it is with the counts of a scenario document, each of which fits into
the word that it is read for.

* `yields_readRecord`: what holds of every record that is read.
* `ScenarioSpec.fits_of_document`: the counts of a scenario document.
-/

namespace DenseDmg

namespace Document

variable {α σ : Type} {P : σ → Prop} {Q : α → Prop} {shape : Shape σ} {draft : σ}

/-- A reader all of whose values have a property. -/
def Yields (read : Reader α) (Q : α → Prop) : Prop := ∀ cs a r, read cs = .ok (a, r) → Q a

/-- A field that keeps a property of drafts, whatever is read for it. -/
def Field.Keeps (P : σ → Prop) (field : Field σ) : Prop :=
  ∀ draft, P draft → Yields (field.read draft) P

/-! ## Values and fields -/

theorem exists_of_map_eq_ok {ε β : Type} {e : Except ε α} {f : α → β} {b : β}
    (done : e.map f = .ok b) : ∃ a, e = .ok a ∧ f a = b := by
  cases e with
  | error fault => cases done
  | ok a =>
    cases done
    exact ⟨a, rfl, rfl⟩

/-- What a given text is read as can be evaluated. -/
theorem eq_ok_of_toOption {ε : Type} {e : Except ε α} {a : α} (read : e.toOption = some a) :
    e = .ok a := by
  cases e with
  | error fault => cases read
  | ok found => exact congrArg Except.ok (Option.some.inj read)

theorem yields_readCount (limit : Nat) : Yields (readCount limit) (· ≤ limit) := by
  intro cs n r done
  unfold readCount at done
  split at done
  · split at done
    next inside =>
      cases done
      exact inside
    next => cases done
  · cases done
  · cases done

/-- Nothing is known of the values of a reader, and nothing need be. -/
theorem yields_any (read : Reader α) : Yields read fun _ => True := fun _ _ _ _ => trivial

/-- A field keeps what the values that are read for it cannot break. -/
theorem Field.Keeps.of {key : String} {read : Reader α} {set : σ → α → σ} (yields : Yields read Q)
    (keeps : ∀ draft a, P draft → Q a → P (set draft a)) : (Field.of key read set).Keeps P := by
  intro draft holds cs d r done
  obtain ⟨⟨a, _⟩, first, same⟩ := exists_of_map_eq_ok done
  cases same
  exact keeps draft a holds (yields cs a _ first)

theorem yields_readItems {item : Reader α} (yields : Yields item Q) (fuel : Nat) :
    Yields (readItems item fuel) fun as => ∀ a ∈ as, Q a := by
  induction fuel with
  | zero =>
    intro cs as r done
    cases done
  | succ fuel ih =>
    intro cs as r done
    rw [readItems] at done
    split at done
    next => cases done
    next a rest first =>
      have head := yields _ _ _ first
      split at done
      next => cases done
      next =>
        cases done
        simpa using head
      next =>
        split at done
        next => cases done
        next => cases done
        next =>
          obtain ⟨⟨bs, _⟩, tail, same⟩ := exists_of_map_eq_ok done
          cases same
          intro b mem
          rcases List.mem_cons.1 mem with rfl | mem
          · exact head
          · exact ih _ _ _ tail b mem
      next => cases done

theorem yields_readList {item : Reader α} (yields : Yields item Q) :
    Yields (readList item) fun as => ∀ a ∈ as, Q a := by
  intro cs as r done
  unfold readList at done
  split at done
  next =>
    split at done
    next => cases done
    next =>
      cases done
      exact nofun
    next => exact yields_readItems yields _ _ _ _ done
  next => cases done

/-! ## Records -/

theorem of_close {seen : List String} {d : σ} {cs r : List Char}
    (done : shape.close seen draft cs = .ok (d, r)) : d = draft := by
  unfold Shape.close at done
  split at done
  · cases done
  · cases done
    rfl

theorem yields_readMembers (keeps : ∀ f ∈ shape.fields, f.Keeps P) (fuel : Nat)
    (seen : List String) (holds : P draft) : Yields (readMembers shape fuel seen draft) P := by
  induction fuel generalizing seen draft with
  | zero =>
    intro cs d r done
    cases done
  | succ fuel ih =>
    intro cs d r done
    unfold readMembers at done
    split at done
    next =>
      split at done
      next => cases done
      next key rest _ =>
        dsimp only at done
        split at done
        next => cases done
        next =>
          split at done
          next => cases done
          next value _ =>
            split at done
            next => cases done
            next draft' rest' read =>
              have holds' : P draft' := by
                split at read
                next field found =>
                  exact keeps field (List.mem_of_find?_eq_some found) draft holds _ _ _ read
                next =>
                  -- The value of an unknown key is passed over.
                  obtain ⟨_, -, same⟩ := exists_of_map_eq_ok read
                  cases same
                  exact holds
              split at done
              next => cases done
              next =>
                rw [of_close done]
                exact holds'
              next =>
                split at done
                next => cases done
                next => exact ih _ holds' _ _ _ done
              next => cases done
          next => cases done
    next => cases done

theorem yields_readPositional {fields : List (Field σ)} (keeps : ∀ f ∈ fields, f.Keeps P)
    (complete first : Bool) (holds : P draft) :
    Yields (readPositional complete fields first draft) P := by
  induction fields generalizing first draft with
  | nil =>
    intro cs d r done
    rw [readPositional, closeArray] at done
    split at done
    next => cases done
    next =>
      cases done
      exact holds
    next => cases done
  | cons field fields ih =>
    intro cs d r done
    rw [readPositional] at done
    split at done
    next => cases done
    next =>
      split at done
      · cases done
      · cases done
        exact holds
    next =>
      dsimp only at done
      split at done
      next => cases done
      next =>
        split at done
        next => cases done
        next draft' rest read =>
          have holds' := keeps field List.mem_cons_self draft holds _ _ _ read
          exact ih (fun f mem => keeps f (List.mem_cons_of_mem _ mem)) false holds' _ _ _ done

/-- What holds of the draft and is kept by every field holds of the record that is read. -/
theorem yields_readRecord (keeps : ∀ f ∈ shape.fields, f.Keeps P) (holds : P draft) :
    Yields (readRecord shape draft) P := by
  intro cs d r done
  unfold readRecord at done
  split at done
  next =>
    split at done
    next => cases done
    next =>
      rw [of_close done]
      exact holds
    next => exact yields_readMembers keeps _ _ holds _ _ _ done
  next => exact yields_readPositional keeps _ _ holds _ _ _ done
  next => cases done

theorem of_readDocument {read : Reader α} (yields : Yields read Q) {cs : List Char} {a : α}
    (done : readDocument read cs = .ok a) : Q a := by
  unfold readDocument at done
  split at done
  next => cases done
  next a' rest read =>
    split at done
    · cases done
      exact yields _ _ _ read
    · cases done

end Document

/-! ## Counts -/

open Document

/-- The counts of an application fit into their words; so do the counts of the other records. -/
structure ApplicationSpec.Fits (a : ApplicationSpec) : Prop where
  packetSize : a.packetSize ≤ lastLong
  maxBytes : a.maxBytes ≤ lastWord

structure ChannelSpec.Fits (c : ChannelSpec) : Prop where
  numTraces : c.numTraces ≤ lastLong
  apSectors : c.apSectors ≤ lastOctet
  staSectors : c.staSectors ≤ lastOctet

structure MacSpec.Fits (m : MacSpec) : Prop where
  beaconInterval : m.beaconInterval ≤ lastWord
  biThreshold : m.biThreshold ≤ lastShort

structure OutputSpec.Fits (o : OutputSpec) : Prop where
  samplePeriod : o.samplePeriod ≤ lastWord

structure BlockageSpec.Fits (b : BlockageSpec) : Prop where
  sta : b.sta ≤ lastShort
  start : b.start ≤ lastWord
  finish : b.finish ≤ lastWord

structure ScenarioSpec.Fits (s : ScenarioSpec) : Prop where
  numStas : s.numStas ≤ lastShort
  application : s.application.Fits
  channel : s.channel.Fits
  mac : s.mac.Fits
  output : s.output.Fits
  blockages : ∀ b ∈ s.blockages, b.Fits

theorem ApplicationSpec.fits : Yields (readRecord ApplicationSpec.shape {}) ApplicationSpec.Fits := by
  refine yields_readRecord ?_ ⟨by decide, by decide⟩
  simp only [ApplicationSpec.shape, List.forall_mem_cons]
  refine ⟨?kind, ?packetSize, ?dataRate, ?maxBytes, ?socket, ?tcpVariant, nofun⟩
  case packetSize =>
    exact .of (yields_readCount _) fun _ _ fits word => { fits with packetSize := word }
  case maxBytes =>
    exact .of (yields_readCount _) fun _ _ fits word => { fits with maxBytes := word }
  all_goals exact .of (yields_any _) fun _ _ fits _ => { fits with }

theorem ChannelSpec.fits : Yields (readRecord ChannelSpec.shape {}) ChannelSpec.Fits := by
  refine yields_readRecord ?_ ⟨by decide, by decide, by decide⟩
  simp only [ChannelSpec.shape, List.forall_mem_cons]
  refine ⟨?radius, ?numTraces, ?tracePeriod, ?apSectors, ?staSectors, ?txPower, nofun⟩
  case numTraces =>
    exact .of (yields_readCount _) fun _ _ fits word => { fits with numTraces := word }
  case apSectors =>
    exact .of (yields_readCount _) fun _ _ fits word => { fits with apSectors := word }
  case staSectors =>
    exact .of (yields_readCount _) fun _ _ fits word => { fits with staSectors := word }
  all_goals exact .of (yields_any _) fun _ _ fits _ => { fits with }

theorem MacSpec.fits : Yields (readRecord MacSpec.shape {}) MacSpec.Fits := by
  refine yields_readRecord ?_ ⟨by decide, by decide⟩
  simp only [MacSpec.shape, List.forall_mem_cons]
  refine ⟨?beaconInterval, ?biThreshold, nofun⟩
  case beaconInterval =>
    exact .of (yields_readCount _) fun _ _ fits word => { fits with beaconInterval := word }
  case biThreshold =>
    exact .of (yields_readCount _) fun _ _ fits word => { fits with biThreshold := word }

theorem OutputSpec.fits : Yields (readRecord OutputSpec.shape {}) OutputSpec.Fits := by
  refine yields_readRecord ?_ ⟨by decide⟩
  simp only [OutputSpec.shape, List.forall_mem_cons]
  refine ⟨?csv, ?reportDataSnr, ?samplePeriod, nofun⟩
  case samplePeriod =>
    exact .of (yields_readCount _) fun _ _ _ word => ⟨word⟩
  all_goals exact .of (yields_any _) fun _ _ fits _ => { fits with }

theorem BlockageSpec.fits :
    Yields (readRecord BlockageSpec.shape default) BlockageSpec.Fits := by
  refine yields_readRecord ?_ ⟨by decide, by decide, by decide⟩
  simp only [BlockageSpec.shape, List.forall_mem_cons]
  refine ⟨?sta, ?start, ?finish, nofun⟩
  case sta => exact .of (yields_readCount _) fun _ _ fits word => { fits with sta := word }
  case start =>
    exact .of (yields_readCount _) fun _ _ fits word => { fits with start := word }
  case finish =>
    exact .of (yields_readCount _) fun _ _ fits word => { fits with finish := word }

theorem ScenarioSpec.fits_of_document {raw : String} {spec : ScenarioSpec}
    (read : ScenarioSpec.ofDocument raw = .ok spec) : spec.Fits := by
  have yields : Yields (readRecord ScenarioSpec.shape {}) ScenarioSpec.Fits := by
    refine yields_readRecord ?_ ⟨by decide, ⟨by decide, by decide⟩,
      ⟨by decide, by decide, by decide⟩, ⟨by decide, by decide⟩, ⟨by decide⟩, nofun⟩
    simp only [ScenarioSpec.shape, List.forall_mem_cons]
    refine ⟨?numStas, ?time, ?application, ?mode, ?channel, ?mac, ?output, ?blockages, nofun⟩
    case numStas =>
      exact .of (yields_readCount _) fun _ _ fits word => { fits with numStas := word }
    case application =>
      exact .of ApplicationSpec.fits fun _ _ fits inner => { fits with application := inner }
    case channel =>
      exact .of ChannelSpec.fits fun _ _ fits inner => { fits with channel := inner }
    case mac => exact .of MacSpec.fits fun _ _ fits inner => { fits with mac := inner }
    case output => exact .of OutputSpec.fits fun _ _ fits inner => { fits with output := inner }
    case blockages =>
      exact .of (yields_readList BlockageSpec.fits) fun _ _ fits inner =>
        { fits with blockages := inner }
    all_goals exact .of (yields_any _) fun _ _ fits _ => { fits with }
  unfold ScenarioSpec.ofDocument at read
  split at read
  next done =>
    cases read
    exact of_readDocument yields done
  next => cases read

end DenseDmg
