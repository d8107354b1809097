import Metering.Proofs.Meter.Names
import Metering.Proofs.State.Routing
import Metering.Proofs.Stream.Advance

/-! # What a meter makes of a request

A request to a meter makes a transition of it, or none: it registers an instrument or finds another
in its place, takes the last hold of a binding away, or records a batch. Transitions are told from
the meter before and after the request. The meter gives out one entry of the journal for the
transition that is made, and none otherwise (`Metering.Meter.enters_answer`).
-/

namespace Metering

/-! ## Entries of the library's own -/

/-- Whether an entry is the library's own; the others are written by sinks. -/
def Entry.isOwn : Entry → Bool
  | .pointReported .. | .batchBeginReported .. | .batchEndReported .. => false
  | _ => true

/-- The entry that is given out. -/
def Output.noted? : Output → Option Entry
  | .passed .. => none
  | .noted entry => some entry

/-! ## Transitions -/

/-- A transition of the state: a meter is made, an instrument is registered, a registration is
refused since an instrument of the name is there, the last hold of a binding of labels is taken
away, a batch of labels is recorded under a number with its points, or the observers of a meter are
collected. -/
inductive Transition where
  | created (r : MeterRef)
  | registered (i : InstrumentRef)
  | conflicted (i : InstrumentRef) (requested : Kind)
  | released (h : Handle) (labels : LabelSet)
  | recorded (b : BatchRef) (labels : LabelSet) (number : Nat) (points : List Point)
  | collected (r : MeterRef) (ran : Nat)

/-- The meter that a transition is of. -/
def Transition.meter : Transition → MeterRef
  | .created r | .collected r _ => r
  | .registered i | .conflicted i _ => i.meter
  | .released h _ => h.instrument.meter
  | .recorded b .. => b.meter

/-- The entry for a transition of the meter. -/
def Meter.entryOf? (m : Meter) : Transition → Option Entry
  | .created _ => some (.meterCreated m.name m.stripes)
  | .registered i =>
    m.instruments[i.index]?.map fun x =>
      .instrumentRegistered m.name x.config.name x.config.kind x.descriptor.id
  | .conflicted i requested =>
    m.instruments[i.index]?.map fun x =>
      .registrationConflict m.name x.config.name x.config.kind requested
  | .released h labels =>
    m.instruments[h.instrument.index]?.map fun x => .bindingReleased m.name x.config.name labels
  | .recorded _ labels number points => some (.batchRecorded m.name labels number points.length)
  | .collected _ ran => some (.observersCollected m.name ran)

/-- A transition is asked for by a request that is answered so. -/
def Transition.AskedBy (operation : Operation) (answer : Except Failure Reply) :
    Transition → Prop
  | .created r => operation.home? = none ∧ answer = .ok (.meter r)
  | .registered i => (∃ setup, operation = .build i.meter setup) ∧ answer = .ok (.instrument i)
  | .conflicted i _ => ∃ setup, operation = .build i.meter setup ∧
    answer = .error (.refused (.conflictingRegistration setup.name))
  | .released h _ => operation = .unbind h.instrument h ∧ answer = .ok .done
  | .recorded b .. => operation = .commit b ∧ answer = .ok .done
  | .collected .. => False

/-! ## Transitions of one meter -/

namespace Meter

/-- How often a binding is held. -/
def refs (m : Meter) (place identity : Nat) : Nat :=
  (m.instruments[place]?.map fun x => x.bindings.refs identity).getD 0

/-- A request that the meter answers, and that comes to an outcome, makes a transition of it. -/
def Makes (m : Meter) (r : MeterRef) (operation : Operation) (outcome : Outcome Reply) :
    Transition → Prop
  | .created _ | .collected .. => False
  | .registered i => i.meter = r ∧ m.instruments[i.index]? = none ∧
    ∃ x, outcome.meter.instruments[i.index]? = some x
  | .conflicted i requested => i.meter = r ∧ ∃ setup x, operation = .build r setup ∧
    outcome.answer = .error (.refused (.conflictingRegistration setup.name)) ∧
    m.instruments[i.index]? = some x ∧ x.config.name = setup.name ∧ requested = setup.kind
  | .released h labels => h.instrument.meter = r ∧
    0 < m.refs h.instrument.index h.identity ∧
    outcome.meter.refs h.instrument.index h.identity = 0 ∧
    m.boundLabels h.instrument.index h.identity = some labels
  | .recorded b labels number points => b.meter = r ∧
    (∃ batch, m.batches[b.index]? = some batch ∧ batch.labels = labels ∧ batch.spent = false) ∧
    (∃ batch, outcome.meter.batches[b.index]? = some batch ∧ batch.spent = true) ∧
    outcome.output.flatMap Output.deliveries =
      .batchBegin number :: points.map (.point (some number)) ++ [.batchEnd number]

/-- No instrument is new. -/
def KeepsPlaces (m m' : Meter) : Prop :=
  ∀ (place : Nat) (x : Instrument), m'.instruments[place]? = some x →
    ∃ y, m.instruments[place]? = some y

/-- What is held stays held. -/
def KeepsHolds (m m' : Meter) : Prop :=
  ∀ place identity, 0 < m.refs place identity → 0 < m'.refs place identity

/-- Batches that are not spent stay so. -/
def KeepsBatches (m m' : Meter) : Prop :=
  ∀ (place : Nat) (batch : Batch), m.batches[place]? = some batch → batch.spent = false →
    ∃ batch', m'.batches[place]? = some batch' ∧ batch'.spent = false

section Keeping

variable {m m' : Meter} {r : MeterRef} {operation : Operation} {outcome : Outcome Reply}

private theorem keepsPlaces_of_same (same : m'.instruments = m.instruments) : m.KeepsPlaces m' :=
  fun _ x found => ⟨x, same ▸ found⟩

private theorem keepsHolds_of_same (same : m'.instruments = m.instruments) : m.KeepsHolds m' := by
  intro place identity held
  rw [refs, same]
  exact held

private theorem keepsBatches_of_same (same : m'.batches = m.batches) : m.KeepsBatches m' :=
  fun _ batch found unspent => ⟨batch, same ▸ found, unspent⟩

private theorem keepsPlaces_modifyInstrument (place : Nat) (f : Instrument → Instrument) :
    m.KeepsPlaces (m.modifyInstrument place f) := by
  intro other x found
  obtain ⟨y, before, _⟩ := Place.getElem?_modify_eq_some.mp found
  exact ⟨y, before⟩

private theorem refs_modifyInstrument {place : Nat} {x : Instrument} {f : Instrument → Instrument}
    (standing : m.instruments[place]? = some x) (other identity : Nat) :
    (m.modifyInstrument place f).refs other identity =
      if other = place then (f x).bindings.refs identity else m.refs other identity := by
  rw [refs, modifyInstrument, List.getElem?_modify]
  by_cases same : place = other
  · subst same
    simp [standing]
  · rw [if_neg fun equal => same equal.symm, refs]
    cases m.instruments[other]? <;> simp [same]

/-- What an instrument holds after its bindings have changed to hold no less. -/
theorem keepsHolds_modifyInstrument {place : Nat} {x : Instrument} {f : Instrument → Instrument}
    (standing : m.instruments[place]? = some x)
    (holds : ∀ identity, 0 < x.bindings.refs identity → 0 < (f x).bindings.refs identity) :
    m.KeepsHolds (m.modifyInstrument place f) := by
  intro other identity held
  rw [refs_modifyInstrument standing]
  split
  · next same =>
      rw [refs, same, standing] at held
      exact holds identity held
  · exact held

private theorem not_registered
    {i : InstrumentRef} (makes : m.Makes r operation outcome (.registered i))
    (keeps : m.KeepsPlaces outcome.meter) : False := by
  obtain ⟨_, missing, x, found⟩ := makes
  obtain ⟨y, before⟩ := keeps i.index x found
  cases missing.symm.trans before

private theorem not_released {h : Handle} {labels : LabelSet}
    (makes : m.Makes r operation outcome (.released h labels))
    (keeps : m.KeepsHolds outcome.meter) : False := by
  obtain ⟨_, held, unheld, _⟩ := makes
  exact absurd unheld (Nat.ne_of_gt (keeps _ _ held))

private theorem not_recorded {b : BatchRef} {labels : LabelSet} {number : Nat} {points : List Point}
    (makes : m.Makes r operation outcome (.recorded b labels number points))
    (keeps : m.KeepsBatches outcome.meter) : False := by
  obtain ⟨_, ⟨batch, held, _, unspent⟩, ⟨batch', held', spent⟩, _⟩ := makes
  obtain ⟨batch'', found, unspent'⟩ := keeps b.index batch held unspent
  cases found.symm.trans held'
  cases unspent'.symm.trans spent

private theorem not_conflicted {i : InstrumentRef} {requested : Kind}
    (makes : m.Makes r operation outcome (.conflicted i requested))
    (agreed : ∀ setup, operation = .build r setup →
      outcome.answer ≠ .error (.refused (.conflictingRegistration setup.name))) : False := by
  obtain ⟨_, setup, _, isBuild, answer, _⟩ := makes
  exact agreed setup isBuild answer

/-- **A request to a meter enters in the journal** what it makes of the meter, and nothing else. -/
def Enters (m : Meter) (r : MeterRef) (operation : Operation) (outcome : Outcome Reply) : Prop :=
  ∃ made : Option Transition, (∀ transition, made = some transition ↔
      m.Makes r operation outcome transition) ∧
    (∀ transition, made = some transition → transition.AskedBy operation outcome.answer) ∧
    (outcome.output.filterMap Output.noted?).map some = made.toList.map outcome.meter.entryOf?

/-- A request that makes nothing of the meter. -/
theorem enters_of_keeps (places : m.KeepsPlaces outcome.meter) (holds : m.KeepsHolds outcome.meter)
    (batches : m.KeepsBatches outcome.meter)
    (agreed : ∀ setup, operation = .build r setup →
      outcome.answer ≠ .error (.refused (.conflictingRegistration setup.name)))
    (silent : outcome.output.filterMap Output.noted? = []) : m.Enters r operation outcome := by
  refine ⟨none, fun transition => ⟨nofun, fun makes => ?_⟩, nofun, by rw [silent]; rfl⟩
  cases transition with
  | created | collected => cases makes
  | registered i => exact (not_registered makes places).elim
  | conflicted i requested => exact (not_conflicted makes agreed).elim
  | released h labels => exact (not_released makes holds).elim
  | recorded b labels number points => exact (not_recorded makes batches).elim

/-- A request that leaves the meter as it is. -/
theorem enters_of_same (same : outcome.meter = m)
    (agreed : ∀ setup, operation = .build r setup →
      outcome.answer ≠ .error (.refused (.conflictingRegistration setup.name)))
    (silent : outcome.output.filterMap Output.noted? = []) : m.Enters r operation outcome :=
  enters_of_keeps (keepsPlaces_of_same (congrArg Meter.instruments same))
    (keepsHolds_of_same (congrArg Meter.instruments same))
    (keepsBatches_of_same (congrArg Meter.batches same)) agreed silent

/-- A request that is turned away, and not for a conflict. -/
theorem enters_of_fail {α : Type} {done : Outcome α} {e : Failure} (f : α → Reply)
    (failed : done = m.fail e) (agreed : ∀ setup, operation = .build r setup →
      e ≠ .refused (.conflictingRegistration setup.name)) :
    m.Enters r operation (done.map f) := by
  rw [failed]
  exact enters_of_same rfl
    (fun setup isBuild same => agreed setup isBuild (Except.error.inj same)) rfl

/-- A request that makes one thing of the meter, and nothing else. -/
theorem enters_of_unique (transition : Transition) (makes : m.Makes r operation outcome transition)
    (only : ∀ other, m.Makes r operation outcome other → other = transition)
    (asked : transition.AskedBy operation outcome.answer)
    (noted : (outcome.output.filterMap Output.noted?).map some =
      [outcome.meter.entryOf? transition]) :
    m.Enters r operation outcome := by
  refine ⟨some transition, fun other => ⟨?_, fun also => ?_⟩, ?_, noted⟩
  · rintro same
    cases same
    exact makes
  · rw [only other also]
  · rintro other same
    cases same
    exact asked

end Keeping

/-! ### The requests in turn -/

section Requests

variable {r : MeterRef} (m : Meter)

private theorem enters_record (i : InstrumentRef) (value : Value) (labels : LabelSet) :
    m.Enters r (.record i value labels) (m.answer r (.record i value labels)) := by
  rw [Meter.answer]
  rcases m.record_cases i.index value labels with ⟨e, failed, _⟩ | ⟨x, _, _, outcome⟩
  · exact enters_of_fail _ failed (by rintro _ ⟨⟩)
  · rw [outcome]
    exact enters_of_same rfl (by rintro _ ⟨⟩) rfl

private theorem enters_recordBound (h : Handle) (value : Value) :
    m.Enters r (.recordBound h value) (m.answer r (.recordBound h value)) := by
  rw [Meter.answer]
  rcases m.recordBound_cases h.instrument.index h.identity value with
    ⟨e, failed, _⟩ | ⟨x, binding, _, _, _, _, outcome⟩
  · exact enters_of_fail _ failed (by rintro _ ⟨⟩)
  · rw [outcome]
    exact enters_of_same rfl (by rintro _ ⟨⟩) rfl

private theorem enters_bind (sound : m.Sound) (i : InstrumentRef) (labels : LabelSet) :
    m.Enters r (.bind i labels) (m.answer r (.bind i labels)) := by
  rw [Meter.answer]
  rcases m.bind_cases i.index labels with failed | ⟨x, standing, outcome⟩
  · exact enters_of_fail _ failed (by rintro _ ⟨⟩)
  · rw [outcome]
    refine enters_of_keeps (keepsPlaces_modifyInstrument _ _) ?_ (keepsBatches_of_same rfl)
      (by rintro _ ⟨⟩) rfl
    refine keepsHolds_modifyInstrument standing fun identity held => ?_
    rw [(sound i.index x standing).bound.refs_acquire]
    exact Nat.add_pos_left held _

/-- Releasing a binding for the last time. -/
theorem enters_released {h : Handle} {x : Instrument} {binding : Binding} {table : BindingTable}
    (own : h.instrument.meter = r) (standing : m.instruments[h.instrument.index]? = some x)
    (made : x.bindings.made[h.identity]? = some binding)
    (counts : ∀ other, table.refs other + (if other = h.identity then 1 else 0) =
      x.bindings.refs other) (last : table.refs h.identity = 0) :
    m.Enters r (.unbind h.instrument h) ⟨.ok .done,
      m.modifyInstrument h.instrument.index fun x => { x with bindings := table },
      [.noted (.bindingReleased m.name x.config.name binding.labels)]⟩ := by
  have labels : m.boundLabels h.instrument.index h.identity = some binding.labels := by
    rw [boundLabels, standing, Option.bind_some, made]
    rfl
  have before (identity : Nat) : m.refs h.instrument.index identity = x.bindings.refs identity := by
    rw [refs, standing]
    rfl
  refine enters_of_unique (.released h binding.labels) ⟨own, ?_, ?_, labels⟩ ?_
    ⟨rfl, rfl⟩ ?_
  · rw [before, ← counts, if_pos rfl]
    exact Nat.succ_pos _
  · exact (refs_modifyInstrument standing _ _).trans ((if_pos rfl).trans last)
  · intro other makes
    cases other with
    | created | collected => cases makes
    | registered i => exact (not_registered makes (keepsPlaces_modifyInstrument _ _)).elim
    | conflicted i requested => exact (not_conflicted makes (by rintro _ ⟨⟩)).elim
    | recorded b labels number points => exact (not_recorded makes (keepsBatches_of_same rfl)).elim
    | released h' labels' =>
        obtain ⟨own', held, unheld, labels'⟩ := makes
        rw [refs_modifyInstrument standing] at unheld
        split at unheld
        · next place =>
            rw [place, before, ← counts] at held
            obtain ⟨⟨r', index⟩, identity⟩ := h'
            obtain ⟨⟨_, _⟩, _⟩ := h
            cases own
            cases own'
            cases place
            split at held
            · next same =>
                cases same
                cases labels.symm.trans labels'
                rfl
            · exact absurd unheld (Nat.ne_of_gt held)
        · exact absurd unheld (Nat.ne_of_gt held)
  · change [some _] = [Meter.entryOf? _ _]
    rw [entryOf?, modifyInstrument, List.getElem?_modify, standing]
    simp

private theorem enters_unbind (sound : m.Sound) {i : InstrumentRef} {h : Handle} (own : i.meter = r)
    (home : h.instrument.meter = i.meter) :
    m.Enters r (.unbind i h) (m.answer r (.unbind i h)) := by
  rw [Meter.answer]
  split
  · split
    · next same =>
        obtain rfl : h.instrument = i := by
          obtain ⟨⟨_, _⟩, _⟩ := h
          cases home
          cases same
          rfl
        rcases m.unbind_cases h.instrument.index h.identity with
          ⟨e, failed, _⟩ | ⟨x, binding, table, remaining, standing, made, released, outcome⟩
        · exact enters_of_fail _ failed (by rintro _ ⟨⟩)
        · have counts := (sound _ x standing).bound.refs_release released
          have left : table.refs h.identity = remaining := by
            obtain ⟨binding', made', _, counted, _⟩ := BindingTable.release_eq_some released
            have count := counts h.identity
            rw [if_pos rfl, BindingTable.refs_of_made made'] at count
            omega
          rw [outcome]
          by_cases last : remaining = 0
          · rw [if_pos last]
            exact m.enters_released own standing made counts (left.trans last)
          · rw [if_neg last]
            refine enters_of_keeps (keepsPlaces_modifyInstrument _ _)
              (keepsHolds_modifyInstrument standing fun identity held => ?_)
              (keepsBatches_of_same rfl) (by rintro _ ⟨⟩) rfl
            rw [← counts] at held
            split at held
            · next same =>
                rw [same]
                exact Nat.pos_of_ne_zero (left.symm ▸ last)
            · exact held
    · exact enters_of_same rfl (by rintro _ ⟨⟩) rfl
  · exact enters_of_same rfl (by rintro _ ⟨⟩) rfl

private theorem enters_openBatch (labels : LabelSet) :
    m.Enters r (.openBatch r labels) (m.answer r (.openBatch r labels)) := by
  refine enters_of_keeps (keepsPlaces_of_same rfl) (keepsHolds_of_same rfl) ?_ (by rintro _ ⟨⟩) rfl
  intro place batch found unspent
  exact ⟨batch, Place.getElem?_concat_eq_some.mpr (Or.inl found), unspent⟩

private theorem enters_put (b : BatchRef) (i : InstrumentRef) (value : Value) :
    m.Enters r (.put b i value) (m.answer r (.put b i value)) := by
  rw [Meter.answer]
  split
  · exact enters_of_same rfl (by rintro _ ⟨⟩) rfl
  · rcases m.put_cases b.index (.own i.index) value with
      ⟨e, failed, _⟩ | ⟨batch, _, _, _, _, _, _, _, outcome⟩
    · exact enters_of_fail _ failed (by rintro _ ⟨⟩)
    · rw [outcome]
      refine enters_of_keeps (keepsPlaces_of_same rfl) (keepsHolds_of_same rfl) ?_
        (by rintro _ ⟨⟩) rfl
      intro place batch found unspent
      refine ⟨_, Place.getElem?_modify_eq_some.mpr ⟨batch, found, rfl⟩, ?_⟩
      split <;> exact unspent

private theorem enters_setCallback (i : InstrumentRef) (program : List Action) :
    m.Enters r (.setCallback i program) (m.answer r (.setCallback i program)) := by
  rw [Meter.answer]
  rcases m.setCallback_cases i.index program with ⟨e, failed, _⟩ | ⟨x, standing, _, outcome⟩
  · exact enters_of_fail _ failed (by rintro _ ⟨⟩)
  · rw [outcome]
    exact enters_of_keeps (keepsPlaces_modifyInstrument _ _)
      (keepsHolds_modifyInstrument standing fun _ held => held) (keepsBatches_of_same rfl)
      (by rintro _ ⟨⟩) rfl

/-- Between brackets stand one number and one list of points. -/
theorem bracketed_inj {number number' : Nat} {points points' : List Point}
    (same : (.batchBegin number :: points.map (.point (some number)) ++ [.batchEnd number] :
        List Delivery) =
      .batchBegin number' :: points'.map (.point (some number')) ++ [.batchEnd number']) :
    number = number' ∧ points = points' := by
  rw [List.cons_append, List.cons_append, List.cons.injEq, Delivery.batchBegin.injEq] at same
  obtain ⟨rfl, rest⟩ := same
  refine ⟨rfl, List.map_injective_iff.mpr ?_ (List.append_inj_left' rest rfl)⟩
  intro p p' equal
  cases equal
  rfl

section Recording

variable {b : BatchRef} {batch : Batch}

/-- What comes of recording a batch that is held. -/
def recording (b : BatchRef) (batch : Batch) : Outcome Reply :=
  ⟨.ok .done,
    { m.modifyBatch b.index (fun batch => { batch with spent := true }) with
      nextBatch := m.nextBatch + 1 },
    [.passed m.nextBatch (.batch batch.labels (m.batchPoints batch)),
      .noted (.batchRecorded m.name batch.labels m.nextBatch (m.batchPoints batch).length)]⟩

/-- To commit an open batch makes the transition of its points. -/
theorem makes_recorded (own : b.meter = r) (held : m.batches[b.index]? = some batch)
    (unspent : batch.spent = false) : m.Makes r (.commit b) (m.recording b batch)
      (.recorded b batch.labels m.nextBatch (m.batchPoints batch)) :=
  ⟨own, ⟨batch, held, rfl, unspent⟩,
    ⟨_, Place.getElem?_modify_eq_some.mpr ⟨batch, held, rfl⟩, by rw [if_pos rfl]⟩,
    List.append_nil _⟩

/-- A batch is recorded, or there is none that can be. -/
theorem commit_recording (b : BatchRef) :
    (∃ e, m.answer r (.commit b) = m.fail e) ∨ ∃ batch, m.batches[b.index]? = some batch ∧
      batch.spent = false ∧ m.answer r (.commit b) = m.recording b batch := by
  rw [Meter.answer]
  rcases m.commit_cases b.index with ⟨e, failed, _⟩ | ⟨batch, held, unspent, outcome⟩
  · rw [failed]
    exact Or.inl ⟨e, rfl⟩
  · rw [outcome]
    exact Or.inr ⟨batch, held, unspent, rfl⟩

private theorem enters_commit (own : b.meter = r) :
    m.Enters r (.commit b) (m.answer r (.commit b)) := by
  rcases m.commit_recording b with ⟨e, failed⟩ | ⟨batch, held, unspent, outcome⟩
  · rw [failed]
    exact enters_of_same rfl (by rintro _ ⟨⟩) rfl
  · rw [outcome]
    refine enters_of_unique _ (m.makes_recorded own held unspent) ?_ ⟨rfl, rfl⟩ rfl
    intro other makes
    cases other with
    | created | collected => cases makes
    | registered i => exact (not_registered makes (keepsPlaces_of_same rfl)).elim
    | conflicted i requested => exact (not_conflicted makes (by rintro _ ⟨⟩)).elim
    | released h labels => exact (not_released makes (keepsHolds_of_same rfl)).elim
    | recorded b' labels number points =>
        obtain ⟨own', ⟨batch', held', rfl, unspent'⟩, ⟨_, found, spent⟩, told⟩ := makes
        obtain ⟨_, standing, rfl⟩ := Place.getElem?_modify_eq_some.mp found
        cases held'.symm.trans standing
        have same : b' = b := by
          by_cases place : b.index = b'.index
          · obtain ⟨_, _⟩ := b'
            obtain ⟨_, _⟩ := b
            cases own
            cases own'
            cases place
            rfl
          · rw [if_neg place, unspent'] at spent
            cases spent
        subst same
        cases held.symm.trans held'
        obtain ⟨rfl, rfl⟩ := bracketed_inj (told.symm.trans (List.append_nil _))
        rfl

end Recording

/-- Finding an instrument of the name in the place of the one wished for. -/
theorem enters_conflict (orderly : m.Orderly) {setup : InstrumentSetup} {place : Nat}
    {x : Instrument} (standing : m.instruments[place]? = some x)
    (named : x.config.name = setup.name) :
    m.Enters r (.build r setup) ⟨.error (.refused (.conflictingRegistration setup.name)), m,
      [.noted (.registrationConflict m.name setup.name x.config.kind setup.kind)]⟩ := by
  refine enters_of_unique (.conflicted ⟨r, place⟩ setup.kind)
    ⟨rfl, setup, x, rfl, rfl, standing, named, rfl⟩ ?_ ⟨setup, rfl, rfl⟩ ?_
  · intro other makes
    cases other with
    | created | collected => cases makes
    | registered i => exact (not_registered makes (keepsPlaces_of_same rfl)).elim
    | released h labels => exact (not_released makes (keepsHolds_of_same rfl)).elim
    | recorded b labels number points => exact (not_recorded makes (keepsBatches_of_same rfl)).elim
    | conflicted i requested =>
        obtain ⟨own, setup', x', isBuild, _, standing', named', rfl⟩ := makes
        cases isBuild
        obtain ⟨_, index⟩ := i
        cases own
        cases orderly.eq_place standing' standing (named'.trans named.symm)
        rfl
  · change [some _] = [Meter.entryOf? _ _]
    rw [entryOf?, standing, ← named]
    rfl

/-- Registering a new instrument. -/
theorem enters_registered (setup : InstrumentSetup) :
    m.Enters r (.build r setup) ((m.add setup.config).map fun place => .instrument ⟨r, place⟩) := by
  have concat (place : Nat) (x : Instrument) :
      (m.add setup.config).meter.instruments[place]? = some x ↔ _ :=
    Place.getElem?_concat_eq_some
  refine enters_of_unique (.registered ⟨r, m.instruments.length⟩)
    ⟨rfl, List.getElem?_eq_none (Nat.le_refl _), _, List.getElem?_concat_length⟩ ?_
    ⟨⟨setup, rfl⟩, rfl⟩ ?_
  · intro other makes
    cases other with
    | created | collected => cases makes
    | conflicted i requested => exact (not_conflicted makes fun _ _ same => by cases same).elim
    | recorded b labels number points => exact (not_recorded makes (keepsBatches_of_same rfl)).elim
    | registered i =>
        obtain ⟨own, missing, x, found⟩ := makes
        obtain ⟨_, index⟩ := i
        cases own
        rcases (concat index x).mp found with before | ⟨rfl, _⟩
        · cases missing.symm.trans before
        · rfl
    | released h labels =>
        refine (not_released makes fun place identity held => ?_).elim
        cases before : m.instruments[place]? with
        | none =>
            rw [refs, before] at held
            cases held
        | some x =>
            have after := (concat place x).mpr (Or.inl before)
            rw [refs, before] at held
            change 0 < (((m.add setup.config).meter.instruments[place]?).map _).getD 0
            rw [after]
            exact held
  · change [some _] = [Meter.entryOf? _ _]
    rw [entryOf?]
    change _ = [((m.instruments ++ [_])[m.instruments.length]?).map _]
    rw [List.getElem?_concat_length]
    rfl

private theorem enters_build (orderly : m.Orderly) (setup : InstrumentSetup) :
    m.Enters r (.build r setup) (m.answer r (.build r setup)) := by
  obtain ⟨name, kind⟩ := setup.config_fixed
  rw [Meter.answer]
  rcases m.build_cases setup with ⟨fault, _, failed⟩ | ⟨_, registered⟩
  · exact enters_of_fail _ failed fun _ _ same => by cases same
  · rw [registered]
    rcases m.register_cases setup.config with
      ⟨place, x, standing, named, _, outcome⟩ | ⟨place, x, _, _, outcome⟩ | ⟨_, outcome⟩
    · rw [outcome, name, kind]
      exact m.enters_conflict orderly standing (named.trans name)
    · rw [outcome]
      exact enters_of_same rfl (fun _ _ same => by cases same) rfl
    · rw [outcome]
      exact m.enters_registered setup

/-- **Every request to a meter enters in the journal** what it makes of the meter, and nothing
else. -/
theorem enters_answer (orderly : m.Orderly) (sound : m.Sound) {operation : Operation}
    (home : operation.home? = some r) : m.Enters r operation (m.answer r operation) := by
  cases operation with
  | createMeter | createRegistry | getMeter => cases home
  | build owner setup =>
      cases home
      exact m.enters_build orderly setup
  | record i value labels => exact m.enters_record i value labels
  | bind i labels => exact m.enters_bind sound i labels
  | recordBound h value => exact m.enters_recordBound h value
  | openBatch owner labels =>
      cases home
      exact m.enters_openBatch labels
  | put b i value => exact m.enters_put b i value
  | commit b =>
      cases home
      exact m.enters_commit rfl
  | setCallback i program => exact m.enters_setCallback i program
  | unbind i h =>
      rw [Operation.home?] at home
      split at home
      · next same =>
          cases home
          exact m.enters_unbind sound rfl same
      · cases home

end Requests

end Meter

/-- The entry of a transition is one that meters write of themselves. -/
theorem Meter.isOwn_of_entryOf? {m : Meter} {transition : Transition} {entry : Entry}
    (noted : m.entryOf? transition = some entry) : entry.isOwn = true := by
  cases transition with
  | created | recorded | collected =>
      cases noted
      rfl
  | registered | conflicted | released =>
      obtain ⟨_, _, rfl⟩ := Option.map_eq_some_iff.mp noted
      rfl

/-- A request makes transitions of its own meter alone. -/
theorem Meter.Makes.meter {m : Meter} {r : MeterRef} {operation : Operation}
    {outcome : Outcome Reply} {transition : Transition}
    (makes : m.Makes r operation outcome transition) : transition.meter = r := by
  cases transition with
  | created | collected => cases makes
  | registered | conflicted | released | recorded => exact makes.1

end Metering
