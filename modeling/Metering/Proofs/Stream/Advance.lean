import Metering.Proofs.Binding.Table
import Metering.Proofs.State.Failure
import Metering.Proofs.State.Giving
import Metering.Proofs.Stream.History

/-! # What one call changes

A call is an advance of the state (`Metering.State.advance_of_perform`): instruments stay as they
were registered, the accounts of the meters gain what the call counts for, and the sink of the meter
receives what the call emits, which is nothing if it is refused.
-/

namespace Metering

/-! ## The account of a state -/

/-- The labels of a binding of a meter. -/
def Meter.boundLabels (m : Meter) (place identity : Nat) : Option LabelSet :=
  (m.instruments[place]?.bind fun i => i.bindings.made[identity]?).map Binding.labels

/-- The account that a meter keeps by its bindings, its batches and its next number. -/
def Meter.account (r : MeterRef) (m : Meter) : Account where
  bound := m.boundLabels
  opened place := m.batches[place]?.map Batch.labels
  entries place :=
    ((m.batches[place]?.map Batch.entries).getD []).map fun (p, value) => (⟨r, p⟩, value)
  committed := m.nextBatch

/-- An instrument with its descriptor and its bindings in order. -/
structure Instrument.Sound (i : Instrument) : Prop where
  described : ∃ meter id, i.descriptor = i.config.descriptor meter id
  bound : i.bindings.WellFormed i.config.constants

namespace State

/-- The account that a state keeps of the calls to a meter. -/
def account (s : State) (r : MeterRef) : Account :=
  ((s.meter? r).map (Meter.account r)).getD .blank

/-- All instruments are in order, and all meters report to sinks that are there. -/
structure Sound (s : State) : Prop where
  instruments : ∀ ref i, s.instrument? ref = some i → i.Sound
  sinks : ∀ r m, s.meter? r = some m → ∃ sink, s.sink? m.sink = some sink

/-- Meters keep their sinks, and instruments stay as they were registered. -/
structure Frozen (s s' : State) : Prop where
  meters : ∀ r m, s.meter? r = some m → ∃ m', s'.meter? r = some m' ∧ m'.sink = m.sink
  instruments : ∀ ref i, s.instrument? ref = some i →
    ∃ i', s'.instrument? ref = some i' ∧ i'.descriptor = i.descriptor ∧ i'.config = i.config

/-- The point that a measurement is told as. -/
def point? (s : State) (x : Measurement) : Option Point :=
  (s.instrument? x.instrument).map fun i => i.pointWith x.labels x.value

/-- What is told of an emission. -/
def deliveries (s : State) : Emission → List Delivery
  | .single x => (s.point? x).toList.map (.point none)
  | .batch _ number members =>
    .batchBegin number :: (members.filterMap s.point?).map (.point (some number)) ++
      [.batchEnd number]

/-- What an emission tells a sink: nothing unless it is the sink of the meter. -/
def emitted (s : State) (k : SinkRef) (e : Emission) : List Delivery :=
  if (s.meter? e.meter).map Meter.sink = some k then s.deliveries e else []

end State

/-- The instrument and the value that an accepted call takes. -/
def Call.taken? (c : Call) : Option (InstrumentRef × Value) :=
  match c.request, c.answer with
  | .record i value _, .ok _ | .put _ i value, .ok _ => some (i, value)
  | .recordBound h value, .ok _ => some (h.instrument, value)
  | _, _ => none

namespace State

/-- What a call makes of a state. -/
structure Advance (s : State) (c : Call) (s' : State) : Prop where
  sound : s'.Sound
  frozen : s.Frozen s'
  account : ∀ r, s'.account r = (s.account r).after r c
  taken : ∀ i value, c.taken? = some (i, value) →
    ∃ instrument, s.instrument? i = some instrument ∧ instrument.config.Takes value
  placed : ∀ e, c.emission? s.account = some e → ∃ m, s.meter? e.meter = some m
  told : ∀ k, s'.sink? k = (s.sink? k).map fun sink =>
    ((c.emission? s.account).toList.flatMap (s.emitted k)).foldl Sink.receive sink

variable {s s' : State}

/-- A state is frozen as it stands. -/
theorem frozen_refl : s.Frozen s where
  meters _ m found := ⟨m, found, rfl⟩
  instruments _ i found := ⟨i, found, rfl, rfl⟩

/-- What is frozen from one state to the next, and to a later one, is frozen throughout. -/
theorem Frozen.trans {s'' : State} (frozen : s.Frozen s') (later : s'.Frozen s'') :
    s.Frozen s'' where
  meters r m found := by
    obtain ⟨m', found', sink⟩ := frozen.meters r m found
    obtain ⟨m'', found'', sink'⟩ := later.meters r m' found'
    exact ⟨m'', found'', sink'.trans sink⟩
  instruments ref i found := by
    obtain ⟨i', found', descriptor, config⟩ := frozen.instruments ref i found
    obtain ⟨i'', found'', descriptor', config'⟩ := later.instruments ref i' found'
    exact ⟨i'', found'', descriptor'.trans descriptor, config'.trans config⟩

/-- A call that fails, and one that counts for nothing, are no advance but of the journal. -/
theorem advance_of_same {c : Call} (sound : s.Sound) (meters : s'.meters = s.meters)
    (sinks : s'.sinks = s.sinks) (idle : ∀ r, c.IsIdle r) (nothing : c.taken? = none)
    (silent : c.emission? s.account = none) : s.Advance c s' := by
  have sameMeter (r : MeterRef) : s'.meter? r = s.meter? r := by rw [meter?, meters, meter?]
  have sameInstrument (ref : InstrumentRef) : s'.instrument? ref = s.instrument? ref := by
    rw [instrument?, sameMeter, instrument?]
  have sameSink (k : SinkRef) : s'.sink? k = s.sink? k := by rw [sink?, sinks, sink?]
  constructor
  · constructor
    · intro ref i found
      exact sound.instruments ref i ((sameInstrument ref).symm.trans found)
    · intro r m found
      rw [sameSink]
      exact sound.sinks r m ((sameMeter r).symm.trans found)
  · constructor
    · intro r m found
      exact ⟨m, (sameMeter r).trans found, rfl⟩
    · intro ref i found
      exact ⟨i, (sameInstrument ref).trans found, rfl, rfl⟩
  · intro r
    rw [Account.after_of_idle (idle r), account, sameMeter, account]
  · intro i value taken
    rw [nothing] at taken
    cases taken
  · intro e emits
    rw [silent] at emits
    cases emits
  · intro k
    rw [sameSink, silent]
    simp only [Option.toList_none, List.flatMap_nil, List.foldl_nil, Option.map_id']

end State

/-! ## Changes of one meter -/

namespace Meter

variable {m m' : Meter}

/-- All instruments of a meter are in order. -/
def Sound (m : Meter) : Prop :=
  ∀ (place : Nat) (i : Instrument), m.instruments[place]? = some i → i.Sound

/-- The meter keeps its sink and its instruments as they were registered, all of them in order. -/
structure Grows (m m' : Meter) : Prop where
  sink : m'.sink = m.sink
  sound : m'.Sound
  frozen : ∀ (place : Nat) (i : Instrument), m.instruments[place]? = some i →
    ∃ i', m'.instruments[place]? = some i' ∧ i'.descriptor = i.descriptor ∧ i'.config = i.config

/-- A meter grows if it keeps its instruments and its sink. -/
theorem grows_of_instruments_eq (sound : m.Sound) (sink : m'.sink = m.sink)
    (same : m'.instruments = m.instruments) : m.Grows m' where
  sink := sink
  sound place i found := sound place i (same ▸ found)
  frozen _ i found := ⟨i, same ▸ found, rfl, rfl⟩

/-- An instrument that changes but for its descriptor and configuration lets a meter grow. -/
theorem grows_modifyInstrument (sound : m.Sound) {changed : Nat} {f : Instrument → Instrument}
    {old : Instrument} (standing : m.instruments[changed]? = some old)
    (descriptor : (f old).descriptor = old.descriptor) (config : (f old).config = old.config)
    (bound : (f old).bindings.WellFormed old.config.constants) :
    m.Grows (m.modifyInstrument changed f) where
  sink := rfl
  sound place i found := by
    obtain ⟨i', found', rfl⟩ := Place.getElem?_modify_eq_some.mp found
    by_cases same : changed = place
    · subst same
      cases standing.symm.trans found'
      obtain ⟨meter, id, described⟩ := (sound changed old standing).described
      rw [if_pos rfl]
      refine ⟨⟨meter, id, ?_⟩, ?_⟩
      · rw [descriptor, config, described]
      · rw [config]
        exact bound
    · rw [if_neg same]
      exact sound place i' found'
  frozen place i found := by
    refine ⟨_, Place.getElem?_modify_eq_some.mpr ⟨i, found, rfl⟩, ?_⟩
    by_cases same : changed = place
    · subst same
      cases standing.symm.trans found
      rw [if_pos rfl]
      exact ⟨descriptor, config⟩
    · rw [if_neg same]
      exact ⟨rfl, rfl⟩

/-- A meter grows by an instrument. -/
theorem grows_add (sound : m.Sound) (config : Config) : m.Grows (m.add config).meter where
  sink := rfl
  sound place i found := by
    rcases Place.getElem?_concat_eq_some.mp found with before | ⟨_, rfl⟩
    · exact sound place i before
    · exact ⟨⟨m.name, m.nextInstrument, rfl⟩, BindingTable.wellFormed_empty _⟩
  frozen place i found := ⟨i, Place.getElem?_concat_eq_some.mpr (Or.inl found), rfl, rfl⟩

end Meter

namespace State

variable {s s' : State}

/-- A meter of a sound state is sound. -/
theorem Sound.meter (sound : s.Sound) {r : MeterRef} {m : Meter} (found : s.meter? r = some m) :
    m.Sound :=
  fun place i standing =>
    sound.instruments ⟨r, place⟩ i (instrument?_eq_some.mpr ⟨m, found, standing⟩)

/-- **A granted request is an advance** if it lets the meter grow, accounts for the call, and gives
out what the call emits. -/
theorem Granted.advance {α : Type} {r : MeterRef} {request : Meter → Outcome α} {a : α} {m : Meter}
    {c : Call} (granted : Granted s r request a s' m) (sound : s.Sound)
    (grows : m.Grows (request m).meter)
    (account : (request m).meter.account r = (m.account r).after r c)
    (idle : ∀ other, other ≠ r → c.IsIdle other)
    (taken : ∀ i value, c.taken? = some (i, value) →
      ∃ instrument, s.instrument? i = some instrument ∧ instrument.config.Takes value)
    (here : ∀ e, c.emission? s.account = some e → e.meter = r)
    (output : (request m).output.flatMap Output.deliveries =
      (c.emission? s.account).toList.flatMap s.deliveries) : s.Advance c s' := by
  -- Every meter afterwards is the one that was asked, grown, or stood before; all that is said of
  -- meters is split on this.
  have standing (other : MeterRef) (m' : Meter) (found : s'.meter? other = some m') :
      (other = r ∧ m' = (request m).meter) ∨ (other ≠ r ∧ s.meter? other = some m') := by
    rw [granted.meters] at found
    by_cases same : other = r
    · rw [if_pos same] at found
      exact Or.inl ⟨same, (Option.some.inj found).symm⟩
    · rw [if_neg same] at found
      exact Or.inr ⟨same, found⟩
  have stays (k : SinkRef) (sink : Sink) (found : s.sink? k = some sink) :
      ∃ sink', s'.sink? k = some sink' := by
    rw [granted.sinks, found]
    exact ⟨_, rfl⟩
  constructor
  · constructor
    · intro ref i found
      obtain ⟨m', isMeter, isInstrument⟩ := instrument?_eq_some.mp found
      rcases standing ref.meter m' isMeter with ⟨_, rfl⟩ | ⟨_, before⟩
      · exact grows.sound ref.index i isInstrument
      · exact sound.meter before ref.index i isInstrument
    · intro other m' found
      rcases standing other m' found with ⟨_, rfl⟩ | ⟨_, before⟩
      · rw [grows.sink]
        obtain ⟨sink, isSink⟩ := sound.sinks r m granted.meter
        exact stays m.sink sink isSink
      · obtain ⟨sink, isSink⟩ := sound.sinks other m' before
        exact stays m'.sink sink isSink
  · have after (other : MeterRef) (m' : Meter) (found : s.meter? other = some m') :
        ∃ m'', s'.meter? other = some m'' ∧ m'.Grows m'' := by
      rw [granted.meters]
      by_cases same : other = r
      · subst same
        cases granted.meter.symm.trans found
        rw [if_pos rfl]
        exact ⟨_, rfl, grows⟩
      · rw [if_neg same]
        exact ⟨m', found, Meter.grows_of_instruments_eq (sound.meter found) rfl rfl⟩
    constructor
    · intro other m' found
      obtain ⟨m'', found', grown⟩ := after other m' found
      exact ⟨m'', found', grown.sink⟩
    · intro ref i found
      obtain ⟨m', isMeter, isInstrument⟩ := instrument?_eq_some.mp found
      obtain ⟨m'', isMeter', grown⟩ := after ref.meter m' isMeter
      obtain ⟨i', isInstrument', kept⟩ := grown.frozen ref.index i isInstrument
      exact ⟨i', instrument?_eq_some.mpr ⟨m'', isMeter', isInstrument'⟩, kept⟩
  · intro other
    rw [State.account, granted.meters]
    by_cases same : other = r
    · subst same
      rw [if_pos rfl, State.account, granted.meter]
      exact account
    · rw [if_neg same, Account.after_of_idle (idle other same), State.account]
  · exact taken
  · intro e emits
    exact ⟨m, (here e emits).symm ▸ granted.meter⟩
  · intro k
    rw [granted.sinks]
    congr 1
    funext sink
    cases emits : c.emission? s.account with
    | none =>
        rw [emits] at output
        rw [output]
        simp only [Option.toList_none, List.flatMap_nil, List.foldl_nil, ite_self]
    | some e =>
        rw [emits] at output
        rw [output]
        simp only [Option.toList_some, List.flatMap_singleton, emitted, here e emits, granted.meter,
          Option.map_some, Option.some.injEq]
        by_cases same : k = m.sink
        · rw [if_pos same, if_pos same.symm]
        · rw [if_neg same, if_neg (Ne.symm same), List.foldl_nil]

/-- A granted request is an advance if it counts for nothing, takes no value and tells nothing. -/
theorem Granted.advance_of_quiet {α : Type} {r : MeterRef} {request : Meter → Outcome α} {a : α}
    {m : Meter} {c : Call} (granted : Granted s r request a s' m) (sound : s.Sound)
    (grows : m.Grows (request m).meter)
    (account : (request m).meter.account r = m.account r) (idle : ∀ r, c.IsIdle r)
    (nothing : c.taken? = none) (silent : c.emission? s.account = none)
    (output : (request m).output.flatMap Output.deliveries = []) : s.Advance c s' := by
  refine granted.advance sound grows ?_ (fun other _ => idle other) ?_ ?_ ?_
  · rw [account, Account.after_of_idle (idle r)]
  · intro i value taken
    rw [nothing] at taken
    cases taken
  · intro e emits
    rw [silent] at emits
    cases emits
  · rw [output, silent]
    rfl

end State

end Metering
