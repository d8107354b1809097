import Metering.Proofs.Stream.Advance

/-! # Every call is an advance

Each request that is granted, taken by itself, and then all of them together
(`Metering.State.advance_of_perform`).
-/

namespace Metering

/-! ## Accounts of changed meters -/

namespace Meter

variable {m m' : Meter} {r : MeterRef}

private theorem account_eq_of_kept
    (bound : ∀ place identity, m'.boundLabels place identity = m.boundLabels place identity)
    (batches : m'.batches = m.batches) (numbers : m'.nextBatch = m.nextBatch) :
    m'.account r = m.account r := by
  unfold account
  rw [batches, numbers]
  congr 1
  funext place identity
  exact bound place identity

private theorem boundLabels_modifyInstrument {changed : Nat} {f : Instrument → Instrument}
    {old : Instrument} (standing : m.instruments[changed]? = some old) (place identity : Nat) :
    (m.modifyInstrument changed f).boundLabels place identity =
      if place = changed then (f old).bindings.made[identity]?.map Binding.labels
      else m.boundLabels place identity := by
  rw [boundLabels, modifyInstrument, List.getElem?_modify]
  by_cases same : place = changed
  · subst same
    rw [if_pos rfl, standing]
    simp
  · rw [if_neg same, boundLabels]
    simp [Ne.symm same]

/-- A change of an instrument that keeps the labels of its bindings keeps the account. -/
theorem account_modifyInstrument {changed : Nat} {f : Instrument → Instrument} {old : Instrument}
    (standing : m.instruments[changed]? = some old)
    (kept : ∀ identity : Nat, (f old).bindings.made[identity]?.map Binding.labels =
      old.bindings.made[identity]?.map Binding.labels) :
    (m.modifyInstrument changed f).account r = m.account r := by
  refine account_eq_of_kept (fun place identity => ?_) rfl rfl
  rw [boundLabels_modifyInstrument standing]
  by_cases same : place = changed
  · subst same
    rw [if_pos rfl, kept, boundLabels, standing, Option.bind_some]
  · rw [if_neg same]

/-- A change of a batch that keeps its labels keeps the labels of all batches. -/
theorem labels_modifyBatch {f : Batch → Batch} (kept : ∀ batch, (f batch).labels = batch.labels)
    (batches : List Batch) (changed place : Nat) :
    ((batches.modify changed f)[place]?).map Batch.labels = (batches[place]?).map Batch.labels := by
  rw [List.getElem?_modify]
  cases batches[place]? with
  | none => rfl
  | some batch => by_cases same : changed = place <;> simp [same, kept]

private theorem boundLabels_add (config : Config) (place identity : Nat) :
    (m.add config).meter.boundLabels place identity = m.boundLabels place identity := by
  rw [boundLabels, boundLabels, add]
  rcases Nat.lt_trichotomy place m.instruments.length with inside | rfl | outside
  · simp [List.getElem?_append_left inside]
  · simp [BindingTable.empty]
  · rw [List.getElem?_eq_none (Nat.le_of_lt outside), List.getElem?_eq_none]
    rw [List.length_append, List.length_singleton]
    exact outside

private theorem account_ofSetup (setup : MeterSetup) : (ofSetup setup).account r = .blank := by
  rfl

/-- Putting a value into a batch assigns it to the instrument. -/
theorem map_putEntry (place : Nat) (value : Value) (entries : List (Nat × Value)) :
    (putEntry place value entries).map (fun (p, v) => ((⟨r, p⟩ : InstrumentRef), v)) =
      assign ⟨r, place⟩ value (entries.map fun (p, v) => (⟨r, p⟩, v)) := by
  induction entries with
  | nil => rfl
  | cons entry rest ih =>
      obtain ⟨other, held⟩ := entry
      rw [putEntry, List.map_cons, assign]
      by_cases same : other = place
      · subst same
        rw [if_pos rfl, if_pos rfl]
        rfl
      · have apart : (⟨r, other⟩ : InstrumentRef) ≠ ⟨r, place⟩ := fun equal =>
          same (congrArg InstrumentRef.index equal)
        rw [if_neg same, if_neg apart, List.map_cons, ih]

end Meter

namespace State

variable {s s' : State}

private theorem ok_of_reply {α : Type} {f : α → Reply} {done : Except Failure α × State} {a : Reply}
    (replied : reply f done = (.ok a, s')) : ∃ b, done = (.ok b, s') ∧ f b = a := by
  obtain ⟨answer, after⟩ := done
  obtain ⟨answered, rfl⟩ := Prod.mk.inj replied
  cases answer with
  | error e => cases answered
  | ok b => exact ⟨b, rfl, Except.ok.inj answered⟩

private theorem advance_record (sound : s.Sound)
    {i : InstrumentRef} {value : Value} {labels : LabelSet}
    {u : Unit} (done : s.record i value labels = (.ok u, s')) :
    s.Advance ⟨.record i value labels, .ok .done⟩ s' := by
  obtain ⟨m, granted⟩ := atMeter_ok done
  rcases m.record_cases i.index value labels with
    ⟨e, failed, _⟩ | ⟨instrument, found, takes, outcome⟩
  · exact granted.elim (congrArg Outcome.answer failed)
  · have standing : s.instrument? i = some instrument :=
      instrument?_eq_some.mpr ⟨m, granted.meter, found⟩
    have idle (r : MeterRef) : Call.IsIdle r ⟨.record i value labels, .ok .done⟩ :=
      ⟨fun _ _ => rfl, fun _ => rfl, fun _ => rfl, rfl⟩
    refine granted.advance sound ?_ ?_ (fun other _ => idle other) ?_ ?_ ?_
    · rw [outcome]
      exact Meter.grows_of_instruments_eq (sound.meter granted.meter) rfl rfl
    · rw [outcome, Account.after_of_idle (idle _)]
    · intro i' value' taken
      cases taken
      exact ⟨instrument, standing, takes⟩
    · intro e emits
      cases emits
      rfl
    · rw [outcome]
      simp [Call.emission?, deliveries, point?, standing, Output.deliveries, Passage.deliveries]

private theorem advance_recordBound (sound : s.Sound) {h : Handle} {value : Value} {u : Unit}
    (done : s.recordBound h value = (.ok u, s')) :
    s.Advance ⟨.recordBound h value, .ok .done⟩ s' := by
  obtain ⟨m, granted⟩ := atMeter_ok done
  rcases m.recordBound_cases h.instrument.index h.identity value with
    ⟨e, failed, _⟩ | ⟨instrument, binding, found, made, takes, _, outcome⟩
  · exact granted.elim (congrArg Outcome.answer failed)
  · have standing : s.instrument? h.instrument = some instrument :=
      instrument?_eq_some.mpr ⟨m, granted.meter, found⟩
    have idle (r : MeterRef) : Call.IsIdle r ⟨.recordBound h value, .ok .done⟩ :=
      ⟨fun _ _ => rfl, fun _ => rfl, fun _ => rfl, rfl⟩
    have bound : (s.account h.instrument.meter).bound h.instrument.index h.identity =
        some binding.labels := by
      rw [account, granted.meter]
      simp [Meter.account, Meter.boundLabels, found, made]
    have emits : Call.emission? s.account ⟨.recordBound h value, .ok .done⟩ =
        some (.single ⟨h.instrument, binding.labels, value⟩) := by
      simp only [Call.emission?, bound, Option.map_some]
    refine granted.advance sound ?_ ?_ (fun other _ => idle other) ?_ ?_ ?_
    · rw [outcome]
      exact Meter.grows_of_instruments_eq (sound.meter granted.meter) rfl rfl
    · rw [outcome, Account.after_of_idle (idle _)]
    · intro i' value' taken
      cases taken
      exact ⟨instrument, standing, takes⟩
    · intro e emitted
      rw [emits] at emitted
      cases emitted
      rfl
    · have merged := (sound.instruments _ _ standing).bound.merged h.identity binding made
      rw [outcome, emits]
      simp [deliveries, point?, standing, Output.deliveries, Passage.deliveries,
        Instrument.pointWith, merged]

/-- Who is bound by a call to bind: the handle that it answers. -/
theorem bound?_bind {i : InstrumentRef} {labels : LabelSet} {made identity place : Nat}
    {r : MeterRef} : Call.bound? ⟨⟨r, place⟩, identity⟩
      ⟨.bind i labels, .ok (.handle ⟨i, made⟩)⟩ =
      if i = ⟨r, place⟩ ∧ made = identity then some labels else none := by
  rw [Call.bound?]
  exact if_congr (by rw [Handle.mk.injEq]) rfl rfl

private theorem advance_bind (sound : s.Sound) {i : InstrumentRef} {labels : LabelSet} {h : Handle}
    (done : s.bind i labels = (.ok h, s')) : s.Advance ⟨.bind i labels, .ok (.handle h)⟩ s' := by
  obtain ⟨m, granted⟩ := atMeter_ok done
  rcases m.bind_cases i.index labels with failed | ⟨instrument, found, outcome⟩
  · exact granted.elim (by rw [Outcome.map, failed]; rfl)
  · have answer := granted.answer
    rw [Outcome.map, outcome] at answer
    have wf := ((sound.meter granted.meter) i.index instrument found).bound
    cases answer
    apply granted.advance sound
    · rw [Outcome.map, outcome]
      exact Meter.grows_modifyInstrument (sound.meter granted.meter) found rfl rfl
        (wf.acquire labels)
    · rw [Outcome.map, outcome]
      apply Account.ext
      · funext place identity
        change Meter.boundLabels _ place identity = (m.boundLabels place identity).or _
        rw [Meter.boundLabels_modifyInstrument found, bound?_bind]
        by_cases same : place = i.index
        · subst same
          rw [if_pos rfl, wf.labels_acquire]
          simp [Meter.boundLabels, found]
        · have apart : i ≠ ⟨i.meter, place⟩ := fun equal =>
            same (congrArg InstrumentRef.index equal).symm
          simp [same, apart]
      · funext place
        exact (Option.or_none).symm
      · rfl
      · rfl
    · intro other different
      refine ⟨fun place identity => ?_, fun _ => rfl, fun _ => rfl, rfl⟩
      have apart : i ≠ ⟨other, place⟩ := fun equal =>
        different (congrArg InstrumentRef.meter equal).symm
      rw [bound?_bind, if_neg fun both => apart both.1]
    · intro i' value' taken
      cases taken
    · intro e emits
      cases emits
    · rw [Outcome.map, outcome]
      rfl

private theorem advance_unbind (sound : s.Sound) {i : InstrumentRef} {h : Handle} {u : Unit}
    (done : s.unbind i h = (.ok u, s')) : s.Advance ⟨.unbind i h, .ok .done⟩ s' := by
  unfold unbind at done
  split at done
  · split at done
    · obtain ⟨m, granted⟩ := atMeter_ok done
      rcases m.unbind_cases i.index h.identity with
        ⟨e, failed, _⟩ | ⟨instrument, binding, table, remaining, found, _, released, outcome⟩
      · exact granted.elim (congrArg Outcome.answer failed)
      · have idle (r : MeterRef) : Call.IsIdle r ⟨.unbind i h, .ok .done⟩ :=
          ⟨fun _ _ => rfl, fun _ => rfl, fun _ => rfl, rfl⟩
        have wf := ((sound.meter granted.meter) i.index instrument found).bound
        refine granted.advance_of_quiet sound ?_ ?_ idle rfl rfl ?_
        · rw [outcome]
          exact Meter.grows_modifyInstrument (sound.meter granted.meter) found rfl rfl
            (wf.release released)
        · rw [outcome]
          exact Meter.account_modifyInstrument found (BindingTable.labels_release released)
        · rw [outcome]
          by_cases last : remaining = 0 <;> simp [last, Output.deliveries]
    · cases done
  · cases done

private theorem advance_setCallback (sound : s.Sound)
    {i : InstrumentRef} {program : List Action} {u : Unit}
    (done : s.setCallback i program = (.ok u, s')) :
    s.Advance ⟨.setCallback i program, .ok .done⟩ s' := by
  obtain ⟨m, granted⟩ := atMeter_ok done
  rcases m.setCallback_cases i.index program with ⟨e, failed, _⟩ | ⟨instrument, found, _, outcome⟩
  · exact granted.elim (congrArg Outcome.answer failed)
  · have idle (r : MeterRef) : Call.IsIdle r ⟨.setCallback i program, .ok .done⟩ :=
      ⟨fun _ _ => rfl, fun _ => rfl, fun _ => rfl, rfl⟩
    have wf := ((sound.meter granted.meter) i.index instrument found).bound
    refine granted.advance_of_quiet sound ?_ ?_ idle rfl rfl ?_
    · rw [outcome]
      exact Meter.grows_modifyInstrument (sound.meter granted.meter) found rfl rfl wf
    · rw [outcome]
      exact Meter.account_modifyInstrument found fun _ => rfl
    · rw [outcome]
      rfl

private theorem opened?_openBatch {r other : MeterRef} {labels : LabelSet} {made place : Nat} :
    Call.opened? ⟨other, place⟩ ⟨.openBatch r labels, .ok (.batch ⟨r, made⟩)⟩ =
      if r = other ∧ made = place then some labels else none := by
  rw [Call.opened?]
  exact if_congr (by rw [BatchRef.mk.injEq]) rfl rfl

private theorem advance_openBatch (sound : s.Sound)
    {r : MeterRef} {labels : LabelSet} {b : BatchRef}
    (done : s.openBatch r labels = (.ok b, s')) :
    s.Advance ⟨.openBatch r labels, .ok (.batch b)⟩ s' := by
  obtain ⟨m, granted⟩ := atMeter_ok done
  cases granted.answer
  refine granted.advance sound ?_ ?_ ?_ ?_ ?_ rfl
  · exact Meter.grows_of_instruments_eq (sound.meter granted.meter) rfl rfl
  · have concat (place : Nat) : (m.batches ++ [(⟨labels, [], false⟩ : Batch)])[place]? =
        (m.batches[place]?).or
          (if m.batches.length = place then some ⟨labels, [], false⟩ else none) := by
      rcases Nat.lt_trichotomy place m.batches.length with inside | rfl | outside
      · simp [List.getElem?_append_left inside, Nat.ne_of_gt inside]
      · simp
      · simp [List.getElem?_append_right (Nat.le_of_lt outside), Nat.ne_of_lt outside,
          Nat.sub_ne_zero_of_lt outside, Nat.le_of_lt outside]
    apply Account.ext
    · funext place identity
      exact (Option.or_none).symm
    · funext place
      change ((m.batches ++ [_])[place]?).map Batch.labels =
        ((m.batches[place]?).map Batch.labels).or _
      rw [opened?_openBatch, concat]
      by_cases last : m.batches.length = place
      · subst last
        simp
      · simp [last]
    · funext place
      change ((((m.batches ++ [_])[place]?).map Batch.entries).getD []).map _ = _
      rw [concat]
      by_cases last : m.batches.length = place
      · subst last
        simp [Meter.account, Account.after, Call.put?]
      · simp [last, Meter.account, Account.after, Call.put?]
    · rfl
  · intro other different
    refine ⟨fun _ _ => rfl, fun place => ?_, fun _ => rfl, rfl⟩
    rw [opened?_openBatch, if_neg fun both => different both.1.symm]
  · intro i value taken
    cases taken
  · intro e emits
    cases emits

private theorem put?_put
    {b : BatchRef} {i : InstrumentRef} {value : Value} {r : MeterRef} {place : Nat} :
    Call.put? ⟨r, place⟩ ⟨.put b i value, .ok .done⟩ =
      if b = ⟨r, place⟩ then some (i, value) else none := by
  rfl

private theorem advance_put (sound : s.Sound)
    {b : BatchRef} {i : InstrumentRef} {value : Value} {u : Unit}
    (done : s.put b i value = (.ok u, s')) : s.Advance ⟨.put b i value, .ok .done⟩ s' := by
  unfold put at done
  split at done
  · cases done
  · next instrument found =>
      obtain ⟨m, granted⟩ := atMeter_ok done
      rcases m.put_cases b.index
          (if i.meter = b.meter then .own i.index else .foreign instrument.config.name) value with
        ⟨e, failed, _⟩ | ⟨batch, place, own, held, _, offered, standing, takes, outcome⟩
      · exact granted.elim (congrArg Outcome.answer failed)
      · have same : i.meter = b.meter ∧ i.index = place := by
          by_cases same : i.meter = b.meter
          · rw [if_pos same] at offered
            exact ⟨same, Offer.own.inj offered⟩
          · rw [if_neg same] at offered
            cases offered
        have isInstrument : i = ⟨b.meter, place⟩ := by rw [← same.1, ← same.2]
        apply granted.advance sound
        · rw [outcome]
          exact Meter.grows_of_instruments_eq (sound.meter granted.meter) rfl rfl
        · rw [outcome]
          apply Account.ext
          · funext place identity
            exact (Option.or_none).symm
          · funext other
            change ((m.batches.modify b.index _)[other]?).map Batch.labels =
              ((m.batches[other]?).map Batch.labels).or none
            rw [Option.or_none]
            apply Meter.labels_modifyBatch
            exact fun _ => rfl
          · funext other
            change ((((m.batches.modify b.index _)[other]?).map Batch.entries).getD []).map _ = _
            rw [List.getElem?_modify]
            simp only [Account.after, put?_put]
            by_cases same : b.index = other
            · subst same
              simp [held, Meter.account, Meter.map_putEntry, isInstrument]
            · have apart : b ≠ ⟨b.meter, other⟩ := fun equal => same (congrArg BatchRef.index equal)
              simp [same, apart, Meter.account]
          · rfl
        · intro other different
          refine ⟨fun _ _ => rfl, fun _ => rfl, fun place => ?_, rfl⟩
          have apart : b ≠ ⟨other, place⟩ := fun equal =>
            different (congrArg BatchRef.meter equal).symm
          rw [put?_put, if_neg apart]
        · intro i' value' taken
          cases taken
          rw [isInstrument]
          exact ⟨own, instrument?_eq_some.mpr ⟨m, granted.meter, standing⟩, takes⟩
        · intro e emits
          cases emits
        · rw [outcome]
          rfl

private theorem advance_commit (sound : s.Sound) {b : BatchRef} {u : Unit}
    (done : s.commit b = (.ok u, s')) : s.Advance ⟨.commit b, .ok .done⟩ s' := by
  obtain ⟨m, granted⟩ := atMeter_ok done
  rcases m.commit_cases b.index with ⟨e, failed, _⟩ | ⟨batch, held, _, outcome⟩
  · exact granted.elim (congrArg Outcome.answer failed)
  · have emits : Call.emission? s.account ⟨.commit b, .ok .done⟩ =
        some (.batch b.meter m.nextBatch (batch.entries.map fun (p, value) =>
          ⟨⟨b.meter, p⟩, batch.labels, value⟩)) := by
      simp [Call.emission?, account, granted.meter, Meter.account, held]
    apply granted.advance sound
    · rw [outcome]
      exact Meter.grows_of_instruments_eq (sound.meter granted.meter) rfl rfl
    · rw [outcome]
      apply Account.ext
      · funext place identity
        exact (Option.or_none).symm
      · funext other
        change ((m.batches.modify b.index _)[other]?).map Batch.labels =
          ((m.batches[other]?).map Batch.labels).or none
        rw [Option.or_none]
        apply Meter.labels_modifyBatch
        exact fun _ => rfl
      · funext other
        change ((((m.batches.modify b.index _)[other]?).map Batch.entries).getD []).map _ =
          (((m.batches[other]?).map Batch.entries).getD []).map _
        rw [List.getElem?_modify]
        by_cases same : b.index = other <;> cases m.batches[other]? <;> simp [same]
      · change m.nextBatch + 1 = m.nextBatch + if Call.commits b.meter _ then 1 else 0
        simp [Call.commits]
    · intro other different
      refine ⟨fun _ _ => rfl, fun _ => rfl, fun _ => rfl, ?_⟩
      exact decide_eq_false (Ne.symm different)
    · intro i value taken
      cases taken
    · intro e emitted
      rw [emits] at emitted
      cases emitted
      rfl
    · have points : (batch.entries.map fun (p, value) =>
          (⟨⟨b.meter, p⟩, batch.labels, value⟩ : Measurement)).filterMap s.point? =
            m.batchPoints batch := by
        rw [List.filterMap_map, Meter.batchPoints]
        refine List.filterMap_congr fun entry _ => ?_
        simp [point?, instrument?, granted.meter]
      rw [outcome, emits]
      simp [deliveries, Output.deliveries, Passage.deliveries, points]

private theorem advance_build (sound : s.Sound) {r : MeterRef} {setup : InstrumentSetup}
    {i : InstrumentRef} (done : s.build r setup = (.ok i, s')) :
    s.Advance ⟨.build r setup, .ok (.instrument i)⟩ s' := by
  obtain ⟨m, granted⟩ := atMeter_ok done
  have idle (other : MeterRef) : Call.IsIdle other ⟨.build r setup, .ok (.instrument i)⟩ :=
    ⟨fun _ _ => rfl, fun _ => rfl, fun _ => rfl, rfl⟩
  rcases m.build_cases setup with ⟨fault, _, failed⟩ | ⟨_, registered⟩
  · exact granted.elim (by rw [Outcome.map, failed]; rfl)
  · rcases m.register_cases setup.config with
      ⟨_, existing, _, _, _, failed⟩ | ⟨place, _, _, _, outcome⟩ | ⟨_, outcome⟩
    · exact granted.elim (by rw [Outcome.map, registered, failed]; rfl)
    · refine granted.advance_of_quiet sound ?_ ?_ idle rfl rfl ?_
      · rw [Outcome.map, registered, outcome]
        exact Meter.grows_of_instruments_eq (sound.meter granted.meter) rfl rfl
      · rw [Outcome.map, registered, outcome]
      · rw [Outcome.map, registered, outcome]
        rfl
    · refine granted.advance_of_quiet sound ?_ ?_ idle rfl rfl ?_
      · rw [Outcome.map, registered, outcome]
        exact Meter.grows_add (sound.meter granted.meter) setup.config
      · rw [Outcome.map, registered, outcome]
        exact Meter.account_eq_of_kept (Meter.boundLabels_add setup.config) rfl rfl
      · rw [Outcome.map, registered, outcome]
        rfl

/-! ## New meters -/

/-- A new meter that reports to a sink that is there is an advance. -/
theorem advance_of_newMeter {c : Call} {setup : MeterSetup} {sink : Sink} (sound : s.Sound)
    (there : s.sink? setup.sink = some sink)
    (meters : s'.meters = s.meters ++ [Meter.ofSetup setup]) (sinks : s'.sinks = s.sinks)
    (idle : ∀ r, c.IsIdle r) (nothing : c.taken? = none) (silent : c.emission? s.account = none) :
    s.Advance c s' := by
  have sameSink (k : SinkRef) : s'.sink? k = s.sink? k := by rw [sink?, sinks, sink?]
  have standing (r : MeterRef) (m : Meter) : s'.meter? r = some m ↔
      s.meter? r = some m ∨ (r.index = s.meters.length ∧ m = Meter.ofSetup setup) := by
    rw [meter?, meters]
    exact Place.getElem?_concat_eq_some
  have kept (ref : InstrumentRef) (i : Instrument) :
      s'.instrument? ref = some i ↔ s.instrument? ref = some i := by
    rw [instrument?_eq_some, instrument?_eq_some]
    constructor
    · rintro ⟨m, isMeter, isInstrument⟩
      rcases (standing ref.meter m).mp isMeter with before | ⟨_, rfl⟩
      · exact ⟨m, before, isInstrument⟩
      · cases isInstrument
    · rintro ⟨m, isMeter, isInstrument⟩
      exact ⟨m, (standing ref.meter m).mpr (Or.inl isMeter), isInstrument⟩
  constructor
  · constructor
    · intro ref i found
      exact sound.instruments ref i ((kept ref i).mp found)
    · intro r m found
      rw [sameSink]
      rcases (standing r m).mp found with before | ⟨_, rfl⟩
      · exact sound.sinks r m before
      · exact ⟨sink, there⟩
  · constructor
    · intro r m found
      exact ⟨m, (standing r m).mpr (Or.inl found), rfl⟩
    · intro ref i found
      exact ⟨i, (kept ref i).mpr found, rfl, rfl⟩
  · intro r
    rw [Account.after_of_idle (idle r), account, account]
    cases before : s.meter? r with
    | some m => rw [(standing r m).mpr (Or.inl before)]
    | none =>
        cases after : s'.meter? r with
        | none => rfl
        | some m =>
            rcases (standing r m).mp after with found | ⟨_, rfl⟩
            · rw [before] at found
              cases found
            · exact Meter.account_ofSetup setup
  · intro i value taken
    rw [nothing] at taken
    cases taken
  · intro e emits
    rw [silent] at emits
    cases emits
  · intro k
    rw [sameSink, silent]
    simp only [Option.toList_none, List.flatMap_nil, List.foldl_nil, Option.map_id']

private theorem createMeter_ok {setup : MeterSetup} {r : MeterRef}
    (done : s.createMeter setup = (.ok r, s')) :
    (∃ sink, s.sink? setup.sink = some sink) ∧ s'.sinks = s.sinks ∧
      s'.meters = s.meters ++ [Meter.ofSetup setup] := by
  unfold createMeter at done
  split at done
  · cases done
  · next sink found =>
      cases done
      exact ⟨⟨sink, found⟩, rfl, rfl⟩

private theorem advance_getMeter (sound : s.Sound)
    {registry : RegistryRef} {name : String} {r : MeterRef}
    (done : s.getMeter registry name = (.ok r, s')) :
    s.Advance ⟨.getMeter registry name, .ok (.meter r)⟩ s' := by
  have idle (r' : MeterRef) : Call.IsIdle r' ⟨.getMeter registry name, .ok (.meter r)⟩ :=
    ⟨fun _ _ => rfl, fun _ => rfl, fun _ => rfl, rfl⟩
  unfold getMeter at done
  split at done
  · cases done
  · split at done
    · cases done
      exact advance_of_same sound rfl rfl idle rfl rfl
    · split at done
      · cases done
      · next made created =>
          cases done
          obtain ⟨⟨sink, there⟩, sinks, meters⟩ := createMeter_ok created
          exact advance_of_newMeter sound there meters sinks idle rfl rfl

private theorem advance_createRegistry (sound : s.Sound) {k : SinkRef} {registry : RegistryRef}
    (done : s.createRegistry k = (.ok registry, s')) :
    s.Advance ⟨.createRegistry k, .ok (.registry registry)⟩ s' := by
  unfold createRegistry at done
  split at done
  · cases done
  · cases done
    exact advance_of_same sound rfl rfl (fun r => ⟨fun _ _ => rfl, fun _ => rfl, fun _ => rfl, rfl⟩)
      rfl rfl

/-- **Every call is an advance.** -/
theorem advance_of_perform (sound : s.Sound) (operation : Operation) :
    s.Advance (s.call operation) (s.perform operation).2 := by
  rw [call]
  cases performed : s.perform operation with
  | mk answer s' =>
      cases answer with
      | error e =>
          obtain ⟨unchanged, _⟩ := unchanged_of_perform performed
          refine advance_of_same sound unchanged.meters unchanged.sinks
            (fun r => Call.isIdle_of_error r operation e) ?_ ?_
          · cases operation <;> rfl
          · cases operation <;> rfl
      | ok a =>
          cases operation with
          | createMeter setup =>
              obtain ⟨r, done, rfl⟩ := ok_of_reply performed
              obtain ⟨⟨sink, there⟩, sinks, meters⟩ := createMeter_ok done
              exact advance_of_newMeter sound there meters sinks
                (fun r => ⟨fun _ _ => rfl, fun _ => rfl, fun _ => rfl, rfl⟩) rfl rfl
          | createRegistry k =>
              obtain ⟨registry, done, rfl⟩ := ok_of_reply performed
              exact advance_createRegistry sound done
          | getMeter registry name =>
              obtain ⟨r, done, rfl⟩ := ok_of_reply performed
              exact advance_getMeter sound done
          | build r setup =>
              obtain ⟨i, done, rfl⟩ := ok_of_reply performed
              exact advance_build sound done
          | record i value labels =>
              obtain ⟨_, done, rfl⟩ := ok_of_reply performed
              exact advance_record sound done
          | bind i labels =>
              obtain ⟨h, done, rfl⟩ := ok_of_reply performed
              exact advance_bind sound done
          | recordBound h value =>
              obtain ⟨_, done, rfl⟩ := ok_of_reply performed
              exact advance_recordBound sound done
          | unbind i h =>
              obtain ⟨_, done, rfl⟩ := ok_of_reply performed
              exact advance_unbind sound done
          | openBatch r labels =>
              obtain ⟨b, done, rfl⟩ := ok_of_reply performed
              exact advance_openBatch sound done
          | put b i value =>
              obtain ⟨_, done, rfl⟩ := ok_of_reply performed
              exact advance_put sound done
          | commit b =>
              obtain ⟨_, done, rfl⟩ := ok_of_reply performed
              exact advance_commit sound done
          | setCallback i program =>
              obtain ⟨_, done, rfl⟩ := ok_of_reply performed
              exact advance_setCallback sound done

/-- An accepted call to record always emits: the labels of its handle or its batch are known. -/
theorem emits_of_perform (s : State) (operation : Operation) :
    ((s.call operation).emission? s.account).isSome = (s.call operation).isRecorded := by
  rw [call]
  cases performed : s.perform operation with
  | mk answer s' =>
      cases answer with
      | error e => cases operation <;> rfl
      | ok a =>
          cases operation with
          | recordBound h value =>
              obtain ⟨_, done, rfl⟩ := ok_of_reply performed
              obtain ⟨m, granted⟩ := atMeter_ok done
              rcases m.recordBound_cases h.instrument.index h.identity value with
                ⟨e, failed, _⟩ | ⟨instrument, binding, found, made, _⟩
              · exact granted.elim (congrArg Outcome.answer failed)
              · simp [Call.emission?, Call.isRecorded, account, granted.meter, Meter.account,
                  Meter.boundLabels, found, made]
          | commit b =>
              obtain ⟨_, done, rfl⟩ := ok_of_reply performed
              obtain ⟨m, granted⟩ := atMeter_ok done
              rcases m.commit_cases b.index with ⟨e, failed, _⟩ | ⟨batch, held, _⟩
              · exact granted.elim (congrArg Outcome.answer failed)
              · simp [Call.emission?, Call.isRecorded, account, granted.meter, Meter.account, held]
          | _ => rfl

/-- Whoever binds labels is given a handle with these labels. -/
theorem bound_of_perform (sound : s.Sound) (operation : Operation) {h : Handle} {labels : LabelSet}
    (bound : (s.call operation).bound? h = some labels) :
    ((s.perform operation).2.account h.instrument.meter).bound h.instrument.index h.identity =
      some labels := by
  rw [call] at bound
  cases performed : s.perform operation with
  | mk answer s' =>
      rw [performed] at bound
      cases answer with
      | error e => cases operation <;> cases bound
      | ok a =>
          cases operation with
          | bind i labels' =>
              obtain ⟨made, done, rfl⟩ := ok_of_reply performed
              obtain ⟨rfl, same⟩ := Option.ite_none_right_eq_some.mp bound
              cases same
              obtain ⟨m, granted⟩ := atMeter_ok done
              rcases m.bind_cases i.index labels with failed | ⟨instrument, found, outcome⟩
              · exact granted.elim (by rw [Outcome.map, failed]; rfl)
              · have answer := granted.answer
                rw [Outcome.map, outcome] at answer
                have wf := ((sound.meter granted.meter) i.index instrument found).bound
                cases answer
                rw [account, granted.meters, if_pos rfl, Outcome.map, outcome]
                change Meter.boundLabels _ i.index _ = some labels
                rw [Meter.boundLabels_modifyInstrument found, if_pos rfl]
                exact wf.labels_acquired labels
          | _ => cases bound

end State

end Metering
