import Metering.Proofs.Detour.Renaming
import Metering.Proofs.Detour.Tables
import Metering.Proofs.Meter.Requests

/-! # Twin meters

Two meters are twins when they differ only in the identities of their bindings, the handles that
their callbacks name accordingly, and bindings that were made and released in passing
(`Metering.Meter.Twin`). A request that both are made comes to the same answer and output and leaves
twins (`Metering.Outcome.Twin`); only a binding may have another identity in each of them
(`Metering.Meter.Twin.bind`).
-/

namespace Metering

/-- For each instrument, which of the bindings that it will get in the second of two runs it gets in
the first too. -/
def Course : Type :=
  InstrumentRef → List Bool

/-- The course in which an instrument first gets one more binding, in both runs or in the second
alone. -/
def Course.cons (course : Course) (i : InstrumentRef) (both : Bool) : Course :=
  fun other => if other = i then both :: course other else course other

@[simp]
theorem Course.cons_self (course : Course) (i : InstrumentRef) (both : Bool) :
    course.cons i both i = both :: course i :=
  if_pos rfl

/-- Another instrument has the course that it had. -/
theorem Course.cons_of_ne (course : Course) {i other : InstrumentRef} (apart : other ≠ i)
    (both : Bool) : course.cons i both other = course other :=
  if_neg apart

/-- **Twin instruments.** -/
structure Instrument.Twin (ρ : Renaming) (f : Nat ↪ Nat) (course : List Bool) (i i' : Instrument) :
    Prop where
  descriptor : i'.descriptor = i.descriptor
  config : i'.config = i.config
  bindings : i.bindings.Twin f course i'.bindings
  callback : i'.callback = i.callback.map (Action.renameAll ρ)

namespace Instrument.Twin

variable {ρ : Renaming} {f : Nat ↪ Nat} {course : List Bool} {i i' : Instrument}

/-- Twins take the same values. -/
theorem accept (twin : i.Twin ρ f course i') (value : Value) :
    i'.accept value = i.accept value := by
  rw [Instrument.accept, twin.config, Instrument.accept]

/-- Twins give the same points. -/
theorem pointWith (twin : i.Twin ρ f course i') (labels : LabelSet) (value : Value) :
    i'.pointWith labels value = i.pointWith labels value := by
  rw [Instrument.pointWith, Instrument.point, twin.config, twin.descriptor]
  rfl

end Instrument.Twin

/-- **Twin meters**, at the place of one of them. -/
structure Meter.Twin (ρ : Renaming) (course : Course) (r : MeterRef) (m m' : Meter) : Prop where
  frame : m' = { m with instruments := m'.instruments }
  length : m'.instruments.length = m.instruments.length
  instruments : ∀ (place : Nat) (i i' : Instrument), m.instruments[place]? = some i →
    m'.instruments[place]? = some i' → i.Twin ρ (ρ.identity ⟨r, place⟩) (course ⟨r, place⟩) i'
  blank : ∀ place, m.instruments.length ≤ place → ∀ k,
    ρ.identity ⟨r, place⟩ k = BindingTable.placeIn (course ⟨r, place⟩) k

/-- Twin meters answer a request alike, give out the same and stay twins. -/
structure Outcome.Twin {α : Type} (ρ : Renaming) (course : Course) (r : MeterRef)
    (o o' : Outcome α) : Prop where
  answer : o'.answer = o.answer
  output : o'.output = o.output
  meter : o.meter.Twin ρ course r o'.meter

/-- What twin answers are mapped to are twin answers. -/
theorem Outcome.Twin.map {α β : Type} {ρ : Renaming} {course : Course} {r : MeterRef}
    {o o' : Outcome α} (twin : Outcome.Twin ρ course r o o') (g : α → β) :
    Outcome.Twin ρ course r (o.map g) (o'.map g) where
  answer := congrArg (Except.map g) twin.answer
  output := twin.output
  meter := twin.meter

namespace Meter.Twin

variable {ρ : Renaming} {course course' : Course} {r : MeterRef} {m m' : Meter}

/-- Only the course of the meter's own instruments matters. -/
theorem congr (twin : m.Twin ρ course r m')
    (same : ∀ place, course' ⟨r, place⟩ = course ⟨r, place⟩) : m.Twin ρ course' r m' where
  frame := twin.frame
  length := twin.length
  instruments place i i' found found' := same place ▸ twin.instruments place i i' found found'
  blank place := same place ▸ twin.blank place

/-- At each place, either neither meter has an instrument, or the two that they have are twins. -/
theorem instrument_cases (twin : m.Twin ρ course r m') (place : Nat) :
    (m.instruments[place]? = none ∧ m'.instruments[place]? = none) ∨
    ∃ i i', m.instruments[place]? = some i ∧ m'.instruments[place]? = some i' ∧
      i.Twin ρ (ρ.identity ⟨r, place⟩) (course ⟨r, place⟩) i' := by
  by_cases inside : place < m.instruments.length
  · have inside' : place < m'.instruments.length := twin.length.symm ▸ inside
    exact Or.inr ⟨_, _, List.getElem?_eq_getElem inside, List.getElem?_eq_getElem inside',
      twin.instruments place _ _ (List.getElem?_eq_getElem inside)
        (List.getElem?_eq_getElem inside')⟩
  · have outside := Nat.le_of_not_lt inside
    exact Or.inl ⟨List.getElem?_eq_none outside,
      List.getElem?_eq_none (twin.length.symm ▸ outside)⟩

/-- Twins have one name. -/
theorem name (twin : m.Twin ρ course r m') : m'.name = m.name := by
  rw [twin.frame]

/-- Twins report to one sink. -/
theorem sink (twin : m.Twin ρ course r m') : m'.sink = m.sink := by
  rw [twin.frame]

/-- Twins give their next batch the same number. -/
theorem nextBatch (twin : m.Twin ρ course r m') : m'.nextBatch = m.nextBatch := by
  rw [twin.frame]

/-- Twins have the same batches. -/
theorem batches (twin : m.Twin ρ course r m') : m'.batches = m.batches := by
  rw [twin.frame]

/-- Two meters set up alike are twins. -/
theorem ofSetup (setup : MeterSetup) (told : ∀ place k,
    ρ.identity ⟨r, place⟩ k = BindingTable.placeIn (course ⟨r, place⟩) k) :
    (Meter.ofSetup setup).Twin ρ course r (Meter.ofSetup setup) where
  frame := rfl
  length := rfl
  instruments place i i' found := by simp [Meter.ofSetup] at found
  blank place _ := told place

/-! ## Changes made to both -/

/-- Twins remain twins if their batches change alike. -/
theorem batched (twin : m.Twin ρ course r m') {batches batches' : List Batch}
    {number number' : Nat} (sameBatches : batches' = batches) (sameNumber : number' = number) :
    ({ m with batches := batches, nextBatch := number } : Meter).Twin ρ course r
      { m' with batches := batches', nextBatch := number' } where
  frame := by
    rw [sameBatches, sameNumber, twin.frame]
  length := twin.length
  instruments := twin.instruments
  blank := twin.blank

/-- Twin instruments are put for those at one place, whose course alone may be another then. -/
theorem modifyInstrument (twin : m.Twin ρ course r m') (g g' : Instrument → Instrument)
    {place : Nat} {i i' : Instrument} (found : m.instruments[place]? = some i)
    (found' : m'.instruments[place]? = some i')
    (others : ∀ other, other ≠ place → course' ⟨r, other⟩ = course ⟨r, other⟩)
    (alike : (g i).Twin ρ (ρ.identity ⟨r, place⟩) (course' ⟨r, place⟩) (g' i')) :
    (m.modifyInstrument place g).Twin ρ course' r (m'.modifyInstrument place g') where
  frame := by
    rw [twin.frame]
    rfl
  length := by
    change (m'.instruments.modify place g').length = (m.instruments.modify place g).length
    rw [List.length_modify, List.length_modify, twin.length]
  instruments other j j' standing standing' := by
    obtain ⟨k, before, rfl⟩ := Place.getElem?_modify_eq_some.mp standing
    obtain ⟨k', before', rfl⟩ := Place.getElem?_modify_eq_some.mp standing'
    by_cases same : place = other
    · subst same
      cases found.symm.trans before
      cases found'.symm.trans before'
      rw [if_pos rfl, if_pos rfl]
      exact alike
    · rw [if_neg same, if_neg same, others other (Ne.symm same)]
      exact twin.instruments other k k' before before'
  blank other outside := by
    have beyond : m.instruments.length ≤ other := (List.length_modify ..) ▸ outside
    have different : other ≠ place :=
      Nat.ne_of_gt (Nat.lt_of_lt_of_le (List.getElem?_eq_some_iff.mp found).1 beyond)
    rw [others other different]
    exact twin.blank other beyond

/-! ## Requests made of both -/

/-- Twins that refuse alike answer alike. -/
theorem fail {α : Type} (twin : m.Twin ρ course r m') (e : Failure) :
    Outcome.Twin ρ course r (m.fail e : Outcome α) (m'.fail e) :=
  ⟨rfl, rfl, twin⟩

/-- Twins record a value alike. -/
theorem record (twin : m.Twin ρ course r m') (place : Nat) (value : Value) (labels : LabelSet) :
    Outcome.Twin ρ course r (m.record place value labels) (m'.record place value labels) := by
  rw [Meter.record, Meter.record]
  rcases twin.instrument_cases place with ⟨missing, missing'⟩ | ⟨i, i', found, found', alike⟩
  · rw [missing, missing']
    exact twin.fail _
  · rw [found, found']
    simp only [alike.accept, alike.pointWith]
    cases i.accept value with
    | error e => exact twin.fail e
    | ok _ => exact ⟨rfl, rfl, twin⟩

private theorem bind_of_getElem? {m : Meter} {place : Nat} {i : Instrument}
    (found : m.instruments[place]? = some i) (labels : LabelSet) : m.bind place labels =
      ⟨.ok (i.bindings.acquire labels i.config.constants).2, m.modifyInstrument place fun j =>
        { j with bindings := (i.bindings.acquire labels i.config.constants).1 }, []⟩ := by
  rw [Meter.bind, found]

/-- Binding gives each of two twins an identity of its own, as the course told. -/
theorem bind {place : Nat} {i : Instrument} {labels : LabelSet}
    (found : m.instruments[place]? = some i)
    (twin : m.Twin ρ (if (i.bindings.find? labels).isSome then course
      else course.cons ⟨r, place⟩ true) r m') :
    (m'.bind place labels).answer =
        (m.bind place labels).answer.map (ρ.identity ⟨r, place⟩) ∧
      (m'.bind place labels).output = (m.bind place labels).output ∧
      (m.bind place labels).meter.Twin ρ course r (m'.bind place labels).meter := by
  rcases twin.instrument_cases place with ⟨missing, _⟩ | ⟨j, i', standing, found', alike⟩
  · cases found.symm.trans missing
  · cases found.symm.trans standing
    have told : i.bindings.Twin (ρ.identity ⟨r, place⟩) (if (i.bindings.find? labels).isSome
        then course ⟨r, place⟩ else true :: course ⟨r, place⟩) i'.bindings := by
      have tables := alike.bindings
      split at tables
      · next bound =>
          rw [if_pos bound]
          exact tables
      · next unbound =>
          rw [Course.cons_self] at tables
          rw [if_neg unbound]
          exact tables
    obtain ⟨identity, acquired⟩ := told.acquire i.config.constants
    rw [bind_of_getElem? found, bind_of_getElem? found', alike.config]
    refine ⟨congrArg Except.ok identity, rfl, twin.modifyInstrument _ _ found found' ?_
      ⟨alike.descriptor, alike.config, acquired, alike.callback⟩⟩
    intro other different
    split
    · rfl
    · have apart : (⟨r, other⟩ : InstrumentRef) ≠ ⟨r, place⟩ := fun same =>
        different (congrArg InstrumentRef.index same)
      exact (course.cons_of_ne apart true).symm

/-- Twins record a value alike through handles that stand for one another. -/
theorem recordBound (twin : m.Twin ρ course r m') (place k : Nat) (value : Value) :
    Outcome.Twin ρ course r (m.recordBound place k value)
      (m'.recordBound place (ρ.identity ⟨r, place⟩ k) value) := by
  rw [Meter.recordBound, Meter.recordBound]
  rcases twin.instrument_cases place with ⟨missing, missing'⟩ | ⟨i, i', found, found', alike⟩
  · rw [missing, missing']
    exact twin.fail _
  · rw [found, found']
    simp only [alike.bindings.made k]
    cases i.bindings.made[k]? with
    | none => exact twin.fail _
    | some b =>
        simp only [alike.accept]
        cases i.accept value with
        | error e => exact twin.fail e
        | ok _ =>
            have refusal : i'.bindingReleased b = i.bindingReleased b := by
              rw [Instrument.bindingReleased, alike.config, Instrument.bindingReleased]
            have point : i'.point b.effective value = i.point b.effective value := by
              rw [Instrument.point, alike.descriptor, Instrument.point]
            simp only [refusal, point]
            split
            · exact twin.fail _
            · exact ⟨rfl, rfl, twin⟩

/-- Twins unbind alike the handles that stand for one another. -/
theorem unbind (twin : m.Twin ρ course r m') (place k : Nat) :
    Outcome.Twin ρ course r (m.unbind place k) (m'.unbind place (ρ.identity ⟨r, place⟩ k)) := by
  rw [Meter.unbind, Meter.unbind]
  rcases twin.instrument_cases place with ⟨missing, missing'⟩ | ⟨i, i', found, found', alike⟩
  · rw [missing, missing']
    exact twin.fail _
  · rw [found, found']
    simp only [alike.bindings.made k]
    cases i.bindings.made[k]? with
    | none => exact twin.fail _
    | some b =>
        rcases alike.bindings.release k with ⟨none, none'⟩ |
          ⟨u, u', remaining, released, released', tables⟩
        · have refusal : i'.unknownBinding b = i.unknownBinding b := by
            rw [Instrument.unknownBinding, alike.config, Instrument.unknownBinding]
          simp only [none, none', refusal]
          exact twin.fail _
        · simp only [released, released', alike.config, twin.name]
          exact ⟨rfl, rfl, twin.modifyInstrument _ _ found found' (fun _ _ => rfl)
            ⟨alike.descriptor, alike.config, tables, alike.callback⟩⟩

/-- Twins set callbacks that differ in the names of handles alone. -/
theorem setCallback (twin : m.Twin ρ course r m') (place : Nat) (program : List Action) :
    Outcome.Twin ρ course r (m.setCallback place program)
      (m'.setCallback place (Action.renameAll ρ program)) := by
  rw [Meter.setCallback, Meter.setCallback]
  rcases twin.instrument_cases place with ⟨missing, missing'⟩ | ⟨i, i', found, found', alike⟩
  · rw [missing, missing']
    exact twin.fail _
  · rw [found, found']
    simp only [alike.config]
    split
    · exact ⟨rfl, rfl, twin.modifyInstrument _ _ found found' (fun _ _ => rfl)
        ⟨alike.descriptor, alike.config, alike.bindings, rfl⟩⟩
    · exact twin.fail _

/-- Twins open batches alike. -/
theorem openBatch (twin : m.Twin ρ course r m') (labels : LabelSet) :
    Outcome.Twin ρ course r (m.openBatch labels) (m'.openBatch labels) := by
  rw [Meter.openBatch, Meter.openBatch]
  exact ⟨congrArg (fun batches => Except.ok batches.length) twin.batches, rfl,
    twin.batched (congrArg (· ++ [⟨labels, [], false⟩]) twin.batches) twin.nextBatch⟩

/-- Twins put a value in a batch alike. -/
theorem put (twin : m.Twin ρ course r m') (batchPlace : Nat) (offer : Offer) (value : Value) :
    Outcome.Twin ρ course r (m.put batchPlace offer value) (m'.put batchPlace offer value) := by
  unfold Meter.put
  rw [twin.batches]
  cases m.batches[batchPlace]? with
  | none => exact twin.fail _
  | some batch =>
      simp only
      split
      · exact twin.fail _
      · cases offer with
        | foreign other =>
            simp only [twin.name]
            exact twin.fail _
        | own place =>
            rcases twin.instrument_cases place with ⟨missing, missing'⟩ |
              ⟨i, i', found, found', alike⟩
            · simp only [missing, missing']
              exact twin.fail _
            · simp only [found, found', alike.accept]
              cases i.accept value with
              | error e => exact twin.fail e
              | ok _ =>
                  exact ⟨rfl, rfl, twin.batched (congrArg (List.modify · batchPlace _) twin.batches)
                    twin.nextBatch⟩

/-- Twins make the same points of a batch. -/
theorem batchPoints (twin : m.Twin ρ course r m') (batch : Batch) :
    m'.batchPoints batch = m.batchPoints batch := by
  refine List.filterMap_congr fun entry _ => ?_
  obtain ⟨place, value⟩ := entry
  rcases twin.instrument_cases place with ⟨missing, missing'⟩ | ⟨i, i', found, found', alike⟩
  · simp only [missing, missing']
  · simp only [found, found', Option.map_some, alike.pointWith]

/-- Twins commit a batch alike. -/
theorem commit (twin : m.Twin ρ course r m') (batchPlace : Nat) :
    Outcome.Twin ρ course r (m.commit batchPlace) (m'.commit batchPlace) := by
  unfold Meter.commit
  rw [twin.batches]
  cases m.batches[batchPlace]? with
  | none => exact twin.fail _
  | some batch =>
      simp only [twin.batchPoints, twin.name, twin.nextBatch]
      split
      · exact twin.fail _
      · exact ⟨rfl, rfl, twin.batched (congrArg (List.modify · batchPlace _) twin.batches) rfl⟩

/-! ## Building -/

private theorem add (twin : m.Twin ρ course r m') (config : Config) :
    Outcome.Twin ρ course r (m.add config) (m'.add config) := by
  have number : m'.nextInstrument = m.nextInstrument := by
    rw [twin.frame]
  have length := twin.length
  simp only [Meter.add, twin.name, number, length]
  refine ⟨rfl, rfl, ?_, ?_, ?_, ?_⟩
  · rw [twin.frame]
  · rw [List.length_append, List.length_append, length]
  · intro place i i' found found'
    rcases Place.getElem?_concat_eq_some.mp found with before | ⟨rfl, rfl⟩
    · rcases Place.getElem?_concat_eq_some.mp found' with before' | ⟨last, _⟩
      · exact twin.instruments place i i' before before'
      · exact absurd (List.getElem?_eq_some_iff.mp before).1 (by omega)
    · rcases Place.getElem?_concat_eq_some.mp found' with before' | ⟨_, rfl⟩
      · exact absurd (List.getElem?_eq_some_iff.mp before').1 (by omega)
      · exact ⟨rfl, rfl, BindingTable.twin_empty (twin.blank _ (Nat.le_refl _)), rfl⟩
  · intro place outside
    rw [List.length_append] at outside
    exact twin.blank place (Nat.le_trans (Nat.le_add_right ..) outside)

private theorem find?_val (m : Meter) (name : String) : (m.find? name).map Fin.val =
    (m.instruments.map Instrument.config).findIdx? fun c => c.name == name := by
  rw [Meter.find?, ← List.findIdx?_eq_map_findFinIdx?_val, List.findIdx?_map]
  rfl

private theorem configs (twin : m.Twin ρ course r m') :
    m'.instruments.map Instrument.config = m.instruments.map Instrument.config := by
  refine List.ext_getElem? fun place => ?_
  rw [List.getElem?_map, List.getElem?_map]
  rcases twin.instrument_cases place with ⟨missing, missing'⟩ | ⟨i, i', found, found', alike⟩
  · rw [missing, missing']
  · rw [found, found', Option.map_some, Option.map_some, alike.config]

private theorem register (twin : m.Twin ρ course r m') (config : Config) :
    Outcome.Twin ρ course r (m.register config) (m'.register config) := by
  have places := (find?_val m' config.name).trans
    ((congrArg _ twin.configs).trans (find?_val m config.name).symm)
  rw [Meter.register, Meter.register]
  cases known : m.find? config.name with
  | none =>
      rw [known, Option.map_none, Option.map_eq_none_iff] at places
      rw [places]
      exact twin.add config
  | some place =>
      rw [known, Option.map_some] at places
      obtain ⟨place', known', same⟩ := Option.map_eq_some_iff.mp places
      have found : m.instruments[place.val]? = some m.instruments[place] :=
        List.getElem?_eq_getElem place.isLt
      have found' : m'.instruments[place.val]? = some m'.instruments[place'] :=
        same ▸ List.getElem?_eq_getElem place'.isLt
      have alike := twin.instruments place.val _ _ found found'
      rw [known']
      simp only [alike.config, twin.name, same]
      split
      · exact ⟨rfl, rfl, twin⟩
      · exact ⟨rfl, rfl, twin⟩

/-- Twins build an instrument alike. -/
theorem build (twin : m.Twin ρ course r m') (setup : InstrumentSetup) :
    Outcome.Twin ρ course r (m.build setup) (m'.build setup) := by
  rw [Meter.build, Meter.build]
  cases Name.validate setup.config.name with
  | error e => exact twin.fail _
  | ok _ => exact twin.register setup.config

/-! ## Callbacks -/

private theorem callbacks_eq (m : Meter) : m.callbacks =
    (m.instruments.map Instrument.callback).zipIdx.filterMap fun entry =>
      entry.1.map fun program => (entry.2, program) := by
  rw [List.zipIdx_map, List.filterMap_map]
  rfl

/-- Twins have the same observers to be collected, under renamed callbacks. -/
theorem callbacks (twin : m.Twin ρ course r m') : m'.callbacks =
    m.callbacks.map fun callback => (callback.1, Action.renameAll ρ callback.2) := by
  have set : m'.instruments.map Instrument.callback =
      (m.instruments.map Instrument.callback).map (Option.map (Action.renameAll ρ)) := by
    refine List.ext_getElem? fun place => ?_
    rw [List.getElem?_map, List.getElem?_map, List.getElem?_map]
    rcases twin.instrument_cases place with ⟨missing, missing'⟩ | ⟨i, i', found, found', alike⟩
    · rw [missing, missing']
      rfl
    · rw [found, found', Option.map_some, Option.map_some, Option.map_some, alike.callback]
  rw [callbacks_eq, callbacks_eq, set, List.zipIdx_map, List.filterMap_map, List.map_filterMap]
  refine List.filterMap_congr fun entry _ => ?_
  obtain ⟨callback, place⟩ := entry
  cases callback <;> rfl

end Meter.Twin

end Metering
