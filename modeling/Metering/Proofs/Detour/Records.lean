import Metering.Proofs.Detour.States
import Metering.Proofs.Stream.Perform

/-! # Recording through a binding

To record through a binding made for the purpose, and released at once, is to record directly: the
answer is the same, the same passage reaches the gate, the sinks are told the same, and the state
afterwards is the same, but that a binding made anew stays in the table as released
(`Metering.State.exists_detour`).
-/

namespace Metering

/-! ## Meters -/

namespace Meter

/-- The meter with one more released binding of the instrument at a place. -/
def retire (m : Meter) (place : Nat) (labels : LabelSet) : Meter :=
  m.modifyInstrument place fun i =>
    { i with bindings := i.bindings.retire labels i.config.constants }

private theorem modifyInstrument_modifyInstrument (m : Meter) (place : Nat)
    (f g : Instrument → Instrument) :
    (m.modifyInstrument place f).modifyInstrument place g = m.modifyInstrument place (g ∘ f) := by
  have twice : (m.instruments.modify place f).modify place g =
      m.instruments.modify place (g ∘ f) := by
    refine List.ext_getElem? fun other => ?_
    rw [List.getElem?_modify, List.getElem?_modify, List.getElem?_modify]
    cases m.instruments[other]? with
    | none => rfl
    | some i => by_cases same : place = other <;> simp [same]
  rw [modifyInstrument, modifyInstrument, modifyInstrument, twice]

/-- An instrument changed to itself leaves the meter as it is. -/
theorem modifyInstrument_self {m : Meter} {place : Nat} {i : Instrument}
    (found : m.instruments[place]? = some i) {f : Instrument → Instrument} (same : f i = i) :
    m.modifyInstrument place f = m := by
  obtain ⟨inside, isPlaced⟩ := List.getElem?_eq_some_iff.mp found
  rw [modifyInstrument, Place.modify_eq_set found, same, ← isPlaced, List.set_getElem_self]

/-- **A detour at one meter.** Binding gives out nothing, recording through the binding gives out
what recording does, and releasing leaves the meter as it was, but for a binding made anew. -/
theorem exists_detour {m : Meter} {place : Nat} {i : Instrument}
    (found : m.instruments[place]? = some i) (wf : i.bindings.WellFormed i.config.constants)
    (value : Value) (labels : LabelSet) :
    ∃ k m₁, m.bind place labels = ⟨.ok k, m₁, []⟩ ∧ m₁.sink = m.sink ∧
      m₁.instruments[place]?.isSome ∧
      m₁.recordBound place k value =
        ⟨(m.record place value labels).answer, m₁, (m.record place value labels).output⟩ ∧
      m₁.unbind place k = if (i.bindings.find? labels).isSome then ⟨.ok (), m, []⟩ else
        ⟨.ok (), m.retire place labels,
          [.noted (.bindingReleased m.name i.config.name labels)]⟩ := by
  obtain ⟨b, remaining, made, rfl, effective, standing, released, isLast⟩ := wf.exists_detour labels
  let t := (i.bindings.acquire b.labels i.config.constants).1
  let k := (i.bindings.acquire b.labels i.config.constants).2
  let m₁ := m.modifyInstrument place fun i => { i with bindings := t }
  have bound : m.bind place b.labels = ⟨.ok k, m₁, []⟩ := by rw [bind, found]
  have found₁ : m₁.instruments[place]? = some { i with bindings := t } :=
    Place.getElem?_modify_eq_some.mpr ⟨i, found, (if_pos rfl).symm⟩
  refine ⟨k, m₁, bound, rfl, Option.isSome_of_eq_some found₁, ?_, ?_⟩
  · have accept : ({ i with bindings := t } : Instrument).accept value = i.accept value := rfl
    rw [recordBound, found₁, record, found]
    simp only [show t.made[k]? = some b from made, accept]
    cases i.accept value with
    | error e => rfl
    | ok _ =>
        simp only [standing, Bool.false_eq_true, if_false, effective]
        rfl
  · rw [unbind, found₁]
    simp only [show t.made[k]? = some b from made, show t.release k = _ from released]
    cases isBound : i.bindings.find? b.labels with
    | some identity =>
        have more : remaining ≠ 0 := fun zero => by
          rw [isLast, isBound] at zero
          cases zero
        simp only [Option.isSome_some, if_true, more, if_false]
        rw [modifyInstrument_modifyInstrument, modifyInstrument_self found rfl]
    | none =>
        simp only [Option.isSome_none, Bool.false_eq_true, if_false, isLast.mpr isBound,
          if_true]
        rw [modifyInstrument_modifyInstrument, retire, modifyInstrument, modifyInstrument,
          Place.modify_eq_set found, Place.modify_eq_set found]
        rfl

end Meter

/-! ## States -/

namespace State

variable {s : State} {i : InstrumentRef} {value : Value} {labels : LabelSet}

/-- The state after a binding of an instrument was made and released. -/
def retire (s : State) (i : InstrumentRef) (labels : LabelSet) : State :=
  match s.meter? i.meter, s.instrument? i with
  | some m, some instrument =>
    { s with meters := s.meters.set i.meter.index (m.retire i.index labels) }.note
      (.bindingReleased m.name instrument.config.name labels)
  | _, _ => s

/-- The state after recording directly, in which one binding was made and released besides if the
labels were not bound. -/
def detoured (s : State) (i : InstrumentRef) (value : Value) (labels : LabelSet) : State :=
  if s.isBound i labels then (s.record i value labels).2
  else (s.record i value labels).2.retire i labels

/-- **Recording through a binding made for the purpose**, against recording directly. -/
structure Detour (s : State) (i : InstrumentRef) (value : Value) (labels : LabelSet) (h : Handle)
    (s₁ s₂ s₃ : State) : Prop where
  bound : s.bind i labels = (.ok h, s₁)
  /-- The answer is the same. -/
  recorded : s₁.recordBound h value = ((s.record i value labels).1, s₂)
  released : s₂.unbind i h = (.ok (), s₃)
  /-- The same passage reaches the gate, with the labels that choose the stripe. -/
  passage : ∃ m m₁, s.meter? i.meter = some m ∧ s₁.meter? i.meter = some m₁ ∧
    (m₁.recordBound i.index h.identity value).output = (m.record i.index value labels).output
  /-- The sinks are told the same, all of it by the record. -/
  sinks : s₁.sinks = s.sinks ∧ s₂.sinks = (s.record i value labels).2.sinks ∧ s₃.sinks = s₂.sinks
  /-- Nothing else is changed, but that one binding was made and released if the labels were not
  bound. -/
  final : s₃ = s.detoured i value labels
  /-- The tables have the same entries as before. -/
  entries : ∀ j, (s₃.instrument? j).map (fun instrument => instrument.bindings.live) =
    (s.instrument? j).map fun instrument => instrument.bindings.live
  /-- Every binding made before has its labels and its count as before. -/
  bindings : ∀ h b, s.binding? h = some b → s₃.binding? h = some b

private theorem atMeter_of_meter?
    {α : Type} {r : MeterRef} {m m₁ : Meter} (request : Meter → Outcome α)
    {answer : Except Failure α} {output : List Output} (found : s.meter? r = some m)
    (outcome : request m = ⟨answer, m₁, output⟩) : s.atMeter r request =
      (answer, { s.giveAll m.sink output with meters := s.meters.set r.index m₁ }) := by
  rw [atMeter, found]
  simp only [outcome, giveAll_setMeters]

private theorem bind_of_meter? {m m₁ : Meter} {k : Nat} (found : s.meter? i.meter = some m)
    (bound : m.bind i.index labels = ⟨.ok k, m₁, []⟩) :
    s.bind i labels = (.ok ⟨i, k⟩, { s with meters := s.meters.set i.meter.index m₁ }) := by
  have outcome : (m.bind i.index labels).map (Handle.mk i) = ⟨.ok ⟨i, k⟩, m₁, []⟩ := by
    rw [bound]
    rfl
  exact atMeter_of_meter? (fun m => (m.bind i.index labels).map (Handle.mk i)) found outcome

/-- An instrument releases a handle of its own. -/
theorem unbind_of_instrument? {instrument : Instrument} (found : s.instrument? i = some instrument)
    (k : Nat) : s.unbind i ⟨i, k⟩ = s.atMeter i.meter fun meter => meter.unbind i.index k := by
  simp only [State.unbind, found, if_true]

private theorem record_of_meter? {m : Meter} (found : s.meter? i.meter = some m) (value : Value)
    (labels : LabelSet) : s.record i value labels =
      ((m.record i.index value labels).answer,
        s.giveAll m.sink (m.record i.index value labels).output) := by
  have unchanged : m.record i.index value labels =
      ⟨(m.record i.index value labels).answer, m, (m.record i.index value labels).output⟩ := by
    rcases m.record_cases i.index value labels with ⟨e, failed, _⟩ | ⟨_, _, _, outcome⟩
    · rw [failed]
      rfl
    · rw [outcome]
  rw [State.record, atMeter_of_meter? (fun m => m.record i.index value labels) found unchanged,
    setMeter_self found, ← s.meters_giveAll m.sink (m.record i.index value labels).output]

/-- Recording changes no meter. -/
theorem meters_record (s : State) (i : InstrumentRef) (value : Value) (labels : LabelSet) :
    (s.record i value labels).2.meters = s.meters := by
  cases found : s.meter? i.meter with
  | none => rw [State.record, atMeter, found]
  | some m =>
      rw [record_of_meter? found]
      exact s.meters_giveAll _ _

/-- A record leaves every instrument as it is. -/
theorem instrument?_record (s : State) (i : InstrumentRef) (value : Value) (labels : LabelSet)
    (j : InstrumentRef) : (s.record i value labels).2.instrument? j = s.instrument? j := by
  rw [instrument?, meter?, meters_record, instrument?, meter?]

private theorem sinks_retire (s : State) (i : InstrumentRef) (labels : LabelSet) :
    (s.retire i labels).sinks = s.sinks := by
  rw [retire]
  split <;> rfl

/-- Once a binding is retired, only the table of the instrument that it belonged to has changed. -/
theorem retire_of_meter? {m : Meter} {instrument : Instrument}
    (found : s.meter? i.meter = some m) (placed : m.instruments[i.index]? = some instrument)
    (labels : LabelSet) : s.retire i labels =
      { s with meters := s.meters.set i.meter.index (m.retire i.index labels) }.note
        (.bindingReleased m.name instrument.config.name labels) := by
  rw [retire, found, instrument?_eq_some.mpr ⟨m, found, placed⟩]

/-- Of all the instruments only the one bound is another afterwards. -/
theorem instrument?_retire (s : State) (i : InstrumentRef) (labels : LabelSet) (j : InstrumentRef) :
    (s.retire i labels).instrument? j = (s.instrument? j).map fun instrument =>
      if j = i then
        { instrument with
          bindings := instrument.bindings.retire labels instrument.config.constants }
      else instrument := by
  cases found : s.instrument? i with
  | none =>
      have same : s.retire i labels = s := by
        rw [retire, found]
        cases s.meter? i.meter <;> rfl
      rw [same]
      by_cases here : j = i
      · rw [here, found]
        rfl
      · simp [here]
  | some instrument =>
      obtain ⟨m, standing, placed⟩ := instrument?_eq_some.mp found
      rw [retire_of_meter? standing placed]
      change (({ s with meters := s.meters.set i.meter.index (m.retire i.index labels) } :
        State).meter? j.meter).bind (fun m => m.instruments[j.index]?) = _
      rw [meter?_setMeter standing, instrument?]
      obtain ⟨r, place⟩ := j
      by_cases sameMeter : r = i.meter
      · subst sameMeter
        rw [if_pos rfl, Option.bind_some, standing, Option.bind_some, Meter.retire,
          Meter.modifyInstrument, List.getElem?_modify]
        by_cases same : i.index = place
        · subst same
          simp
        · have apart : (⟨i.meter, place⟩ : InstrumentRef) ≠ i := fun here =>
            same (congrArg InstrumentRef.index here).symm
          simp [same, apart]
      · have apart : (⟨r, place⟩ : InstrumentRef) ≠ i := fun here =>
          sameMeter (congrArg InstrumentRef.meter here)
        simp [sameMeter, apart]

/-- A binding made and released shows in no entry of a table. -/
theorem live_retire (s : State) (i : InstrumentRef) (labels : LabelSet) (j : InstrumentRef) :
    ((s.retire i labels).instrument? j).map (fun instrument => instrument.bindings.live) =
      (s.instrument? j).map fun instrument => instrument.bindings.live := by
  rw [instrument?_retire, Option.map_map]
  congr 1
  funext instrument
  rw [Function.comp_apply]
  split <;> rfl

/-- A binding made and released leaves those made before as they are. -/
theorem binding?_retire {h : Handle} {b : Binding} (made : s.binding? h = some b)
    (i : InstrumentRef) (labels : LabelSet) : (s.retire i labels).binding? h = some b := by
  obtain ⟨instrument, found, standing⟩ := Option.bind_eq_some_iff.mp made
  rw [binding?, instrument?_retire, found, Option.map_some, Option.bind_some]
  split
  · exact Place.getElem?_concat_eq_some.mpr (Or.inl standing)
  · exact standing

private theorem sinks_detoured (s : State) (i : InstrumentRef) (value : Value) (labels : LabelSet) :
    (s.detoured i value labels).sinks = (s.record i value labels).2.sinks := by
  rw [detoured]
  split
  · rfl
  · exact sinks_retire ..

/-- The detour leaves every instrument with the bindings that were live before. -/
theorem live_detoured (s : State) (i : InstrumentRef) (value : Value) (labels : LabelSet)
    (j : InstrumentRef) :
    ((s.detoured i value labels).instrument? j).map (fun instrument => instrument.bindings.live) =
      (s.instrument? j).map fun instrument => instrument.bindings.live := by
  rw [← s.instrument?_record i value labels j, detoured]
  split
  · rfl
  · exact live_retire ..

/-- The detour leaves every binding that was made before as it is. -/
theorem binding?_detoured {h : Handle} {b : Binding} (made : s.binding? h = some b)
    (i : InstrumentRef) (value : Value) (labels : LabelSet) :
    (s.detoured i value labels).binding? h = some b := by
  have before : (s.record i value labels).2.binding? h = some b := by
    rw [binding?, instrument?_record]
    exact made
  rw [detoured]
  split
  · exact before
  · exact binding?_retire before i labels

/-- **A detour is a direct record**, at every instrument of a sound state. -/
theorem exists_detour (sound : s.Sound) {instrument : Instrument}
    (found : s.instrument? i = some instrument) (value : Value) (labels : LabelSet) :
    ∃ h s₁ s₂ s₃, Detour s i value labels h s₁ s₂ s₃ := by
  obtain ⟨m, standing, placed⟩ := instrument?_eq_some.mp found
  obtain ⟨k, m₁, bound, sink, there, recorded, released⟩ :=
    m.exists_detour placed (sound.instruments i instrument found).bound value labels
  have direct := record_of_meter? standing value labels
  -- The state with the meter bound, before and after the record.
  let s₁ : State := { s with meters := s.meters.set i.meter.index m₁ }
  let s₂ := s₁.giveAll m.sink (m.record i.index value labels).output
  have standing₁ : s₁.meter? i.meter = some m₁ :=
    (meter?_setMeter standing m₁ i.meter).trans (if_pos rfl)
  have given : s₂ = { (s.record i value labels).2 with
      meters := s.meters.set i.meter.index m₁ } := by
    rw [direct]
    exact s.giveAll_setMeters m.sink _ _
  have standing₂ : s₂.meter? i.meter = some m₁ := by
    rw [given]
    exact standing₁
  have afterwards := s.meters_record i value labels
  have standing' : (s.record i value labels).2.meter? i.meter = some m := by
    rw [meter?, afterwards]
    exact standing
  have second : s₁.recordBound ⟨i, k⟩ value = ((s.record i value labels).1, s₂) := by
    rw [State.recordBound, atMeter_of_meter? (fun m => m.recordBound i.index k value) standing₁
      recorded, setMeter_self standing₁, sink,
      ← s₁.meters_giveAll m.sink (m.record i.index value labels).output, direct]
  have third : s₂.unbind i ⟨i, k⟩ = s₂.atMeter i.meter fun meter => meter.unbind i.index k := by
    obtain ⟨j, isThere⟩ := Option.isSome_iff_exists.mp there
    exact unbind_of_instrument? (instrument?_eq_some.mpr ⟨m₁, standing₂, isThere⟩) k
  have isBound : s.isBound i labels = (instrument.bindings.find? labels).isSome := by
    rw [State.isBound, found, Option.bind_some]
  refine ⟨⟨i, k⟩, s₁, s₂, s.detoured i value labels, bind_of_meter? standing bound, second, ?_,
    ⟨m, m₁, standing, standing₁, by rw [recorded]⟩, ⟨rfl, by rw [given], ?_⟩, rfl,
    s.live_detoured i value labels, fun h b made => binding?_detoured made i value labels⟩
  · rw [detoured, third]
    rw [← isBound] at released
    cases was : s.isBound i labels with
    | true =>
        rw [was, if_pos rfl] at released
        rw [atMeter_of_meter? (fun m => m.unbind i.index k) standing₂ released, given, if_pos rfl]
        simp only [List.set_set, setMeter_self standing]
        rw [← afterwards]
        rfl
    | false =>
        rw [was, if_neg Bool.false_ne_true] at released
        rw [atMeter_of_meter? (fun m => m.unbind i.index k) standing₂ released, given,
          if_neg Bool.false_ne_true, retire_of_meter? standing' placed]
        simp only [List.set_set, afterwards]
        rfl
  · rw [given]
    exact s.sinks_detoured i value labels

end State

end Metering
