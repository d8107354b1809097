import Metering.Proofs.Meter.Requests
import Metering.Proofs.State.Routing

/-! # What a meter does with a request

A meter turns a request away, which changes nothing and is noted in the journal at most, or it does
the one thing asked for (`Metering.Meter.does_answer`).
-/

namespace Metering

/-- Entries noted deliver nothing. -/
theorem Output.flatMap_deliveries_noted (entries : List Entry) :
    (entries.map Output.noted).flatMap Output.deliveries = [] :=
  List.flatMap_eq_nil_iff.mpr fun _ member => by
    obtain ⟨_, _, rfl⟩ := List.mem_map.mp member
    rfl

namespace Meter

/-- **What a meter does with a request**, by the outcome: the meter is referred to by `r`. -/
inductive Does (m : Meter) (r : MeterRef) : Operation → Outcome Reply → Prop where
  | refused {operation : Operation} (e : Failure) (warnings : List Entry) :
      Does m r operation ⟨.error e, m, warnings.map .noted⟩
  | found {setup : InstrumentSetup} (place : Nat) (i : Instrument)
      (standing : m.instruments[place]? = some i) (equal : i.config = setup.config) :
      Does m r (.build r setup) ⟨.ok (.instrument ⟨r, place⟩), m, []⟩
  | registered {setup : InstrumentSetup}
      (free : ∀ i ∈ m.instruments, i.config.name ≠ setup.config.name) :
      Does m r (.build r setup) ⟨.ok (.instrument ⟨r, m.instruments.length⟩),
        (m.add setup.config).meter, (m.add setup.config).output⟩
  | recorded {i : InstrumentRef} {value : Value} {labels : LabelSet} (instrument : Instrument)
      (standing : m.instruments[i.index]? = some instrument) (takes : instrument.config.Takes value) :
      Does m r (.record i value labels)
        ⟨.ok .done, m, [.passed 0 (.single labels (instrument.pointWith labels value))]⟩
  | recordedBound {h : Handle} {value : Value} (instrument : Instrument) (binding : Binding)
      (standing : m.instruments[h.instrument.index]? = some instrument)
      (made : instrument.bindings.made[h.identity]? = some binding)
      (takes : instrument.config.Takes value) :
      Does m r (.recordBound h value) ⟨.ok .done, m,
        [.passed 0 (.single binding.labels (instrument.point binding.effective value))]⟩
  | bound {i : InstrumentRef} {labels : LabelSet} (table : BindingTable) (identity : Nat) :
      Does m r (.bind i labels) ⟨.ok (.handle ⟨⟨r, i.index⟩, identity⟩),
        m.modifyInstrument i.index fun i => { i with bindings := table }, []⟩
  | unbound {i : InstrumentRef} {h : Handle} (table : BindingTable) (entries : List Entry) :
      Does m r (.unbind i h) ⟨.ok .done,
        m.modifyInstrument i.index fun i => { i with bindings := table }, entries.map .noted⟩
  | called {i : InstrumentRef} {program : List Action} (instrument : Instrument)
      (standing : m.instruments[i.index]? = some instrument)
      (observer : instrument.config.kind = .observer) :
      Does m r (.setCallback i program) ⟨.ok .done,
        m.modifyInstrument i.index fun i => { i with callback := some program }, []⟩
  | opened {labels : LabelSet} :
      Does m r (.openBatch r labels) ⟨.ok (.batch ⟨r, m.batches.length⟩),
        { m with batches := m.batches ++ [⟨labels, [], false⟩] }, []⟩
  | put {b : BatchRef} {i : InstrumentRef} {value : Value} (batch : Batch) (instrument : Instrument)
      (home : i.meter = r) (own : b.meter = r)
      (held : m.batches[b.index]? = some batch) (unspent : batch.spent = false)
      (standing : m.instruments[i.index]? = some instrument) (takes : instrument.config.Takes value) :
      Does m r (.put b i value) ⟨.ok .done, m.modifyBatch b.index fun batch =>
        { batch with entries := putEntry i.index value batch.entries }, []⟩
  | committed {b : BatchRef} (batch : Batch) (own : b.meter = r)
      (held : m.batches[b.index]? = some batch) (unspent : batch.spent = false) :
      Does m r (.commit b) ⟨.ok .done,
        { m.modifyBatch b.index (fun batch => { batch with spent := true }) with
          nextBatch := m.nextBatch + 1 },
        [.passed m.nextBatch (.batch batch.labels (m.batchPoints batch)),
          .noted (.batchRecorded m.name batch.labels m.nextBatch (m.batchPoints batch).length)]⟩

variable {r : MeterRef} (m : Meter)

private theorem does_of_fail {α : Type} {operation : Operation} {outcome : Outcome α} {e : Failure}
    (f : α → Reply) (failed : outcome = m.fail e) : m.Does r operation (outcome.map f) := by
  rw [failed]
  exact .refused e []

private theorem does_build (setup : InstrumentSetup) :
    m.Does r (.build r setup) ((m.build setup).map fun place => .instrument ⟨r, place⟩) := by
  rcases m.build_cases setup with ⟨_, _, failed⟩ | ⟨_, registered⟩
  · exact m.does_of_fail _ failed
  · rw [registered]
    rcases m.register_cases setup.config with
      ⟨_, _, _, _, _, outcome⟩ | ⟨place, i, standing, equal, outcome⟩ | ⟨free, outcome⟩
    · rw [outcome]
      exact .refused _ [_]
    · rw [outcome]
      exact .found place i standing equal
    · rw [outcome]
      exact .registered free

private theorem does_unbind (i : InstrumentRef) (h : Handle) :
    m.Does r (.unbind i h) (m.answer r (.unbind i h)) := by
  rw [Meter.answer]
  split
  · split
    · rcases m.unbind_cases i.index h.identity with
        ⟨_, failed, _⟩ | ⟨owner, binding, table, remaining, _, _, _, outcome⟩
      · exact m.does_of_fail _ failed
      · rw [outcome]
        by_cases last : remaining = 0
        · rw [if_pos last]
          exact .unbound table [_]
        · rw [if_neg last]
          exact .unbound table []
    · exact .refused _ []
  · exact .refused _ []

private theorem does_put {b : BatchRef} {i : InstrumentRef} (home : i.meter = r) (own : b.meter = r)
    (value : Value) : m.Does r (.put b i value) (m.answer r (.put b i value)) := by
  rw [Meter.answer]
  split
  · exact .refused _ []
  · rcases m.put_cases b.index (.own i.index) value with
      ⟨_, failed, _⟩ | ⟨batch, place, instrument, held, unspent, same, standing, takes, outcome⟩
    · exact m.does_of_fail _ failed
    · cases same
      rw [outcome]
      exact .put batch instrument home own held unspent standing takes

/-- **A meter turns a request away, or does what is asked for.** -/
theorem does_answer {operation : Operation} (home : operation.home? = some r) :
    m.Does r operation (m.answer r operation) := by
  cases operation with
  | createMeter | createRegistry | getMeter => cases home
  | build owner setup =>
      cases home
      exact m.does_build setup
  | record i value labels =>
      rw [Meter.answer]
      rcases m.record_cases i.index value labels with
        ⟨_, failed, _⟩ | ⟨instrument, standing, takes, outcome⟩
      · exact m.does_of_fail _ failed
      · rw [outcome]
        exact .recorded instrument standing takes
  | bind i labels =>
      rw [Meter.answer]
      rcases m.bind_cases i.index labels with failed | ⟨instrument, standing, outcome⟩
      · exact m.does_of_fail _ failed
      · rw [outcome]
        exact .bound ..
  | recordBound h value =>
      rw [Meter.answer]
      rcases m.recordBound_cases h.instrument.index h.identity value with
        ⟨_, failed, _⟩ | ⟨instrument, binding, standing, made, takes, _, outcome⟩
      · exact m.does_of_fail _ failed
      · rw [outcome]
        exact .recordedBound instrument binding standing made takes
  | unbind i h => exact m.does_unbind i h
  | openBatch owner labels =>
      cases home
      exact .opened
  | put b i value =>
      rw [Operation.home?] at home
      split at home
      · next same =>
          cases home
          exact m.does_put same rfl value
      · cases home
  | commit b =>
      rw [Meter.answer]
      rcases m.commit_cases b.index with ⟨_, failed, _⟩ | ⟨batch, held, unspent, outcome⟩
      · exact m.does_of_fail _ failed
      · cases home
        rw [outcome]
        exact .committed batch rfl held unspent
  | setCallback i program =>
      rw [Meter.answer]
      rcases m.setCallback_cases i.index program with
        ⟨_, failed, _⟩ | ⟨instrument, standing, observer, outcome⟩
      · exact m.does_of_fail _ failed
      · rw [outcome]
        exact .called instrument standing observer

end Meter

end Metering
