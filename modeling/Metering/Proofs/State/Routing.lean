import Metering.Proofs.State.Giving
import Metering.State.Collection

/-! # Requests and the meters they concern

Most requests name objects of one meter only, their home (`Metering.Operation.home?`). The meter
answers such a request by itself (`Metering.Meter.answer`), and the state is changed by no more than
that (`Metering.State.perform_of_home`). A request that names objects of two meters is turned away
and changes nothing. The others make a meter or a registry.
-/

namespace Metering

/-- The one meter whose objects a request names. -/
def Operation.home? : Operation → Option MeterRef
  | .createMeter _ | .createRegistry _ | .getMeter _ _ => none
  | .build r _ | .openBatch r _ => some r
  | .record i _ _ | .bind i _ | .setCallback i _ => some i.meter
  | .recordBound h _ => some h.instrument.meter
  | .unbind i h => if h.instrument.meter = i.meter then some i.meter else none
  | .put b i _ => if i.meter = b.meter then some b.meter else none
  | .commit b => some b.meter

/-- Answers a request whose home is this meter, which is referred to by `r`. -/
def Meter.answer (m : Meter) (r : MeterRef) : Operation → Outcome Reply
  | .build _ setup => (m.build setup).map fun place => .instrument ⟨r, place⟩
  | .record i value labels => (m.record i.index value labels).map fun _ => .done
  | .bind i labels => (m.bind i.index labels).map fun identity => .handle ⟨⟨r, i.index⟩, identity⟩
  | .recordBound h value =>
    (m.recordBound h.instrument.index h.identity value).map fun _ => .done
  | .unbind i h =>
    match m.instruments[i.index]?, m.instruments[h.instrument.index]? with
    | some instrument, some owner =>
      if h.instrument.index = i.index then (m.unbind i.index h.identity).map fun _ => .done
      else m.refuse (.foreignInstrument owner.config.name instrument.config.name)
    | _, _ => m.fail .absent
  | .openBatch _ labels => (m.openBatch labels).map fun place => .batch ⟨r, place⟩
  | .put b i value =>
    match m.instruments[i.index]? with
    | none => m.fail .absent
    | some _ => (m.put b.index (.own i.index) value).map fun _ => .done
  | .commit b => (m.commit b.index).map fun _ => .done
  | .setCallback i program => (m.setCallback i.index program).map fun _ => .done
  | .createMeter _ | .createRegistry _ | .getMeter _ _ => m.fail .absent

/-- To map an outcome twice is to map it once. -/
theorem Outcome.map_map {α β γ : Type} (o : Outcome α) (f : α → β) (g : β → γ) :
    (o.map f).map g = o.map fun a => g (f a) := by
  obtain ⟨answer, m, output⟩ := o
  cases answer <;> rfl

namespace State

variable {α : Type} {s : State} {r : MeterRef} {operation : Operation}

private theorem reply_atMeter (f : α → Reply) (request : Meter → Outcome α) :
    reply f (s.atMeter r request) = s.atMeter r fun m => (request m).map f := by
  rw [atMeter, atMeter]
  cases s.meter? r <;> rfl

/-- Meters that answer alike where they stand. -/
theorem atMeter_congr {request request' : Meter → Outcome α}
    (alike : ∀ m, s.meter? r = some m → request m = request' m) :
    s.atMeter r request = s.atMeter r request' := by
  rw [atMeter, atMeter]
  cases found : s.meter? r with
  | none => rfl
  | some m => simp only [alike m found]

/-- A meter that turns a request away leaves the state as it is. -/
theorem atMeter_fail {m : Meter} (found : s.meter? r = some m) {request : Meter → Outcome α}
    {e : Failure} (failed : request m = m.fail e) : s.atMeter r request = (.error e, s) := by
  rw [atMeter, found]
  simp only [failed, Meter.fail, setMeter_self found]
  rfl

/-- A value for an instrument of the meter of its batch is put by that meter. -/
theorem put_of_home {b : BatchRef} {i : InstrumentRef} {value : Value}
    (same : i.meter = b.meter) : s.perform (.put b i value) =
      s.atMeter b.meter fun m => m.answer b.meter (.put b i value) := by
  change reply _ (s.put b i value) = _
  rw [put, instrument?, same]
  cases found : s.meter? b.meter with
  | none => simp only [Option.bind_none, reply, atMeter, found, Except.map]
  | some m =>
      rw [Option.bind_some]
      cases placed : m.instruments[i.index]? with
      | none =>
          have failed : m.answer b.meter (.put b i value) = m.fail .absent := by
            rw [Meter.answer, placed]
          rw [atMeter_fail found failed]
          rfl
      | some instrument =>
          simp only [if_true]
          refine (reply_atMeter ..).trans (atMeter_congr fun m' standing => ?_)
          cases found.symm.trans standing
          rw [Meter.answer, placed]

/-- An unbinding by an instrument of the meter of its handle is done by that meter. -/
theorem unbind_of_home {i : InstrumentRef} {h : Handle} (same : h.instrument.meter = i.meter) :
    s.perform (.unbind i h) = s.atMeter i.meter fun m => m.answer i.meter (.unbind i h) := by
  have own : h.instrument = i ↔ h.instrument.index = i.index := by
    obtain ⟨⟨_, _⟩, _⟩ := h
    cases same
    exact ⟨congrArg InstrumentRef.index, congrArg (InstrumentRef.mk i.meter)⟩
  change reply _ (s.unbind i h) = _
  unfold unbind
  rw [instrument?, instrument?, same]
  cases found : s.meter? i.meter with
  | none => simp only [Option.bind_none, reply, atMeter, found, Except.map]
  | some m =>
      rw [Option.bind_some, Option.bind_some]
      cases placed : m.instruments[i.index]? with
      | none =>
          have failed : m.answer i.meter (.unbind i h) = m.fail .absent := by
            simp only [Meter.answer, placed]
          exact (atMeter_fail found failed).symm
      | some instrument =>
          cases placedOwner : m.instruments[h.instrument.index]? with
          | none =>
              have failed : m.answer i.meter (.unbind i h) = m.fail .absent := by
                simp only [Meter.answer, placed, placedOwner]
              exact (atMeter_fail found failed).symm
          | some owner =>
              simp only [own]
              split
              · next equal =>
                  refine (reply_atMeter ..).trans (atMeter_congr fun m' standing => ?_)
                  cases found.symm.trans standing
                  simp only [Meter.answer, placed, placedOwner, if_pos equal]
              · next different =>
                  refine (atMeter_fail found ?_).symm
                  simp only [Meter.answer, placed, placedOwner, if_neg different]
                  rfl

/-- **A request is answered by its home alone.** -/
theorem perform_of_home (home : operation.home? = some r) :
    s.perform operation = s.atMeter r fun m => m.answer r operation := by
  cases operation with
  | createMeter _ | createRegistry _ | getMeter _ _ => cases home
  | build | bind | openBatch =>
      cases home
      refine (reply_atMeter ..).trans (atMeter_congr fun m _ => ?_)
      exact Outcome.map_map ..
  | record | recordBound | commit | setCallback =>
      cases home
      exact reply_atMeter ..
  | put b i value =>
      rw [Operation.home?] at home
      split at home
      · next same =>
          cases home
          exact put_of_home same
      · cases home
  | unbind i h =>
      rw [Operation.home?] at home
      split at home
      · next same =>
          cases home
          exact unbind_of_home same
      · cases home

/-- What building comes to is decided by the meter. -/
theorem perform_build {m : Meter} (standing : s.meter? r = some m) (setup : InstrumentSetup) :
    (s.perform (.build r setup)).1 =
        (m.build setup).answer.map (fun place => .instrument ⟨r, place⟩) ∧
      (s.perform (.build r setup)).2.meter? r = some (m.build setup).meter := by
  rw [perform_of_home (r := r) rfl, atMeter, standing, meter?, meters_giveAll]
  exact ⟨rfl, (meter?_setMeter standing _ r).trans (if_pos rfl)⟩

/-- **A value for an instrument of another meter is turned away**, for the batch being spent if it
is, and nothing is changed. -/
theorem put_of_mixed {b : BatchRef} {i : InstrumentRef} (mixed : i.meter ≠ b.meter)
    (value : Value) : s.perform (.put b i value) =
      (.error (match s.instrument? i, s.meter? b.meter, s.batch? b with
        | some instrument, some m, some batch =>
          .refused (if batch.spent then .batchSpent batch.labels.text
            else .foreignInstrument instrument.config.name m.name)
        | _, _, _ => .absent), s) := by
  change reply _ (s.put b i value) = _
  unfold put
  cases found : s.instrument? i with
  | none => rfl
  | some instrument =>
      simp only [if_neg mixed]
      cases standing : s.meter? b.meter with
      | none =>
          rw [atMeter, standing]
          rfl
      | some m =>
          simp only [batch?, standing, Option.bind_some]
          cases held : m.batches[b.index]? with
          | none =>
              rw [atMeter_fail (e := .absent) standing (by rw [Meter.put, held])]
              rfl
          | some batch =>
              have failed : m.put b.index (.foreign instrument.config.name) value =
                  m.fail (.refused (if batch.spent then .batchSpent batch.labels.text
                    else .foreignInstrument instrument.config.name m.name)) := by
                simp only [Meter.put, held]
                split <;> rfl
              rw [atMeter_fail standing failed]
              rfl

/-- **A handle of another instrument is turned away**, and nothing is changed. -/
theorem unbind_of_mixed {i : InstrumentRef} {h : Handle} (mixed : h.instrument ≠ i) :
    s.perform (.unbind i h) =
      (.error (match s.instrument? i, s.instrument? h.instrument with
        | some instrument, some owner =>
          .refused (.foreignInstrument owner.config.name instrument.config.name)
        | _, _ => .absent), s) := by
  change reply _ (s.unbind i h) = _
  unfold unbind
  cases s.instrument? i with
  | none => rfl
  | some instrument =>
      cases s.instrument? h.instrument with
      | none => rfl
      | some owner =>
          simp only [if_neg mixed]
          rfl

/-- A request without a home makes a registry, makes or finds a meter, or fails and changes
nothing. -/
theorem perform_of_homeless (homeless : operation.home? = none) :
    (∃ setup, operation = .createMeter setup) ∨ (∃ k, operation = .createRegistry k) ∨
    (∃ k name, operation = .getMeter k name) ∨ ∃ e, s.perform operation = (.error e, s) := by
  cases operation with
  | createMeter setup => exact Or.inl ⟨setup, rfl⟩
  | createRegistry k => exact Or.inr (Or.inl ⟨k, rfl⟩)
  | getMeter k name => exact Or.inr (Or.inr (Or.inl ⟨k, name, rfl⟩))
  | put b i value =>
      have mixed : i.meter ≠ b.meter := fun same => by
        rw [Operation.home?, if_pos same] at homeless
        cases homeless
      exact Or.inr (Or.inr (Or.inr ⟨_, put_of_mixed mixed value⟩))
  | unbind i h =>
      have mixed : h.instrument ≠ i := fun same => by
        rw [Operation.home?, same, if_pos rfl] at homeless
        cases homeless
      exact Or.inr (Or.inr (Or.inr ⟨_, unbind_of_mixed mixed⟩))
  | build | record | bind | recordBound | openBatch | commit | setCallback => cases homeless

end State

end Metering
