import Metering.Proofs.State.Routing
import Metering.State.Order

/-! # Requests moved to another meter

A meter answers a request by the places that the request names, not by the reference under which the
meter itself stands. So the same request, made of the same meter standing elsewhere, comes to the
same, and the answer names the new reference (`Metering.Meter.answer_moveTo`).
-/

namespace Metering

variable {r : MeterRef} (target : MeterRef)

/-- The instrument at the same place of another meter. -/
def InstrumentRef.moveTo (i : InstrumentRef) : InstrumentRef :=
  ⟨target, i.index⟩

/-- The batch recorder at the same place of another meter. -/
def BatchRef.moveTo (b : BatchRef) : BatchRef :=
  ⟨target, b.index⟩

/-- The binding of the same identity, of the instrument at the same place of another meter. -/
def Handle.moveTo (h : Handle) : Handle :=
  ⟨h.instrument.moveTo target, h.identity⟩

/-- The request with all that it names of meters moved to another meter. -/
def Operation.moveTo : Operation → Operation
  | .build _ setup => .build target setup
  | .record i value labels => .record (i.moveTo target) value labels
  | .bind i labels => .bind (i.moveTo target) labels
  | .recordBound h value => .recordBound (h.moveTo target) value
  | .unbind i h => .unbind (i.moveTo target) (h.moveTo target)
  | .openBatch _ labels => .openBatch target labels
  | .put b i value => .put (b.moveTo target) (i.moveTo target) value
  | .commit b => .commit (b.moveTo target)
  | .setCallback i program => .setCallback (i.moveTo target) program
  | .createMeter setup => .createMeter setup
  | .createRegistry k => .createRegistry k
  | .getMeter k name => .getMeter k name

/-- The answer with all that it names of meters moved to another meter. -/
def Reply.moveTo : Reply → Reply
  | .meter _ => .meter target
  | .instrument i => .instrument (i.moveTo target)
  | .handle h => .handle (h.moveTo target)
  | .batch b => .batch (b.moveTo target)
  | .done => .done
  | .sink k => .sink k
  | .registry k => .registry k
  | .text t => .text t

/-- What came of a collection, with all that it names moved to another meter. -/
def Collection.moveTo (c : Collection) : Collection :=
  ⟨c.ran, c.calls.map fun (observer, answer) =>
    (observer.moveTo target, answer.map (Reply.moveTo target))⟩

/-- The answer to a command, with all that it names moved to another meter. -/
def Answer.moveTo : Answer → Answer
  | .replied answer => .replied (answer.map (Reply.moveTo target))
  | .collected answer => .collected (answer.map (Collection.moveTo target))

/-- The command with all that it names of meters moved to another meter. -/
def OrderedCommand.moveTo : OrderedCommand → OrderedCommand
  | .createSink sink => .createSink sink
  | .perform operation => .perform (operation.moveTo target)
  | .collect _ order => .collect target order

/-- A request moved to another meter is at home there. -/
theorem Operation.home?_moveTo {operation : Operation} (home : operation.home? = some r) :
    (operation.moveTo target).home? = some target := by
  cases operation with
  | createMeter | createRegistry | getMeter => cases home
  | unbind i h => exact if_pos rfl
  | put b i value => exact if_pos rfl
  | build | record | bind | recordBound | openBatch | commit | setCallback => rfl

/-- **A meter comes to the same wherever it stands.** -/
theorem Meter.answer_moveTo (m : Meter) {operation : Operation}
    (home : operation.home? = some r) :
    m.answer target (operation.moveTo target) =
      (m.answer r operation).map (Reply.moveTo target) := by
  cases operation with
  | createMeter | createRegistry | getMeter => cases home
  | build | bind | openBatch | record | recordBound | commit | setCallback =>
      simp only [answer, Outcome.map_map]
      rfl
  | put b i value =>
      simp only [Operation.moveTo, answer, InstrumentRef.moveTo, BatchRef.moveTo]
      cases m.instruments[i.index]? with
      | none => rfl
      | some _ =>
          simp only [Outcome.map_map]
          rfl
  | unbind i h =>
      simp only [Operation.moveTo, answer, InstrumentRef.moveTo, Handle.moveTo]
      cases m.instruments[i.index]? with
      | none => rfl
      | some instrument =>
          cases m.instruments[h.instrument.index]? with
          | none => rfl
          | some owner =>
              simp only
              split
              · rw [Outcome.map_map]
                rfl
              · rfl

end Metering
