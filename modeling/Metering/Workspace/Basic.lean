import Metering.Describe
import Metering.State.Collection

/-!
# Workspaces

A workspace is a state whose objects have been given names, all in one namespace, so that a script
can speak of them. A script may fail, and leaves a workspace behind either way. The running of a
script is watched: the report tells what the sinks received and what the journal gained meanwhile.
-/

namespace Metering

/-- What a name can stand for. -/
inductive Object where
  | sink (k : SinkRef)
  | meter (m : MeterRef)
  | registry (r : RegistryRef)
  | labels (set : LabelSet)
  | instrument (i : InstrumentRef)
  | handle (h : Handle)
  | batch (b : BatchRef)
deriving DecidableEq

/-- A state with names for its objects. Every sink ever made keeps the name it was made under. -/
structure Workspace where
  state : State
  names : List (String × Object)
  sinkNames : List (SinkRef × String)
  begun : List Nat
  silent : SinkRef
  shared : RegistryRef

/-- A script: what it does to a workspace, and its answer. -/
abbrev Script (α : Type) := ExceptT Failure (StateM Workspace) α

namespace Workspace

/-- The workspace before the first step: a silent sink and the shared registry that uses it. -/
def initial : Workspace where
  state := { State.empty with sinks := [.silent], registries := [⟨⟨0⟩, []⟩] }
  names := []
  sinkNames := []
  begun := []
  silent := ⟨0⟩
  shared := ⟨0⟩

/-- The workspace with a name given to an object, in place of any it had. -/
def give (w : Workspace) (name : String) (object : Object) : Workspace :=
  { w with names := (name, object) :: w.names.filter fun entry => entry.1 != name }

/-- The workspace without a name. -/
def forget (w : Workspace) (name : String) : Workspace :=
  { w with names := w.names.filter fun entry => entry.1 != name }

end Workspace

namespace Script

/-- The answer that must be there, or a failure for want of an object. -/
def need {α : Type} : Option α → Script α
  | some a => pure a
  | none => throw .absent

/-- Runs an operation on the state. -/
def lift {α : Type} (f : State → Except Failure α × State) : Script α := do
  let w ← get
  let (answer, state) := f w.state
  set { w with state := state }
  match answer with
  | .ok a => pure a
  | .error e => throw e

/-- Looks at the state. -/
def look {α : Type} (f : State → Option α) : Script α := do
  need (f (← get).state)

/-- Refuses with an error of the domain. -/
def ofExcept {α : Type} : Except Error α → Script α
  | .ok a => pure a
  | .error e => throw (.refused e)

/-- Gives a name to an object. -/
def give (name : String) (object : Object) : Script Unit :=
  modify fun w => w.give name object

/-- The object of a name. -/
def object (name : String) : Script Object := do
  need ((← get).names.lookup name)

/-- The sink of a name. -/
def sink (name : String) : Script SinkRef := do
  match ← object name with
  | .sink k => pure k
  | _ => throw .absent

/-- The meter of a name. -/
def meter (name : String) : Script MeterRef := do
  match ← object name with
  | .meter m => pure m
  | _ => throw .absent

/-- The registry of a name. -/
def registry (name : String) : Script RegistryRef := do
  match ← object name with
  | .registry r => pure r
  | _ => throw .absent

/-- The instrument of a name. -/
def instrument (name : String) : Script InstrumentRef := do
  match ← object name with
  | .instrument i => pure i
  | _ => throw .absent

/-- The handle of a name. -/
def handle (name : String) : Script Handle := do
  match ← object name with
  | .handle h => pure h
  | _ => throw .absent

/-- The batch recorder of a name. -/
def batch (name : String) : Script BatchRef := do
  match ← object name with
  | .batch b => pure b
  | _ => throw .absent

end Script

/-- What a watched sink received: all deliveries of a recording sink, the points of a plain one. -/
inductive Sighting where
  | recorded (sink : String) (delivery : Delivery)
  | plain (sink : String) (point : Point)
deriving DecidableEq

/-- The name of the instrument that was sighted. -/
def Sighting.instrument : Sighting → String
  | .recorded _ delivery => (delivery.point?.map fun p => p.descriptor.name).getD ""
  | .plain _ p => p.descriptor.name

/-- The answer of a script, and what was seen while it ran. -/
structure Report (α : Type) where
  answer : Except Failure α
  sightings : List Sighting
  entries : List Entry

namespace Workspace

/-- What one sink received since it had kept less. -/
def sightingsOf (before : State) (after : State) (k : SinkRef) (name : String) : List Sighting :=
  let kept := (((before.sink? k).map Sink.deliveries).getD []).length
  match after.sink? k with
  | some (.recording deliveries) => (deliveries.drop kept).map (.recorded name)
  | some (.plain points) => (points.drop kept).map (.plain name)
  | _ => []

/-- The batches begun among sightings. -/
def batchesBegun (sightings : List Sighting) : List Nat :=
  sightings.filterMap fun
    | .recorded _ (.batchBegin batch) => some batch
    | _ => none

/-- Runs a script and reports on it. -/
def run {α : Type} (w : Workspace) (script : Script α) : Report α × Workspace :=
  let (answer, after) := StateT.run (m := Id) (ExceptT.run script) w
  let sightings := after.sinkNames.flatMap fun (k, name) =>
    sightingsOf w.state after.state k name
  let entries := after.state.journal.drop w.state.journal.length
  (⟨answer, sightings, entries⟩, { after with begun := after.begun ++ batchesBegun sightings })

end Workspace

namespace Report

/-- The report with its sightings ordered by instrument, and its journal entries by the instrument
they name, those that name none last. Within one instrument the order stays as it was. -/
def byInstrument {α : Type} (r : Report α) : Report α :=
  { r with
    sightings := r.sightings.mergeSort fun a b => decide (a.instrument ≤ b.instrument)
    entries := r.entries.mergeSort fun a b =>
      match a.instrument?, b.instrument? with
      | some a, some b => decide (a ≤ b)
      | none, some _ => false
      | _, none => true }

end Report

end Metering
