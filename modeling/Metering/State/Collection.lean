import Metering.State.Operations

/-!
# Performing requests and collecting observers

`State.perform` answers any request. Collecting the observers of a meter runs their callbacks as
they stand when the collection begins: what a callback builds, sets or replaces is first run by the
next collection.
-/

namespace Metering

/-- The answer to a request or to an action of a callback. -/
inductive Reply where
  | done
  | sink (k : SinkRef)
  | meter (m : MeterRef)
  | instrument (i : InstrumentRef)
  | handle (h : Handle)
  | batch (b : BatchRef)
  | registry (r : RegistryRef)
  | text (s : String)
deriving DecidableEq

/-- The text by which a callback can show the result it reports to. -/
def Instrument.resultText (i : Instrument) : String :=
  Text.closedForm "ObserverResult" [⟨"instrument", Text.quote i.config.name⟩]

/-- What came of collecting the observers of a meter: the number of callbacks run, and the answer
to each action with the instrument whose callback did it. -/
structure Collection where
  ran : Nat
  calls : List (InstrumentRef × Except Failure Reply)

/-- The answer with its value changed, and the state as it is. -/
def reply {α : Type} (f : α → Reply) (done : Except Failure α × State) :
    Except Failure Reply × State :=
  (done.1.map f, done.2)

namespace State

/-- Answers a request. -/
def perform (s : State) : Operation → Except Failure Reply × State
  | .createMeter setup => reply .meter (s.createMeter setup)
  | .createRegistry sink => reply .registry (s.createRegistry sink)
  | .getMeter r name => reply .meter (s.getMeter r name)
  | .build m setup => reply .instrument (s.build m setup)
  | .record i value labels => reply (fun _ => .done) (s.record i value labels)
  | .bind i labels => reply .handle (s.bind i labels)
  | .recordBound h value => reply (fun _ => .done) (s.recordBound h value)
  | .unbind i h => reply (fun _ => .done) (s.unbind i h)
  | .openBatch m labels => reply .batch (s.openBatch m labels)
  | .put b i value => reply (fun _ => .done) (s.put b i value)
  | .commit b => reply (fun _ => .done) (s.commit b)
  | .setCallback i program => reply (fun _ => .done) (s.setCallback i program)

/-- Does one action of the callback of an observer. -/
def act (s : State) (observer : InstrumentRef) : Action → Except Failure Reply × State
  | .observe value labels => s.perform (.record observer value labels)
  | .perform operation => s.perform operation
  | .spawn m setup program =>
    match s.build m setup with
    | (.error e, s) => (.error e, s)
    | (.ok i, s) => reply (fun _ => .instrument i) (s.setCallback i program)
  | .replace program => s.perform (.setCallback observer program)
  | .describe =>
    match s.instrument? observer with
    | none => (.error .absent, s)
    | some i => (.ok (.text i.resultText), s)

/-- Does the actions of a callback in turn, going on after one that fails. -/
def runProgram (s : State) (observer : InstrumentRef) :
    List Action → List (Except Failure Reply) × State
  | [] => ([], s)
  | action :: rest =>
    let (answer, s) := s.act observer action
    let (answers, s) := s.runProgram observer rest
    (answer :: answers, s)

/-- The observers of a meter that have a callback, with the callback as it stands. -/
def snapshot (s : State) (m : MeterRef) : List (InstrumentRef × List Action) :=
  match s.meter? m with
  | none => []
  | some meter => meter.callbacks.map fun (place, program) => (⟨m, place⟩, program)

/-- Runs callbacks in the order given. -/
def runCallbacks (s : State) :
    List (InstrumentRef × List Action) → List (InstrumentRef × Except Failure Reply) × State
  | [] => ([], s)
  | (observer, program) :: rest =>
    let (answers, s) := s.runProgram observer program
    let (later, s) := s.runCallbacks rest
    (answers.map (observer, ·) ++ later, s)

/-- Collects the observers of a meter by running callbacks in the order given. -/
def collectInOrder (s : State) (m : MeterRef) (callbacks : List (InstrumentRef × List Action)) :
    Except Failure Collection × State :=
  match s.meter? m with
  | none => (.error .absent, s)
  | some meter =>
    let (calls, s) := s.runCallbacks callbacks
    (.ok ⟨callbacks.length, calls⟩, s.note (.observersCollected meter.name callbacks.length))

/-- Collects the observers of a meter in order of registration. -/
def collect (s : State) (m : MeterRef) : Except Failure Collection × State :=
  s.collectInOrder m (s.snapshot m)

end State

end Metering
