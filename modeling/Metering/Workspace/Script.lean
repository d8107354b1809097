import Metering.Workspace.Basic

/-!
# Scripts

The single steps that scripts are made of. Each looks at its operands in the order of its
parameters, so that the first one at fault decides the failure, and gives a name to what it makes
only if it succeeds.
-/

namespace Metering

/-- What a script learns about a meter. -/
structure MeterReport where
  name : String
  version : Option String
  stripes : Nat
  instruments : Nat
deriving DecidableEq

/-- What a script learns about an instrument. -/
structure InstrumentReport where
  config : Config
  descriptor : Descriptor
  boundCount : Nat
deriving DecidableEq

/-- What a script learns about a handle. -/
structure HandleReport where
  instrument : String
  binding : Binding
deriving DecidableEq

/-- Labels as a script gives them: by name, or as a flat list of keys and values. -/
inductive LabelsOperand where
  | named (name : String)
  | flat (texts : List String)
deriving DecidableEq

/-- Where a new label set comes from. A flat list and a mapping can be handed to a meter, given by
name, which must then be there. -/
inductive LabelsSource where
  | nothing
  | flat (meter : Option String) (texts : List String)
  | mapping (meter : Option String) (pairs : Option (List (String × String)))
  | pairs (pairs : List (String × String))
deriving DecidableEq

/-- An observation that a callback is asked to make. -/
structure ObservationRequest where
  value : Value
  labels : LabelsOperand
deriving DecidableEq

/-- What a callback is asked to do, with its objects by name. The callback of an instrument that is
spawned only makes observations. -/
inductive ActionRequest where
  | observe (observation : ObservationRequest)
  | record (instrument : String) (value : Value) (labels : LabelsOperand)
  | build (meter : String) (setup : InstrumentSetup)
  | spawn (meter : String) (setup : InstrumentSetup) (observations : List ObservationRequest)
  | replace (actions : List ActionRequest)
  | describe

namespace State

/-- The report on a meter. -/
def meterReport (s : State) (m : MeterRef) : Option MeterReport :=
  (s.meter? m).map fun meter =>
    ⟨meter.name, meter.version, meter.stripes, meter.instruments.length⟩

/-- The report on an instrument. -/
def instrumentReport (s : State) (i : InstrumentRef) : Option InstrumentReport :=
  (s.instrument? i).map fun instrument =>
    ⟨instrument.config, instrument.descriptor, instrument.bindings.size⟩

/-- The report on a handle. -/
def handleReport (s : State) (h : Handle) : Option HandleReport :=
  (s.instrument? h.instrument).bind fun instrument =>
    (s.binding? h).map fun binding => ⟨instrument.config.name, binding⟩

/-- The description of any object. -/
def describe (s : State) : Object → Option String
  | .sink _ => none
  | .meter m => (s.meter? m).map Meter.describe
  | .registry r => (s.registryAt? r).map Registry.describe
  | .labels set => some set.quoted
  | .instrument i => (s.instrument? i).map Instrument.describe
  | .handle h => s.describeHandle h
  | .batch b => s.describeBatch b

end State

namespace Script

/-- The label set of an operand. -/
def labels : LabelsOperand → Script LabelSet
  | .named name => do
    match ← object name with
    | .labels set => pure set
    | _ => throw .absent
  | .flat texts => ofExcept (LabelSet.ofFlat texts)

/-- The sink of a name, or the silent one. -/
def sinkOrSilent : Option String → Script SinkRef
  | none => do pure (← get).silent
  | some name => sink name

/-- Makes a sink. -/
def createSink (id : String) (s : Sink) : Script Unit := do
  let w ← get
  let (k, state) := w.state.createSink s
  set { w with state := state, sinkNames := w.sinkNames ++ [(k, id)] }
  give id (.sink k)

/-- Makes a meter; the answer has the description of what was wished for. -/
def createMeter (id name : String) (version sinkName : Option String) (stripes : Option Nat) :
    Script (MeterReport × String) := do
  let k ← sinkOrSilent sinkName
  let setup : MeterSetup := ⟨name, version, k, stripes.getD Stripe.default⟩
  let m ← lift (·.createMeter setup)
  give id (.meter m)
  pure (← look (·.meterReport m), setup.describe)

/-- Gives a second name to a meter. -/
def cloneMeter (id name : String) : Script Unit := do
  give id (.meter (← meter name))

/-- Reports on a meter. -/
def meterReport (name : String) : Script MeterReport := do
  let m ← meter name
  look (·.meterReport m)

/-- Whether two names stand for one meter. -/
def sameMeter (a b : String) : Script Bool := do
  pure ((← meter a) == (← meter b))

/-- Makes a registry; the answer is the number of its meters. -/
def createRegistry (id : String) (sinkName : Option String) : Script Nat := do
  let k ← sinkOrSilent sinkName
  let r ← lift (·.createRegistry k)
  give id (.registry r)
  let registry ← look (·.registryAt? r)
  pure registry.meters.length

/-- Gets a meter of a registry; the answer has the number of the registry's meters. -/
def getMeter (registryName name id : String) : Script (MeterReport × Nat) := do
  let r ← registry registryName
  let m ← lift (·.getMeter r name)
  give id (.meter m)
  let registry ← look (·.registryAt? r)
  pure (← look (·.meterReport m), registry.meters.length)

/-- Gets a meter of the shared registry twice; the answer tells whether it was the same meter, and
the number of the registry's meters. -/
def getSharedMeter (name : String) : Script (Bool × MeterReport × Nat) := do
  let r := (← get).shared
  let first ← lift (·.getMeter r name)
  let second ← lift (·.getMeter r name)
  let registry ← look (·.registryAt? r)
  pure (first == second, ← look (·.meterReport first), registry.meters.length)

/-- Fails if a meter is named that is not there. -/
def requireMeter : Option String → Script Unit
  | none => pure ()
  | some name => do
    let _ ← meter name

/-- The label set of a source. -/
def labelsFrom : LabelsSource → Script LabelSet
  | .nothing => pure .empty
  | .flat meterName texts => do
    requireMeter meterName
    ofExcept (LabelSet.ofFlat texts)
  | .mapping meterName pairs => do
    requireMeter meterName
    ofExcept (LabelSet.ofMapping pairs)
  | .pairs pairs => pure (LabelSet.ofList pairs)

/-- Makes a label set. -/
def createLabels (id : String) (source : LabelsSource) : Script LabelSet := do
  let set ← labelsFrom source
  give id (.labels set)
  pure set

/-- Makes a label set from one that is overridden by another. -/
def mergeLabels (a b : LabelsOperand) (id : String) : Script LabelSet := do
  let left ← labels a
  let right ← labels b
  let set := left.mergedWith right
  give id (.labels set)
  pure set

/-- The value of a key of a label set. -/
def labelValue (operand : LabelsOperand) (key : String) : Script (Option String) := do
  pure ((← labels operand).get? key)

/-- Whether two label sets are equal. -/
def sameLabels (a b : LabelsOperand) : Script Bool := do
  let left ← labels a
  let right ← labels b
  pure (left == right)

/-- Builds an instrument; the answer has the description of the configuration wished for. -/
def build (meterName id : String) (setup : InstrumentSetup) :
    Script (InstrumentReport × String) := do
  let m ← meter meterName
  let i ← lift (·.build m setup)
  give id (.instrument i)
  pure (← look (·.instrumentReport i), setup.config.describe)

/-- Reports on an instrument. -/
def instrumentReport (name : String) : Script InstrumentReport := do
  let i ← instrument name
  look (·.instrumentReport i)

/-- Gives a second name to an instrument. -/
def cloneInstrument (name id : String) : Script Unit := do
  give id (.instrument (← instrument name))

/-- Fails unless two instruments agree in kind and number. -/
def matchTypes (a b : InstrumentRef) : Script Unit := do
  let left ← look (·.instrument? a)
  let right ← look (·.instrument? b)
  if left.config.kind = right.config.kind ∧ left.config.number = right.config.number then pure ()
  else throw .mistyped

/-- Whether two names stand for one instrument. -/
def sameInstrument (a b : String) : Script Bool := do
  let left ← instrument a
  let right ← instrument b
  matchTypes left right
  pure (left == right)

/-- Records a value. -/
def record (name : String) (value : Value) (operand : LabelsOperand) : Script Unit := do
  let i ← instrument name
  let set ← labels operand
  lift (·.record i value set)

/-- Binds labels to an instrument. -/
def bind (operand : LabelsOperand) (name id : String) : Script HandleReport := do
  let set ← labels operand
  let i ← instrument name
  let h ← lift (·.bind i set)
  give id (.handle h)
  look (·.handleReport h)

/-- Gives a second name to a handle. -/
def cloneHandle (name id : String) : Script HandleReport := do
  let h ← handle name
  give id (.handle h)
  look (·.handleReport h)

/-- Reports on a handle. -/
def handleReport (name : String) : Script HandleReport := do
  let h ← handle name
  look (·.handleReport h)

/-- Whether two names stand for one binding. -/
def sameHandle (a b : String) : Script Bool := do
  let left ← handle a
  let right ← handle b
  matchTypes left.instrument right.instrument
  pure (left == right)

/-- Records a value through a handle. -/
def recordBound (name : String) (value : Value) : Script Unit := do
  let h ← handle name
  lift (·.recordBound h value)

/-- Releases a handle once; the answer has the number of live bindings of the instrument. -/
def unbind (name handleName : String) : Script (Nat × HandleReport) := do
  let i ← instrument name
  let h ← handle handleName
  lift (·.unbind i h)
  let report ← look (·.instrumentReport i)
  pure (report.boundCount, ← look (·.handleReport h))

/-- How often a handle is held through an instrument. -/
def refCount (name handleName : String) : Script Nat := do
  let i ← instrument name
  let h ← handle handleName
  pure ((← get).state.refCount i h)

/-- Opens a batch. -/
def openBatch (meterName : String) (operand : LabelsOperand) (id : String) : Script Batch := do
  let m ← meter meterName
  let set ← labels operand
  let b ← lift (·.openBatch m set)
  give id (.batch b)
  look (·.batch? b)

/-- Reports on a batch recorder. -/
def batchReport (name : String) : Script Batch := do
  let b ← batch name
  look (·.batch? b)

/-- Puts values into a batch in turn; the first refusal is the last answer. -/
def putAll (b : BatchRef) : List (InstrumentRef × Value) → Script (List (Except Error Unit))
  | [] => pure []
  | (i, value) :: rest => do
    let w ← get
    match w.state.put b i value with
    | (.ok (), state) =>
      set { w with state := state }
      pure (.ok () :: (← putAll b rest))
    | (.error (.refused e), state) =>
      set { w with state := state }
      pure [.error e]
    | (.error e, _) => throw e

/-- Puts values for named instruments into a batch. -/
def put (items : List (String × Value)) (name : String) :
    Script (List (Except Error Unit) × Batch) := do
  let entries ← items.mapM fun (item, value) => do pure (← instrument item, value)
  let b ← batch name
  let answers ← putAll b entries
  pure (answers, ← look (·.batch? b))

/-- Commits a batch. -/
def commit (name : String) : Script Batch := do
  let b ← batch name
  lift (·.commit b)
  look (·.batch? b)

/-- Resolves the names in an observation. -/
def resolveObservation (request : ObservationRequest) : Script Action := do
  pure (.observe request.value (← labels request.labels))

mutual

/-- Resolves the names in what a callback is asked to do. -/
def resolve : ActionRequest → Script Action
  | .observe request => resolveObservation request
  | .record name value operand => do
    let i ← instrument name
    pure (.perform (.record i value (← labels operand)))
  | .build name setup => do pure (.perform (.build (← meter name) setup))
  | .spawn name setup observations => do
    let m ← meter name
    pure (.spawn m setup (← observations.mapM resolveObservation))
  | .replace actions => do pure (.replace (← resolveAll actions))
  | .describe => pure .describe

/-- Resolves the names in a whole program. -/
def resolveAll : List ActionRequest → Script (List Action)
  | [] => pure []
  | request :: rest => do
    let action ← resolve request
    pure (action :: (← resolveAll rest))

end

/-- Sets the callback of an observer. -/
def setCallback (name : String) (requests : List ActionRequest) : Script Unit := do
  let i ← instrument name
  let program ← resolveAll requests
  lift (·.setCallback i program)

/-- Whether an observer has a callback. -/
def hasCallback (name : String) : Script Bool := do
  let i ← instrument name
  let instrument ← look (·.instrument? i)
  pure instrument.callback.isSome

/-- What a callback answered to one of its actions. -/
inductive CallAnswer where
  | done
  | built (descriptor : Descriptor)
  | text (s : String)
  | failed (e : Failure)
deriving DecidableEq

/-- The answer to an action, with references looked up. -/
def CallAnswer.ofReply (s : State) : Except Failure Reply → CallAnswer
  | .error e => .failed e
  | .ok (.instrument i) =>
    ((s.instrument? i).map fun i => .built i.descriptor).getD (.failed .absent)
  | .ok (.text t) => .text t
  | .ok _ => .done

/-- Collects the observers of a meter; the answer has each call under the name of its observer,
ordered by that name. -/
def collect (name : String) : Script (Nat × List (String × CallAnswer)) := do
  let m ← meter name
  let collection ← lift (·.collect m)
  let s := (← get).state
  let calls := collection.calls.filterMap fun (observer, answer) =>
    (s.instrument? observer).map fun i => (i.config.name, CallAnswer.ofReply s answer)
  pure (collection.ran, calls.mergeSort fun a b => decide (a.1 ≤ b.1))

/-- A sink that keeps what it receives, by name. -/
def keptSink (name : String) : Script Sink := do
  let k ← sink name
  match ← look (·.sink? k) with
  | .recording kept => pure (.recording kept)
  | _ => throw .absent

/-- The deliveries a recording sink has kept. -/
def sinkDeliveries (name : String) : Script (List Delivery) := do
  pure (← keptSink name).deliveries

/-- The points a recording sink has kept. -/
def sinkPoints (name : String) : Script (List Point) := do
  pure (← keptSink name).points

/-- The points of a batch that a recording sink has kept, if any recording sink ever saw a batch of
that number begin. -/
def sinkBatch (name : String) (number : Nat) : Script (Option (List Point)) := do
  let s ← keptSink name
  if (← get).begun.contains number then pure (some (s.batchEntries number)) else pure none

/-- Empties a recording sink. -/
def clearSink (name : String) : Script Unit := do
  let k ← sink name
  let _ ← keptSink name
  modify fun w => { w with
    state := { w.state with sinks := w.state.sinks.modify k.index Sink.clear } }

/-- Describes an object. -/
def describe (name : String) : Script String := do
  let o ← object name
  look (·.describe o)

/-- Forgets a name; the answer tells whether it was in use. -/
def forget (name : String) : Script Bool := do
  let known := ((← get).names.lookup name).isSome
  modify fun w => w.forget name
  pure known

end Script

end Metering
