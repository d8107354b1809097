import Metering.Meter.Batching
import Metering.Meter.Registration
import Metering.State.Basic

/-!
# Operations on the state

Meters and registries are made here; everything else is a request to the one meter it is about. Two
requests can name objects of two meters: a batch may be offered an instrument of another meter, and
an instrument may be asked to release a handle that is not its own. Both are refused.
-/

namespace Metering.State

/-- A new sink. -/
def createSink (s : State) (sink : Sink) : SinkRef × State :=
  (⟨s.sinks.length⟩, { s with sinks := s.sinks ++ [sink] })

/-- A new meter as wished for, reporting to an existing sink. -/
def createMeter (s : State) (setup : MeterSetup) : Except Failure MeterRef × State :=
  match s.sink? setup.sink with
  | none => (.error .absent, s)
  | some _ =>
    (.ok ⟨s.meters.length⟩,
      { s with meters := s.meters ++ [Meter.ofSetup setup] }.note
        (.meterCreated setup.name (Stripe.count setup.stripes)))

/-- A new registry whose meters report to an existing sink. -/
def createRegistry (s : State) (sink : SinkRef) : Except Failure RegistryRef × State :=
  match s.sink? sink with
  | none => (.error .absent, s)
  | some _ =>
    (.ok ⟨s.registries.length⟩, { s with registries := s.registries ++ [⟨sink, []⟩] })

/-- The meter of a registry that has a name, made when there is none. -/
def getMeter (s : State) (r : RegistryRef) (name : String) : Except Failure MeterRef × State :=
  match s.registryAt? r with
  | none => (.error .absent, s)
  | some registry =>
    match registry.meters.lookup name with
    | some m => (.ok m, s)
    | none =>
      match s.createMeter ⟨name, none, registry.sink, Stripe.default⟩ with
      | (.error e, s) => (.error e, s)
      | (.ok m, s) =>
        (.ok m,
          { s with
            registries := s.registries.modify r.index fun registry =>
              { registry with meters := registry.meters ++ [(name, m)] } })

/-- Builds an instrument of a meter. -/
def build (s : State) (m : MeterRef) (setup : InstrumentSetup) :
    Except Failure InstrumentRef × State :=
  s.atMeter m fun meter => (meter.build setup).map (InstrumentRef.mk m)

/-- Records a value with labels. -/
def record (s : State) (i : InstrumentRef) (value : Value) (labels : LabelSet) :
    Except Failure Unit × State :=
  s.atMeter i.meter fun meter => meter.record i.index value labels

/-- Binds labels to an instrument. -/
def bind (s : State) (i : InstrumentRef) (labels : LabelSet) : Except Failure Handle × State :=
  s.atMeter i.meter fun meter => (meter.bind i.index labels).map (Handle.mk i)

/-- Records a value under the labels of a handle. -/
def recordBound (s : State) (h : Handle) (value : Value) : Except Failure Unit × State :=
  s.atMeter h.instrument.meter fun meter =>
    meter.recordBound h.instrument.index h.identity value

/-- Releases a handle once through an instrument, which must be its own. -/
def unbind (s : State) (i : InstrumentRef) (h : Handle) : Except Failure Unit × State :=
  match s.instrument? i, s.instrument? h.instrument with
  | some instrument, some owner =>
    if h.instrument = i then s.atMeter i.meter fun meter => meter.unbind i.index h.identity
    else
      (.error (.refused (.foreignInstrument owner.config.name instrument.config.name)), s)
  | _, _ => (.error .absent, s)

/-- How often a handle is held through an instrument; never through one that is not its own. -/
def refCount (s : State) (i : InstrumentRef) (h : Handle) : Nat :=
  if h.instrument = i then ((s.binding? h).map Binding.refs).getD 0 else 0

/-- A new batch recorder of a meter. -/
def openBatch (s : State) (m : MeterRef) (labels : LabelSet) : Except Failure BatchRef × State :=
  s.atMeter m fun meter => (meter.openBatch labels).map (BatchRef.mk m)

/-- Puts a value for an instrument into a batch. -/
def put (s : State) (b : BatchRef) (i : InstrumentRef) (value : Value) :
    Except Failure Unit × State :=
  match s.instrument? i with
  | none => (.error .absent, s)
  | some instrument =>
    let offer := if i.meter = b.meter then .own i.index else .foreign instrument.config.name
    s.atMeter b.meter fun meter => meter.put b.index offer value

/-- Commits a batch. -/
def commit (s : State) (b : BatchRef) : Except Failure Unit × State :=
  s.atMeter b.meter fun meter => meter.commit b.index

/-- Sets the callback of an observer. -/
def setCallback (s : State) (i : InstrumentRef) (program : List Action) :
    Except Failure Unit × State :=
  s.atMeter i.meter fun meter => meter.setCallback i.index program

end Metering.State
