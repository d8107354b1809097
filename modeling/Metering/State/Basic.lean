import Metering.Meter.Basic

/-!
# The state of all objects

Sinks, meters and registries, each in order of creation, and the journal. A request to a meter
changes that meter alone; what the meter gives out goes to its sink and to the journal, in order,
and a sink that writes to the journal does so at once.
-/

namespace Metering

/-- A registry: the meters made on demand, by name, that share a sink. -/
structure Registry where
  sink : SinkRef
  meters : List (String × MeterRef)
deriving DecidableEq, Inhabited

/-- The state of all objects. -/
structure State where
  sinks : List Sink
  meters : List Meter
  registries : List Registry
  journal : List Entry

namespace State

/-- The state without objects. -/
def empty : State := ⟨[], [], [], []⟩

instance : Inhabited State := ⟨empty⟩

/-- The sink that is referred to. -/
def sink? (s : State) (k : SinkRef) : Option Sink :=
  s.sinks[k.index]?

/-- The meter that is referred to. -/
def meter? (s : State) (m : MeterRef) : Option Meter :=
  s.meters[m.index]?

/-- The registry that is referred to. -/
def registryAt? (s : State) (r : RegistryRef) : Option Registry :=
  s.registries[r.index]?

/-- The instrument that is referred to. -/
def instrument? (s : State) (i : InstrumentRef) : Option Instrument :=
  (s.meter? i.meter).bind fun m => m.instruments[i.index]?

/-- The batch recorder that is referred to. -/
def batch? (s : State) (b : BatchRef) : Option Batch :=
  (s.meter? b.meter).bind fun m => m.batches[b.index]?

/-- The binding that a handle stands for. -/
def binding? (s : State) (h : Handle) : Option Binding :=
  (s.instrument? h.instrument).bind fun i => i.bindings.made[h.identity]?

/-- The state with one more journal entry. -/
def note (s : State) (entry : Entry) : State :=
  { s with journal := s.journal ++ [entry] }

/-- The state after a sink was told something. -/
def deliver (s : State) (k : SinkRef) (delivery : Delivery) : State :=
  match s.sink? k with
  | none => s
  | some sink =>
    { s with
      sinks := s.sinks.set k.index (sink.receive delivery)
      journal := s.journal ++ sink.reports delivery }

/-- The state after something was given out to a sink or to the journal. -/
def give (s : State) (k : SinkRef) : Output → State
  | .passed number passage =>
    (passage.deliveries number).foldl (fun s delivery => s.deliver k delivery) s
  | .noted entry => s.note entry

/-- The state after several things were given out in turn. -/
def giveAll (s : State) (k : SinkRef) (output : List Output) : State :=
  output.foldl (fun s out => s.give k out) s

/-- Makes a request of one meter. -/
def atMeter {α : Type} (s : State) (m : MeterRef) (request : Meter → Outcome α) :
    Except Failure α × State :=
  match s.meter? m with
  | none => (.error .absent, s)
  | some meter =>
    let outcome := request meter
    (outcome.answer,
      { s with meters := s.meters.set m.index outcome.meter }.giveAll meter.sink outcome.output)

end State

end Metering
