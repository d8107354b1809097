import Metering.Instrument.Binding
import Metering.Operation
import Metering.Passage

/-!
# Meters

A meter is a namespace of instruments that reports to one sink. It holds its instruments and its
batch recorders, each in order of creation, and numbers instruments and batches from zero. A request
to a meter comes to an answer, the meter afterwards, and what the meter gives out; nothing outside
the meter is changed but by what is given out.
-/

namespace Metering

/-- An instrument of a meter, with its bindings and the callback that collects it. -/
structure Instrument where
  descriptor : Descriptor
  config : Config
  bindings : BindingTable
  callback : Option (List Action)

/-- A recorder of one batch: values for distinct instruments of its meter, given by their places,
that share caller-given labels. -/
structure Batch where
  labels : LabelSet
  entries : List (Nat × Value)
  spent : Bool
deriving DecidableEq, Inhabited

/-- A meter. The next numbers of instruments and of batches have no bound here: a meter that keeps
them in words of 64 bits is described as long as it has drawn fewer than `2 ^ 64` of either. -/
structure Meter where
  name : String
  version : Option String
  sink : SinkRef
  stripes : Nat
  nextInstrument : Nat
  nextBatch : Nat
  instruments : List Instrument
  batches : List Batch

/-- What a request to a meter comes to. -/
structure Outcome (α : Type) where
  answer : Except Failure α
  meter : Meter
  output : List Output

namespace Meter

/-- A meter without instruments, as wished for. -/
def ofSetup (setup : MeterSetup) : Meter where
  name := setup.name
  version := setup.version
  sink := setup.sink
  stripes := Stripe.count setup.stripes
  nextInstrument := 0
  nextBatch := 0
  instruments := []
  batches := []

/-- The meter with one instrument changed. -/
def modifyInstrument (m : Meter) (index : Nat) (f : Instrument → Instrument) : Meter :=
  { m with instruments := m.instruments.modify index f }

/-- The meter with one batch recorder changed. -/
def modifyBatch (m : Meter) (index : Nat) (f : Batch → Batch) : Meter :=
  { m with batches := m.batches.modify index f }

/-- A request that changes nothing and gives out nothing. -/
def fail {α : Type} (m : Meter) (e : Failure) : Outcome α :=
  ⟨.error e, m, []⟩

/-- A request refused by the rules of the domain, which changes nothing and gives out nothing. -/
def refuse {α : Type} (m : Meter) (e : Error) : Outcome α :=
  m.fail (.refused e)

end Meter

namespace Outcome

/-- The outcome with its answer changed. -/
def map {α β : Type} (f : α → β) (o : Outcome α) : Outcome β :=
  ⟨o.answer.map f, o.meter, o.output⟩

end Outcome

end Metering
