import Metering.Instrument.Config
import Metering.Reference
import Metering.Stripe

/-!
# Operations

The requests that can be made of the meters, their instruments, handles, batch recorders and
registries. The callback of an observer is a program of actions: it observes values of its own
instrument, and makes requests of its own, the setting of further callbacks among them.
-/

namespace Metering

/-- The wishes for a new meter. -/
structure MeterSetup where
  name : String
  version : Option String
  sink : SinkRef
  stripes : Nat
deriving DecidableEq

/-- The wishes for a new instrument. -/
structure InstrumentSetup where
  name : String
  kind : Kind
  number : NumberKind
  settings : List Setting
deriving DecidableEq

/-- The configuration that the wishes come to. -/
def InstrumentSetup.config (setup : InstrumentSetup) : Config :=
  Config.ofSettings setup.name setup.kind setup.number setup.settings

mutual

/-- A request. -/
inductive Operation where
  | createMeter (setup : MeterSetup)
  | build (meter : MeterRef) (setup : InstrumentSetup)
  | record (instrument : InstrumentRef) (value : Value) (labels : LabelSet)
  | bind (instrument : InstrumentRef) (labels : LabelSet)
  | recordBound (handle : Handle) (value : Value)
  | unbind (instrument : InstrumentRef) (handle : Handle)
  | openBatch (meter : MeterRef) (labels : LabelSet)
  | put (batch : BatchRef) (instrument : InstrumentRef) (value : Value)
  | commit (batch : BatchRef)
  | setCallback (observer : InstrumentRef) (program : List Action)
  | createRegistry (sink : SinkRef)
  | getMeter (registry : RegistryRef) (name : String)

/-- What a callback does. -/
inductive Action where
  | observe (value : Value) (labels : LabelSet)
  | perform (operation : Operation)
  | spawn (meter : MeterRef) (setup : InstrumentSetup) (program : List Action)
  | replace (program : List Action)
  | describe

end

instance : Inhabited Action := ⟨.describe⟩

end Metering
