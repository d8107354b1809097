import Metering.Instrument.Config

/-!
# The journal

Every change of interest leaves an entry in the journal: meters created, instruments registered or
refused, bindings released, batches recorded, observers collected, and what the sinks that write to
the journal were told. An entry has a level, a message and named data.
-/

namespace Metering

/-- The severity of a journal entry or a span. -/
inductive Level where
  | error
  | warn
  | info
  | debug
  | trace
deriving DecidableEq, Inhabited

namespace Level

/-- The name of a level. -/
def name : Level → String
  | .error => "ERROR"
  | .warn => "WARN"
  | .info => "INFO"
  | .debug => "DEBUG"
  | .trace => "TRACE"

/-- The place of a level, from the most severe down. -/
def rank : Level → Nat
  | .error => 0
  | .warn => 1
  | .info => 2
  | .debug => 3
  | .trace => 4

/-- All levels, from the most severe down. -/
def all : List Level :=
  [.error, .warn, .info, .debug, .trace]

/-- The level of a name in capitals. -/
def ofName? (name : String) : Option Level :=
  all.find? fun level => level.name == name

end Level

/-- A measurement as a sink is told it. -/
structure Point where
  descriptor : Descriptor
  labels : LabelSet
  value : Value
deriving DecidableEq, Inhabited

/-- An entry of the journal. -/
inductive Entry where
  | meterCreated (meter : String) (stripes : Nat)
  | instrumentRegistered (meter instrument : String) (kind : Kind) (id : Nat)
  | registrationConflict (meter instrument : String) (existing requested : Kind)
  | bindingReleased (meter instrument : String) (labels : LabelSet)
  | batchRecorded (meter : String) (labels : LabelSet) (batch entries : Nat)
  | observersCollected (meter : String) (observers : Nat)
  | pointReported (level : Level) (batch : Option Nat) (point : Point)
  | batchBeginReported (level : Level) (batch : Nat)
  | batchEndReported (level : Level) (batch : Nat)
deriving DecidableEq

/-- A datum of a journal entry. -/
inductive Datum where
  | number (n : Nat)
  | text (s : String)
deriving DecidableEq

/-- The text of a datum. -/
def Datum.toText : Datum → String
  | .number n => toString n
  | .text s => s

namespace Entry

/-- The level of an entry. -/
def level : Entry → Level
  | .meterCreated .. | .instrumentRegistered .. | .bindingReleased .. | .batchRecorded .. => .debug
  | .registrationConflict .. => .warn
  | .observersCollected .. => .trace
  | .pointReported level .. | .batchBeginReported level _ | .batchEndReported level _ => level

/-- The message of an entry. -/
def message : Entry → String
  | .meterCreated .. => "meter created"
  | .instrumentRegistered .. => "instrument registered"
  | .registrationConflict .. => "conflicting instrument registration"
  | .bindingReleased .. => "binding released"
  | .batchRecorded .. => "batch recorded"
  | .observersCollected .. => "observers collected"
  | .pointReported .. => "metric recorded"
  | .batchBeginReported .. => "metric batch begin"
  | .batchEndReported .. => "metric batch end"

/-- The named data of an entry. -/
def data : Entry → List (String × Datum)
  | .meterCreated meter stripes => [("meter", .text meter), ("stripes", .number stripes)]
  | .instrumentRegistered meter instrument kind id =>
    [("meter", .text meter), ("instrument", .text instrument), ("kind", .text kind.name),
      ("id", .number id)]
  | .registrationConflict meter instrument existing requested =>
    [("meter", .text meter), ("instrument", .text instrument),
      ("existing_kind", .text existing.name), ("requested_kind", .text requested.name)]
  | .bindingReleased meter instrument labels =>
    [("meter", .text meter), ("instrument", .text instrument), ("labels", .text labels.text)]
  | .batchRecorded meter labels batch entries =>
    [("meter", .text meter), ("labels", .text labels.text), ("batch", .number batch),
      ("entries", .number entries)]
  | .observersCollected meter observers =>
    [("meter", .text meter), ("observers", .number observers)]
  | .pointReported _ batch point =>
    (batch.map fun b => ("batch", Datum.number b)).toList ++
      [("meter", .text point.descriptor.meter), ("instrument", .text point.descriptor.name),
        ("kind", .text point.descriptor.kind.name), ("labels", .text point.labels.text),
        ("value", .text point.value.text)]
  | .batchBeginReported _ batch | .batchEndReported _ batch => [("batch", .number batch)]

/-- The instrument that an entry names. -/
def instrument? (e : Entry) : Option String :=
  (e.data.lookup "instrument").map Datum.toText

end Entry

end Metering
