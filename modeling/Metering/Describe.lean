import Metering.State.Basic

/-!
# Descriptions

The text by which each object shows itself to a developer: the name of its sort and its main fields,
with all texts quoted.
-/

namespace Metering

open Text

/-- The description of the wishes for a meter. -/
def MeterSetup.describe (setup : MeterSetup) : String :=
  openForm "MeterBuilder"
    [⟨"name", quote setup.name⟩, ⟨"version", quoteOption setup.version⟩,
      ⟨"batch_stripes", toString setup.stripes⟩]

/-- The description of a configuration that is still being set up. -/
def Config.describe (c : Config) : String :=
  closedForm "InstrumentBuilder"
    [⟨"name", quote c.name⟩, ⟨"description", quoteOption c.description⟩,
      ⟨"unit", quoteOption c.unit⟩, ⟨"label_keys", quoteList c.labelKeys⟩,
      ⟨"constant_labels", c.constants.quoted⟩, ⟨"absolute", ofBool c.absolute⟩]

/-- The description of a descriptor. -/
def Descriptor.describe (d : Descriptor) : String :=
  closedForm "InstrumentDescriptor"
    [⟨"meter", quote d.meter⟩, ⟨"id", "InstrumentId(" ++ toString d.id ++ ")"⟩,
      ⟨"name", quote d.name⟩, ⟨"kind", d.kind.title⟩, ⟨"number_kind", d.number.name⟩,
      ⟨"unit", quoteOption d.unit⟩]

/-- The description of an instrument. -/
def Instrument.describe (i : Instrument) : String :=
  let core := closedForm "InstrumentCore"
    [⟨"descriptor", i.descriptor.describe⟩, ⟨"live_bindings", toString i.bindings.size⟩]
  "Instrument(" ++ core ++ ")"

/-- The description of a binding of an instrument. -/
def Binding.describe (b : Binding) (instrument : Instrument) : String :=
  closedForm "BoundInstrument"
    [⟨"instrument", quote instrument.config.name⟩, ⟨"labels", b.labels.quoted⟩,
      ⟨"refs", toString b.refs⟩, ⟨"released", ofBool b.released⟩]

/-- The description of a registry. -/
def Registry.describe (r : Registry) : String :=
  openForm "MeterRegistry" [⟨"meters", toString r.meters.length⟩]

/-- The description of a meter. -/
def Meter.describe (m : Meter) : String :=
  closedForm "Meter"
    [⟨"name", quote m.name⟩, ⟨"version", quoteOption m.version⟩,
      ⟨"instruments", toString m.instruments.length⟩, ⟨"batch_stripes", toString m.stripes⟩]

/-- The description of a batch recorder of a meter. -/
def Batch.describe (b : Batch) (meter : Meter) : String :=
  closedForm "BatchRecorder"
    [⟨"meter", quote meter.name⟩, ⟨"labels", b.labels.quoted⟩,
      ⟨"entries", toString b.entries.length⟩, ⟨"spent", ofBool b.spent⟩]

namespace State

/-- The description of a handle. -/
def describeHandle (s : State) (h : Handle) : Option String :=
  (s.instrument? h.instrument).bind fun instrument =>
    (s.binding? h).map fun binding => binding.describe instrument

/-- The description of a batch recorder. -/
def describeBatch (s : State) (b : BatchRef) : Option String :=
  (s.meter? b.meter).bind fun meter => (s.batch? b).map fun batch => batch.describe meter

end State

end Metering
