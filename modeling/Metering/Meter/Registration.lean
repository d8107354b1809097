import Metering.Instrument.Name
import Metering.Meter.Basic

/-!
# Registering instruments

A name is registered once: building it again gives the same instrument when the configurations are
equal in every part, and is refused otherwise, with a warning in the journal. Instruments are
numbered in order of registration, and a refused request takes no number.
-/

namespace Metering.Meter

/-- The place of the instrument that has a name. -/
def find? (m : Meter) (name : String) : Option (Fin m.instruments.length) :=
  m.instruments.findFinIdx? fun i => i.config.name == name

/-- Adds an instrument under the next number; the answer is its place. -/
def add (m : Meter) (config : Config) : Outcome Nat :=
  let instrument : Instrument :=
    { descriptor := config.descriptor m.name m.nextInstrument, config := config
      bindings := .empty, callback := none }
  { answer := .ok m.instruments.length
    meter :=
      { m with
        nextInstrument := m.nextInstrument + 1
        instruments := m.instruments ++ [instrument] }
    output := [.noted (.instrumentRegistered m.name config.name config.kind m.nextInstrument)] }

/-- Registers a configuration, or finds the instrument registered with an equal one. -/
def register (m : Meter) (config : Config) : Outcome Nat :=
  match m.find? config.name with
  | none => m.add config
  | some place =>
    let existing := m.instruments[place].config
    if existing = config then ⟨.ok place, m, []⟩
    else
      ⟨.error (.refused (.conflictingRegistration config.name)), m,
        [.noted (.registrationConflict m.name config.name existing.kind config.kind)]⟩

/-- Builds an instrument: the name is checked first, then the configuration is registered. -/
def build (m : Meter) (setup : InstrumentSetup) : Outcome Nat :=
  match Name.validate setup.config.name with
  | .error e => m.refuse e
  | .ok () => m.register setup.config

end Metering.Meter
