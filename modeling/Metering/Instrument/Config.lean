import Metering.LabelSet
import Metering.Number.Value

/-!
# Configuration of instruments

What an instrument is, fixed when it is built: its name, its kind, the kind of number it takes and
five optional settings. Each setting starts from a default, and the last time it is set decides.
The wish for non-negative values is a setting of measures alone.
-/

namespace Metering

/-- The kinds of instruments. -/
inductive Kind where
  | counter
  | gauge
  | measure
  | observer
deriving DecidableEq, Inhabited

/-- The name of a kind in descriptors and logs. -/
def Kind.name : Kind → String
  | .counter => "counter"
  | .gauge => "gauge"
  | .measure => "measure"
  | .observer => "observer"

/-- The name of a kind as a title. -/
def Kind.title : Kind → String
  | .counter => "Counter"
  | .gauge => "Gauge"
  | .measure => "Measure"
  | .observer => "Observer"

/-- The configuration of an instrument. -/
structure Config where
  name : String
  kind : Kind
  number : NumberKind
  description : Option String
  unit : Option String
  labelKeys : List String
  constants : LabelSet
  absolute : Bool
deriving DecidableEq

/-- One setting of an instrument. -/
inductive Setting where
  | description (text : String)
  | unit (text : String)
  | labelKeys (keys : List String)
  | constants (pairs : List (String × String))
  | absolute (flag : Bool)
deriving DecidableEq

namespace Config

/-- The configuration without any setting. -/
def draft (name : String) (kind : Kind) (number : NumberKind) : Config where
  name := name
  kind := kind
  number := number
  description := none
  unit := none
  labelKeys := []
  constants := .empty
  absolute := false

/-- The configuration after one more setting; only a measure can be absolute. -/
def apply (c : Config) : Setting → Config
  | .description text => { c with description := some text }
  | .unit text => { c with unit := some text }
  | .labelKeys keys => { c with labelKeys := keys }
  | .constants pairs => { c with constants := LabelSet.ofList pairs }
  | .absolute flag => if c.kind = .measure then { c with absolute := flag } else c

/-- The configuration after settings in the order given. -/
def ofSettings (name : String) (kind : Kind) (number : NumberKind) (settings : List Setting) :
    Config :=
  settings.foldl apply (draft name kind number)

/-- Whether the instrument takes only values of at least zero. -/
def requiresNonNegative (c : Config) : Bool :=
  c.kind == .measure && c.absolute

/-- Refuses a value below zero where the instrument takes none. -/
def checkValue (c : Config) (value : Value) : Except Error Unit :=
  if c.requiresNonNegative && !value.isNonNegative then
    .error (.negativeValue c.name value.text)
  else
    .ok ()

end Config

/-- What a sink is told about an instrument. Meter and number identify it; the rest is frozen when
the instrument is registered. -/
structure Descriptor where
  meter : String
  id : Nat
  name : String
  kind : Kind
  number : NumberKind
  unit : Option String
deriving DecidableEq, Inhabited

/-- The descriptor of an instrument of a meter. -/
def Config.descriptor (c : Config) (meter : String) (id : Nat) : Descriptor where
  meter := meter
  id := id
  name := c.name
  kind := c.kind
  number := c.number
  unit := c.unit

end Metering
