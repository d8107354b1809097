/-!
# References

Objects refer to one another by their place, in order of creation: sinks, meters and registries
among all of their sort, instruments and batch recorders among those of their meter, and bindings
among those ever made of their instrument. Two references are equal exactly when they refer to the
same object.
-/

namespace Metering

/-- A reference to a sink. -/
structure SinkRef where
  index : Nat
deriving DecidableEq, Inhabited

/-- A reference to a meter. -/
structure MeterRef where
  index : Nat
deriving DecidableEq, Inhabited

/-- A reference to an instrument of a meter. -/
structure InstrumentRef where
  meter : MeterRef
  index : Nat
deriving DecidableEq, Inhabited

/-- A reference to a batch recorder of a meter. -/
structure BatchRef where
  meter : MeterRef
  index : Nat
deriving DecidableEq, Inhabited

/-- A reference to a registry. -/
structure RegistryRef where
  index : Nat
deriving DecidableEq, Inhabited

/-- A reference to a binding of an instrument, by the binding's identity. -/
structure Handle where
  instrument : InstrumentRef
  identity : Nat
deriving DecidableEq, Inhabited

end Metering
