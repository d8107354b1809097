import Metering.Meter.Basic

/-!
# Recording points

A value is recorded directly with labels, or through a binding of labels made beforehand. Either way
the value is checked, the caller's labels are overridden by the constants of the instrument, and the
sink is told of one point. A refused value reaches no sink.
-/

namespace Metering

namespace Instrument

/-- The point of an instrument under labels already overridden by its constants. -/
def point (i : Instrument) (labels : LabelSet) (value : Value) : Point :=
  ⟨i.descriptor, labels, value⟩

/-- The point of an instrument under caller-given labels. -/
def pointWith (i : Instrument) (labels : LabelSet) (value : Value) : Point :=
  i.point (labels.mergedWith i.config.constants) value

/-- Turns away a value that the instrument does not take. -/
def accept (i : Instrument) (value : Value) : Except Failure Unit :=
  if value.kind = i.config.number then (i.config.checkValue value).mapError .refused
  else .error .mistyped

/-- The refusal to record through a binding that was released. -/
def bindingReleased (i : Instrument) (b : Binding) : Error :=
  .bindingReleased i.config.name b.labels.text

/-- The refusal to release a binding that does not stand in the table. -/
def unknownBinding (i : Instrument) (b : Binding) : Error :=
  .unknownBinding i.config.name b.labels.text

end Instrument

namespace Meter

/-- Records a value of the instrument at a place, with labels. -/
def record (m : Meter) (place : Nat) (value : Value) (labels : LabelSet) : Outcome Unit :=
  match m.instruments[place]? with
  | none => m.fail .absent
  | some i =>
    match i.accept value with
    | .error e => m.fail e
    | .ok () => ⟨.ok (), m, [.passed 0 (.single labels (i.pointWith labels value))]⟩

/-- Binds labels to the instrument at a place; the answer is the identity of the binding. -/
def bind (m : Meter) (place : Nat) (labels : LabelSet) : Outcome Nat :=
  match m.instruments[place]? with
  | none => m.fail .absent
  | some i =>
    let (table, identity) := i.bindings.acquire labels i.config.constants
    ⟨.ok identity, m.modifyInstrument place fun i => { i with bindings := table }, []⟩

/-- Records a value through a binding. The value is checked first, then whether the binding still
stands. -/
def recordBound (m : Meter) (place identity : Nat) (value : Value) : Outcome Unit :=
  match m.instruments[place]? with
  | none => m.fail .absent
  | some i =>
    match i.bindings.made[identity]? with
    | none => m.fail .absent
    | some binding =>
      match i.accept value with
      | .error e => m.fail e
      | .ok () =>
        if binding.released then m.refuse (i.bindingReleased binding)
        else
          ⟨.ok (), m, [.passed 0 (.single binding.labels (i.point binding.effective value))]⟩

/-- Releases a binding of the instrument at a place once. -/
def unbind (m : Meter) (place identity : Nat) : Outcome Unit :=
  match m.instruments[place]? with
  | none => m.fail .absent
  | some i =>
    match i.bindings.made[identity]? with
    | none => m.fail .absent
    | some binding =>
      match i.bindings.release identity with
      | none => m.refuse (i.unknownBinding binding)
      | some (table, remaining) =>
        { answer := .ok ()
          meter := m.modifyInstrument place fun i => { i with bindings := table }
          output :=
            if remaining = 0 then
              [.noted (.bindingReleased m.name i.config.name binding.labels)]
            else [] }

/-- Sets the callback of the observer at a place, instead of any it had. -/
def setCallback (m : Meter) (place : Nat) (program : List Action) : Outcome Unit :=
  match m.instruments[place]? with
  | none => m.fail .absent
  | some i =>
    if i.config.kind = .observer then
      ⟨.ok (), m.modifyInstrument place fun i => { i with callback := some program }, []⟩
    else
      m.fail .mistyped

/-- The observers that have a callback, by their places, with the callback as it stands. -/
def callbacks (m : Meter) : List (Nat × List Action) :=
  m.instruments.zipIdx.filterMap fun (i, place) => i.callback.map fun program => (place, program)

end Meter

end Metering
