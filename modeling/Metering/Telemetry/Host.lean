import Metering.State.Operations
import Metering.Telemetry.Filter
import Metering.Telemetry.Installation
import Metering.Telemetry.Span

/-!
# Hosts

A host is the program that the meters serve, with its spans. Once an installation is in force, a
span that the filter lets through gets identifiers when it is opened, takes the journal entries that
are let through while it is the innermost such span, and is handed on when it is closed. A span or
an entry that is not let through leaves no trace: what lies inside belongs to the nearest span
around it that is.
-/

namespace Metering.Telemetry

/-- A value to be recorded through a fresh meter whose sink writes to the journal, directly or as a
batch of its own. -/
structure Measurement where
  level : Level
  value : Value
  meter : String
  instrument : String
  labels : List String
  inBatch : Bool
deriving DecidableEq

/-- A span to be opened, with a name and a level: the values to be recorded in it, then the spans to
be opened in it. -/
inductive SpanPlan where
  | node (name : String) (level : Level) (measurements : List Measurement) (inner : List SpanPlan)

/-- A host: its objects, what is installed, the issuer of identifiers, the filter in force, the
number of installations tried, the number of spans opened, the open spans from the innermost
outwards, and the finished ones in order of closing. -/
structure Host where
  state : State
  installation : Installation
  issuer : Issuer
  filter : Filter
  calls : Nat
  opened : Nat
  openSpans : List Span
  finished : List Span

namespace Host

/-- A host at its start. -/
def startWith (issuer : Issuer) (filter : Filter) : Host :=
  ⟨.empty, .vacant, issuer, filter, 0, 0, [], []⟩

/-- A host at its start, whose spans get counted identifiers. -/
def start (filter : Filter) : Host :=
  startWith .counting filter

/-- Installs; each call has a number of its own. -/
def install (h : Host) : Except InstallError Unit × Host :=
  let (answer, installation) := h.installation.install h.calls
  (answer, { h with installation := installation, calls := h.calls + 1 })

/-- Sets someone else's receiver. -/
def setForeign (h : Host) : Except InstallError Unit × Host :=
  let (answer, installation) := h.installation.fill .foreign
  (answer, { h with installation := installation })

/-- Whether a span or an entry of a level is let through. -/
def admits (h : Host) (level : Level) : Bool :=
  h.installation.isActive && h.filter.admits level

/-- The next span: inside the innermost open one, in its trace, or the root of a new trace. -/
def nextSpan (h : Host) (name : String) (level : Level) : Span :=
  match h.openSpans with
  | [] => Span.root h.issuer name h.opened level
  | around :: _ => Span.child h.issuer around name h.opened level

/-- The host after a span was opened, if it is let through. -/
def enter (h : Host) (name : String) (level : Level) : Host :=
  if h.admits level then
    { h with opened := h.opened + 1, openSpans := h.nextSpan name level :: h.openSpans }
  else h

/-- The host after a span of a level was closed; one that was not let through was never open. -/
def leave (h : Host) (level : Level) : Host :=
  if h.admits level then
    match h.openSpans with
    | [] => h
    | span :: around => { h with openSpans := around, finished := h.finished ++ [span.close] }
  else h

/-- The host after journal entries were written: the innermost open span takes those that are
let through. -/
def attach (h : Host) (entries : List Entry) : Host :=
  match h.openSpans with
  | [] => h
  | span :: around =>
    { h with openSpans := span.extend (entries.filter fun e => h.admits e.level) :: around }

end Host

namespace Measurement

/-- The wishes for the instrument that a value is recorded with. -/
def setup (m : Measurement) : InstrumentSetup :=
  ⟨m.instrument, .gauge, m.value.kind, []⟩

/-- Records a value through an instrument, directly or as a batch of its own. -/
def recordWith (m : Measurement) (s : State) (meter : MeterRef) (i : InstrumentRef)
    (labels : LabelSet) : Except Failure Unit × State :=
  if m.inBatch then
    match s.openBatch meter labels with
    | (.error e, s) => (.error e, s)
    | (.ok b, s) =>
      match s.put b i m.value with
      | (.error e, s) => (.error e, s)
      | (.ok (), s) => s.commit b
  else
    s.record i m.value labels

/-- Makes the meter and the instrument, then the label set, then records the value. -/
def perform (m : Measurement) (s : State) : Except Failure Unit × State :=
  let (sink, s) := s.createSink (.journaling m.level)
  match s.createMeter ⟨m.meter, none, sink, Stripe.default⟩ with
  | (.error e, s) => (.error e, s)
  | (.ok meter, s) =>
    match s.build meter m.setup with
    | (.error e, s) => (.error e, s)
    | (.ok i, s) =>
      match LabelSet.ofFlat m.labels with
      | .error e => (.error (.refused e), s)
      | .ok labels => m.recordWith s meter i labels

end Measurement

namespace Host

/-- Does one measurement; the journal entries it writes go to the innermost open span. -/
def measure (h : Host) (m : Measurement) : Except Failure Unit × Host :=
  let (answer, state) := m.perform h.state
  let written := state.journal.drop h.state.journal.length
  (answer, { h with state := state }.attach written)

/-- Does measurements in turn up to the first that fails. -/
def measureAll (h : Host) : List Measurement → Except Failure Unit × Host
  | [] => (.ok (), h)
  | m :: rest =>
    match h.measure m with
    | (.error e, h) => (.error e, h)
    | (.ok (), h) => h.measureAll rest

mutual

/-- Opens a span, does what is planned in it up to the first failure, and closes it. -/
def runPlan (h : Host) : SpanPlan → Except Failure Unit × Host
  | .node name level measurements inner =>
    let (answer, h) : Except Failure Unit × Host :=
      match (h.enter name level).measureAll measurements with
      | (.error e, h) => (.error e, h)
      | (.ok (), h) => h.runPlans inner
    (answer, h.leave level)

/-- Runs plans in turn up to the first that fails. -/
def runPlans (h : Host) : List SpanPlan → Except Failure Unit × Host
  | [] => (.ok (), h)
  | plan :: rest =>
    match h.runPlan plan with
    | (.error e, h) => (.error e, h)
    | (.ok (), h) => h.runPlans rest

end

/-- What is seen of all finished spans, in order of closing. -/
def views (h : Host) : List SpanView :=
  h.finished.map (Span.view h.finished)

/-- The host with no finished spans. -/
def reset (h : Host) : Host :=
  { h with finished := [] }

end Host

end Metering.Telemetry
