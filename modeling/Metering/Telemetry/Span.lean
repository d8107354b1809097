import Metering.Identifier.Issuer
import Metering.Journal

/-!
# Spans

A span is a named stretch of work with a level. Spans are numbered in order of opening; a span is
issued an identifier of its own, shares the trace identifier of the span it lies in, and keeps the
journal entries that were written during it. Every span is sampled. A finished span is seen among
the others that are finished by then.
-/

namespace Metering.Telemetry

/-- The number of entries that a span keeps; those after it are dropped. -/
def eventLimit : Nat := 128

/-- A span, open or finished, with its number and the number of the span it lies in. -/
structure Span where
  name : String
  number : Nat
  parent : Option Nat
  id : SpanId
  trace : TraceId
  level : Level
  events : List Entry
deriving DecidableEq

/-- What is seen of a finished span: its name, whether its identifiers are valid, whether it was
sampled, the place of its parent among the finished spans, whether it is a root, whether it shares
its parent's trace, and its entries. -/
structure SpanView where
  name : String
  validTrace : Bool
  validSpan : Bool
  sampled : Bool
  parent : Option Nat
  isRoot : Bool
  sameTrace : Option Bool
  events : List Entry
deriving DecidableEq

namespace Span

/-- The span that is the root of a new trace. -/
def root (issuer : Issuer) (name : String) (number : Nat) (level : Level) : Span :=
  ⟨name, number, none, issuer.span number, issuer.trace number, level, []⟩

/-- The span that lies in another. -/
def child (issuer : Issuer) (around : Span) (name : String) (number : Nat) (level : Level) : Span :=
  ⟨name, number, some around.number, issuer.span number, around.trace, level, []⟩

/-- The span with one more stretch of entries. -/
def extend (span : Span) (entries : List Entry) : Span :=
  { span with events := span.events ++ entries }

/-- The span as it is handed on when it is closed. -/
def close (span : Span) : Span :=
  { span with events := span.events.take eventLimit }

/-- What is seen of a span among finished ones. -/
def view (finished : List Span) (span : Span) : SpanView :=
  let parent := span.parent.bind fun number =>
    finished.findIdx? fun other => other.number == number
  { name := span.name
    validTrace := span.trace.isValid
    validSpan := span.id.isValid
    sampled := true
    parent := parent
    isRoot := span.parent.isNone
    sameTrace := parent.bind fun place => finished[place]?.map fun other =>
      other.trace == span.trace
    events := span.events }

end Span

end Metering.Telemetry
