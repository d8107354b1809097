import Metering.Identifier.Draw

/-!
# Generators of identifiers

A generator hands out identifiers for spans and traces, in dependence on a state of its own, and may
come to no answer. Nothing is asked of it, not even that the identifiers be valid. An export
pipeline is handed the bytes of what the generator hands out.
-/

namespace Metering.Identifier

/-- A generator with a state of its own. -/
structure Generator (σ : Type) where
  span : σ → Option (SpanId × σ)
  trace : σ → Option (TraceId × σ)

namespace Generator

variable {σ : Type} (generator : Generator σ)

/-- What the generator hands out for a call. -/
def answer (s : σ) : Call → Option (Drawn × σ)
  | .span => (generator.span s).map fun (id, s) => (.span id, s)
  | .trace => (generator.trace s).map fun (id, s) => (.trace id, s)

/-- What an export pipeline is handed for a call. -/
def exported (s : σ) (call : Call) : Option (Exported × σ) :=
  (generator.answer s call).map fun (id, s) => (id.exported, s)

/-- The generator that draws from a source of words. -/
def ofWords : Generator (List UInt64) where
  span := SpanId.draw
  trace := TraceId.draw

/-- From a source of words, what is exported is what a call draws from it. -/
theorem exported_ofWords (words : List UInt64) (call : Call) :
    ofWords.exported words call =
      (call.draw words).map fun (id, rest) => (id.exported, rest) := by
  cases call <;> rfl

end Generator

end Metering.Identifier
