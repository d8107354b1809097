import Metering.Identifier.Draw

/-!
# Issuing identifiers to spans

Spans are numbered in order of opening. An issuer draws an identifier for each of them, and one for
the trace that begins with it, if one does. Whatever the words it draws from, the identifiers that
it issues are valid.
-/

namespace Metering

/-- A drawn word names a span. -/
theorem SpanId.isValid_of_draw {words rest : List UInt64} {id : SpanId}
    (drawn : SpanId.draw words = some (id, rest)) : id.isValid = true := by
  induction words with
  | nil => cases drawn
  | cons word words ih =>
      rw [SpanId.draw] at drawn
      split at drawn
      · next valid =>
          cases drawn
          exact valid
      · exact ih drawn

/-- A drawn pair of words names a trace. -/
theorem TraceId.isValid_of_draw {words rest : List UInt64} {id : TraceId}
    (drawn : TraceId.draw words = some (id, rest)) : id.isValid = true := by
  induction words using TraceId.draw.induct with
  | case1 high low words valid =>
      rw [TraceId.draw, if_pos valid] at drawn
      cases drawn
      exact valid
  | case2 high low words invalid ih =>
      rw [TraceId.draw, if_neg invalid] at drawn
      exact ih drawn
  | case3 words short =>
      rw [TraceId.draw] at drawn
      · cases drawn
      · exact short

/-- The words that the numbering goes through are not zero. -/
theorem Identifier.ofNat_ne_zero (n : Nat) :
    (UInt64.ofNat (n % (UInt64.size - 1) + 1) != 0) = true := by
  have below : n % (UInt64.size - 1) < UInt64.size - 1 := Nat.mod_lt n (by decide)
  have fits : n % (UInt64.size - 1) + 1 < UInt64.size :=
    Nat.lt_of_lt_of_eq (Nat.succ_lt_succ below) rfl
  rw [bne_iff_ne]
  intro zero
  have value : (UInt64.ofNat (n % (UInt64.size - 1) + 1)).toNat = 0 := congrArg UInt64.toNat zero
  rw [UInt64.toNat_ofNat_of_lt' fits] at value
  cases value

/-- A source of identifiers by the number of a span, each of them drawn from some words. -/
structure Issuer where
  span : Nat → SpanId
  trace : Nat → TraceId
  span_drawn : ∀ number, ∃ words rest, SpanId.draw words = some (span number, rest)
  trace_drawn : ∀ number, ∃ words rest, TraceId.draw words = some (trace number, rest)

namespace Issuer

/-- The identifier issued to a span is valid. -/
theorem isValid_span (issuer : Issuer) (number : Nat) : (issuer.span number).isValid = true := by
  obtain ⟨_, _, drawn⟩ := issuer.span_drawn number
  exact SpanId.isValid_of_draw drawn

/-- The identifier issued to a trace is valid. -/
theorem isValid_trace (issuer : Issuer) (number : Nat) : (issuer.trace number).isValid = true := by
  obtain ⟨_, _, drawn⟩ := issuer.trace_drawn number
  exact TraceId.isValid_of_draw drawn

/-- The issuer that counts. -/
def counting : Issuer where
  span := .numbered
  trace := .numbered
  span_drawn number := by
    refine ⟨[(SpanId.numbered number).word], [], ?_⟩
    have valid : (SpanId.numbered number).isValid = true := Identifier.ofNat_ne_zero number
    rw [SpanId.draw, if_pos valid]
  trace_drawn number := by
    refine ⟨[0, (TraceId.numbered number).low], [], ?_⟩
    have valid : (TraceId.numbered number).isValid = true := Identifier.ofNat_ne_zero number
    exact if_pos valid

end Issuer

end Metering
