import Metering.Identifier.Basic

/-!
# Drawing identifiers from a source of words

Identifiers are made from a source that yields one word at a time, here the list of the words still
to come. A span takes the first word that is not zero. A trace takes words in pairs, high word
first, up to the first pair that is not all zero. A list of calls shares one source, so that each
call starts where the one before it stopped; when the source runs dry in the middle of a call, the
list of calls ends there.
-/

namespace Metering

/-- The first word that names a span, with the words left after it. -/
def SpanId.draw : List UInt64 → Option (SpanId × List UInt64)
  | [] => none
  | word :: rest => if (SpanId.mk word).isValid then some (⟨word⟩, rest) else SpanId.draw rest

/-- The first pair of words that names a trace, with the words left after it. -/
def TraceId.draw : List UInt64 → Option (TraceId × List UInt64)
  | high :: low :: rest =>
    if (TraceId.mk high low).isValid then some (⟨high, low⟩, rest) else TraceId.draw rest
  | _ => none

namespace Identifier

/-- A call for an identifier. -/
inductive Call where
  | span
  | trace
deriving DecidableEq

/-- A drawn identifier. -/
inductive Drawn where
  | span (id : SpanId)
  | trace (id : TraceId)
deriving DecidableEq

/-- Answers one call from the words to come. -/
def Call.draw (words : List UInt64) : Call → Option (Drawn × List UInt64)
  | .span => (SpanId.draw words).map fun (id, rest) => (.span id, rest)
  | .trace => (TraceId.draw words).map fun (id, rest) => (.trace id, rest)

/-- What became of one call, with the number of words asked for by then. -/
structure Outcome where
  id : Option Drawn
  asked : Nat
deriving DecidableEq

/-- Answers calls in turn from one source, `asked` words having been asked for before. A call that
the source cannot answer has asked for all its words and one more, and is the last. -/
def drawFrom (asked : Nat) (words : List UInt64) : List Call → List Outcome
  | [] => []
  | call :: calls =>
    match call.draw words with
    | none => [⟨none, asked + words.length + 1⟩]
    | some (id, rest) =>
      let asked := asked + (words.length - rest.length)
      ⟨some id, asked⟩ :: drawFrom asked rest calls

/-- Answers calls in turn from a fresh source. -/
def drawAll (words : List UInt64) (calls : List Call) : List Outcome :=
  drawFrom 0 words calls

/-- An identifier in the form that an export pipeline holds it: its bytes alone. -/
structure Exported where
  bytes : List UInt8
deriving DecidableEq

/-- The exported form of an identifier has the same bytes. -/
def Drawn.exported : Drawn → Exported
  | .span id => ⟨id.bytes⟩
  | .trace id => ⟨id.bytes⟩

/-- Whether an exported identifier names something: not all its bytes are zero. -/
def Exported.isValid (id : Exported) : Bool :=
  id.bytes.any (· != 0)

/-- The hexadecimal letters of an exported identifier, two for each byte. -/
def Exported.hex (id : Exported) : String :=
  String.join (id.bytes.map fun b => Identifier.hex 2 b.toNat)

/-- What a survey of drawn identifiers counts. -/
structure Survey where
  valid : Nat
  wide : Nat
deriving DecidableEq

/-- One round of a survey draws a span and a trace, and once more a span and a trace for export. It
counts each pair that is valid throughout, and a first pair whose letters have full width. -/
def Survey.round (words : List UInt64) (tally : Survey) : Option (Survey × List UInt64) := do
  let (span, words) ← SpanId.draw words
  let (trace, words) ← TraceId.draw words
  let (sentSpan, words) ← Call.draw words .span
  let (sentTrace, words) ← Call.draw words .trace
  let own := if span.isValid && trace.isValid then 1 else 0
  let sent := if sentSpan.exported.isValid && sentTrace.exported.isValid then 1 else 0
  let wide := if span.hex.length == 16 && trace.hex.length == 32 then 1 else 0
  some (⟨tally.valid + own + sent, tally.wide + wide⟩, words)

/-- A survey of `rounds` rounds; a source that runs dry ends it early. -/
def Survey.run (words : List UInt64) : Nat → Survey → Survey
  | 0, tally => tally
  | rounds + 1, tally =>
    match Survey.round words tally with
    | none => tally
    | some (tally, words) => Survey.run words rounds tally

/-- The words that count upwards from one. -/
def countingWords (n : Nat) : List UInt64 :=
  (List.range n).map fun k => .ofNat (k + 1)

/-- A survey from a source of counting words. Whatever the words of a source, the rounds that it
answers count the same (`Metering.Identifier.Survey.exists_answered`). -/
def Survey.counting (rounds : Nat) : Survey :=
  Survey.run (countingWords (6 * rounds)) rounds ⟨0, 0⟩

end Identifier

end Metering
