import Metering.Identifier.Numeral

/-!
# Span and trace identifiers

A span is identified by one word of sixty-four bits, a trace by two. The identifier whose words are
all zero is invalid. Identifiers are ordered as numbers, the high word of a trace first, and have
two written forms: big-endian bytes, and as many pairs of lower-case hexadecimal letters.
-/

namespace Metering

/-- The identifier of a span. -/
structure SpanId where
  word : UInt64
deriving DecidableEq, Inhabited

/-- The identifier of a trace. -/
structure TraceId where
  high : UInt64
  low : UInt64
deriving DecidableEq, Inhabited

namespace SpanId

/-- The identifier that names no span. -/
def invalid : SpanId := ⟨0⟩

/-- The valid identifier with a number; the numbering comes round again after all valid words. -/
def numbered (n : Nat) : SpanId :=
  ⟨.ofNat (n % (UInt64.size - 1) + 1)⟩

/-- Whether an identifier names a span. -/
def isValid (id : SpanId) : Bool :=
  id.word != 0

/-- The eight bytes of an identifier, most significant first. -/
def bytes (id : SpanId) : List UInt8 :=
  Identifier.bytes 8 id.word.toNat

/-- The sixteen hexadecimal letters of an identifier. -/
def hex (id : SpanId) : String :=
  Identifier.hex 16 id.word.toNat

/-- The order of the words as numbers. -/
def order (a b : SpanId) : Ordering :=
  compare a.word b.word

end SpanId

namespace TraceId

/-- The identifier that names no trace. -/
def invalid : TraceId := ⟨0, 0⟩

/-- The valid identifier with a number; the numbering comes round again after all valid low words
under the high word zero. -/
def numbered (n : Nat) : TraceId :=
  ⟨0, .ofNat (n % (UInt64.size - 1) + 1)⟩

/-- Whether an identifier names a trace. -/
def isValid (id : TraceId) : Bool :=
  id.high != 0 || id.low != 0

/-- The sixteen bytes of an identifier, the high word first. -/
def bytes (id : TraceId) : List UInt8 :=
  Identifier.bytes 8 id.high.toNat ++ Identifier.bytes 8 id.low.toNat

/-- The thirty-two hexadecimal letters of an identifier, the high word first. -/
def hex (id : TraceId) : String :=
  Identifier.hex 16 id.high.toNat ++ Identifier.hex 16 id.low.toNat

/-- The order of the high words, then of the low words. -/
def order (a b : TraceId) : Ordering :=
  (compare a.high b.high).then (compare a.low b.low)

end TraceId

end Metering
