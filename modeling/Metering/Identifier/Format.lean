import Metering.Identifier.Basic

/-!
# Formats of identifiers

Identifiers of one kind stand for the numbers below a bound and are written as those numbers are: as
bytes, most significant first, and as two hexadecimal letters for each byte. Whatever else is not a
written identifier, a list of another length or with other letters in it, is not read as one.
-/

namespace Metering

namespace Identifier

/-- The hexadecimal letters, in the order of the digits they stand for. -/
def letters : List Char :=
  ['0', '1', '2', '3', '4', '5', '6', '7', '8', '9', 'a', 'b', 'c', 'd', 'e', 'f']

/-- A kind of identifiers that stand for the numbers of so many bytes. -/
structure Format (α : Type) where
  width : Nat
  number : α → Nat
  ofNumber : Nat → α
  number_lt : ∀ id, number id < Nat.pow 256 width
  ofNumber_number : ∀ id, ofNumber (number id) = id
  number_ofNumber : ∀ n, n < Nat.pow 256 width → number (ofNumber n) = n

namespace Format

variable {α : Type} (format : Format α)

/-- The identifier that is written as some bytes, most significant first. -/
def ofBytes? (bytes : List UInt8) : Option α :=
  if bytes.length = format.width then
    some (format.ofNumber (ofDigits 256 (bytes.map UInt8.toNat)))
  else none

/-- The identifier that is written as some letters, two for each byte. -/
def ofHex? (text : String) : Option α :=
  if text.toList.length = 2 * format.width ∧ text.toList.all letters.contains then
    some (format.ofNumber (ofDigits 16 (text.toList.map letters.idxOf)))
  else none

end Format

end Identifier

/-- Spans are identified by the numbers of eight bytes. -/
def SpanId.format : Identifier.Format SpanId where
  width := 8
  number id := id.word.toNat
  ofNumber n := ⟨.ofNat n⟩
  number_lt id := id.word.toNat_lt
  ofNumber_number id := congrArg SpanId.mk (UInt64.ofNat_toNat (x := id.word))
  number_ofNumber _ below := UInt64.toNat_ofNat_of_lt' below

/-- Traces are identified by the numbers of sixteen bytes, the high word of which is above the
low. -/
def TraceId.format : Identifier.Format TraceId where
  width := 16
  number id := id.high.toNat * UInt64.size + id.low.toNat
  ofNumber n := ⟨.ofNat (n / UInt64.size), .ofNat n⟩
  number_lt id := by
    have high : id.high.toNat < UInt64.size := id.high.toNat_lt
    have low : id.low.toNat < UInt64.size := id.low.toNat_lt
    calc id.high.toNat * UInt64.size + id.low.toNat
        < (id.high.toNat + 1) * UInt64.size := by
          rw [Nat.succ_mul]
          exact Nat.add_lt_add_left low _
      _ ≤ UInt64.size * UInt64.size := Nat.mul_le_mul_right _ high
      _ = Nat.pow 256 16 := rfl
  ofNumber_number id := by
    have low : id.low.toNat < UInt64.size := id.low.toNat_lt
    have high : (id.high.toNat * UInt64.size + id.low.toNat) / UInt64.size = id.high.toNat := by
      rw [Nat.add_comm, Nat.add_mul_div_right _ _ (by decide), Nat.div_eq_of_lt low, Nat.zero_add]
    have rest : (id.high.toNat * UInt64.size + id.low.toNat) % UInt64.size = id.low.toNat := by
      rw [Nat.add_comm, Nat.add_mul_mod_self_right, Nat.mod_eq_of_lt low]
    have word : UInt64.ofNat (id.high.toNat * UInt64.size + id.low.toNat) = id.low :=
      UInt64.toNat_inj.mp (UInt64.toNat_ofNat'.trans rest)
    rw [high, word, UInt64.ofNat_toNat]
  number_ofNumber n below := by
    have high : (UInt64.ofNat (n / UInt64.size)).toNat = n / UInt64.size :=
      UInt64.toNat_ofNat_of_lt' (Nat.div_lt_of_lt_mul below)
    have low : (UInt64.ofNat n).toNat = n % UInt64.size := UInt64.toNat_ofNat'
    rw [high, low, Nat.div_add_mod']

end Metering
