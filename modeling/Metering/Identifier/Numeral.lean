/-!
# Fixed-width numerals

The digits of a number in a base, most significant first, padded to a width. Bytes are digits in
base 256 and hexadecimal letters are digits in base 16.
-/

namespace Metering.Identifier

/-- The `width` low digits of `n` in base `base`, most significant first. -/
def digits (base : Nat) : Nat → Nat → List Nat
  | 0, _ => []
  | width + 1, n => n / Nat.pow base width % base :: digits base width n

/-- The number that a list of digits stands for, most significant first. -/
def ofDigits (base : Nat) (ds : List Nat) : Nat :=
  ds.foldl (fun n d => n * base + d) 0

/-- The lower-case hexadecimal letter of a number below sixteen. -/
def hexLetter (n : Nat) : Char :=
  Nat.digitChar n

/-- A number as `width` lower-case hexadecimal letters. -/
def hex (width n : Nat) : String :=
  String.ofList ((digits 16 width n).map hexLetter)

/-- A number as `width` bytes, most significant first. -/
def bytes (width n : Nat) : List UInt8 :=
  (digits 256 width n).map UInt8.ofNat

end Metering.Identifier
