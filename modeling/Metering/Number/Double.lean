/-!
# Double-precision numbers

A number of the double-precision binary format, held as its sixty-four bits. The sign is the top
bit, the next eleven bits hold the exponent and the low fifty-two the fraction. Equality of the
structure is equality of the bits; `Double.same` is equality as numbers, under which the two zeros
agree and no NaN agrees with anything.
-/

namespace Metering

/-- A double-precision number, given by its bits. -/
structure Double where
  bits : UInt64
deriving DecidableEq, Inhabited

namespace Double

/-- Whether the sign bit is set. -/
def isNegative (x : Double) : Bool :=
  decide (Nat.pow 2 63 ≤ x.bits.toNat)

/-- The eleven exponent bits. -/
def exponentField (x : Double) : Nat :=
  x.bits.toNat / Nat.pow 2 52 % Nat.pow 2 11

/-- The fifty-two fraction bits. -/
def fraction (x : Double) : Nat :=
  x.bits.toNat % Nat.pow 2 52

/-- Whether the bits stand for no number. -/
def isNaN (x : Double) : Bool :=
  x.exponentField == 2047 && x.fraction != 0

/-- Whether the bits stand for an infinity of either sign. -/
def isInfinite (x : Double) : Bool :=
  x.exponentField == 2047 && x.fraction == 0

/-- Whether the bits stand for a zero of either sign. -/
def isZero (x : Double) : Bool :=
  x.exponentField == 0 && x.fraction == 0

/-- The whole number `m` of a finite magnitude `m * 2 ^ scale`; the lowest exponent has no
hidden bit. -/
def significand (x : Double) : Nat :=
  if x.exponentField = 0 then x.fraction else Nat.pow 2 52 + x.fraction

/-- The power of two that a finite magnitude counts in. -/
def scale (x : Double) : Int :=
  max x.exponentField 1 - 1075

/-- The double of a whole number below `2 ^ 53`, which is exact. -/
def ofNat (n : Nat) : Double :=
  if n = 0 then ⟨0⟩
  else ⟨.ofNat ((1023 + n.log2) * Nat.pow 2 52 + (n * Nat.pow 2 (52 - n.log2) - Nat.pow 2 52))⟩

/-- Equality as numbers: the zeros agree, and a NaN agrees with nothing. -/
def same (x y : Double) : Bool :=
  !x.isNaN && !y.isNaN && (x.bits == y.bits || (x.isZero && y.isZero))

/-- Whether the number is at least zero. The negative zero is, and a NaN is not. -/
def isNonNegative (x : Double) : Bool :=
  !x.isNaN && (!x.isNegative || x.isZero)

end Double

end Metering
