import Metering.Number.Decimal

/-!
# Measured values

A measurement is a whole number of sixty-four bits or a double. Values of different kinds are never
equal; two doubles are compared as numbers.
-/

namespace Metering

/-- The two kinds of number a measurement can hold. -/
inductive NumberKind where
  | long
  | double
deriving DecidableEq, Inhabited

/-- A measured value. -/
inductive Value where
  | long (n : Int64)
  | double (x : Double)
deriving DecidableEq, Inhabited

/-- The name of a kind of number. -/
def NumberKind.name : NumberKind → String
  | .long => "Long"
  | .double => "Double"

namespace Value

/-- The kind of number a value holds. -/
def kind : Value → NumberKind
  | .long _ => .long
  | .double _ => .double

/-- The decimal text of a value. -/
def text : Value → String
  | .long n => toString n.toInt
  | .double x => x.text

/-- Whether a value is at least zero; a NaN is not. -/
def isNonNegative : Value → Bool
  | .long n => decide (0 ≤ n.toInt)
  | .double x => x.isNonNegative

/-- Equality of measured values: a long never equals a double. -/
def same : Value → Value → Bool
  | .long a, .long b => a == b
  | .double a, .double b => a.same b
  | _, _ => false

end Value

end Metering
