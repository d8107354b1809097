import Metering.Number.Double

/-!
# Shortest decimals

Every positive double stands for the real numbers that lie nearer to it than to its neighbours, its
*cell*. Among the decimals in the cell, those on the coarsest grid `10 ^ e` have the fewest digits,
and of these the one nearest the number is its text; a number halfway between two takes the upper
one. All comparisons are between whole numbers over a common unit.

A decimal is written positionally whatever its size, and a whole number without a point.
-/

namespace Metering

/-- The real numbers that read back as one number: those between `low` and `high`, all three
measured in the same unit, with the two ends included when `closed`. -/
structure Cell where
  low : Nat
  value : Nat
  high : Nat
  unit : Nat
  closed : Bool

/-- A decimal, `digits * 10 ^ exponent`. -/
structure Decimal where
  digits : Nat
  exponent : Int
deriving DecidableEq

namespace Cell

/-- The same cell with the grid `10 ^ exponent` as the whole numbers. -/
def onGrid (c : Cell) (exponent : Int) : Cell :=
  if exponent < 0 then
    let factor := Nat.pow 10 (-exponent).toNat
    { c with low := c.low * factor, value := c.value * factor, high := c.high * factor }
  else
    { c with unit := c.unit * Nat.pow 10 exponent.toNat }

/-- Whether a whole number lies in the cell. -/
def holds (c : Cell) (n : Nat) : Bool :=
  if c.closed then c.low ≤ n * c.unit && n * c.unit ≤ c.high
  else c.low < n * c.unit && n * c.unit < c.high

/-- The whole number next below the value, or the value itself. -/
def floor (c : Cell) : Nat :=
  c.value / c.unit

/-- Whether the value lies nearer the whole number below it than the one above. -/
def leansDown (c : Cell) : Bool :=
  2 * (c.value - c.floor * c.unit) < c.unit

/-- The whole number in the cell nearest the value, if the cell holds one. -/
def wholeNumber? (c : Cell) : Option Nat :=
  match c.holds c.floor, c.holds (c.floor + 1) with
  | true, true => some (if c.leansDown then c.floor else c.floor + 1)
  | true, false => some c.floor
  | false, true => some (c.floor + 1)
  | false, false => none

/-- The finest grid that a double can need. -/
def finest : Int := -324

/-- The decimal on the coarsest grid that has a point in the cell, looking through the grids
from `finest + n` down. -/
def shortestFrom (c : Cell) : Nat → Decimal
  | 0 => ⟨((c.onGrid finest).wholeNumber?).getD (c.onGrid finest).floor, finest⟩
  | n + 1 =>
    match (c.onGrid (finest + (n + 1))).wholeNumber? with
    | some digits => ⟨digits, finest + (n + 1)⟩
    | none => c.shortestFrom n

/-- The decimal with the fewest digits in the cell of a double. -/
def shortest (c : Cell) : Decimal :=
  c.shortestFrom 633

end Cell

/-- The cell of a positive finite double. The gap below a power of two is half the gap above,
unless the power is the least normal number. -/
def Double.cell (x : Double) : Cell :=
  let m := x.significand
  let below := if x.fraction = 0 && decide (1 < x.exponentField) then 1 else 2
  let quarter := x.scale - 2
  let up := Nat.pow 2 quarter.toNat
  { low := (4 * m - below) * up
    value := 4 * m * up
    high := (4 * m + 2) * up
    unit := Nat.pow 2 (-quarter).toNat
    closed := m % 2 == 0 }

/-- The digits of a decimal with its point in place, or with the zeros that stand in for it. -/
def Decimal.positional (d : Decimal) : String :=
  let digits := Nat.toDigits 10 d.digits
  if 0 ≤ d.exponent then
    String.ofList (digits ++ List.replicate d.exponent.toNat '0')
  else
    let places := (-d.exponent).toNat
    if places < digits.length then
      let whole := digits.length - places
      String.ofList (digits.take whole ++ '.' :: digits.drop whole)
    else
      String.ofList ('0' :: '.' :: List.replicate (places - digits.length) '0' ++ digits)

/-- The text of the magnitude of a number that is not a NaN. -/
def Double.magnitudeText (x : Double) : String :=
  if x.isInfinite then "inf"
  else if x.isZero then "0"
  else x.cell.shortest.positional

/-- The text of a double: the fewest digits that read back, never an exponent. -/
def Double.text (x : Double) : String :=
  if x.isNaN then "NaN"
  else if x.isNegative then "-" ++ x.magnitudeText
  else x.magnitudeText

end Metering
