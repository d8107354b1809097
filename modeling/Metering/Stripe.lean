/-!
# Stripes

The batches and points of a meter pass through gates, one for each stripe. A meter has as many
stripes as the least power of two that is at least the number asked for, and never none. The stripe
of a label set is found by masking its digest.
-/

namespace Metering.Stripe

/-- The number of stripes that a meter asks for unless told otherwise. -/
def default : Nat := 16

/-- The number of stripes made when `requested` are asked for: the least power of two that is at
least `requested`. -/
def count (requested : Nat) : Nat :=
  if requested ≤ 1 then 1 else Nat.pow 2 ((requested - 1).log2 + 1)

/-- The stripe of a digest among `count` stripes. -/
def index (count : Nat) (digest : UInt64) : Nat :=
  digest.toNat &&& (count - 1)

end Metering.Stripe
