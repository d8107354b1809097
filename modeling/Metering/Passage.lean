import Metering.Sink

/-!
# Passages

What one call brings to the gate of a meter: a single point, or the points of a batch. The labels of
a passage are those the caller gave, which choose the stripe; the labels of its points are
overridden by the constants of their instruments.
-/

namespace Metering

/-- What a call brings to the gate of its stripe. -/
inductive Passage where
  | single (labels : LabelSet) (point : Point)
  | batch (labels : LabelSet) (points : List Point)
deriving DecidableEq

namespace Passage

/-- The labels that the caller gave. -/
def labels : Passage → LabelSet
  | .single labels _ | .batch labels _ => labels

/-- The points of a passage, in order. -/
def points : Passage → List Point
  | .single _ point => [point]
  | .batch _ points => points

/-- Whether a passage holds the gate alone, as batches do. -/
def isAlone : Passage → Bool
  | .single .. => false
  | .batch .. => true

/-- What the sink is told of a passage. A batch is told between brackets under its number, also when
it is empty; a single point has no number. -/
def deliveries (number : Nat) : Passage → List Delivery
  | .single _ point => [.point none point]
  | .batch _ points =>
    .batchBegin number :: points.map (.point (some number)) ++ [.batchEnd number]

end Passage

/-- What a meter gives out: a passage to its sink, under the number that a batch has drawn, or an
entry to the journal. -/
inductive Output where
  | passed (number : Nat) (passage : Passage)
  | noted (entry : Entry)
deriving DecidableEq

end Metering
