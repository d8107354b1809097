import Metering.Journal

/-!
# Sinks

A sink receives deliveries in order: points, each alone or as a member of a batch, and the brackets
around a batch. A recording sink keeps all of them; a plain sink keeps the points and takes no
notice of batches; a silent sink keeps nothing; a journaling sink writes each of them to the
journal at its level.
-/

namespace Metering

/-- What a sink is told. -/
inductive Delivery where
  | point (batch : Option Nat) (point : Point)
  | batchBegin (batch : Nat)
  | batchEnd (batch : Nat)
deriving DecidableEq

/-- A receiver of deliveries, with what it has kept so far. -/
inductive Sink where
  | recording (kept : List Delivery)
  | plain (kept : List Point)
  | silent
  | journaling (level : Level)
deriving DecidableEq, Inhabited

namespace Delivery

/-- The point of a delivery, whatever its batch. -/
def point? : Delivery → Option Point
  | .point _ p => some p
  | _ => none

/-- The point of a delivery that belongs to a batch. -/
def memberOf? (batch : Nat) : Delivery → Option Point
  | .point (some owner) p => if owner = batch then some p else none
  | _ => none

/-- The journal entry that tells of a delivery. -/
def report (level : Level) : Delivery → Entry
  | .point batch p => .pointReported level batch p
  | .batchBegin batch => .batchBeginReported level batch
  | .batchEnd batch => .batchEndReported level batch

end Delivery

namespace Sink

/-- The sink after one more delivery. -/
def receive : Sink → Delivery → Sink
  | .recording kept, delivery => .recording (kept ++ [delivery])
  | .plain kept, delivery => .plain (kept ++ delivery.point?.toList)
  | sink, _ => sink

/-- What the sink writes to the journal about a delivery. -/
def reports : Sink → Delivery → List Entry
  | .journaling level, delivery => [delivery.report level]
  | _, _ => []

/-- The deliveries that a sink can show. -/
def deliveries : Sink → List Delivery
  | .recording kept => kept
  | .plain kept => kept.map (.point none)
  | _ => []

/-- The points among the deliveries, in order. -/
def points (s : Sink) : List Point :=
  s.deliveries.filterMap Delivery.point?

/-- The points of one batch, in order. -/
def batchEntries (s : Sink) (batch : Nat) : List Point :=
  s.deliveries.filterMap (Delivery.memberOf? batch)

/-- The sink with nothing kept. -/
def clear : Sink → Sink
  | .recording _ => .recording []
  | .plain _ => .plain []
  | sink => sink

end Sink

end Metering
