import Metering.Concurrent.Machine
import Metering.Passage
import Metering.Stripe

/-!
# Threads at the gates of a meter

Each stripe of a meter has a gate that many points can share but a batch holds alone. A thread
takes the gate of the stripe that the caller's labels fall on, tells the sink what it came to tell,
one thing at a time, and leaves. A batch draws its number after it has taken the gate.
-/

namespace Metering.Concurrent

/-- Where a thread stands: outside every gate, in a gate held alone with the number of its batch
still to be drawn, or in a gate with things left to tell the sink. -/
inductive Place where
  | outside
  | drawing (passage : Passage)
  | telling (passage : Passage) (pending : List Delivery)
deriving DecidableEq, Inhabited

/-- A thread: where it stands, and the passages it has not begun. -/
structure GateThread where
  place : Place
  todo : List Passage
deriving DecidableEq, Inhabited

/-- Something told to the sink, with the thread that told it and the passage it belongs to. -/
structure Told where
  thread : Nat
  passage : Passage
  delivery : Delivery
deriving DecidableEq

/-- The state of the gates: the threads, the next number of a batch, and all that was told. The next
number has no bound here: one that is kept in a word of 64 bits is described as long as fewer than
`2 ^ 64` batches have drawn theirs. -/
structure GateState where
  threads : List GateThread
  nextBatch : Nat
  told : List Told
deriving DecidableEq

/-- Where a thread stands once its passage has taken the gate. -/
def Place.enter : Passage → Place
  | .single labels point =>
    .telling (.single labels point) ((Passage.single labels point).deliveries 0)
  | .batch labels points => .drawing (.batch labels points)

/-- The passage that a thread holds a gate for. -/
def Place.passage? : Place → Option Passage
  | .outside => none
  | .drawing passage | .telling passage _ => some passage

namespace GateState

/-- Threads about to begin their passages. -/
def start (programs : List (List Passage)) : GateState :=
  ⟨programs.map fun todo => ⟨.outside, todo⟩, 0, []⟩

/-- Whether a gate lets a passage in: nobody holds it alone, and nobody holds it at all if the
passage is to hold it alone. -/
def admits (stripe : LabelSet → Nat) (s : GateState) (p : Passage) : Bool :=
  s.threads.all fun thread =>
    match thread.place.passage? with
    | none => true
    | some held => stripe held.labels != stripe p.labels || !(held.isAlone || p.isAlone)

/-- The state with one thread moved. -/
def move (s : GateState) (thread : Nat) (place : Place) : GateState :=
  { s with threads := s.threads.modify thread fun t => { t with place := place } }

/-- The state after the sink was told something. -/
def tell (s : GateState) (told : Told) : GateState :=
  { s with told := s.told ++ [told] }

/-- The next atomic step of a thread. -/
def step (stripe : LabelSet → Nat) (thread : Nat) (s : GateState) : Option GateState :=
  match s.threads[thread]? with
  | none => none
  | some t =>
    match t.place, t.todo with
    | .outside, [] => none
    | .outside, passage :: rest =>
      if s.admits stripe passage then
        some { s with threads := s.threads.set thread ⟨.enter passage, rest⟩ }
      else
        none
    | .drawing passage, _ =>
      some ({ s with nextBatch := s.nextBatch + 1 }.move thread
        (.telling passage (passage.deliveries s.nextBatch)))
    | .telling passage (delivery :: pending), _ =>
      some ((s.tell ⟨thread, passage, delivery⟩).move thread (.telling passage pending))
    | .telling _ [], _ => some (s.move thread .outside)

/-- The gates as a machine. -/
def machine (stripe : LabelSet → Nat) : Machine GateState :=
  ⟨step stripe⟩

/-- What the sink was told, in order. -/
def stream (s : GateState) : List Delivery :=
  s.told.map Told.delivery

end GateState

/-- The stripe of label sets among `count` stripes under a digest. -/
def stripeOf (count : Nat) (digest : LabelSet → UInt64) (labels : LabelSet) : Nat :=
  Stripe.index count (digest labels)

end Metering.Concurrent
