import Metering.State.Collection

/-!
# Runs

A run is a list of commands carried out in turn. A command makes a sink, makes a request, or
collects the observers of a meter; only a callback cannot collect, since its actions are requests.
A state is reachable when some run leads to it from the state without objects.
-/

namespace Metering

/-- A command of a run. -/
inductive Command where
  | createSink (sink : Sink)
  | perform (operation : Operation)
  | collect (meter : MeterRef)

/-- The answer to a command. -/
inductive Answer where
  | replied (answer : Except Failure Reply)
  | collected (answer : Except Failure Collection)

namespace State

/-- Carries out a command. -/
def execute (s : State) : Command → Answer × State
  | .createSink sink =>
    let (k, s) := s.createSink sink
    (.replied (.ok (.sink k)), s)
  | .perform operation =>
    let (answer, s) := s.perform operation
    (.replied answer, s)
  | .collect m =>
    let (answer, s) := s.collect m
    (.collected answer, s)

/-- Carries out the commands of a run in turn. -/
def run (s : State) : List Command → List Answer × State
  | [] => ([], s)
  | command :: rest =>
    let (answer, s) := s.execute command
    let (answers, s) := s.run rest
    (answer :: answers, s)

/-- The states that some run leads to. -/
inductive Reachable : State → Prop where
  | empty : Reachable .empty
  | execute {s : State} (command : Command) : Reachable s → Reachable (s.execute command).2

/-- A run leads from a reachable state to a reachable state. -/
theorem Reachable.run {s : State} (reachable : Reachable s) (commands : List Command) :
    Reachable (s.run commands).2 := by
  induction commands generalizing s with
  | nil => exact reachable
  | cons command rest ih => exact ih (reachable.execute command)

end State

end Metering
