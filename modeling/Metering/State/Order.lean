import Metering.State.Run

/-!
# Runs that collect in any order

Nothing is said about the order in which the callbacks of the observers of a meter run. A collection
is given the order to run them in, for each number of them; whatever holds for all orders holds in
particular for the order of registration.
-/

namespace Metering

/-- A command of a run. -/
inductive OrderedCommand where
  | createSink (sink : Sink)
  | perform (operation : Operation)
  | collect (meter : MeterRef) (order : Nat → List Nat)

/-- The command that collects in order of registration. -/
def Command.inOrder : Command → OrderedCommand
  | .createSink sink => .createSink sink
  | .perform operation => .perform operation
  | .collect m => .collect m List.range

namespace State

/-- The callbacks of the observers of a meter, in an order of their places. -/
def ordered (s : State) (m : MeterRef) (order : Nat → List Nat) :
    List (InstrumentRef × List Action) :=
  (order (s.snapshot m).length).filterMap fun place => (s.snapshot m)[place]?

/-- A meter that does not stand has no callbacks. -/
theorem ordered_of_missing {s : State} {m : MeterRef} (missing : s.meter? m = none)
    (order : Nat → List Nat) : s.ordered m order = [] := by
  simp only [ordered, snapshot, missing]
  exact List.filterMap_eq_nil_iff.mpr fun _ _ => rfl

/-- Carries out a command. -/
def executeIn (s : State) : OrderedCommand → Answer × State
  | .createSink sink => s.execute (.createSink sink)
  | .perform operation => s.execute (.perform operation)
  | .collect m order =>
    let (answer, s) := s.collectInOrder m (s.ordered m order)
    (.collected answer, s)

/-- Carries out the commands of a run in turn. -/
def runIn (s : State) : List OrderedCommand → List Answer × State
  | [] => ([], s)
  | command :: rest =>
    let (answer, s) := s.executeIn command
    let (answers, s) := s.runIn rest
    (answer :: answers, s)

/-- A run carries out its first command, and the rest in the state that it leads to. -/
theorem runIn_cons (s : State) (command : OrderedCommand) (rest : List OrderedCommand) :
    s.runIn (command :: rest) =
      ((s.executeIn command).1 :: ((s.executeIn command).2.runIn rest).1,
        ((s.executeIn command).2.runIn rest).2) :=
  rfl

/-- A run carries out its first part, and the second in the state that it leads to. -/
theorem runIn_append (s : State) (first second : List OrderedCommand) :
    s.runIn (first ++ second) =
      ((s.runIn first).1 ++ ((s.runIn first).2.runIn second).1,
        ((s.runIn first).2.runIn second).2) := by
  induction first generalizing s with
  | nil => rfl
  | cons command rest ih => rw [List.cons_append, runIn_cons, runIn_cons, ih, List.cons_append]

/-- Every command is answered. -/
theorem length_runIn (s : State) (commands : List OrderedCommand) :
    (s.runIn commands).1.length = commands.length := by
  induction commands generalizing s with
  | nil => rfl
  | cons command rest ih => rw [runIn_cons, List.length_cons, ih, List.length_cons]

end State

end Metering
