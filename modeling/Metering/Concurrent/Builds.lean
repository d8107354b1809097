import Metering.Concurrent.Machine
import Metering.Meter.Registration

/-!
# Threads that share the names of a meter

Building an instrument takes two steps: the name is checked, which concerns the building thread
alone, and then the configuration is registered, which is one atomic step of the meter. Between the
two, other threads may register the same name.
-/

namespace Metering.Concurrent

/-- A thread: the instrument it builds whose name has passed, and those it has not begun with. -/
structure BuildThread where
  passed : Option InstrumentSetup
  todo : List InstrumentSetup

/-- An answer: the thread, the instrument it asked for, and the place it got. -/
structure BuildAnswer where
  thread : Nat
  setup : InstrumentSetup
  answer : Except Failure Nat

/-- The shared state: the meter, the threads, and the answers given. -/
structure BuildState where
  meter : Meter
  threads : List BuildThread
  answers : List BuildAnswer

namespace BuildState

/-- Threads about to build their instruments. -/
def start (m : Meter) (programs : List (List InstrumentSetup)) : BuildState :=
  ⟨m, programs.map fun todo => ⟨none, todo⟩, []⟩

/-- The state after a thread went on. -/
def proceed (s : BuildState) (thread : Nat) (t : BuildThread) : BuildState :=
  { s with threads := s.threads.set thread t }

/-- The state after a thread was answered. -/
def answer (s : BuildState) (thread : Nat) (setup : InstrumentSetup)
    (answer : Except Failure Nat) : BuildState :=
  { s with answers := s.answers ++ [⟨thread, setup, answer⟩] }

/-- The next atomic step of a thread. -/
def step (thread : Nat) (s : BuildState) : Option BuildState :=
  match s.threads[thread]? with
  | none => none
  | some t =>
    match t.passed, t.todo with
    | some setup, todo =>
      let outcome := s.meter.register setup.config
      some (({ s with meter := outcome.meter }.proceed thread ⟨none, todo⟩).answer thread setup
        outcome.answer)
    | none, [] => none
    | none, setup :: rest =>
      match Name.validate setup.config.name with
      | .error e => some ((s.proceed thread ⟨none, rest⟩).answer thread setup (.error (.refused e)))
      | .ok () => some (s.proceed thread ⟨some setup, rest⟩)

/-- The names of a meter as a machine. -/
def machine : Machine BuildState :=
  ⟨step⟩

end BuildState

end Metering.Concurrent
