import Metering.Concurrent.Machine
import Metering.State.Operations

/-!
# Threads that share a registry

Getting a meter by name takes two steps when the name is new: the name is looked up, and if it is
not there, a meter is put in unless another thread has put one in by then. What stands in the
registry after the second step is the answer.
-/

namespace Metering.Concurrent

/-- A thread: the name it has looked up in vain, and the names it has not begun with. -/
structure LookupThread where
  missed : Option String
  todo : List String
deriving DecidableEq, Inhabited

/-- An answer: the thread, the name it asked for, and the meter it got. -/
structure LookupAnswer where
  thread : Nat
  name : String
  meter : MeterRef
deriving DecidableEq

/-- The shared state: all objects, the threads, and the answers given. -/
structure LookupState where
  state : State
  threads : List LookupThread
  answers : List LookupAnswer

namespace LookupState

/-- Threads about to ask for their names. -/
def start (state : State) (programs : List (List String)) : LookupState :=
  ⟨state, programs.map fun todo => ⟨none, todo⟩, []⟩

/-- The state after a thread went on. -/
def proceed (s : LookupState) (thread : Nat) (t : LookupThread) : LookupState :=
  { s with threads := s.threads.set thread t }

/-- The state after a thread got a meter. -/
def answer (s : LookupState) (thread : Nat) (name : String) (m : MeterRef) : LookupState :=
  { s with answers := s.answers ++ [⟨thread, name, m⟩] }

/-- The next atomic step of a thread. -/
def step (r : RegistryRef) (thread : Nat) (s : LookupState) : Option LookupState :=
  match s.threads[thread]?, s.state.registryAt? r with
  | some t, some registry =>
    match t.missed, t.todo with
    | some name, todo =>
      match s.state.getMeter r name with
      | (.error _, _) => none
      | (.ok m, state) =>
        some (({ s with state := state }.proceed thread ⟨none, todo⟩).answer thread name m)
    | none, [] => none
    | none, name :: rest =>
      match registry.meters.lookup name with
      | some m => some ((s.proceed thread ⟨none, rest⟩).answer thread name m)
      | none => some (s.proceed thread ⟨some name, rest⟩)
  | _, _ => none

/-- A registry as a machine. -/
def machine (r : RegistryRef) : Machine LookupState :=
  ⟨step r⟩

/-- The meters that one thread got, in order. -/
def metersOf (s : LookupState) (thread : Nat) : List MeterRef :=
  s.answers.filterMap fun a => if a.thread = thread then some a.meter else none

end LookupState

end Metering.Concurrent
