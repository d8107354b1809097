import Metering.Concurrent.Machine
import Metering.Meter.Recording

/-!
# Threads that share the bindings of an instrument

Binding and releasing are one atomic step each. Recording through a handle takes three: the value
is checked, then it is read whether the binding was released, then the sink is told. Between these
steps other threads may release the binding, or bind its labels anew.
-/

namespace Metering.Concurrent

/-- The binding a command is about: the one its thread bound last, or one given by identity. -/
inductive HandleTarget where
  | own
  | given (identity : Nat)
deriving DecidableEq

/-- A command of a thread. -/
inductive HandleCommand where
  | bind (labels : LabelSet)
  | record (target : HandleTarget) (value : Value)
  | unbind (target : HandleTarget)
deriving DecidableEq

/-- Where a thread stands: between commands, or in the middle of recording, before or after it was
read that the binding still stands. -/
inductive HandlePhase where
  | ready
  | checked (identity : Nat) (value : Value)
  | cleared (identity : Nat) (value : Value)
deriving DecidableEq, Inhabited

/-- A thread: where it stands, the binding it made last, and the commands it has not begun. -/
structure HandleThread where
  phase : HandlePhase
  own : Option Nat
  todo : List HandleCommand
deriving DecidableEq, Inhabited

/-- The binding that a target stands for in a thread. -/
def HandleTarget.resolve (t : HandleThread) : HandleTarget → Option Nat
  | .own => t.own
  | .given identity => some identity

/-- What became of a command. -/
inductive HandleAnswer where
  | bound (identity : Nat)
  | recorded (identity : Nat) (answer : Except Failure Unit)
  | unbound (identity : Nat) (answer : Except Failure Unit)

/-- The shared state: the bindings, the threads, the points told to the sink with the binding each
came through, and the answers with the thread each went to. -/
structure HandleState where
  table : BindingTable
  threads : List HandleThread
  told : List (Nat × Point)
  answers : List (Nat × HandleAnswer)

namespace HandleState

/-- Threads about to begin their commands on an instrument never bound. -/
def start (programs : List (List HandleCommand)) : HandleState :=
  ⟨.empty, programs.map fun todo => ⟨.ready, none, todo⟩, [], []⟩

/-- The state with one thread changed. -/
def modifyThread (s : HandleState) (thread : Nat) (f : HandleThread → HandleThread) :
    HandleState :=
  { s with threads := s.threads.modify thread f }

/-- The state with an answer given to a thread, which is then ready for its next command. -/
def reply (s : HandleState) (thread : Nat) (answer : HandleAnswer) : HandleState :=
  { s with answers := s.answers ++ [(thread, answer)] }.modifyThread thread fun t =>
    { t with phase := .ready }

section

variable (s : HandleState) (thread : Nat) (f : HandleThread → HandleThread) (answer : HandleAnswer)

/-- Changing a thread leaves the table. -/
@[simp] theorem modifyThread_table : (s.modifyThread thread f).table = s.table := rfl

/-- Changing a thread tells the sink nothing. -/
@[simp] theorem modifyThread_told : (s.modifyThread thread f).told = s.told := rfl

/-- Changing a thread answers nothing. -/
@[simp] theorem modifyThread_answers : (s.modifyThread thread f).answers = s.answers := rfl

/-- Answering leaves the table. -/
@[simp] theorem reply_table : (s.reply thread answer).table = s.table := rfl

/-- Answering tells the sink nothing. -/
@[simp] theorem reply_told : (s.reply thread answer).told = s.told := rfl

/-- An answer comes after those before it. -/
@[simp] theorem reply_answers :
    (s.reply thread answer).answers = s.answers ++ [(thread, answer)] := rfl

end

/-- The first step of a command. A command about a binding that does not exist does nothing. -/
def beginCommand (i : Instrument) (thread : Nat) (t : HandleThread) (s : HandleState) :
    HandleCommand → HandleState
  | .bind labels =>
    let (table, identity) := s.table.acquire labels i.config.constants
    ({ s with table := table }.modifyThread thread fun t =>
      { t with own := some identity }).reply thread (.bound identity)
  | .record target value =>
    match target.resolve t with
    | none => s
    | some identity =>
      match i.accept value with
      | .error e => s.reply thread (.recorded identity (.error e))
      | .ok () => s.modifyThread thread fun t => { t with phase := .checked identity value }
  | .unbind target =>
    match target.resolve t with
    | none => s
    | some identity =>
      match s.table.made[identity]?, s.table.release identity with
      | none, _ => s
      | some _, some (table, _) =>
        { s with table := table }.reply thread (.unbound identity (.ok ()))
      | some binding, none =>
        s.reply thread (.unbound identity (.error (.refused (i.unknownBinding binding))))

/-- The next atomic step of a thread. -/
def step (i : Instrument) (thread : Nat) (s : HandleState) : Option HandleState :=
  match s.threads[thread]? with
  | none => none
  | some t =>
    match t.phase, t.todo with
    | .ready, [] => none
    | .ready, command :: rest =>
      let s := s.modifyThread thread fun t => { t with todo := rest }
      some (beginCommand i thread t s command)
    | .checked identity value, _ =>
      match s.table.made[identity]? with
      | none => some (s.modifyThread thread fun t => { t with phase := .ready })
      | some binding =>
        if binding.released then
          some (s.reply thread
            (.recorded identity (.error (.refused (i.bindingReleased binding)))))
        else
          some (s.modifyThread thread fun t => { t with phase := .cleared identity value })
    | .cleared identity value, _ =>
      match s.table.made[identity]? with
      | none => some (s.modifyThread thread fun t => { t with phase := .ready })
      | some binding =>
        some ({ s with told := s.told ++ [(identity, i.point binding.effective value)] }.reply
          thread (.recorded identity (.ok ())))

/-- The bindings of an instrument as a machine. -/
def machine (i : Instrument) : Machine HandleState :=
  ⟨step i⟩

/-- The answers to one thread, in order. -/
def answersOf (s : HandleState) (thread : Nat) : List HandleAnswer :=
  s.answers.filterMap fun (t, answer) => if t = thread then some answer else none

end HandleState

end Metering.Concurrent
