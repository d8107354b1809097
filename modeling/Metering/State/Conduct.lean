import Metering.State.Collection

/-!
# Callbacks of any conduct

A callback may go by the answers to what it has done. Its conduct says what it does next, given
them, and comes to an end whatever they are. A callback is kept as a program, which stands for a
conduct in some manner; in the literal manner it does what it says, and observers are collected as
they are without conducts (`Metering.State.collectBy_literal`).
-/

namespace Metering

/-- What a callback does, each action in dependence on the answers to those before. -/
inductive Conduct where
  | finished
  | next (action : Action) (goOn : Except Failure Reply → Conduct)

/-- The conduct that does the actions of a program, whatever the answers. -/
def Conduct.ofProgram : List Action → Conduct
  | [] => .finished
  | action :: rest => .next action fun _ => .ofProgram rest

/-- What the programs of callbacks stand for, by observer. -/
abbrev Manner := InstrumentRef → List Action → Conduct

/-- The manner in which programs do what they say. -/
def Manner.literal : Manner := fun _ => .ofProgram

/-- An action of the callback of an observer, and the state in which it is done. -/
structure Act where
  state : State
  observer : InstrumentRef
  action : Action

namespace Act

/-- The answer to the action. -/
def answer (a : Act) : Except Failure Reply :=
  (a.state.act a.observer a.action).1

/-- The state that the action leads to. -/
def next (a : Act) : State :=
  (a.state.act a.observer a.action).2

/-- The answer with the observer that it is for. -/
def report (a : Act) : InstrumentRef × Except Failure Reply :=
  (a.observer, a.answer)

end Act

namespace State

/-- Carries out the conduct of the callback of an observer to its end. -/
def follow (s : State) (observer : InstrumentRef) : Conduct → List Act × State
  | .finished => ([], s)
  | .next action goOn =>
    let (answer, s') := s.act observer action
    let (acts, s') := s'.follow observer (goOn answer)
    (⟨s, observer, action⟩ :: acts, s')

/-- Carries out callbacks in the order given; what is done for each is kept apart. -/
def followAll (s : State) (manner : Manner) :
    List (InstrumentRef × List Action) → List (List Act) × State
  | [] => ([], s)
  | (observer, program) :: rest =>
    let (acts, s) := s.follow observer (manner observer program)
    let (later, s) := s.followAll manner rest
    (acts :: later, s)

/-- Collects the observers of a meter by carrying out callbacks in the order given. -/
def collectBy (s : State) (manner : Manner) (m : MeterRef)
    (callbacks : List (InstrumentRef × List Action)) : Except Failure Collection × State :=
  match s.meter? m with
  | none => (.error .absent, s)
  | some meter =>
    let (blocks, s) := s.followAll manner callbacks
    (.ok ⟨callbacks.length, blocks.flatten.map Act.report⟩,
      s.note (.observersCollected meter.name callbacks.length))

private theorem follow_ofProgram (s : State) (observer : InstrumentRef) (program : List Action) :
    (s.follow observer (.ofProgram program)).1.map Act.report =
        (s.runProgram observer program).1.map (observer, ·) ∧
      (s.follow observer (.ofProgram program)).2 = (s.runProgram observer program).2 := by
  induction program generalizing s with
  | nil => exact ⟨rfl, rfl⟩
  | cons action rest ih =>
      obtain ⟨answers, after⟩ := ih (s.act observer action).2
      exact ⟨congrArg (_ :: ·) answers, after⟩

private theorem followAll_literal (s : State) (callbacks : List (InstrumentRef × List Action)) :
    (s.followAll .literal callbacks).1.flatten.map Act.report = (s.runCallbacks callbacks).1 ∧
      (s.followAll .literal callbacks).2 = (s.runCallbacks callbacks).2 := by
  induction callbacks generalizing s with
  | nil => exact ⟨rfl, rfl⟩
  | cons callback rest ih =>
      obtain ⟨observer, program⟩ := callback
      obtain ⟨answers, between⟩ := s.follow_ofProgram observer program
      obtain ⟨later, after⟩ := ih (s.runProgram observer program).2
      have first : (s.follow observer (Manner.literal observer program)).2 =
          (s.runProgram observer program).2 := between
      rw [followAll, runCallbacks]
      simp only [first, List.flatten_cons, List.map_append]
      refine ⟨?_, after⟩
      rw [later]
      exact congrArg (· ++ _) answers

/-- **In the literal manner, observers are collected as they are.** -/
theorem collectBy_literal (s : State) (m : MeterRef)
    (callbacks : List (InstrumentRef × List Action)) :
    s.collectBy .literal m callbacks = s.collectInOrder m callbacks := by
  obtain ⟨answers, after⟩ := s.followAll_literal callbacks
  rw [collectBy, collectInOrder]
  cases s.meter? m with
  | none => rfl
  | some meter => simp only [answers, after]

end State

end Metering
