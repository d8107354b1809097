import Metering.Proofs.Stream.Account

/-! # Histories

A history is what led from the state without objects to a state: the sinks made, and all calls in
order with their answers, those of callbacks included. A collection runs the callbacks of a meter in
any order. Every reachable state has a history (`Metering.exists_history`), and what every call,
every new sink and every journal entry keeps holds at its end (`Metering.History.invariant`).
-/

namespace Metering

namespace State

/-- A request made of a state, with its answer. -/
def call (s : State) (operation : Operation) : Call :=
  ⟨operation, (s.perform operation).1⟩

/-- The calls that an action of the callback of an observer makes. -/
def callsOfAction (s : State) (observer : InstrumentRef) : Action → List Call
  | .observe value labels => [s.call (.record observer value labels)]
  | .perform operation => [s.call operation]
  | .spawn m setup program =>
    s.call (.build m setup) ::
      match s.build m setup with
      | (.error _, _) => []
      | (.ok i, s) => [s.call (.setCallback i program)]
  | .replace program => [s.call (.setCallback observer program)]
  | .describe => []

/-- The calls that the callback of an observer makes. -/
def callsOfProgram (s : State) (observer : InstrumentRef) : List Action → List Call
  | [] => []
  | action :: rest =>
    s.callsOfAction observer action ++ (s.act observer action).2.callsOfProgram observer rest

/-- The calls that callbacks make, run in the order given. -/
def callsOfCallbacks (s : State) : List (InstrumentRef × List Action) → List Call
  | [] => []
  | (observer, program) :: rest =>
    s.callsOfProgram observer program ++
      (s.runProgram observer program).2.callsOfCallbacks rest

end State

/-- The sinks made, the calls, and the state that they lead to. -/
inductive History : List Sink → List Call → State → Prop where
  | empty : History [] [] .empty
  | createSink {sinks : List Sink} {calls : List Call} {s : State} (sink : Sink) :
    History sinks calls s → History (sinks ++ [sink]) calls (s.createSink sink).2
  | perform {sinks : List Sink} {calls : List Call} {s : State} (operation : Operation) :
    History sinks calls s →
      History sinks (calls ++ [s.call operation]) (s.perform operation).2
  | collect {sinks : List Sink} {calls : List Call} {s : State} (m : MeterRef)
      (order : List (InstrumentRef × List Action)) (complete : order.Perm (s.snapshot m)) :
    History sinks calls s →
      History sinks (calls ++ s.callsOfCallbacks order) (s.collectInOrder m order).2

/-- Each state that can be reached has a history. -/
theorem exists_history {s : State} (reachable : State.Reachable s) :
    ∃ sinks calls, History sinks calls s := by
  induction reachable with
  | empty => exact ⟨[], [], .empty⟩
  | @execute s command _ ih =>
      obtain ⟨sinks, calls, history⟩ := ih
      cases command with
      | createSink sink => exact ⟨_, _, history.createSink sink⟩
      | perform operation => exact ⟨_, _, history.perform operation⟩
      | collect m => exact ⟨_, _, history.collect m (s.snapshot m) (.refl _)⟩

section Invariants

variable {P : List Call → State → Prop}
  (performed : ∀ calls s operation, P calls s →
    P (calls ++ [s.call operation]) (s.perform operation).2)

include performed

private theorem kept_of_act {calls : List Call} {s : State} (observer : InstrumentRef)
    (action : Action)
    (holds : P calls s) :
    P (calls ++ s.callsOfAction observer action) (s.act observer action).2 := by
  cases action with
  | observe value labels => exact performed calls s _ holds
  | perform operation => exact performed calls s operation holds
  | replace program => exact performed calls s _ holds
  | describe =>
      have same : (s.act observer .describe).2 = s := by
        rw [State.act]
        cases s.instrument? observer <;> rfl
      rw [State.callsOfAction, List.append_nil, same]
      exact holds
  | spawn m setup program =>
      have built := performed calls s (.build m setup) holds
      have after : (s.perform (.build m setup)).2 = (s.build m setup).2 := rfl
      rw [after] at built
      rw [State.callsOfAction, State.act]
      cases outcome : s.build m setup with
      | mk answer s' =>
          rw [outcome] at built
          cases answer with
          | error e => exact built
          | ok i =>
              have set := performed _ s' (.setCallback i program) built
              rw [List.append_assoc, List.singleton_append] at set
              exact set

private theorem kept_of_runProgram {calls : List Call} {s : State} (observer : InstrumentRef)
    (program : List Action) (holds : P calls s) :
    P (calls ++ s.callsOfProgram observer program) (s.runProgram observer program).2 := by
  induction program generalizing calls s with
  | nil =>
      rw [State.callsOfProgram, List.append_nil]
      exact holds
  | cons action rest ih =>
      rw [State.callsOfProgram, ← List.append_assoc]
      exact ih (kept_of_act performed observer action holds)

private theorem kept_of_runCallbacks {calls : List Call} {s : State}
    (callbacks : List (InstrumentRef × List Action)) (holds : P calls s) :
    P (calls ++ s.callsOfCallbacks callbacks) (s.runCallbacks callbacks).2 := by
  induction callbacks generalizing calls s with
  | nil =>
      rw [State.callsOfCallbacks, List.append_nil]
      exact holds
  | cons callback rest ih =>
      obtain ⟨observer, program⟩ := callback
      rw [State.callsOfCallbacks, ← List.append_assoc]
      exact ih (kept_of_runProgram performed observer program holds)

end Invariants

/-- **Invariants of histories.** -/
theorem History.invariant {P : List Sink → List Call → State → Prop} {sinks : List Sink}
    {calls : List Call} {s : State} (history : History sinks calls s) (empty : P [] [] .empty)
    (created : ∀ sinks calls s sink, P sinks calls s →
      P (sinks ++ [sink]) calls (s.createSink sink).2)
    (performed : ∀ sinks calls s operation, P sinks calls s →
      P sinks (calls ++ [s.call operation]) (s.perform operation).2)
    (noted : ∀ sinks calls s entry, P sinks calls s → P sinks calls (s.note entry)) :
    P sinks calls s := by
  induction history with
  | empty => exact empty
  | createSink sink _ ih => exact created _ _ _ sink ih
  | perform operation _ ih => exact performed _ _ _ operation ih
  | @collect sinks calls s m order complete _ ih =>
      rw [State.collectInOrder]
      cases found : s.meter? m with
      | none =>
          -- Without a meter there are no callbacks to run.
          have none : order = [] := by
            rw [State.snapshot, found] at complete
            exact complete.eq_nil
          rw [none, State.callsOfCallbacks, List.append_nil]
          exact ih
      | some meter =>
          exact noted _ _ _ _ (kept_of_runCallbacks (performed sinks) order ih)

end Metering
