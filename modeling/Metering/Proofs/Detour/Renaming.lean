import Mathlib.Logic.Embedding.Basic
import Metering.State.Run

/-! # Renamed handles

Two runs that make different bindings give different identities to what is the same handle. A
renaming tells which identity each binding of one run has in the other. Requests, callbacks,
commands and answers are renamed handle by handle.
-/

namespace Metering

/-- The identities that the bindings of each instrument have in another run. -/
structure Renaming where
  identity : InstrumentRef → Nat ↪ Nat

/-- The handle that stands for a handle in the other run. -/
def Renaming.apply (ρ : Renaming) (h : Handle) : Handle :=
  ⟨h.instrument, ρ.identity h.instrument h.identity⟩

mutual

/-- The request with its handles renamed, those in its callbacks included. -/
def Operation.rename (ρ : Renaming) : Operation → Operation
  | .recordBound h value => .recordBound (ρ.apply h) value
  | .unbind i h => .unbind i (ρ.apply h)
  | .setCallback i program => .setCallback i (Action.renameAll ρ program)
  | operation => operation

/-- The action with its handles renamed. -/
def Action.rename (ρ : Renaming) : Action → Action
  | .perform operation => .perform (operation.rename ρ)
  | .spawn m setup program => .spawn m setup (Action.renameAll ρ program)
  | .replace program => .replace (Action.renameAll ρ program)
  | action => action

/-- The program with its handles renamed. -/
def Action.renameAll (ρ : Renaming) : List Action → List Action
  | [] => []
  | action :: rest => action.rename ρ :: Action.renameAll ρ rest

end

/-- The answer with its handle renamed. -/
def Reply.rename (ρ : Renaming) : Reply → Reply
  | .handle h => .handle (ρ.apply h)
  | answer => answer

/-- What came of a collection with the handles in its answers renamed. -/
def Collection.rename (ρ : Renaming) (collection : Collection) : Collection :=
  { collection with
    calls := collection.calls.map fun call => (call.1, call.2.map (Reply.rename ρ)) }

/-- The answer to a command with its handles renamed. -/
def Answer.rename (ρ : Renaming) : Answer → Answer
  | .replied answer => .replied (answer.map (Reply.rename ρ))
  | .collected answer => .collected (answer.map (Collection.rename ρ))

end Metering
