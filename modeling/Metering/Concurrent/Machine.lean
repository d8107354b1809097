/-!
# Threads that share a state

A machine gives each thread its next atomic step; a thread that is blocked or has finished has
none. A schedule is the list of threads that get a turn, and a turn without a step is lost. Every
interleaving of the threads is a schedule, and every state that a schedule leads to is reachable.
-/

namespace Metering.Concurrent

/-- The atomic steps of threads, numbered from zero, on a shared state. -/
structure Machine (σ : Type) where
  step : Nat → σ → Option σ

namespace Machine

variable {σ : Type}

/-- The state after one thread had a turn. -/
def turn (M : Machine σ) (s : σ) (thread : Nat) : σ :=
  (M.step thread s).getD s

/-- The state after the turns of a schedule. -/
def run (M : Machine σ) (schedule : List Nat) (s : σ) : σ :=
  schedule.foldl M.turn s

/-- The states that some interleaving of steps leads to. -/
inductive Reachable (M : Machine σ) (start : σ) : σ → Prop where
  | start : Reachable M start start
  | step {s s' : σ} (thread : Nat) :
    Reachable M start s → M.step thread s = some s' → Reachable M start s'

/-- A turn leads from a reachable state to a reachable state. -/
theorem Reachable.turn {M : Machine σ} {start s : σ} (reachable : M.Reachable start s)
    (thread : Nat) : M.Reachable start (M.turn s thread) := by
  rw [Machine.turn]
  cases stepped : M.step thread s with
  | none => exact reachable
  | some s' => exact reachable.step thread stepped

/-- What holds at the start and is kept by every step of every thread holds in every reachable
state. -/
theorem Reachable.invariant {M : Machine σ} {P : σ → Prop} {start s : σ}
    (reachable : M.Reachable start s) (initial : P start)
    (kept : ∀ thread s s', P s → M.step thread s = some s' → P s') : P s := by
  induction reachable with
  | start => exact initial
  | step thread _ stepped ih => exact kept thread _ _ ih stepped

/-- What is reachable from a reachable state is reachable. -/
theorem Reachable.trans {M : Machine σ} {start s s' : σ} (first : M.Reachable start s)
    (second : M.Reachable s s') : M.Reachable start s' :=
  second.invariant first fun thread _ _ reachable stepped => reachable.step thread stepped

/-- Every schedule leads to a reachable state. -/
theorem reachable_run (M : Machine σ) (start : σ) (schedule : List Nat) :
    M.Reachable start (M.run schedule start) := by
  suffices general : ∀ s, M.Reachable start s → M.Reachable start (M.run schedule s) from
    general start .start
  induction schedule with
  | nil => exact fun _ reachable => reachable
  | cons thread rest ih => exact fun s reachable => ih _ (reachable.turn thread)

/-- The machine in which one thread gets no turn. -/
def without (M : Machine σ) (thread : Nat) : Machine σ :=
  ⟨fun other s => if other = thread then none else M.step other s⟩

/-- What is reached while one thread gets no turn is reached. -/
theorem Reachable.of_without {M : Machine σ} {thread : Nat} {start s : σ}
    (reachable : (M.without thread).Reachable start s) : M.Reachable start s := by
  refine reachable.invariant .start fun other before after standing stepped => ?_
  change (if other = thread then none else M.step other before) = some after at stepped
  split at stepped
  · cases stepped
  · exact standing.step other stepped

/-- The schedule in which each of some threads has a turn, round after round. -/
def roundRobin (threads rounds : Nat) : List Nat :=
  (List.replicate rounds (List.range threads)).flatten

end Machine

end Metering.Concurrent
