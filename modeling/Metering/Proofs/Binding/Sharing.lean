import Metering.Concurrent.Workload
import Metering.Proofs.Binding.Table
import Metering.State.Operations

/-! # Bindings shared by threads

Threads that bind, record and release under any interleaving keep the table of bindings well formed
and balanced: a binding is held as often as it was answered to a binding thread, less the releases
that succeeded (`Metering.Concurrent.HandleState.Balanced`). It follows that a binding answered a
number of times can be released exactly that often, whoever releases it
(`Metering.Concurrent.HandleState.shared_of_reachable`).
-/

namespace Metering.Concurrent

namespace HandleAnswer

/-- Whether an answer hands out a binding. -/
def bindsIdentity (identity : Nat) : HandleAnswer → Bool
  | .bound other => other == identity
  | _ => false

/-- Whether an answer tells that a binding was released once. -/
def releasesIdentity (identity : Nat) : HandleAnswer → Bool
  | .unbound other (.ok ()) => other == identity
  | _ => false

end HandleAnswer

namespace HandleState

/-- How often a binding was handed out. -/
def binds (s : HandleState) (identity : Nat) : Nat :=
  s.answers.countP fun answer => answer.2.bindsIdentity identity

/-- How often a binding was released with success. -/
def unbinds (s : HandleState) (identity : Nat) : Nat :=
  s.answers.countP fun answer => answer.2.releasesIdentity identity

/-- **What one step does** to the bindings, to the sink and to the answers. -/
inductive Effect (i : Instrument) (thread : Nat) (s s' : HandleState) : Prop where
  /-- Nothing that another thread could notice. -/
  | silent (table : s'.table = s.table) (told : s'.told = s.told)
      (answers : s'.answers = s.answers)
  /-- Labels are bound. -/
  | bound (labels : LabelSet)
      (table : s'.table = (s.table.acquire labels i.config.constants).1) (told : s'.told = s.told)
      (answers : s'.answers =
        s.answers ++ [(thread, .bound (s.table.acquire labels i.config.constants).2)])
  /-- A binding is released once. -/
  | released (identity remaining : Nat)
      (table : s.table.release identity = some (s'.table, remaining)) (told : s'.told = s.told)
      (answers : s'.answers = s.answers ++ [(thread, .unbound identity (.ok ()))])
  /-- A binding that is not in the table is not released. -/
  | unreleased (identity : Nat) (b : Binding) (made : s.table.made[identity]? = some b)
      (refused : s.table.release identity = none) (table : s'.table = s.table)
      (told : s'.told = s.told)
      (answers : s'.answers =
        s.answers ++ [(thread, .unbound identity (.error (.refused (i.unknownBinding b))))])
  /-- A value is not recorded. -/
  | unrecorded (identity : Nat) (e : Failure) (table : s'.table = s.table)
      (told : s'.told = s.told)
      (answers : s'.answers = s.answers ++ [(thread, .recorded identity (.error e))])
  /-- A value is recorded through a binding. -/
  | recorded (identity : Nat) (b : Binding) (value : Value)
      (made : s.table.made[identity]? = some b) (table : s'.table = s.table)
      (told : s'.told = s.told ++ [(identity, i.point b.effective value)])
      (answers : s'.answers = s.answers ++ [(thread, .recorded identity (.ok ()))])

variable {i : Instrument} {thread : Nat} {s s' : HandleState}

private theorem effect_beginCommand (t : HandleThread) (command : HandleCommand) :
    Effect i thread s (beginCommand i thread t s command) := by
  cases command with
  | bind labels => exact .bound labels rfl rfl rfl
  | record target value =>
      simp only [beginCommand]
      split
      · exact .silent rfl rfl rfl
      · next identity _ =>
        split
        · next e _ => exact .unrecorded identity e rfl rfl rfl
        · exact .silent rfl rfl rfl
  | unbind target =>
      simp only [beginCommand]
      split
      · exact .silent rfl rfl rfl
      · next identity _ =>
        split
        · exact .silent rfl rfl rfl
        · next b table remaining _ released =>
          exact .released identity remaining released rfl rfl
        · next b made refused => exact .unreleased identity b made refused rfl rfl rfl

/-- Every step has one of the effects. -/
theorem effect_of_step (stepped : (machine i).step thread s = some s') :
    Effect i thread s s' := by
  change step i thread s = some s' at stepped
  unfold step at stepped
  cases found : s.threads[thread]? with
  | none => simp only [found, reduceCtorEq] at stepped
  | some t =>
      simp only [found] at stepped
      cases phase : t.phase with
      | ready =>
          cases todo : t.todo with
          | nil => simp only [phase, todo, reduceCtorEq] at stepped
          | cons command rest =>
              simp only [phase, todo, Option.some.injEq] at stepped
              subst stepped
              -- Taking the command from the list is not noticed by the effect that follows.
              cases effect_beginCommand (s := s.modifyThread thread _) t command with
              | silent table told answers => exact .silent table told answers
              | bound labels table told answers => exact .bound labels table told answers
              | released identity remaining table told answers =>
                  exact .released identity remaining table told answers
              | unreleased identity b made refused table told answers =>
                  exact .unreleased identity b made refused table told answers
              | unrecorded identity e table told answers =>
                  exact .unrecorded identity e table told answers
              | recorded identity b value made table told answers =>
                  exact .recorded identity b value made table told answers
      | checked identity value =>
          simp only [phase] at stepped
          cases made : s.table.made[identity]? with
          | none =>
              simp only [made, Option.some.injEq] at stepped
              subst stepped
              exact .silent rfl rfl rfl
          | some b =>
              simp only [made] at stepped
              split at stepped
              · cases stepped
                exact .unrecorded identity _ rfl rfl rfl
              · cases stepped
                exact .silent rfl rfl rfl
      | cleared identity value =>
          simp only [phase] at stepped
          cases made : s.table.made[identity]? with
          | none =>
              simp only [made, Option.some.injEq] at stepped
              subst stepped
              exact .silent rfl rfl rfl
          | some b =>
              simp only [made, Option.some.injEq] at stepped
              subst stepped
              exact .recorded identity b value made rfl rfl rfl

/-! ## Balance -/

/-- **Balanced bindings.** The table is well formed, each binding is held as often as it was handed
out less the releases that succeeded, and the bindings made are those handed out. -/
structure Balanced (i : Instrument) (s : HandleState) : Prop where
  wellFormed : s.table.WellFormed i.config.constants
  balance : ∀ identity, s.table.refs identity + s.unbinds identity = s.binds identity
  handedOut : ∀ identity, identity < s.table.made.length ↔ 0 < s.binds identity

private theorem binds_concat {answer : HandleAnswer}
    (answers : s'.answers = s.answers ++ [(thread, answer)]) (identity : Nat) :
    s'.binds identity = s.binds identity + if answer.bindsIdentity identity then 1 else 0 := by
  simp only [binds, answers, List.countP_append, List.countP_singleton]

/-- An answer adds to the releases that it reports. -/
theorem unbinds_concat {answer : HandleAnswer}
    (answers : s'.answers = s.answers ++ [(thread, answer)]) (identity : Nat) :
    s'.unbinds identity =
      s.unbinds identity + if answer.releasesIdentity identity then 1 else 0 := by
  simp only [unbinds, answers, List.countP_append, List.countP_singleton]

/-- An answer that neither hands out a binding nor tells of a release leaves the bindings balanced
if it leaves the table as it was. -/
theorem Balanced.of_table_eq (balanced : s.Balanced i) (table : s'.table = s.table)
    (binds : ∀ identity, s'.binds identity = s.binds identity)
    (unbinds : ∀ identity, s'.unbinds identity = s.unbinds identity) : s'.Balanced i where
  wellFormed := table ▸ balanced.wellFormed
  balance := fun identity => by rw [table, binds, unbinds, balanced.balance]
  handedOut := fun identity => by rw [table, binds, balanced.handedOut]

/-- A step keeps holds and answers in balance. -/
theorem Balanced.of_effect (balanced : s.Balanced i) (effect : Effect i thread s s') :
    s'.Balanced i := by
  cases effect with
  | silent table told answers =>
      exact balanced.of_table_eq table (fun _ => by rw [binds, answers, binds])
        fun _ => by rw [unbinds, answers, unbinds]
  | unreleased identity b made refused table told answers =>
      exact balanced.of_table_eq table (fun _ => binds_concat answers _)
        fun _ => unbinds_concat answers _
  | unrecorded identity e table told answers =>
      exact balanced.of_table_eq table (fun _ => binds_concat answers _)
        fun _ => unbinds_concat answers _
  | recorded identity b value made table told answers =>
      exact balanced.of_table_eq table (fun _ => binds_concat answers _)
        fun _ => unbinds_concat answers _
  | bound labels table told answers =>
      have wf := balanced.wellFormed
      refine ⟨table ▸ wf.acquire labels, fun identity => ?_, fun identity => ?_⟩
      · have before := balanced.balance identity
        rw [table, wf.refs_acquire, binds_concat answers, unbinds_concat answers]
        simp only [HandleAnswer.bindsIdentity, HandleAnswer.releasesIdentity, beq_iff_eq,
          Bool.false_eq_true, ↓reduceIte, eq_comm (a := identity)]
        omega
      · rw [table, wf.lt_length_acquire_iff, binds_concat answers, balanced.handedOut]
        simp only [HandleAnswer.bindsIdentity, beq_iff_eq, eq_comm (a := identity)]
        split <;> simp_all
  | released identity remaining released told answers =>
      have wf := balanced.wellFormed
      refine ⟨wf.release released, fun other => ?_, fun other => ?_⟩
      · have before := balanced.balance other
        have taken := wf.refs_release released other
        rw [binds_concat answers, unbinds_concat answers]
        simp only [HandleAnswer.bindsIdentity, HandleAnswer.releasesIdentity, beq_iff_eq,
          Bool.false_eq_true, ↓reduceIte, eq_comm (b := other)]
        omega
      · rw [BindingTable.length_release released, binds_concat answers, balanced.handedOut]
        simp only [HandleAnswer.bindsIdentity, Bool.false_eq_true, ↓reduceIte, Nat.add_zero]

/-- Holds and answers are in balance whoever has a turn when. -/
theorem balanced_of_reachable {programs : List (List HandleCommand)}
    (reachable : (machine i).Reachable (start programs) s) : s.Balanced i := by
  refine reachable.invariant ?_ fun thread _ _ balanced stepped =>
    balanced.of_effect (effect_of_step stepped)
  refine ⟨BindingTable.wellFormed_empty _, fun _ => rfl, fun _ => ?_⟩
  simp [start, BindingTable.empty, binds]

/-! ## Releases that succeed and releases that fail -/

/-- Once a binding has been released as often as it was handed out, no step hands it out or
releases it again. -/
theorem Balanced.exhausted_of_effect (balanced : s.Balanced i) (effect : Effect i thread s s')
    (identity : Nat) (handedOut : 0 < s.binds identity)
    (exhausted : s.unbinds identity = s.binds identity) :
    s'.binds identity = s.binds identity ∧ s'.unbinds identity = s.unbinds identity := by
  have inside := (balanced.handedOut identity).mpr handedOut
  have unheld : s.table.refs identity = 0 := by
    have balance := balanced.balance identity
    omega
  cases effect with
  | silent table told answers =>
      exact ⟨by rw [binds, answers, binds], by rw [unbinds, answers, unbinds]⟩
  | unreleased other b made refused table told answers =>
      exact ⟨binds_concat answers _, unbinds_concat answers _⟩
  | unrecorded other e table told answers =>
      exact ⟨binds_concat answers _, unbinds_concat answers _⟩
  | recorded other b value made table told answers =>
      exact ⟨binds_concat answers _, unbinds_concat answers _⟩
  | bound labels table told answers =>
      have different := balanced.wellFormed.acquire_ne_of_refs_eq_zero labels inside unheld
      refine ⟨?_, unbinds_concat answers _⟩
      rw [binds_concat answers]
      simp [HandleAnswer.bindsIdentity, different]
  | released other remaining released told answers =>
      have different : other ≠ identity := by
        rintro rfl
        have held := balanced.wellFormed.release_isSome_iff.mp (Option.isSome_of_eq_some released)
        omega
      refine ⟨binds_concat answers _, ?_⟩
      rw [unbinds_concat answers]
      simp [HandleAnswer.releasesIdentity, different]

/-- What a thread is answered that is about to release a binding. -/
theorem Balanced.step_unbind (balanced : s.Balanced i) {t : HandleThread} {target : HandleTarget}
    {rest : List HandleCommand} {identity : Nat} (found : s.threads[thread]? = some t)
    (ready : t.phase = .ready) (next : t.todo = .unbind target :: rest)
    (resolved : target.resolve t = some identity) (handedOut : 0 < s.binds identity) :
    ∃ s' b, (machine i).step thread s = some s' ∧ s.table.made[identity]? = some b ∧
      (s.unbinds identity < s.binds identity →
        s'.answers = s.answers ++ [(thread, .unbound identity (.ok ()))]) ∧
      (s.unbinds identity = s.binds identity → s'.table = s.table ∧
        s'.answers =
          s.answers ++ [(thread, .unbound identity (.error (.refused (i.unknownBinding b))))]) := by
  have inside := (balanced.handedOut identity).mpr handedOut
  have balance := balanced.balance identity
  have held : (s.table.release identity).isSome ↔ 0 < s.table.refs identity :=
    balanced.wellFormed.release_isSome_iff
  obtain ⟨b, made⟩ : ∃ b, s.table.made[identity]? = some b := ⟨_, List.getElem?_eq_getElem inside⟩
  have stepped : (machine i).step thread s =
      some (beginCommand i thread t (s.modifyThread thread fun t => { t with todo := rest })
        (.unbind target)) := by
    simp only [machine, step, found, ready, next]
  refine ⟨_, b, stepped, made, fun more => ?_, fun spent => ?_⟩
  · obtain ⟨⟨table, remaining⟩, released⟩ := Option.isSome_iff_exists.mp (held.mpr (by omega))
    simp only [beginCommand, resolved, modifyThread_table, made, released]
    rfl
  · have refused : s.table.release identity = none := by
      rw [← Option.not_isSome_iff_eq_none, held]
      omega
    simp only [beginCommand, resolved, modifyThread_table, made, refused]
    exact ⟨rfl, rfl⟩

/-- **What holds of shared bindings** in every state that the threads can reach. A handle is a
reference to a binding by its identity; clones of a handle are the same reference. -/
structure Shared (i : Instrument) (s : HandleState) : Prop where
  /-- No labels have two entries in the table. -/
  oneEntry : (s.table.live.map Prod.fst).Nodup
  /-- The entry under some labels is a binding of these labels, overridden by the constants. -/
  entry : ∀ labels identity, s.table.find? labels = some identity →
    ∃ b, s.table.made[identity]? = some b ∧ b.labels = labels ∧
      b.effective = labels.mergedWith i.config.constants
  /-- A binding that was handed out is held as often as that, less the releases that succeeded. It
  stands in the table under its labels exactly while it is held, and so long it is not released. -/
  held : ∀ thread identity, (thread, .bound identity) ∈ s.answers →
    ∃ b, s.table.made[identity]? = some b ∧
      b.refs + s.unbinds identity = s.binds identity ∧
      (s.table.find? b.labels = some identity ↔ 1 ≤ b.refs) ∧
      (1 ≤ b.refs ↔ b.released = false)
  /-- A release that succeeds finds its binding held, and leaves it held once less. -/
  decrement : ∀ identity t remaining, s.table.release identity = some (t, remaining) →
    ∃ b, s.table.made[identity]? = some b ∧ b.refs = remaining + 1
  /-- Two handles of the instrument that are held are equal exactly when their labels are. -/
  equal : ∀ (first second : Handle) b c, first.instrument = second.instrument →
    s.table.made[first.identity]? = some b → s.table.made[second.identity]? = some c →
    1 ≤ b.refs → 1 ≤ c.refs → (first = second ↔ b.labels = c.labels)
  /-- The size of the table is the number of the bindings that are held. -/
  size : s.table.size = s.table.liveIdentities.length
  /-- In a state where an instrument has these bindings, the handle of one is held through this
  instrument as often as was counted, and through no other at all. -/
  counted : ∀ (state : State) (h : Handle) (j : InstrumentRef),
    state.instrument? h.instrument = some { i with bindings := s.table } →
      state.refCount j h = if j = h.instrument then s.table.refs h.identity else 0
  /-- A thread about to release a binding succeeds while the binding was released less often than it
  was handed out, and is refused afterwards. -/
  release : ∀ thread t target rest identity, s.threads[thread]? = some t → t.phase = .ready →
    t.todo = .unbind target :: rest → target.resolve t = some identity → 0 < s.binds identity →
    ∃ s' b, (machine i).step thread s = some s' ∧ s.table.made[identity]? = some b ∧
      (s.unbinds identity < s.binds identity →
        s'.answers = s.answers ++ [(thread, .unbound identity (.ok ()))]) ∧
      (s.unbinds identity = s.binds identity → s'.table = s.table ∧
        s'.answers =
          s.answers ++ [(thread, .unbound identity (.error (.refused (i.unknownBinding b))))])
  /-- A binding that was released as often as it was handed out is never handed out again. -/
  final : ∀ s' identity, (machine i).Reachable s s' → 0 < s.binds identity →
    s.unbinds identity = s.binds identity →
    s'.binds identity = s.binds identity ∧ s'.unbinds identity = s.unbinds identity

/-- Whatever the threads do and in whichever order their steps are taken, what is said of shared
bindings holds. -/
theorem shared_of_reachable (i : Instrument) (programs : List (List HandleCommand))
    (s : HandleState) (reachable : (machine i).Reachable (start programs) s) : s.Shared i := by
  have balanced := balanced_of_reachable reachable
  have wf := balanced.wellFormed
  constructor
  case oneEntry => exact wf.distinct
  case entry =>
    intro labels identity found
    obtain ⟨b, made, rfl, _⟩ := wf.made_of_find? found
    exact ⟨b, made, rfl, wf.merged identity b made⟩
  case held =>
    intro thread identity answered
    have handedOut : 0 < s.binds identity :=
      List.countP_pos_iff.mpr ⟨_, answered, beq_self_eq_true identity⟩
    obtain ⟨b, made⟩ : ∃ b, s.table.made[identity]? = some b :=
      ⟨_, List.getElem?_eq_getElem ((balanced.handedOut identity).mpr handedOut)⟩
    refine ⟨b, made, ?_, wf.find?_labels_iff made, wf.pos_refs_iff made⟩
    rw [← BindingTable.refs_of_made made, balanced.balance]
  case decrement =>
    intro identity t remaining released
    obtain ⟨b, made, found, counted, _⟩ := BindingTable.release_eq_some released
    have live := (wf.find?_labels_iff made).mp found
    exact ⟨b, made, by omega⟩
  case equal =>
    rintro ⟨i, first⟩ ⟨_, second⟩ b c rfl made madeOther live liveOther
    constructor
    · intro same
      cases same
      rw [made] at madeOther
      rw [Option.some.inj madeOther]
    · intro same
      exact congrArg (Handle.mk i) (wf.identity_unique made madeOther live liveOther same)
  case size => exact wf.size_eq
  case counted =>
    intro state h j stands
    by_cases same : j = h.instrument
    · subst same
      simp only [State.refCount, State.binding?, stands, ↓reduceIte, Option.bind_some,
        BindingTable.refs]
    · simp only [State.refCount, Ne.symm same, same, ↓reduceIte]
  case release =>
    intro thread t target rest identity found ready next resolved handedOut
    exact balanced.step_unbind found ready next resolved handedOut
  case final =>
    intro s' identity later handedOut exhausted
    -- The counts stand still along the run because each step finds the bindings balanced.
    refine (later.invariant (P := fun s' => s'.Balanced i ∧
      s'.binds identity = s.binds identity ∧ s'.unbinds identity = s.unbinds identity)
      ⟨balanced, rfl, rfl⟩ ?_).2
    rintro thread before after ⟨balancedBefore, binds, unbinds⟩ stepped
    have effect := effect_of_step stepped
    have counts := balancedBefore.exhausted_of_effect effect identity (by omega) (by omega)
    exact ⟨balancedBefore.of_effect effect, by omega, by omega⟩

/-- Two threads: one binds and releases twice, the other binds, releases and binds anew. -/
def rebinding : List (List HandleCommand) :=
  [[.bind .empty, .unbind .own, .unbind .own], [.bind .empty, .unbind .own, .bind .empty]]

/-- The two threads share one binding until both have released it; then the second binds the same
labels anew, and the first is refused its stale release. -/
def rebound : HandleState :=
  (machine trialCounter).run [0, 1, 0, 1, 1, 0] (start rebinding)

/-- Two threads bind and release in turns, and one binds again; the new binding is the only live
one. -/
theorem shared_rebound :
    (machine trialCounter).Reachable (start rebinding) rebound ∧
      rebound.table.live = [(.empty, 1)] ∧ rebound.Shared trialCounter :=
  ⟨Machine.reachable_run .., by decide,
    shared_of_reachable trialCounter rebinding rebound (Machine.reachable_run ..)⟩

end HandleState

end Metering.Concurrent
