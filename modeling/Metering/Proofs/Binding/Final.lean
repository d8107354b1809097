import Metering.Proofs.Binding.Sharing
import Metering.Proofs.Meter.Requests

/-! # Releases are final

A binding that nobody holds any more was released for good, also against records that race with the
release. Recording takes three steps, between which other threads may release the binding and bind
its labels anew. A record that begins after the release is refused and tells the sink nothing, and
so is every further release; what was recorded had read before the release that the binding still
stood (`Metering.Concurrent.HandleState.final_of_released`).
-/

namespace Metering

/-! ## Bindings as they age -/

/-- A binding keeps its labels, and once released it is never changed. -/
structure Binding.Ages (b later : Binding) : Prop where
  labels : later.labels = b.labels
  effective : later.effective = b.effective
  released : b.released = true → later = b

private theorem Binding.Ages.refl (b : Binding) : b.Ages b :=
  ⟨rfl, rfl, fun _ => rfl⟩

private theorem Binding.Ages.trans {a b c : Binding} (first : a.Ages b) (second : b.Ages c) :
    a.Ages c where
  labels := second.labels.trans first.labels
  effective := second.effective.trans first.effective
  released released := by
    have same := first.released released
    rw [← same] at released
    rw [second.released released, same]

namespace BindingTable

variable {constants : LabelSet} {t t' : BindingTable} {identity other remaining : Nat} {b : Binding}

/-- A change of the bindings that are held lets all bindings age. -/
theorem ages_modify {f : Binding → Binding} (made : t.made[identity]? = some b)
    (labels : ∀ b, (f b).labels = b.labels) (effective : ∀ b, (f b).effective = b.effective)
    (standing : ∀ b, t.made[other]? = some b → b.released = false) :
    ∃ c, (t.made.modify other f)[identity]? = some c ∧ b.Ages c := by
  refine ⟨_, Place.getElem?_modify_eq_some.mpr ⟨b, made, rfl⟩, ?_⟩
  split
  · next same =>
    subst same
    refine ⟨labels b, effective b, fun released => ?_⟩
    rw [standing b made] at released
    cases released
  · exact .refl b

namespace WellFormed

variable (wf : t.WellFormed constants)

include wf

private theorem standing_of_find? {labels : LabelSet} (found : t.find? labels = some other)
    (c : Binding)
    (made : t.made[other]? = some c) : c.released = false := by
  obtain ⟨_, same, _, live⟩ := wf.made_of_find? found
  cases made.symm.trans same
  exact (wf.pos_refs_iff made).mp live

private theorem ages_acquire (labels : LabelSet) (made : t.made[identity]? = some b) :
    ∃ c, (t.acquire labels constants).1.made[identity]? = some c ∧ b.Ages c := by
  cases found : t.find? labels with
  | some other =>
      rw [acquire_of_find? found]
      exact ages_modify made (fun _ => rfl) (fun _ => rfl) (wf.standing_of_find? found)
  | none =>
      rw [acquire_of_find?_none found]
      exact ⟨b, Place.getElem?_concat_eq_some.mpr (Or.inl made), .refl b⟩

private theorem ages_release (released : t.release other = some (t', remaining))
    (made : t.made[identity]? = some b) : ∃ c, t'.made[identity]? = some c ∧ b.Ages c := by
  obtain ⟨_, _, found, _, ⟨_, rfl⟩ | ⟨_, rfl⟩⟩ := release_eq_some released
  all_goals
    exact ages_modify made (fun _ => rfl) (fun _ => rfl) (wf.standing_of_find? found)

private theorem release_of_released (made : t.made[identity]? = some b)
    (released : b.released = true) :
    t.release identity = none := by
  rw [← Option.not_isSome_iff_eq_none, wf.release_isSome_iff, refs_of_made made,
    (wf.held identity b made).mp released]
  exact Nat.lt_irrefl 0

end WellFormed

end BindingTable

namespace Concurrent

namespace HandleState

variable {i : Instrument} {thread : Nat} {s s' : HandleState} {identity : Nat} {b : Binding}

/-- A step lets bindings age, and takes none away. -/
theorem Balanced.ages_of_effect (balanced : s.Balanced i) (effect : Effect i thread s s')
    (made : s.table.made[identity]? = some b) :
    ∃ c, s'.table.made[identity]? = some c ∧ b.Ages c := by
  cases effect with
  | silent table | unreleased _ _ _ _ table | unrecorded _ _ table | recorded _ _ _ _ table =>
      exact ⟨b, by rw [table, made], .refl b⟩
  | bound labels table =>
      rw [table]
      exact balanced.wellFormed.ages_acquire labels made
  | released other remaining released =>
      exact balanced.wellFormed.ages_release released made

private theorem Balanced.of_later (balanced : s.Balanced i) (later : (machine i).Reachable s s') :
    s'.Balanced i :=
  later.invariant balanced fun _ _ _ balanced stepped => balanced.of_effect (effect_of_step stepped)

/-- Bindings age, whatever the threads do. -/
theorem Balanced.ages (balanced : s.Balanced i) (later : (machine i).Reachable s s')
    (made : s.table.made[identity]? = some b) :
    ∃ c, s'.table.made[identity]? = some c ∧ b.Ages c := by
  refine (later.invariant (P := fun s' => s'.Balanced i ∧
    ∃ c, s'.table.made[identity]? = some c ∧ b.Ages c) ⟨balanced, b, made, .refl b⟩ ?_).2
  rintro thread before after ⟨balancedBefore, c, madeBefore, aged⟩ stepped
  have effect := effect_of_step stepped
  obtain ⟨d, madeAfter, agedAfter⟩ := balancedBefore.ages_of_effect effect madeBefore
  exact ⟨balancedBefore.of_effect effect, d, madeAfter, aged.trans agedAfter⟩

/-! ## What a step is -/

/-- **The steps of a thread**: a command is begun; it is read whether a binding still stands, of
which a record is refused or goes on; or the sink is told and the record is over. A binding that
was never made ends the record. -/
inductive Turn (i : Instrument) (thread : Nat) (s : HandleState) : HandleState → Prop where
  | begun (t : HandleThread) (command : HandleCommand) (rest : List HandleCommand)
      (found : s.threads[thread]? = some t) (phase : t.phase = .ready)
      (next : t.todo = command :: rest) :
      Turn i thread s
        (beginCommand i thread t (s.modifyThread thread fun t => { t with todo := rest }) command)
  | missing : Turn i thread s (s.modifyThread thread fun t => { t with phase := .ready })
  | refused (t : HandleThread) (identity : Nat) (value : Value) (b : Binding)
      (found : s.threads[thread]? = some t) (phase : t.phase = .checked identity value)
      (made : s.table.made[identity]? = some b) (released : b.released = true) :
      Turn i thread s
        (s.reply thread (.recorded identity (.error (.refused (i.bindingReleased b)))))
  | cleared (t : HandleThread) (identity : Nat) (value : Value) (b : Binding)
      (found : s.threads[thread]? = some t) (phase : t.phase = .checked identity value)
      (made : s.table.made[identity]? = some b) (standing : b.released = false) :
      Turn i thread s (s.modifyThread thread fun t => { t with phase := .cleared identity value })
  | told (t : HandleThread) (identity : Nat) (value : Value) (b : Binding)
      (found : s.threads[thread]? = some t) (phase : t.phase = .cleared identity value)
      (made : s.table.made[identity]? = some b) :
      Turn i thread s
        ({ s with told := s.told ++ [(identity, i.point b.effective value)] }.reply thread
          (.recorded identity (.ok ())))

/-- Every step is a turn of a thread. -/
theorem turn_of_step (stepped : (machine i).step thread s = some s') : Turn i thread s s' := by
  change step i thread s = some s' at stepped
  unfold step at stepped
  cases found : s.threads[thread]? with
  | none => simp only [found, reduceCtorEq] at stepped
  | some t =>
      simp only [found] at stepped
      cases phase : t.phase with
      | ready =>
          cases todo : t.todo with
          | nil => simp only [phase, todo, reduceCtorEq] at stepped
          | cons command rest =>
              simp only [phase, todo, Option.some.injEq] at stepped
              subst stepped
              exact .begun t command rest found phase todo
      | checked identity value =>
          simp only [phase] at stepped
          cases made : s.table.made[identity]? with
          | none =>
              simp only [made, Option.some.injEq] at stepped
              subst stepped
              exact .missing
          | some b =>
              simp only [made] at stepped
              cases released : b.released with
              | true =>
                  simp only [released, if_true, Option.some.injEq] at stepped
                  subst stepped
                  exact .refused t identity value b found phase made released
              | false =>
                  simp only [released, Bool.false_eq_true, if_false, Option.some.injEq] at stepped
                  subst stepped
                  exact .cleared t identity value b found phase made released
      | cleared identity value =>
          simp only [phase] at stepped
          cases made : s.table.made[identity]? with
          | none =>
              simp only [made, Option.some.injEq] at stepped
              subst stepped
              exact .missing
          | some b =>
              simp only [made, Option.some.injEq] at stepped
              subst stepped
              exact .told t identity value b found phase made

private theorem threads_beginCommand (i : Instrument) (thread : Nat) (t : HandleThread)
    (s : HandleState)
    (command : HandleCommand) :
    ∃ f : HandleThread → HandleThread,
      (beginCommand i thread t s command).threads = s.threads.modify thread f ∧
      ∀ u, u.phase = .ready → ∀ identity value, (f u).phase ≠ .cleared identity value := by
  have kept : ∃ f : HandleThread → HandleThread, s.threads = s.threads.modify thread f ∧
      ∀ u, u.phase = .ready → ∀ identity value, (f u).phase ≠ .cleared identity value :=
    ⟨id, (List.modify_id ..).symm, fun u ready _ _ cleared => by cases ready.symm.trans cleared⟩
  have replied (s : HandleState) (answer : HandleAnswer) : ∃ f : HandleThread → HandleThread,
      (s.reply thread answer).threads = s.threads.modify thread f ∧
      ∀ u, u.phase = .ready → ∀ identity value, (f u).phase ≠ .cleared identity value :=
    ⟨_, rfl, fun _ _ _ _ cleared => by cases cleared⟩
  cases command with
  | bind labels =>
      refine ⟨_, List.modify_modify_eq .., fun _ _ _ _ cleared => ?_⟩
      cases cleared
  | record target value =>
      simp only [beginCommand]
      split
      · exact kept
      · split
        · exact replied _ _
        · exact ⟨_, rfl, fun _ _ _ _ cleared => by cases cleared⟩
  | unbind target =>
      simp only [beginCommand]
      split
      · exact kept
      · split
        · exact kept
        · exact replied _ _
        · exact replied _ _

/-- A step moves its own thread alone, and has it read that a binding stands only while it does. -/
theorem Turn.threads (turn : Turn i thread s s') :
    ∃ f : HandleThread → HandleThread, s'.threads = s.threads.modify thread f ∧
      ∀ u, s.threads[thread]? = some u → ∀ identity value, (f u).phase = .cleared identity value →
        ∃ b, s.table.made[identity]? = some b ∧ b.released = false := by
  cases turn with
  | begun t command rest found ready next =>
      obtain ⟨f, threads, uncleared⟩ := threads_beginCommand i thread t
        (s.modifyThread thread fun t => { t with todo := rest }) command
      refine ⟨_, threads.trans (List.modify_modify_eq ..), fun u standing identity value cleared => ?_⟩
      cases found.symm.trans standing
      exact absurd cleared (uncleared { t with todo := rest } ready identity value)
  | missing | refused | told => exact ⟨_, rfl, fun _ _ _ _ cleared => by cases cleared⟩
  | cleared t identity value b found phase made standing =>
      refine ⟨_, rfl, fun u _ _ _ cleared => ?_⟩
      cases cleared
      exact ⟨b, made, standing⟩

private theorem threads_of_step {other : Nat} (stepped : (machine i).step other s = some s')
    (different : other ≠ thread) : s'.threads[thread]? = s.threads[thread]? := by
  obtain ⟨f, threads, _⟩ := (turn_of_step stepped).threads
  rw [threads]
  exact List.getElem?_modify_ne _ _ different

/-- A thread that gets no turn stays as it is. -/
theorem threads_of_without (others : ((machine i).without thread).Reachable s s') :
    s'.threads[thread]? = s.threads[thread]? := by
  refine others.invariant (P := fun s' => s'.threads[thread]? = s.threads[thread]?) rfl
    fun other before after same stepped => ?_
  change (if other = thread then none else (machine i).step other before) = some after at stepped
  split at stepped
  · cases stepped
  · next different => exact (threads_of_step stepped different).trans same

/-! ## Points and answers -/

end HandleState

/-- The binding that an answer tells a value was recorded through. -/
def HandleAnswer.recorded? : HandleAnswer → Option Nat
  | .recorded identity (.ok ()) => some identity
  | _ => none

namespace HandleState

variable {i : Instrument} {thread : Nat} {s s' : HandleState} {identity : Nat} {b : Binding}

/-- **Each record that succeeds tells one point**, in order, and each point is told under the labels
of its binding as overridden by the constants. -/
structure Delivered (i : Instrument) (s : HandleState) : Prop where
  aligned : s.told.map Prod.fst = s.answers.filterMap fun answer => answer.2.recorded?
  labelled : ∀ identity point, (identity, point) ∈ s.told →
    ∃ b value, s.table.made[identity]? = some b ∧ point = i.pointWith b.labels value

private theorem Delivered.of_effect (delivered : s.Delivered i) (balanced : s.Balanced i)
    (effect : Effect i thread s s') : s'.Delivered i := by
  have labelled : ∀ identity point, (identity, point) ∈ s.told →
      ∃ b value, s'.table.made[identity]? = some b ∧ point = i.pointWith b.labels value := by
    intro identity point told
    obtain ⟨b, value, made, isPoint⟩ := delivered.labelled identity point told
    obtain ⟨c, madeAfter, aged⟩ := balanced.ages_of_effect effect made
    exact ⟨c, value, madeAfter, aged.labels.symm ▸ isPoint⟩
  -- An answer of any other kind comes without a point.
  have unrecorded {answer : HandleAnswer} (nothing : answer.recorded? = none)
      (told : s'.told = s.told) (answers : s'.answers = s.answers ++ [(thread, answer)]) :
      s'.Delivered i := by
    refine ⟨?_, told.symm ▸ labelled⟩
    rw [told, answers, delivered.aligned, List.filterMap_append]
    simp [nothing]
  cases effect with
  | silent _ told answers => exact ⟨by rw [told, answers, delivered.aligned], told.symm ▸ labelled⟩
  | bound _ _ told answers | released _ _ _ told answers | unreleased _ _ _ _ _ told answers
  | unrecorded _ _ _ told answers => exact unrecorded rfl told answers
  | recorded identity b value made table told answers =>
      constructor
      · rw [told, answers, List.map_append, delivered.aligned, List.filterMap_append]
        rfl
      · intro other point member
        rw [told] at member
        rcases List.mem_append.mp member with before | new
        · exact labelled other point before
        · cases List.mem_singleton.mp new
          refine ⟨b, value, table.symm ▸ made, ?_⟩
          rw [balanced.wellFormed.merged identity b made]
          rfl

private theorem delivered_of_reachable {programs : List (List HandleCommand)}
    (reachable : (machine i).Reachable (start programs) s) : s.Delivered i := by
  refine (reachable.invariant (P := fun s => s.Balanced i ∧ s.Delivered i)
    ⟨balanced_of_reachable .start, rfl, by simp [start]⟩ ?_).2
  rintro thread before after ⟨balanced, delivered⟩ stepped
  have effect := effect_of_step stepped
  exact ⟨balanced.of_effect effect, delivered.of_effect balanced effect⟩

/-- No command is over with its first step because it recorded something. -/
theorem answers_beginCommand (i : Instrument) (thread : Nat) (t : HandleThread) (s : HandleState)
    (command : HandleCommand) :
    (beginCommand i thread t s command).answers = s.answers ∨
    ∃ answer : HandleAnswer, answer.recorded? = none ∧
      (beginCommand i thread t s command).answers = s.answers ++ [(thread, answer)] := by
  cases command with
  | bind labels => exact Or.inr ⟨_, rfl, rfl⟩
  | record target value =>
      simp only [beginCommand]
      split
      · exact Or.inl rfl
      · split
        · exact Or.inr ⟨_, rfl, rfl⟩
        · exact Or.inl rfl
  | unbind target =>
      simp only [beginCommand]
      split
      · exact Or.inl rfl
      · split
        · exact Or.inl rfl
        · exact Or.inr ⟨_, rfl, rfl⟩
        · exact Or.inr ⟨_, rfl, rfl⟩

/-- A record that succeeds had read before its last step that the binding stands. -/
theorem Turn.recorded (turn : Turn i thread s s')
    (answered : s'.answers = s.answers ++ [(thread, .recorded identity (.ok ()))]) :
    ∃ t value b, s.threads[thread]? = some t ∧ t.phase = .cleared identity value ∧
      s.table.made[identity]? = some b ∧
      s'.told = s.told ++ [(identity, i.point b.effective value)] := by
  have answer {answer : HandleAnswer}
      (answers : s'.answers = s.answers ++ [(thread, answer)]) :
      answer = .recorded identity (.ok ()) :=
    (Prod.mk.inj (List.singleton_inj.mp (List.append_cancel_left (answers.symm.trans answered)))).2
  have silent (answers : s'.answers = s.answers) : False := by
    rw [answers] at answered
    simpa using congrArg List.length answered
  cases turn with
  | begun t command rest found phase next =>
      rcases answers_beginCommand i thread t (s.modifyThread thread fun t => { t with todo := rest })
        command with answers | ⟨_, unrecorded, answers⟩
      · exact (silent answers).elim
      · cases answer answers
        cases unrecorded
  | missing => exact (silent rfl).elim
  | refused => cases answer rfl
  | cleared => exact (silent rfl).elim
  | told t other value b found phase made =>
      cases answer rfl
      exact ⟨t, value, b, found, phase, made, rfl⟩

/-! ## After the release -/

/-- A step that answers its thread and leaves the bindings and the sink as they are. -/
structure Answered (s s' : HandleState) (thread : Nat) (answer : HandleAnswer) : Prop where
  table : s'.table = s.table
  told : s'.told = s.told
  answers : s'.answers = s.answers ++ [(thread, answer)]

/-- A thread that stands between its commands and is to record or release next. -/
structure Begins (s : HandleState) (thread : Nat) (t : HandleThread) (command : HandleCommand) :
    Prop where
  found : s.threads[thread]? = some t
  ready : t.phase = .ready
  next : t.todo.head? = some command

/-- A thread that is about to begin a command begins it. -/
theorem Begins.step {t : HandleThread} {command : HandleCommand}
    (begins : s.Begins thread t command) :
    ∃ rest, (machine i).step thread s = some
      (beginCommand i thread t (s.modifyThread thread fun t => { t with todo := rest }) command) := by
  obtain ⟨rest, todo⟩ := List.head?_eq_some_iff.mp begins.next
  refine ⟨rest, ?_⟩
  change HandleState.step i thread s = _
  simp only [HandleState.step, begins.found, begins.ready, todo]


/-- A record that begins is refused at once if the instrument does not take its value. -/
theorem Begins.refuses_value
    {t : HandleThread} {target : HandleTarget} {value : Value} {e : Failure}
    (begins : s.Begins thread t (.record target value)) (resolved : target.resolve t = some identity)
    (refused : i.accept value = .error e) :
    ∃ s', (machine i).step thread s = some s' ∧
      Answered s s' thread (.recorded identity (.error e)) := by
  obtain ⟨rest, stepped⟩ := begins.step (i := i)
  refine ⟨_, stepped, ?_⟩
  simp only [beginCommand, resolved, refused]
  exact ⟨rfl, rfl, rfl⟩

/-- A record that begins with a value that the instrument takes has next to read whether its binding
still stands. -/
theorem Begins.checks {t : HandleThread} {target : HandleTarget} {value : Value}
    (begins : s.Begins thread t (.record target value)) (resolved : target.resolve t = some identity)
    (accepted : i.accept value = .ok ()) :
    ∃ s', (machine i).step thread s = some s' ∧ s'.table = s.table ∧ s'.told = s.told ∧
      s'.answers = s.answers ∧
      ∃ t', s'.threads[thread]? = some t' ∧ t'.phase = .checked identity value := by
  obtain ⟨rest, stepped⟩ := begins.step (i := i)
  refine ⟨_, stepped, ?_⟩
  simp only [beginCommand, resolved, accepted]
  refine ⟨rfl, rfl, rfl, { t with todo := rest, phase := .checked identity value }, ?_, rfl⟩
  simp [modifyThread, begins.found]

/-- A record that reads that its binding was released is refused. -/
theorem refuses_released {t : HandleThread} {value : Value} (found : s.threads[thread]? = some t)
    (phase : t.phase = .checked identity value) (made : s.table.made[identity]? = some b)
    (released : b.released = true) :
    ∃ s', (machine i).step thread s = some s' ∧
      Answered s s' thread (.recorded identity (.error (.refused (i.bindingReleased b)))) := by
  refine ⟨s.reply thread _, ?_, rfl, rfl, rfl⟩
  change HandleState.step i thread s = _
  simp only [HandleState.step, found, phase, made, released, if_true]

/-- **What a release for good decides** for all states that the threads can reach from there. -/
structure Final (i : Instrument) (programs : List (List HandleCommand)) (identity : Nat)
    (b : Binding) (s : HandleState) : Prop where
  /-- The binding has the labels, and those overridden by the constants, that it was made with. -/
  captured : ∀ earlier c, (machine i).Reachable (start programs) earlier →
    (machine i).Reachable earlier s → earlier.table.made[identity]? = some c →
    b.labels = c.labels ∧ b.effective = c.effective ∧
      c.effective = c.labels.mergedWith i.config.constants
  /-- It stays released, held by nobody, and out of the table, whatever is bound again. -/
  stays : ∀ later, (machine i).Reachable s later →
    later.table.made[identity]? = some b ∧ b.refs = 0 ∧ b.released = true ∧
      ∀ labels, later.table.find? labels ≠ some identity
  /-- A record that begins later is refused for a value below zero. -/
  negative : ∀ later thread t target value, (machine i).Reachable s later →
    later.Begins thread t (.record target value) → target.resolve t = some identity →
    value.kind = i.config.number → ¬ i.config.Takes value →
    ∃ next, (machine i).step thread later = some next ∧ Answered later next thread
      (.recorded identity (.error (.refused (.negativeValue i.config.name value.text))))
  /-- With any other value, it is refused once it reads that its binding was released, whatever the
  other threads have done by then. -/
  released : ∀ later thread t target value, (machine i).Reachable s later →
    later.Begins thread t (.record target value) → target.resolve t = some identity →
    i.config.Takes value →
    ∃ begun, (machine i).step thread later = some begun ∧ begun.table = later.table ∧
      begun.told = later.told ∧ begun.answers = later.answers ∧
      ∀ waiting, ((machine i).without thread).Reachable begun waiting →
        ∃ next, (machine i).step thread waiting = some next ∧ Answered waiting next thread
          (.recorded identity (.error (.refused (i.bindingReleased b))))
  /-- A release that begins later is refused. -/
  unknown : ∀ later thread t target, (machine i).Reachable s later →
    later.Begins thread t (.unbind target) → target.resolve t = some identity →
    ∃ next, (machine i).step thread later = some next ∧ Answered later next thread
      (.unbound identity (.error (.refused (i.unknownBinding b))))
  /-- A record that still succeeds had read before the release that the binding stood, its thread
  has not moved since, and it tells one point. -/
  succeeded : ∀ later next thread, (machine i).Reachable s later →
    (machine i).step thread later = some next →
    next.answers = later.answers ++ [(thread, .recorded identity (.ok ()))] →
    ∃ t value, s.threads[thread]? = some t ∧ t.phase = .cleared identity value ∧
      next.told = later.told ++ [(identity, i.pointWith b.labels value)]
  /-- The points told are those of the records that succeeded, one for each and in order, and those
  through the binding are told under the labels it was made with. -/
  delivered : ∀ later, (machine i).Reachable s later →
    later.told.map Prod.fst = (later.answers.filterMap fun answer => answer.2.recorded?) ∧
      ∀ point, (identity, point) ∈ later.told → ∃ value, point = i.pointWith b.labels value

/-- Threads that have read that a binding stands have not moved. -/
def Unmoved (identity : Nat) (s later : HandleState) : Prop :=
  ∀ (thread : Nat) (t : HandleThread) (value : Value), later.threads[thread]? = some t →
    t.phase = .cleared identity value → s.threads[thread]? = some t

/-- Once a binding is released for good, no thread reads any more that it stands. -/
theorem Balanced.unmoved (balanced : s.Balanced i) (made : s.table.made[identity]? = some b)
    (released : b.released = true) (later : (machine i).Reachable s s') : Unmoved identity s s' := by
  refine (later.invariant (P := fun s' => (machine i).Reachable s s' ∧ Unmoved identity s s')
    ⟨.start, fun _ _ _ found _ => found⟩ ?_).2
  rintro mover before after ⟨since, unmoved⟩ stepped
  refine ⟨since.step mover stepped, fun thread t value found cleared => ?_⟩
  by_cases same : mover = thread
  · subst same
    obtain ⟨f, threads, read⟩ := (turn_of_step stepped).threads
    rw [threads] at found
    obtain ⟨u, standing, rfl⟩ := Place.getElem?_modify_eq_some.mp found
    rw [if_pos rfl] at cleared
    obtain ⟨c, madeBefore, stands⟩ := read u standing identity value cleared
    obtain ⟨d, same, aged⟩ := balanced.ages since made
    cases madeBefore.symm.trans same
    rw [aged.released released, released] at stands
    cases stands
  · exact unmoved thread t value ((threads_of_step stepped same).symm.trans found) cleared

/-- **Releases are final.** Once a release has left a binding held by nobody, what follows is
decided, in whichever order the threads go on. -/
theorem final_of_released (i : Instrument) (programs : List (List HandleCommand))
    {s s' : HandleState} {thread identity : Nat}
    (reachable : (machine i).Reachable (start programs) s)
    (stepped : (machine i).step thread s = some s')
    (answered : s'.answers = s.answers ++ [(thread, .unbound identity (.ok ()))])
    (unheld : s'.table.refs identity = 0) :
    ∃ b, s'.table.made[identity]? = some b ∧ Final i programs identity b s' := by
  have balanced := (balanced_of_reachable reachable).of_effect (effect_of_step stepped)
  have reachable' := reachable.step thread stepped
  have handedOut : 0 < s'.binds identity := by
    have balance := balanced.balance identity
    have counted : 0 < s'.unbinds identity := by
      rw [unbinds_concat answered]
      simp [HandleAnswer.releasesIdentity]
    omega
  obtain ⟨b, made⟩ : ∃ b, s'.table.made[identity]? = some b :=
    ⟨_, List.getElem?_eq_getElem ((balanced.handedOut identity).mpr handedOut)⟩
  have refs : b.refs = 0 := by rw [← BindingTable.refs_of_made made, unheld]
  have released : b.released = true := (balanced.wellFormed.held identity b made).mpr refs
  -- A binding that is released can only age into itself, so that it stays as it is from here on.
  have stays {later : HandleState} (since : (machine i).Reachable s' later) :
      later.table.made[identity]? = some b := by
    obtain ⟨c, madeLater, aged⟩ := balanced.ages since made
    rw [madeLater, aged.released released]
  refine ⟨b, made, ?_⟩
  constructor
  case captured =>
    intro earlier c before since madeEarlier
    have balancedEarlier := balanced_of_reachable before
    obtain ⟨d, same, aged⟩ := balancedEarlier.ages since madeEarlier
    cases made.symm.trans same
    exact ⟨aged.labels, aged.effective, balancedEarlier.wellFormed.merged identity c madeEarlier⟩
  case stays =>
    intro later since
    refine ⟨stays since, refs, released, fun labels found => ?_⟩
    -- Were the binding found under some labels, it would be live, and so not released.
    have wf := (balanced.of_later since).wellFormed
    rw [wf.standing_of_find? found b (stays since)] at released
    cases released
  case negative =>
    intro later thread t target value _ begins resolved kind refused
    exact begins.refuses_value resolved (i.accept_eq_negative kind refused)
  case released =>
    intro later thread t target value since begins resolved takes
    obtain ⟨begun, stepped, table, told, answers, t', found, phase⟩ :=
      begins.checks resolved (i.accept_eq_ok_iff.mpr takes)
    refine ⟨begun, stepped, table, told, answers, fun waiting others => ?_⟩
    have until' : (machine i).Reachable s' waiting :=
      (since.step thread stepped).trans others.of_without
    exact refuses_released ((threads_of_without others).trans found) phase (stays until') released
  case unknown =>
    intro later thread t target since begins resolved
    obtain ⟨rest, stepped⟩ := begins.step (i := i)
    have refused := (balanced.of_later since).wellFormed.release_of_released (stays since) released
    refine ⟨_, stepped, ?_⟩
    simp only [beginCommand, resolved, modifyThread_table, stays since, refused]
    exact ⟨rfl, rfl, rfl⟩
  case succeeded =>
    intro later next thread since stepped recorded
    -- A record that succeeds was past its check, and could only have passed it before the release.
    obtain ⟨t, value, c, found, cleared, madeLater, told⟩ := (turn_of_step stepped).recorded recorded
    cases (stays since).symm.trans madeLater
    refine ⟨t, value, balanced.unmoved made released since _ t value found cleared, cleared, ?_⟩
    rw [told, balanced.wellFormed.merged identity b made]
    rfl
  case delivered =>
    intro later since
    have delivered := delivered_of_reachable (reachable'.trans since)
    refine ⟨delivered.aligned, fun point told => ?_⟩
    obtain ⟨c, value, madeLater, isPoint⟩ := delivered.labelled identity point told
    cases (stays since).symm.trans madeLater
    exact ⟨value, isPoint⟩

/-- One thread binds, begins a record, and is overtaken by another, which releases the binding and
binds the labels anew. -/
def overtaken : List (List HandleCommand) :=
  [[.bind .empty, .record .own one, .record .own one, .unbind .own],
    [.unbind (.given 0), .bind .empty]]

/-- The first thread has read that its binding stands. -/
def beforeRelease : HandleState :=
  (machine trialCounter).run [0, 0, 0] (start overtaken)

/-- The second thread has released the binding. -/
def afterRelease : HandleState :=
  (machine trialCounter).turn beforeRelease 1

/-- The record that was overtaken succeeds; the next one is refused though the labels are bound
again, and so is the release. -/
theorem final_overtaken :
    (machine trialCounter).step 1 beforeRelease = some afterRelease ∧
    afterRelease.table.refs 0 = 0 ∧
    (∃ b, afterRelease.table.made[0]? = some b ∧
      Final trialCounter overtaken 0 b afterRelease) ∧
    ((machine trialCounter).run [1, 0, 0, 0, 0] afterRelease).table.live = [(.empty, 1)] ∧
    ((machine trialCounter).run [1, 0, 0, 0, 0] afterRelease).told.length = 1 :=
  ⟨rfl, by decide, final_of_released trialCounter overtaken (Machine.reachable_run ..) rfl rfl
    (by decide), by decide, by decide⟩

end HandleState

end Concurrent

end Metering
