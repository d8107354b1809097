import Metering.Concurrent.Lookups
import Metering.Proofs.Registry.Serving

/-! # One meter for each name

Threads race to get meters from one registry. Between looking up a name in vain and putting in a
meter, a thread may be overtaken by others that put in a meter of that name. Still all who get a
name get the one meter that is stored under it, and no other is ever made for it
(`Metering.Concurrent.LookupState.unique_of_reachable`).
-/

namespace Metering.Concurrent

/-- The names that a thread has not got a meter for. -/
def LookupThread.pending (t : LookupThread) : List String :=
  t.missed.toList ++ t.todo

namespace LookupState

variable {r : RegistryRef} {registry : Registry} {before : State} {programs : List (List String)}
  {s s' : LookupState} {thread : Nat}

/-- The names that a thread has got a meter for, in order. -/
def namesOf (s : LookupState) (thread : Nat) : List String :=
  s.answers.filterMap fun a => if a.thread = thread then some a.name else none

/-! ## Steps -/

/-- **What one step does.** -/
inductive Move (r : RegistryRef) (thread : Nat) (s s' : LookupState) : Prop
  /-- A name is looked up in vain. -/
  | missed (t : LookupThread) (name : String) (rest : List String)
      (found : s.threads[thread]? = some t) (pending : t.pending = name :: rest)
      (threads : s'.threads = s.threads.set thread ⟨some name, rest⟩) (state : s'.state = s.state)
      (answers : s'.answers = s.answers)
  /-- A meter is found where it stands, or put in. -/
  | got (t : LookupThread) (name : String) (rest : List String) (m : MeterRef)
      (found : s.threads[thread]? = some t) (pending : t.pending = name :: rest)
      (threads : s'.threads = s.threads.set thread ⟨none, rest⟩)
      (got : s.state.getMeter r name = (.ok m, s'.state))
      (answers : s'.answers = s.answers ++ [⟨thread, name, m⟩])

private theorem getMeter_of_lookup {state : State} (standing : state.registryAt? r = some registry)
    {name : String} {m : MeterRef} (known : registry.meters.lookup name = some m) :
    state.getMeter r name = (.ok m, state) := by
  simp only [State.getMeter, standing, known]

/-- A step is one of the moves. -/
theorem move_of_step (stepped : (machine r).step thread s = some s') : Move r thread s s' := by
  change step r thread s = some s' at stepped
  unfold step at stepped
  cases found : s.threads[thread]? with
  | none => simp only [found, reduceCtorEq] at stepped
  | some t =>
      cases standing : s.state.registryAt? r with
      | none => simp only [found, standing, reduceCtorEq] at stepped
      | some registry =>
          obtain ⟨missed, todo⟩ := t
          cases missed with
          | some name =>
              simp only [found, standing] at stepped
              split at stepped
              · cases stepped
              · next m state got =>
                  cases stepped
                  exact .got _ name todo m found rfl rfl got rfl
          | none =>
              cases todo with
              | nil => simp only [found, standing, reduceCtorEq] at stepped
              | cons name rest =>
                  simp only [found, standing] at stepped
                  cases known : registry.meters.lookup name with
                  | some m =>
                      simp only [known, Option.some.injEq] at stepped
                      subst stepped
                      exact .got _ name rest m found rfl rfl (getMeter_of_lookup standing known) rfl
                  | none =>
                      simp only [known, Option.some.injEq] at stepped
                      subst stepped
                      exact .missed _ name rest found rfl rfl rfl rfl

/-! ## Consistency -/

/-- The registry has made a meter for each name that was answered and had none before, in order of
the first answers, and nothing else has changed; all answers are what is stored; and each thread
still has to get what it has not got. -/
structure Consistent (before : State) (r : RegistryRef) (registry : Registry)
    (programs : List (List String)) (s : LookupState) : Prop where
  served : ∃ names, s.state = before.serve r registry names ∧
    registry.meters.map Prod.fst ++ names =
      (registry.meters.map Prod.fst ++ s.answers.map LookupAnswer.name).eraseDups
  fits : ∀ a ∈ s.answers, ∃ current, s.state.registryAt? r = some current ∧
    (a.name, a.meter) ∈ current.meters
  pending : ∀ thread, (s.threads[thread]?).map (fun t => s.namesOf thread ++ t.pending) =
    programs[thread]?

/-- At the start the threads and the registry agree. -/
theorem consistent_start (found : before.registryAt? r = some registry)
    (distinct : (registry.meters.map Prod.fst).Nodup) (programs : List (List String)) :
    (start before programs).Consistent before r registry programs where
  served := by
    refine ⟨[], (before.serve_nil found).symm, ?_⟩
    change registry.meters.map Prod.fst ++ [] = (registry.meters.map Prod.fst ++ []).eraseDups
    rw [List.append_nil, eraseDups_of_nodup distinct]
  fits _ member := (List.not_mem_nil member).elim
  pending thread := by
    change ((programs.map fun todo => (⟨none, todo⟩ : LookupThread))[thread]?).map
      (fun t => [] ++ t.pending) = programs[thread]?
    rw [List.getElem?_map, Option.map_map]
    exact Option.map_id'

private theorem namesOf_concat (s : LookupState) (thread other : Nat) (name : String)
    (m : MeterRef) :
    (s.answer thread name m).namesOf other =
      s.namesOf other ++ if thread = other then [name] else [] := by
  change ((s.answers ++ [(⟨thread, name, m⟩ : LookupAnswer)]).filterMap _) = _
  rw [List.filterMap_append, namesOf]
  by_cases same : thread = other <;> simp [same]

namespace Consistent

variable (consistent : s.Consistent before r registry programs)

include consistent

/-- The registry as it stands, with the names that it serves. -/
theorem exists_names (found : before.registryAt? r = some registry) :
    ∃ names, s.state = before.serve r registry names ∧
      registry.meters.map Prod.fst ++ names =
        (registry.meters.map Prod.fst ++ s.answers.map LookupAnswer.name).eraseDups ∧
      s.state.registryAt? r =
        some (registry.enter (entriesFrom before.meters.length names)) ∧
      (registry.enter (entriesFrom before.meters.length names)).meters.map Prod.fst =
        registry.meters.map Prod.fst ++ names := by
  obtain ⟨names, served, ordered⟩ := consistent.served
  refine ⟨names, served, ordered, ?_, ?_⟩
  · rw [served, State.registryAt?_serve found]
  · rw [Registry.enter, List.map_append, map_fst_entriesFrom]

/-- What a thread still has to get, after a step that takes it on. -/
theorem pending_set {t u : LookupThread} {got : List String} (found : s.threads[thread]? = some t)
    (threads : s'.threads = s.threads.set thread u)
    (names : ∀ other, s'.namesOf other = s.namesOf other ++ if thread = other then got else [])
    (split : t.pending = got ++ u.pending) (other : Nat) :
    (s'.threads[other]?).map (fun t => s'.namesOf other ++ t.pending) = programs[other]? := by
  rw [← consistent.pending other, threads, names]
  by_cases same : thread = other
  · subst same
    rw [List.getElem?_set_self (List.getElem?_eq_some_iff.mp found).1, found, Option.map_some,
      Option.map_some, if_pos rfl, split, List.append_assoc]
  · rw [List.getElem?_set_ne same, if_neg same, List.append_nil]

/-- What one step keeps, and what it makes of the meters and of the registry. -/
theorem of_move (found : before.registryAt? r = some registry) (move : Move r thread s s') :
    s'.Consistent before r registry programs ∧ ∃ current entries made,
      s.state.registryAt? r = some current ∧
      s'.state.registryAt? r = some (current.enter entries) ∧
      s'.state.meters = s.state.meters ++ made := by
  obtain ⟨names, served, ordered, standing, listed⟩ := consistent.exists_names found
  have unchanged (current : Registry) : current.enter [] = current :=
    congrArg (Registry.mk current.sink) (List.append_nil _)
  cases move with
  | missed t name rest isThread pending threads state answers =>
      have same (other : Nat) : s'.namesOf other =
          s.namesOf other ++ if thread = other then [] else [] := by
        rw [namesOf, answers, ite_self, List.append_nil, namesOf]
      refine ⟨⟨?_, ?_, consistent.pending_set isThread threads same pending⟩,
        _, [], [], standing, ?_, ?_⟩
      · rw [state, answers]
        exact consistent.served
      · rw [state, answers]
        exact consistent.fits
      · rw [state, unchanged, standing]
      · rw [state, List.append_nil]
  | got t name rest m isThread pending threads got answers =>
      have told (other : Nat) : s'.namesOf other =
          s.namesOf other ++ if thread = other then [name] else [] := by
        rw [← s.namesOf_concat thread other name m, namesOf, answers]
        rfl
      have left := consistent.pending_set isThread threads told pending
      have named : registry.meters.map Prod.fst ++ s'.answers.map LookupAnswer.name =
          (registry.meters.map Prod.fst ++ s.answers.map LookupAnswer.name) ++ [name] := by
        rw [answers, List.map_append, List.append_assoc]
        rfl
      have fits {current : Registry} (stands : s'.state.registryAt? r = some current)
          (kept : ∀ entry ∈ (registry.enter (entriesFrom before.meters.length names)).meters,
            entry ∈ current.meters) (new : (name, m) ∈ current.meters) :
          ∀ a ∈ s'.answers, ∃ current, s'.state.registryAt? r = some current ∧
            (a.name, a.meter) ∈ current.meters := by
        intro a member
        rw [answers] at member
        rcases List.mem_append.mp member with earlier | isNew
        · obtain ⟨_, here, entered⟩ := consistent.fits a earlier
          cases standing.symm.trans here
          exact ⟨current, stands, kept _ entered⟩
        · rw [List.mem_singleton.mp isNew]
          exact ⟨current, stands, new⟩
      -- The entry step looks the name up once more: another thread may have entered a meter of it
      -- since the name was looked up in vain, and then that meter is the answer and nothing is
      -- made.
      rcases s.state.getMeter_cases r name with ⟨e, failed, _⟩ | ⟨current, m', here, known, done⟩ |
        ⟨current, sink, here, _, unknown, done⟩
      · cases got.symm.trans failed
      · cases standing.symm.trans here
        obtain ⟨same, state⟩ := Prod.mk.inj (got.symm.trans done)
        cases same
        have entered := mem_of_lookup known
        have before : name ∈ registry.meters.map Prod.fst ++ s.answers.map LookupAnswer.name := by
          rw [← List.mem_eraseDups, ← ordered, ← listed]
          exact List.mem_map_of_mem entered
        refine ⟨⟨⟨names, state.trans served, ?_⟩, ?_, left⟩, _, [], [], standing, ?_, ?_⟩
        · rw [named, eraseDups_concat, if_pos before, ordered]
        · exact fits (state ▸ standing) (fun _ => id) entered
        · rw [state, unchanged, standing]
        · rw [state, List.append_nil]
      · cases standing.symm.trans here
        obtain ⟨same, state⟩ := Prod.mk.inj (got.symm.trans done)
        cases same
        have new : name ∉ registry.meters.map Prod.fst ++ s.answers.map LookupAnswer.name := by
          rw [← List.mem_eraseDups, ← ordered, ← listed]
          exact lookup_eq_none_iff_not_mem.mp unknown
        have stands := (congrArg (State.registryAt? · r) state).trans
          (State.registryAt?_serve here [name])
        refine ⟨⟨⟨names ++ [name], ?_, ?_⟩, ?_, left⟩, _, _, _, standing, stands,
          congrArg State.meters state⟩
        · rw [state, served]
          exact before.serve_concat r registry names name
        · rw [named, eraseDups_concat, if_neg new, ← ordered, List.append_assoc]
        · exact fits stands (fun _ => List.mem_append_left _)
            (List.mem_append_right _ (List.mem_singleton_self _))

/-- Whatever the registry lists it lists for good, and no meter is taken away. -/
theorem grown (found : before.registryAt? r = some registry)
    (later : (machine r).Reachable s s') : ∃ current entries made,
      s.state.registryAt? r = some current ∧
      s'.state.registryAt? r = some (current.enter entries) ∧
      s'.state.meters = s.state.meters ++ made := by
  obtain ⟨names, _, _, standing, _⟩ := consistent.exists_names found
  refine (later.invariant (P := fun s' => s'.Consistent before r registry programs ∧
    ∃ current entries made, s.state.registryAt? r = some current ∧
      s'.state.registryAt? r = some (current.enter entries) ∧
      s'.state.meters = s.state.meters ++ made) ⟨consistent, _, [], [], standing, ?_, ?_⟩ ?_).2
  · rw [standing]
    exact congrArg some (congrArg (Registry.mk registry.sink) (List.append_nil _).symm)
  · exact (List.append_nil _).symm
  · rintro thread middle after ⟨consistentMiddle, current, entries, made, here, stands, grown⟩ stepped
    obtain ⟨consistentAfter, current', entries', made', stands', standsAfter, grownAfter⟩ :=
      consistentMiddle.of_move found (move_of_step stepped)
    cases stands.symm.trans stands'
    refine ⟨consistentAfter, current, entries ++ entries', made ++ made', here, ?_, ?_⟩
    · rw [standsAfter]
      exact congrArg some (congrArg (Registry.mk current.sink) (List.append_assoc ..))
    · rw [grownAfter, grown, List.append_assoc]

end Consistent

/-- Along every run they agree. -/
theorem consistent_of_reachable (found : before.registryAt? r = some registry)
    (distinct : (registry.meters.map Prod.fst).Nodup)
    (reachable : (machine r).Reachable (start before programs) s) :
    s.Consistent before r registry programs :=
  reachable.invariant (consistent_start found distinct programs)
    fun _ _ _ consistent stepped => (consistent.of_move found (move_of_step stepped)).1

/-- A thread that has names left to get goes on, whatever the others do. -/
theorem Consistent.exists_step (consistent : s.Consistent before r registry programs)
    (found : before.registryAt? r = some registry)
    (sink : ∃ sink, before.sink? registry.sink = some sink) {t : LookupThread}
    (isThread : s.threads[thread]? = some t) (left : t.pending ≠ []) :
    ∃ next, (machine r).step thread s = some next := by
  obtain ⟨names, served, _, standing, _⟩ := consistent.exists_names found
  change ∃ next, step r thread s = some next
  obtain ⟨missed, todo⟩ := t
  cases missed with
  | none =>
      cases todo with
      | nil => exact absurd rfl left
      | cons name rest =>
          simp only [step, isThread, standing]
          split <;> exact ⟨_, rfl⟩
  | some name =>
      simp only [step, isThread, standing]
      rcases s.state.getMeter_cases r name with ⟨_, _, lacking⟩ | ⟨_, _, _, _, done⟩ |
        ⟨_, _, _, _, _, done⟩
      · obtain ⟨sink, there⟩ := sink
        rw [served] at lacking standing
        exact (lacking _ sink standing there).elim
      · rw [done]
        exact ⟨_, rfl⟩
      · rw [done]
        exact ⟨_, rfl⟩

/-! ## One meter for each name -/

/-- **One meter for each name**, in a registry that threads have asked for names. The registry is
given as it stood before the first of them asked, and as it stands now. -/
structure Unique (before : State) (r : RegistryRef) (registry current : Registry)
    (programs : List (List String)) (s : LookupState) : Prop where
  /-- Whoever asked for the same name got the same meter, and other names are other meters. -/
  same : ∀ a ∈ s.answers, ∀ b ∈ s.answers, a.meter = b.meter ↔ a.name = b.name
  /-- Everyone got the meter that is stored under the name. -/
  stored : ∀ a ∈ s.answers, current.meters.lookup a.name = some a.meter
  /-- No name is stored twice, nor any meter. -/
  one : (current.meters.map Prod.fst).Nodup ∧ (current.meters.map Prod.snd).Nodup
  /-- What is stored under a name stays stored under it, and more comes only at the end. -/
  kept : ∀ later, (machine r).Reachable s later →
    ∃ next, later.state.registryAt? r = some next ∧
      (∀ name m, current.meters.lookup name = some m → next.meters.lookup name = some m) ∧
      current.meters <+: next.meters ∧ s.state.meters <+: later.state.meters
  /-- One meter was made for each name that was got and not stored before, and nothing else has
  changed in the state. -/
  made : ∃ names, s.state = before.serve r registry names ∧ names.Nodup ∧
    ∀ name, name ∈ names ↔
      name ∉ registry.meters.map Prod.fst ∧ ∃ a ∈ s.answers, a.name = name
  /-- The stored names are the distinct ones among those stored before and those got. -/
  listed : current.meters.map Prod.fst =
    (registry.meters.map Prod.fst ++ s.answers.map LookupAnswer.name).eraseDups
  /-- The registry counts its distinct names. -/
  size : current.meters.length = (current.meters.map Prod.fst).eraseDups.length
  /-- Every stored meter is as its registry makes it for the name: it carries the name, no version,
  and the default number of stripes, and reports to the registry's sink. -/
  asWished : current.sink = registry.sink ∧ ∀ name m, current.meters.lookup name = some m →
    ∃ meter, s.state.meter? m = some meter ∧ meter.name = name ∧ meter.version = none ∧
      meter.stripes = Stripe.default ∧ meter.sink = current.sink
  /-- A thread that has names left to get can go on. -/
  live : ∀ thread t, s.threads[thread]? = some t → t.pending ≠ [] →
    ∃ next, (machine r).step thread s = some next
  /-- Each thread has got the names it asked for, in order, but for those it has left to get. -/
  asked : ∀ thread t, s.threads[thread]? = some t →
    programs[thread]? = some (s.namesOf thread ++ t.pending)

/-- **One meter for each name**, in whichever order the threads that ask take turns, and whatever
was done before. -/
theorem unique_of_reachable {sinks : List Sink} {calls : List Call} {before : State}
    (history : History sinks calls before) {r : RegistryRef} {registry : Registry}
    (found : before.registryAt? r = some registry) {programs : List (List String)}
    {s : LookupState} (reachable : (machine r).Reachable (start before programs) s) :
    ∃ current, s.state.registryAt? r = some current ∧
      s.Unique before r registry current programs := by
  have inOrder := State.standing_of_history history (List.mem_of_getElem? found)
  have consistent := consistent_of_reachable found inOrder.distinct reachable
  obtain ⟨names, served, ordered, standing, listed⟩ := consistent.exists_names found
  -- The registry as it is now is given a name, so that rewriting does not take its entries apart.
  obtain ⟨current, isCurrent⟩ :
      ∃ current, registry.enter (entriesFrom before.meters.length names) = current := ⟨_, rfl⟩
  rw [isCurrent] at standing listed
  have all : current.meters.map Prod.fst =
      (registry.meters.map Prod.fst ++ s.answers.map LookupAnswer.name).eraseDups :=
    listed.trans ordered
  have current_distinct : (current.meters.map Prod.fst).Nodup := all ▸ nodup_eraseDups _
  have split := List.nodup_append.mp (listed ▸ current_distinct)
  have wished : current.Standing s.state := by
    rw [← isCurrent, served]
    exact State.standing_serve inOrder (listed ▸ current_distinct) r
  have stored : ∀ a ∈ s.answers, current.meters.lookup a.name = some a.meter := by
    intro a member
    obtain ⟨_, here, entered⟩ := consistent.fits a member
    cases standing.symm.trans here
    exact lookup_of_mem current_distinct entered
  refine ⟨current, standing, ?_⟩
  constructor
  case same =>
    intro a member b other
    refine ⟨fun equal => ?_, fun equal => ?_⟩
    · obtain ⟨m, there, made⟩ := wished.made a.name a.meter (mem_of_lookup (stored a member))
      obtain ⟨m', there', made'⟩ := wished.made b.name b.meter (mem_of_lookup (stored b other))
      rw [equal] at there
      cases there.symm.trans there'
      exact made.name.symm.trans made'.name
    · have isA := stored a member
      rw [equal, stored b other] at isA
      exact (Option.some.inj isA).symm
  case stored => exact stored
  case one => exact ⟨current_distinct, wished.nodup_meters⟩
  case kept =>
    intro later reached
    obtain ⟨_, entries, more, here, stands, grown⟩ := consistent.grown found reached
    cases standing.symm.trans here
    refine ⟨_, stands, fun name m known => ?_, List.prefix_append .., ⟨more, grown.symm⟩⟩
    rw [Registry.enter, List.lookup_append, known]
    rfl
  case made =>
    refine ⟨names, served, split.2.1, fun name => ?_⟩
    have known : name ∈ registry.meters.map Prod.fst ∨ name ∈ names ↔
        name ∈ registry.meters.map Prod.fst ∨ ∃ a ∈ s.answers, a.name = name := by
      rw [← List.mem_append, ordered, List.mem_eraseDups, List.mem_append, ← List.mem_map]
    refine ⟨fun new => ?_, fun new => (known.mpr (Or.inr new.2)).resolve_left new.1⟩
    have unknown : name ∉ registry.meters.map Prod.fst :=
      fun before => split.2.2 name before name new rfl
    exact ⟨unknown, (known.mp (Or.inr new)).resolve_left unknown⟩
  case listed => exact all
  case size => rw [eraseDups_of_nodup current_distinct, List.length_map]
  case asWished =>
    refine ⟨by rw [← isCurrent]; rfl, fun name m known => ?_⟩
    obtain ⟨meter, there, isMade⟩ := wished.made name m (mem_of_lookup known)
    exact ⟨meter, there, isMade.name, isMade.version, isMade.stripes, isMade.sink⟩
  case live => exact fun thread t => consistent.exists_step found inOrder.sink
  case asked =>
    intro thread t isThread
    rw [← consistent.pending thread, isThread]
    rfl

/-- A registry with a meter of one name is asked for two names. -/
def stocked : State :=
  (((State.empty.createSink .silent).2.perform (.createRegistry ⟨0⟩)).2.perform
    (.getMeter ⟨0⟩ "disk")).2

/-- Two threads look up the same new name in vain before either has put in a meter of it, and a
third gets the name that is there. -/
def contended : LookupState :=
  (machine ⟨0⟩).run [0, 1, 1, 2, 0, 0] (start stocked [["net", "disk"], ["net"], ["disk"]])

/-- The thread that looked in vain gets the meter that the other has put in meanwhile. -/
theorem unique_contended :
    contended.answers =
        [⟨1, "net", ⟨1⟩⟩, ⟨2, "disk", ⟨0⟩⟩, ⟨0, "net", ⟨1⟩⟩, ⟨0, "disk", ⟨0⟩⟩] ∧
      ∃ current, contended.state.registryAt? ⟨0⟩ = some current ∧
        contended.Unique stocked ⟨0⟩ ⟨⟨0⟩, [("disk", ⟨0⟩)]⟩ current
          [["net", "disk"], ["net"], ["disk"]] :=
  ⟨by decide +kernel,
    unique_of_reachable
      (((History.empty.createSink .silent).perform (.createRegistry ⟨0⟩)).perform
        (.getMeter ⟨0⟩ "disk"))
      (by decide +kernel) (Machine.reachable_run ..)⟩

end LookupState

end Metering.Concurrent
