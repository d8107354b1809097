import Metering.Concurrent.Builds
import Metering.Proofs.Meter.Names
import Metering.Proofs.Stream.Settled

/-! # Names are registered once

Threads race to build instruments of one meter, each with a name and settings of its own. Whoever
registers a name first decides its configuration for good: all who ask for the same configuration
are given the one instrument of the name, and all others are refused
(`Metering.Concurrent.BuildState.writeOnce_of_reachable`).
-/

namespace Metering.Concurrent

/-- The configuration that was asked for and is registered. -/
def BuildAnswer.built? (a : BuildAnswer) : Option Config :=
  match a.answer with
  | .ok _ => some a.setup.config
  | .error _ => none

/-- An answer that is decided by the name alone if it breaks the rule, and otherwise by the one
instrument of the name. -/
inductive BuildAnswer.Fits (m : Meter) (a : BuildAnswer) : Prop where
  | invalid (fault : NameFault) (faulty : Name.fault? a.setup.name = some fault)
      (refused : a.answer = .error (.refused (.invalidName a.setup.name fault.reason)))
  | valid (place : Nat) (i : Instrument) (named : Name.fault? a.setup.name = none)
      (found : m.instruments[place]? = some i) (taken : i.config.name = a.setup.name)
      (decided : a.answer =
        if i.config = a.setup.config then .ok place
        else .error (.refused (.conflictingRegistration a.setup.name)))

/-- An answer fits a meter that has grown if it fitted before. -/
theorem BuildAnswer.Fits.append {a : BuildAnswer} {m m' : Meter} {more : List Instrument}
    (fits : a.Fits m) (grown : m'.instruments = m.instruments ++ more) : a.Fits m' := by
  cases fits with
  | invalid fault faulty refused => exact .invalid fault faulty refused
  | valid place i named found taken decided =>
      refine .valid place i named ?_ taken decided
      rw [grown, List.getElem?_append_left (List.getElem?_eq_some_iff.mp found).1, found]

namespace BuildState

variable {s s' : BuildState} {thread : Nat}

/-! ## Steps -/

/-- **What one step does.** -/
inductive Move (thread : Nat) (s s' : BuildState) : Prop where
  /-- A name breaks the rule. -/
  | refused (t : BuildThread) (setup : InstrumentSetup) (fault : NameFault)
      (found : s.threads[thread]? = some t) (faulty : Name.fault? setup.name = some fault)
      (threads : s'.threads = s.threads.set thread ⟨none, t.todo.tail⟩) (meter : s'.meter = s.meter)
      (answers : s'.answers = s.answers ++
        [⟨thread, setup, .error (.refused (.invalidName setup.name fault.reason))⟩])
  /-- A name passes. -/
  | passed (t : BuildThread) (setup : InstrumentSetup) (found : s.threads[thread]? = some t)
      (named : Name.fault? setup.name = none)
      (threads : s'.threads = s.threads.set thread ⟨some setup, t.todo.tail⟩)
      (meter : s'.meter = s.meter) (answers : s'.answers = s.answers)
  /-- A configuration is registered, whose name has passed. -/
  | registered (t : BuildThread) (setup : InstrumentSetup) (found : s.threads[thread]? = some t)
      (passed : t.passed = some setup)
      (threads : s'.threads = s.threads.set thread ⟨none, t.todo⟩)
      (meter : s'.meter = (s.meter.register setup.config).meter)
      (answers : s'.answers = s.answers ++
        [⟨thread, setup, (s.meter.register setup.config).answer⟩])

/-- A step is one of the moves. -/
theorem move_of_step (stepped : machine.step thread s = some s') : Move thread s s' := by
  change step thread s = some s' at stepped
  unfold step at stepped
  cases found : s.threads[thread]? with
  | none => simp only [found, reduceCtorEq] at stepped
  | some t =>
      obtain ⟨passed, todo⟩ := t
      cases passed with
      | some setup =>
          simp only [found, Option.some.injEq] at stepped
          subst stepped
          exact .registered _ setup found rfl rfl rfl rfl
      | none =>
          cases todo with
          | nil => simp only [found, reduceCtorEq] at stepped
          | cons setup rest =>
              have name := setup.config_fixed.1
              simp only [found, Name.validate] at stepped
              cases faulty : Name.fault? setup.config.name with
              | some fault =>
                  simp only [faulty, Option.some.injEq] at stepped
                  subst stepped
                  rw [name] at faulty
                  exact .refused _ setup fault found faulty rfl rfl (by rw [← name]; rfl)
              | none =>
                  simp only [faulty, Option.some.injEq] at stepped
                  subst stepped
                  exact .passed _ setup found (name ▸ faulty) rfl rfl rfl

/-! ## Consistency -/

/-- The meter is orderly, its instruments are what was built with success, in order of the first
success, and all answers fit it. -/
structure Consistent (s : BuildState) : Prop where
  orderly : s.meter.Orderly
  passed : ∀ t ∈ s.threads, ∀ setup, t.passed = some setup → Name.fault? setup.name = none
  ordered : s.meter.instruments.map Instrument.config =
    (s.answers.filterMap BuildAnswer.built?).eraseDups
  fits : ∀ a ∈ s.answers, a.Fits s.meter

/-- At the start the threads and the meter agree. -/
theorem consistent_start (setup : MeterSetup) (programs : List (List InstrumentSetup)) :
    (start (.ofSetup setup) programs).Consistent where
  orderly := Meter.orderly_ofSetup setup
  passed t member wished passed := by
    obtain ⟨_, _, rfl⟩ := List.mem_map.mp member
    cases passed
  ordered := rfl
  fits _ member := (List.not_mem_nil member).elim

/-- What a step of a consistent state leaves of the threads whose names have passed. -/
theorem Consistent.passed_set (consistent : s.Consistent) {t : BuildThread}
    (threads : s'.threads = s.threads.set thread t)
    (named : ∀ setup, t.passed = some setup → Name.fault? setup.name = none) :
    ∀ t ∈ s'.threads, ∀ setup, t.passed = some setup → Name.fault? setup.name = none := by
  intro other member
  rw [threads] at member
  rcases List.mem_or_eq_of_mem_set member with before | rfl
  · exact consistent.passed other before
  · exact named

/-- A registration fits the meter that it leaves, which has grown by one instrument at most, and
keeps to the order of what was built with success. -/
theorem Consistent.registered (consistent : s.Consistent) (thread : Nat) {setup : InstrumentSetup}
    (named : Name.fault? setup.name = none) :
    ∃ more, (s.meter.register setup.config).meter.instruments = s.meter.instruments ++ more ∧
      BuildAnswer.Fits (s.meter.register setup.config).meter
        ⟨thread, setup, (s.meter.register setup.config).answer⟩ ∧
      (s.meter.register setup.config).meter.instruments.map Instrument.config =
        ((s.answers ++ [(⟨thread, setup, (s.meter.register setup.config).answer⟩ : BuildAnswer)]
          ).filterMap BuildAnswer.built?).eraseDups := by
  have name := setup.config_fixed.1
  have listed : setup.config ∈ s.answers.filterMap BuildAnswer.built? ↔
      setup.config ∈ s.meter.instruments.map Instrument.config := by
    rw [consistent.ordered, List.mem_eraseDups]
  rw [List.filterMap_append]
  -- If the name is taken, what is built comes to an instrument that is listed, or to a conflict,
  -- which builds nothing; if it is free, the configuration cannot have been built before.
  by_cases taken : ∃ i ∈ s.meter.instruments, i.config.name = setup.config.name
  · obtain ⟨i, member, taken⟩ := taken
    obtain ⟨place, found⟩ := List.mem_iff_getElem?.mp member
    obtain ⟨meter, answer⟩ := consistent.orderly.register_of_taken found taken
    rw [name] at answer
    rw [meter, answer]
    refine ⟨[], (List.append_nil _).symm, .valid place i named found (taken.trans name) rfl, ?_⟩
    rw [consistent.ordered]
    by_cases equal : i.config = setup.config
    · rw [if_pos equal]
      change _ = (_ ++ [setup.config]).eraseDups
      rw [eraseDups_concat, if_pos (listed.mpr (equal ▸ List.mem_map_of_mem member))]
    · rw [if_neg equal]
      change _ = (_ ++ []).eraseDups
      rw [List.append_nil]
  · have free : ∀ i ∈ s.meter.instruments, i.config.name ≠ setup.config.name := by
      intro i member same
      exact taken ⟨i, member, same⟩
    have absent : setup.config ∉ s.answers.filterMap BuildAnswer.built? := by
      rw [listed]
      intro member
      obtain ⟨i, standing, equal⟩ := List.mem_map.mp member
      exact free i standing (congrArg Config.name equal)
    rw [Meter.register_of_free free]
    refine ⟨_, rfl, .valid s.meter.instruments.length _ named
      (Place.getElem?_concat_eq_some.mpr (Or.inr ⟨rfl, rfl⟩)) name (if_pos rfl).symm, ?_⟩
    change (s.meter.instruments ++ [_]).map Instrument.config = (_ ++ [setup.config]).eraseDups
    rw [eraseDups_concat, if_neg absent, List.map_append, consistent.ordered]
    rfl

/-- A move keeps them in agreement, and leaves each instrument in its place. -/
theorem Consistent.of_move (consistent : s.Consistent) (move : Move thread s s') :
    s'.Consistent ∧ ∃ more, s'.meter.instruments = s.meter.instruments ++ more := by
  cases move with
  | refused t setup fault found faulty threads meter answers =>
      refine ⟨⟨meter ▸ consistent.orderly, consistent.passed_set threads nofun, ?_, ?_⟩, [], ?_⟩
      · rw [meter, answers, consistent.ordered, List.filterMap_append]
        exact congrArg List.eraseDups (List.append_nil _).symm
      · intro a member
        rw [meter]
        rw [answers] at member
        rcases List.mem_append.mp member with before | new
        · exact consistent.fits a before
        · rw [List.mem_singleton.mp new]
          exact .invalid fault faulty rfl
      · rw [meter, List.append_nil]
  | passed t setup found named threads meter answers =>
      refine ⟨⟨meter ▸ consistent.orderly, consistent.passed_set threads ?_, ?_, ?_⟩, [], ?_⟩
      · intro other same
        cases same
        exact named
      · rw [meter, answers, consistent.ordered]
      · rw [meter, answers]
        exact consistent.fits
      · rw [meter, List.append_nil]
  | registered t setup found passed threads meter answers =>
      have named := consistent.passed t (List.mem_of_getElem? found) setup passed
      obtain ⟨more, grown, fits, ordered⟩ := consistent.registered thread named
      refine ⟨⟨?_, consistent.passed_set threads nofun, ?_, ?_⟩, more, meter ▸ grown⟩
      · rw [meter]
        exact consistent.orderly.register (setup.config_fixed.1.symm ▸ named) setup.config_regular
      · rw [meter, answers, ordered]
      · intro a member
        rw [meter]
        rw [answers] at member
        rcases List.mem_append.mp member with before | new
        · exact (consistent.fits a before).append grown
        · rw [List.mem_singleton.mp new]
          exact fits

/-- Along every run they agree. -/
theorem consistent_of_reachable {setup : MeterSetup} {programs : List (List InstrumentSetup)}
    (reachable : machine.Reachable (start (.ofSetup setup) programs) s) : s.Consistent :=
  reachable.invariant (consistent_start setup programs) fun _ _ _ consistent stepped =>
    (consistent.of_move (move_of_step stepped)).1

/-- Instruments stay where they are and as they are, and new ones come after them. -/
theorem Consistent.grown (consistent : s.Consistent) (later : machine.Reachable s s') :
    ∃ more, s'.meter.instruments = s.meter.instruments ++ more := by
  refine (later.invariant (P := fun s' => s'.Consistent ∧
    ∃ more, s'.meter.instruments = s.meter.instruments ++ more)
    ⟨consistent, [], (List.append_nil _).symm⟩ ?_).2
  rintro thread before after ⟨consistentBefore, more, grown⟩ stepped
  obtain ⟨consistentAfter, new, grownAfter⟩ := consistentBefore.of_move (move_of_step stepped)
  exact ⟨consistentAfter, more ++ new, by rw [grownAfter, grown, List.append_assoc]⟩

/-- Whoever is given an instrument is given one of the kind and the number asked for. -/
theorem Consistent.typed (consistent : s.Consistent) {a : BuildAnswer} (member : a ∈ s.answers)
    {place : Nat} (built : a.answer = .ok place) :
    ∃ i, s.meter.instruments[place]? = some i ∧ i.config.kind = a.setup.kind ∧
      i.config.number = a.setup.number := by
  cases consistent.fits a member with
  | invalid _ _ refused => cases built.symm.trans refused
  | valid place' i _ found _ decided =>
      rw [built] at decided
      split at decided
      · next equal =>
          cases decided
          exact ⟨i, found, equal ▸ a.setup.config_fixed.2, equal ▸ a.setup.config_number⟩
      · cases decided

/-- A name that breaks the rule is refused. -/
theorem Consistent.refused (consistent : s.Consistent) {a : BuildAnswer} (member : a ∈ s.answers)
    {fault : NameFault} (faulty : Name.fault? a.setup.name = some fault) :
    a.answer = .error (.refused (.invalidName a.setup.name fault.reason)) := by
  cases consistent.fits a member with
  | invalid other same refused =>
      cases faulty.symm.trans same
      exact refused
  | valid _ _ named => cases faulty.symm.trans named

/-- Every instrument was asked for in its configuration. -/
theorem Consistent.asked (consistent : s.Consistent) {i : Instrument}
    (member : i ∈ s.meter.instruments) : ∃ a ∈ s.answers, a.setup.config = i.config := by
  have built : i.config ∈ s.answers.filterMap BuildAnswer.built? := by
    rw [← List.mem_eraseDups, ← consistent.ordered]
    exact List.mem_map_of_mem member
  obtain ⟨first, isAnswer, isBuilt⟩ := List.mem_filterMap.mp built
  refine ⟨first, isAnswer, ?_⟩
  rw [BuildAnswer.built?] at isBuilt
  split at isBuilt
  · exact Option.some.inj isBuilt
  · cases isBuilt

/-- All who asked for the name of an instrument were decided by its configuration. -/
theorem Consistent.decided (consistent : s.Consistent) {a : BuildAnswer} (member : a ∈ s.answers)
    {place : Nat} {i : Instrument} (found : s.meter.instruments[place]? = some i)
    (taken : i.config.name = a.setup.name) : a.answer = if i.config = a.setup.config then .ok place
      else .error (.refused (.conflictingRegistration a.setup.name)) := by
  cases consistent.fits a member with
  | invalid _ faulty =>
      have named := consistent.orderly.named i (List.mem_of_getElem? found)
      cases (taken ▸ named).symm.trans faulty
  | valid place' j _ foundOther takenOther decided =>
      cases consistent.orderly.eq_place found foundOther (taken.trans takenOther.symm)
      cases found.symm.trans foundOther
      exact decided

/-! ## Single steps -/

variable {thread place : Nat} {t : BuildThread} {setup : InstrumentSetup} {i : Instrument}

/-- A build that is begun is refused for its name, or goes on to register it. -/
theorem step_begun (found : s.threads[thread]? = some t) (ready : t.passed = none)
    (first : t.todo.head? = some setup) :
    ∃ next, machine.step thread s = some next ∧ next.meter = s.meter ∧
      match Name.fault? setup.name with
      | some fault => next.answers =
          s.answers ++ [⟨thread, setup, .error (.refused (.invalidName setup.name fault.reason))⟩]
      | none => next.answers = s.answers ∧
          next.threads[thread]? = some ⟨some setup, t.todo.tail⟩ := by
  obtain ⟨rest, todo⟩ := List.head?_eq_some_iff.mp first
  obtain ⟨passed, todo'⟩ := t
  subst ready todo
  have name := setup.config_fixed.1
  have inside := (List.getElem?_eq_some_iff.mp found).1
  change ∃ next, step thread s = some next ∧ _
  simp only [step, found, Name.validate, name]
  cases faulty : Name.fault? setup.name with
  | some fault => exact ⟨_, rfl, rfl, rfl⟩
  | none => exact ⟨_, rfl, rfl, rfl, List.getElem?_set_self inside⟩

/-- A name that is new is registered under the next number. -/
theorem step_free (orderly : s.meter.Orderly) (found : s.threads[thread]? = some t)
    (passed : t.passed = some setup)
    (free : ∀ i ∈ s.meter.instruments, i.config.name ≠ setup.name) :
    ∃ next, machine.step thread s = some next ∧
      next.answers = s.answers ++ [⟨thread, setup, .ok s.meter.instruments.length⟩] ∧
      next.meter.instruments = s.meter.instruments ++
        [⟨setup.config.descriptor s.meter.name s.meter.instruments.length, setup.config, .empty,
          none⟩] := by
  have new : s.meter.register setup.config = s.meter.add setup.config :=
    Meter.register_of_free fun i member => setup.config_fixed.1 ▸ free i member
  obtain ⟨_, todo⟩ := t
  subst passed
  change ∃ next, step thread s = some next ∧ _
  simp only [step, found, new]
  refine ⟨_, rfl, rfl, ?_⟩
  rw [← orderly.next]
  rfl

/-- A name that is taken is decided by the configuration of its instrument, which stays. -/
theorem step_taken (orderly : s.meter.Orderly) (found : s.threads[thread]? = some t)
    (passed : t.passed = some setup) (standing : s.meter.instruments[place]? = some i)
    (taken : i.config.name = setup.name) :
    ∃ next, machine.step thread s = some next ∧ next.meter = s.meter ∧
      next.answers = s.answers ++ [⟨thread, setup, if i.config = setup.config then .ok place
        else .error (.refused (.conflictingRegistration setup.name))⟩] := by
  have name := setup.config_fixed.1
  obtain ⟨meter, answer⟩ := orderly.register_of_taken standing (taken.trans name.symm)
  obtain ⟨_, todo⟩ := t
  subst passed
  change ∃ next, step thread s = some next ∧ _
  simp only [step, found]
  refine ⟨_, rfl, meter, ?_⟩
  change s.answers ++ [_] = _
  rw [answer, name]

/-! ## Registration -/

/-- **Names are registered once.** -/
structure WriteOnce (s : BuildState) : Prop where
  /-- Looking up a name finds the one instrument of that name. -/
  one : ∀ name place, (s.meter.find? name).map Fin.val = some place ↔
    ∃ i, s.meter.instruments[place]? = some i ∧ i.config.name = name
  /-- No instrument is ever replaced, removed or configured anew. -/
  kept : ∀ later, machine.Reachable s later →
    ∃ more, later.meter.instruments = s.meter.instruments ++ more
  /-- All names keep to the rule. -/
  named : ∀ i ∈ s.meter.instruments, Name.fault? i.config.name = none
  /-- An instrument is described by its configuration, under the number of its place. -/
  described : ∀ (place : Nat) (i : Instrument), s.meter.instruments[place]? = some i →
    i.descriptor.id = place ∧ i.descriptor.name = i.config.name ∧
      i.descriptor.kind = i.config.kind ∧ i.descriptor.number = i.config.number ∧
      i.descriptor.unit = i.config.unit
  /-- The numbers are those from zero up to the number of instruments. -/
  numbered : s.meter.instruments.map (fun i => i.descriptor.id) =
    List.range s.meter.instruments.length ∧ s.meter.nextInstrument = s.meter.instruments.length
  /-- The instruments are those built with success, each configuration once, in the order in which
  they were first built. -/
  ordered : s.meter.instruments.map Instrument.config =
    (s.answers.filterMap BuildAnswer.built?).eraseDups
  /-- Only measures are absolute. -/
  absolute : ∀ i ∈ s.meter.instruments, i.config.absolute = true → i.config.kind = .measure
  /-- Whoever is given an instrument is given one of the kind and the number asked for. -/
  typed : ∀ a ∈ s.answers, ∀ place, a.answer = .ok place →
    ∃ i, s.meter.instruments[place]? = some i ∧ i.config.kind = a.setup.kind ∧
      i.config.number = a.setup.number
  /-- Of all who asked for a name, those with the configuration that is registered are given its one
  instrument, and all others are refused. A name that breaks the rule is refused to everyone. -/
  raced : ∀ name,
    (∀ fault, Name.fault? name = some fault → ∀ a ∈ s.answers, a.setup.name = name →
      a.answer = .error (.refused (.invalidName name fault.reason))) ∧
    (Name.fault? name = none → (∃ a ∈ s.answers, a.setup.name = name) →
      ∃ place i, s.meter.instruments[place]? = some i ∧ i.config.name = name ∧
        (∃ a ∈ s.answers, a.setup.config = i.config) ∧
        ∀ a ∈ s.answers, a.setup.name = name → a.answer =
          if i.config = a.setup.config then .ok place
          else .error (.refused (.conflictingRegistration name)))
  /-- A build that is begun is refused for its name, or goes on to register it. -/
  begun : ∀ thread t setup, s.threads[thread]? = some t → t.passed = none →
    t.todo.head? = some setup →
    ∃ next, machine.step thread s = some next ∧ next.meter = s.meter ∧
      match Name.fault? setup.name with
      | some fault => next.answers =
          s.answers ++ [⟨thread, setup, .error (.refused (.invalidName setup.name fault.reason))⟩]
      | none => next.answers = s.answers ∧
          next.threads[thread]? = some ⟨some setup, t.todo.tail⟩
  /-- A name that is new is registered under the next number. -/
  free : ∀ thread t setup, s.threads[thread]? = some t → t.passed = some setup →
    (∀ i ∈ s.meter.instruments, i.config.name ≠ setup.name) →
    ∃ next, machine.step thread s = some next ∧
      next.answers = s.answers ++ [⟨thread, setup, .ok s.meter.instruments.length⟩] ∧
      next.meter.instruments = s.meter.instruments ++
        [⟨setup.config.descriptor s.meter.name s.meter.instruments.length, setup.config, .empty,
          none⟩]
  /-- A name that is taken is decided by the configuration of its instrument, which stays. -/
  taken : ∀ thread t setup place i, s.threads[thread]? = some t → t.passed = some setup →
    s.meter.instruments[place]? = some i → i.config.name = setup.name →
    ∃ next, machine.step thread s = some next ∧ next.meter = s.meter ∧
      next.answers = s.answers ++ [⟨thread, setup, if i.config = setup.config then .ok place
        else .error (.refused (.conflictingRegistration setup.name))⟩]

/-- **Names are registered once**, in whichever order the threads that build take turns. -/
theorem writeOnce_of_reachable (setup : MeterSetup) (programs : List (List InstrumentSetup))
    {s : BuildState} (reachable : machine.Reachable (start (.ofSetup setup) programs) s) :
    s.WriteOnce := by
  have consistent := consistent_of_reachable reachable
  have orderly := consistent.orderly
  constructor
  case one => exact fun name place => orderly.find?_eq_some_iff
  case kept => exact fun later => consistent.grown
  case named => exact orderly.named
  case described =>
    intro place i found
    rw [orderly.described place i found]
    exact ⟨rfl, rfl, rfl, rfl, rfl⟩
  case numbered => exact ⟨orderly.numbered, orderly.next⟩
  case ordered => exact consistent.ordered
  case absolute => exact orderly.regular
  case typed => exact fun a member place => consistent.typed member
  case raced =>
    intro name
    constructor
    · rintro fault faulty a member rfl
      exact consistent.refused member faulty
    · rintro named ⟨a, member, rfl⟩
      cases consistent.fits a member with
      | invalid _ faulty => cases named.symm.trans faulty
      | valid place i _ found taken =>
          refine ⟨place, i, found, taken, consistent.asked (List.mem_of_getElem? found),
            fun other asked same => ?_⟩
          rw [consistent.decided asked found (taken.trans same.symm), same]
  case begun => exact fun thread t setup => step_begun
  case free => exact fun thread t setup => step_free orderly
  case taken => exact fun thread t setup place i => step_taken orderly

/-- Three threads build a gauge of one name, one of them with another unit, and a fourth gives no
name. -/
def racing : List (List InstrumentSetup) :=
  [[⟨"depth", .gauge, .double, [.unit "m"]⟩], [⟨"depth", .gauge, .double, [.unit "ft"]⟩],
    [⟨"depth", .gauge, .double, [.unit "ft", .unit "m"]⟩], [⟨"", .gauge, .double, []⟩]]

/-- All names are checked before the first of them is registered. -/
def raced : BuildState :=
  machine.run [3, 2, 1, 0, 0, 1, 2] (start (.ofSetup ⟨"pump", none, ⟨0⟩, 1⟩) racing)

/-- Four builds of one name by threads that overtake one another come to one instrument. -/
theorem writeOnce_raced :
    machine.Reachable (start (.ofSetup ⟨"pump", none, ⟨0⟩, 1⟩) racing) raced ∧
      raced.answers.map (fun a => a.answer.toOption) = [none, some 0, none, some 0] ∧
      raced.WriteOnce :=
  ⟨Machine.reachable_run .., by decide +kernel,
    writeOnce_of_reachable _ racing (Machine.reachable_run ..)⟩

end BuildState

end Metering.Concurrent
