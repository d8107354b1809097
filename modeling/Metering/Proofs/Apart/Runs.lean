import Metering.Proofs.Apart.Steps

/-! # Meters do not interfere

A run may make and use many meters, with sinks and registries shared or not and with names alike or
not. Take from it the commands that concern one meter, and carry them out by themselves: every
answer is the same, the meter ends as it does in the whole run, and it tells its sink the same, in
the same order (`Metering.apart_of_reporting`). Callbacks report only through their result: one that
makes requests of its own may make them of any meter.
-/

namespace Metering

namespace State

variable {r : MeterRef} {s s' : State}

/-! ## The commands that concern a meter -/

/-- Whether an answer gives a meter. -/
def gives (r : MeterRef) : Except Failure Reply → Bool
  | .ok (.meter m) => m = r
  | _ => false

/-- Whether a command concerns a meter: it makes a sink or a registry, makes or finds the meter,
names objects of it alone, or collects its observers. -/
def concerns (s : State) (r : MeterRef) : OrderedCommand → Bool
  | .createSink _ | .perform (.createRegistry _) => true
  | .collect m _ => m = r
  | .perform operation =>
    match operation.home? with
    | some q => q = r
    | none => gives r (s.perform operation).1

/-- The commands of a run that concern a meter, each with its answer. -/
def concerning (s : State) (r : MeterRef) : List OrderedCommand → List (OrderedCommand × Answer)
  | [] => []
  | command :: rest =>
    let (answer, after) := s.executeIn command
    let later := after.concerning r rest
    if s.concerns r command then (command, answer) :: later else later

/-- The run of a meter by itself. -/
def alone (s : State) (r : MeterRef) (commands : List OrderedCommand) : List OrderedCommand :=
  (s.concerning r commands).map fun entry => entry.1.moveTo ⟨0⟩

private theorem gives_map_meter {done : Except Failure MeterRef} :
    gives r (done.map Reply.meter) = true ↔ done = .ok r := by
  cases done with
  | error e => exact iff_of_false nofun nofun
  | ok m => exact decide_eq_true_iff.trans ⟨congrArg Except.ok, Except.ok.inj⟩

section Obtains

variable {done done' : Except Failure MeterRef × State} (obtains : Obtains r s' done done')

include obtains

private theorem Obtains.own (given : gives r (done.1.map Reply.meter) = true) :
    Alike r (Answer.moveTo ⟨0⟩) (Answer.replied (done.1.map Reply.meter), done.2)
      (Answer.replied (done'.1.map Reply.meter), done'.2) [] [] := by
  rcases obtains with ⟨made, made', after⟩ | ⟨other, _⟩
  · exact ⟨by rw [made, made']; rfl, rfl, after⟩
  · exact (other (gives_map_meter.mp given)).elim

private theorem Obtains.other (given : ¬ gives r (done.1.map Reply.meter) = true) :
    Apart r done.2 s' := by
  rcases obtains with ⟨made, _, _⟩ | ⟨_, after⟩
  · exact (given (gives_map_meter.mpr made)).elim
  · exact after

end Obtains

/-- A request that has a home concerns the meter that is its home. -/
theorem concerns_of_home {q : MeterRef} {operation : Operation}
    (home : operation.home? = some q) :
    s.concerns r (.perform operation) = true ↔ q = r := by
  cases operation with
  | createRegistry => cases home
  | _ => simp only [concerns, home, decide_eq_true_eq]

/-- A request without a home concerns a meter if it makes or gets it, or makes a registry. -/
theorem concerns_of_homeless {operation : Operation} (homeless : operation.home? = none) :
    s.concerns r (.perform operation) = true ↔
      (∃ k, operation = .createRegistry k) ∨ gives r (s.perform operation).1 = true := by
  cases operation with
  | createRegistry k => exact iff_of_true rfl (Or.inl ⟨k, rfl⟩)
  | _ => simp [concerns, homeless]

/-! ## Callbacks -/

section Callbacks

variable (apart : Apart r s s') {observer : InstrumentRef}

include apart

private theorem Apart.instrument? (home : observer.meter = r) :
    s'.instrument? (observer.moveTo ⟨0⟩) = s.instrument? observer := by
  rw [State.instrument?, State.instrument?, home]
  exact congrArg (Option.bind · _) apart.meter?_first

/-- An action of an observer of the meter comes to the same with the other meters away. -/
theorem Apart.act_own (home : observer.meter = r) {action : Action}
    (reports : action.reports = true) :
    Alike r (Except.map (Reply.moveTo ⟨0⟩)) (s.act observer action)
      (s'.act (observer.moveTo ⟨0⟩) action) (s.givenByAction observer action)
      (s'.givenByAction (observer.moveTo ⟨0⟩) action) := by
  cases action with
  | perform | spawn | replace => cases reports
  | observe value labels =>
      have homeOfRequest : (Operation.record observer value labels).home? = some r :=
        congrArg some home
      exact apart.perform_own homeOfRequest rfl
  | describe =>
      refine ⟨?_, rfl, ?_⟩
      · rw [act, act, apart.instrument? home]
        cases s.instrument? observer <;> rfl
      · rwa [act_describe, act_describe]

/-- An action of an observer of another meter passes the meter by. -/
theorem Apart.act_other (other : observer.meter ≠ r) {action : Action}
    (reports : action.reports = true) :
    Aside r s' (s.act observer action) (s.givenByAction observer action) := by
  cases action with
  | perform | spawn | replace => cases reports
  | observe value labels =>
      have homeOfRequest : (Operation.record observer value labels).home? = some observer.meter :=
        rfl
      exact apart.perform_other homeOfRequest other rfl
  | describe =>
      refine ⟨rfl, ?_⟩
      rwa [act_describe]

private theorem Apart.runProgram_own (home : observer.meter = r) {program : List Action}
    (reports : program.all Action.reports = true) :
    Alike r (List.map (Except.map (Reply.moveTo ⟨0⟩))) (s.runProgram observer program)
      (s'.runProgram (observer.moveTo ⟨0⟩) program) (s.givenByProgram observer program)
      (s'.givenByProgram (observer.moveTo ⟨0⟩) program) := by
  induction program generalizing s s' with
  | nil => exact ⟨rfl, rfl, apart⟩
  | cons action rest ih =>
      rw [List.all_cons, Bool.and_eq_true] at reports
      have first := apart.act_own home reports.1
      have later := ih first.apart reports.2
      refine ⟨congrArg₂ List.cons first.answer later.answer, ?_, later.apart⟩
      rw [givenByProgram, givenByProgram, first.told, later.told, onlyFrom_append]

private theorem Apart.runProgram_other (other : observer.meter ≠ r) {program : List Action}
    (reports : program.all Action.reports = true) :
    Aside r s' (s.runProgram observer program) (s.givenByProgram observer program) := by
  induction program generalizing s with
  | nil => exact ⟨rfl, apart⟩
  | cons action rest ih =>
      rw [List.all_cons, Bool.and_eq_true] at reports
      have first := apart.act_other other reports.1
      have later := ih first.apart reports.2
      refine ⟨?_, later.apart⟩
      rw [givenByProgram, onlyFrom_append, first.told, later.told, List.append_nil]

/-- Callbacks of the observers of one meter, which only report. -/
def Reporting (r : MeterRef) (callbacks : List (InstrumentRef × List Action)) : Prop :=
  ∀ callback ∈ callbacks, callback.1.meter = r ∧ callback.2.all Action.reports = true

/-- Callbacks of observers of the meter come to the same with the other meters away. -/
theorem Apart.runCallbacks_own {callbacks : List (InstrumentRef × List Action)}
    (reporting : Reporting r callbacks) :
    Alike r (List.map fun (observer, answer) =>
        (observer.moveTo ⟨0⟩, answer.map (Reply.moveTo ⟨0⟩))) (s.runCallbacks callbacks)
      (s'.runCallbacks (callbacks.map (Prod.map (InstrumentRef.moveTo ⟨0⟩) id)))
      (s.givenByCallbacks callbacks)
      (s'.givenByCallbacks (callbacks.map (Prod.map (InstrumentRef.moveTo ⟨0⟩) id))) := by
  induction callbacks generalizing s s' with
  | nil => exact ⟨rfl, rfl, apart⟩
  | cons callback rest ih =>
      obtain ⟨observer, program⟩ := callback
      obtain ⟨⟨home, reports⟩, others⟩ := List.forall_mem_cons.mp reporting
      have first := apart.runProgram_own home reports
      have later := ih first.apart others
      refine ⟨?_, ?_, later.apart⟩
      · simp only [runCallbacks, List.map_cons, Prod.map_apply, id, first.answer, later.answer,
          List.map_append, List.map_map]
        rfl
      · rw [List.map_cons, Prod.map_apply, givenByCallbacks, givenByCallbacks, onlyFrom_append,
          ← first.told, ← later.told]
        rfl

/-- Callbacks of observers of another meter pass the meter by. -/
theorem Apart.runCallbacks_other {q : MeterRef} (other : q ≠ r)
    {callbacks : List (InstrumentRef × List Action)} (reporting : Reporting q callbacks) :
    Aside r s' (s.runCallbacks callbacks) (s.givenByCallbacks callbacks) := by
  induction callbacks generalizing s with
  | nil => exact ⟨rfl, apart⟩
  | cons callback rest ih =>
      obtain ⟨observer, program⟩ := callback
      obtain ⟨⟨home, reports⟩, others⟩ := List.forall_mem_cons.mp reporting
      have first := apart.runProgram_other (home ▸ other) reports
      have later := ih first.apart others
      refine ⟨?_, later.apart⟩
      rw [givenByCallbacks, onlyFrom_append, first.told, later.told, List.append_nil]

private theorem Apart.reporting_ordered (q : MeterRef) (order : Nat → List Nat) :
    Reporting q (s.ordered q order) := by
  intro callback member
  obtain ⟨place, _, standing⟩ := List.mem_filterMap.mp member
  have known := List.mem_of_getElem? standing
  rw [snapshot] at known
  split at known
  · cases known
  · next m found =>
      obtain ⟨⟨index, program⟩, set, rfl⟩ := List.mem_map.mp known
      obtain ⟨⟨i, position⟩, numbered, set⟩ := List.mem_filterMap.mp set
      obtain ⟨_, set, same⟩ := Option.map_eq_some_iff.mp set
      cases same
      have inside := List.mem_of_getElem? (List.mem_zipIdx_iff_getElem?.mp numbered)
      exact ⟨rfl, apart.quiet q m found i inside program set⟩

private theorem Apart.ordered (order : Nat → List Nat) : s'.ordered ⟨0⟩ order =
    (s.ordered r order).map (Prod.map (InstrumentRef.moveTo ⟨0⟩) id) := by
  have snapshot : s'.snapshot ⟨0⟩ =
      (s.snapshot r).map (Prod.map (InstrumentRef.moveTo ⟨0⟩) id) := by
    rw [State.snapshot, State.snapshot, apart.meter?_first]
    cases s.meter? r with
    | none => rfl
    | some m =>
        rw [List.map_map]
        rfl
  rw [State.ordered, snapshot, State.ordered, List.map_filterMap, List.length_map]
  simp only [List.getElem?_map]

end Callbacks

/-! ## Runs -/

section Runs

variable (apart : Apart r s s') {command : OrderedCommand}

include apart

private theorem Apart.collect_own (order : Nat → List Nat) :
    Alike r (Answer.moveTo ⟨0⟩) (s.executeIn (.collect r order))
      (s'.executeIn (.collect ⟨0⟩ order)) (s.givenByCommand (.collect r order))
      (s'.givenByCommand (.collect ⟨0⟩ order)) := by
  have ran := apart.runCallbacks_own (apart.reporting_ordered r order)
  rw [executeIn, executeIn, collectInOrder, collectInOrder, apart.meter?_first]
  rw [givenByCommand, givenByCommand, apart.ordered]
  cases found : s.meter? r with
  | none => exact ⟨rfl, ran.told, apart⟩
  | some m =>
      refine ⟨?_, ran.told, ran.apart.note _ _⟩
      simp only [Answer.moveTo, Except.map, Collection.moveTo, ran.answer, List.length_map]

private theorem Apart.collect_other {q : MeterRef} (other : q ≠ r) (order : Nat → List Nat) :
    Aside r s' (s.executeIn (.collect q order)) (s.givenByCommand (.collect q order)) := by
  have ran := apart.runCallbacks_other other (apart.reporting_ordered q order)
  rw [executeIn, collectInOrder]
  cases found : s.meter? q with
  | none => exact ⟨ran.told, apart⟩
  | some m => exact ⟨ran.told, ran.apart.quiet, ran.apart.meters, ran.apart.sinks,
      ran.apart.registries⟩

private theorem Apart.execute_createRegistry (k : SinkRef) :
    Alike r (Answer.moveTo ⟨0⟩) (s.executeIn (.perform (.createRegistry k)))
      (s'.executeIn (.perform (.createRegistry k))) (s.given (.createRegistry k))
      (s'.given (.createRegistry k)) := by
  obtain ⟨answer, after⟩ := apart.createRegistry k
  refine ⟨?_, rfl, after⟩
  change Answer.replied ((s'.createRegistry k).1.map Reply.registry) =
    Answer.replied (((s.createRegistry k).1.map Reply.registry).map (Reply.moveTo ⟨0⟩))
  rw [answer]
  cases (s.createRegistry k).1 <;> rfl

/-- A command that concerns the meter comes to the same with the other meters away. -/
theorem Apart.execute_own (reports : command.reports = true)
    (concerned : s.concerns r command = true) :
    Alike r (Answer.moveTo ⟨0⟩) (s.executeIn command) (s'.executeIn (command.moveTo ⟨0⟩))
      (s.givenByCommand command) (s'.givenByCommand (command.moveTo ⟨0⟩)) := by
  cases command with
  | createSink sink =>
      refine ⟨?_, rfl, apart.createSink sink⟩
      exact congrArg (fun place => Answer.replied (.ok (.sink ⟨place⟩))) apart.sinks
  | collect m order =>
      cases of_decide_eq_true concerned
      exact apart.collect_own order
  | perform operation =>
      cases home : operation.home? with
      | some q =>
          cases (concerns_of_home home).mp concerned
          obtain ⟨answer, told, after⟩ := apart.perform_own home reports
          exact ⟨congrArg Answer.replied answer, told, after⟩
      | none =>
          rcases (concerns_of_homeless home).mp concerned with ⟨k, rfl⟩ | given
          · exact apart.execute_createRegistry k
          rcases perform_of_homeless (s := s) home with
            ⟨setup, rfl⟩ | ⟨k, rfl⟩ | ⟨k, name, rfl⟩ | ⟨e, failed⟩
          · exact (apart.createMeter setup).own given
          · exact apart.execute_createRegistry k
          · exact (apart.getMeter k name).own given
          · rw [failed] at given
            cases given

/-- A command that does not concern the meter passes it by. -/
theorem Apart.execute_other (reports : command.reports = true)
    (unconcerned : s.concerns r command = false) :
    Aside r s' (s.executeIn command) (s.givenByCommand command) := by
  cases command with
  | createSink sink => cases unconcerned
  | collect m order => exact apart.collect_other (of_decide_eq_false unconcerned) order
  | perform operation =>
      cases home : operation.home? with
      | some q =>
          have other : q ≠ r := fun same => by
            cases unconcerned.symm.trans ((concerns_of_home home).mpr same)
          obtain ⟨told, after⟩ := apart.perform_other home other reports
          exact ⟨told, after⟩
      | none =>
          have neither := mt (concerns_of_homeless (s := s) (r := r) home).mpr (by simp [unconcerned])
          obtain ⟨_, gives⟩ := not_or.mp neither
          refine ⟨by rw [givenByCommand, given_of_homeless home]; rfl, ?_⟩
          rcases perform_of_homeless (s := s) home with
            ⟨setup, rfl⟩ | ⟨k, rfl⟩ | ⟨k, name, rfl⟩ | ⟨e, failed⟩
          · exact (apart.createMeter setup).other gives
          · cases unconcerned
          · exact (apart.getMeter k name).other gives
          · change Apart r (s.perform operation).2 s'
            rwa [failed]

/-- **What concerns a meter comes to the same by itself.** -/
theorem Apart.run {commands : List OrderedCommand}
    (reports : ∀ command ∈ commands, command.reports = true) :
    (s'.runIn (s.alone r commands)).1 =
        (s.concerning r commands).map (fun entry => entry.2.moveTo ⟨0⟩) ∧
      s'.traffic (s.alone r commands) = onlyFrom r (s.traffic commands) ∧
      Apart r (s.runIn commands).2 (s'.runIn (s.alone r commands)).2 := by
  -- A command that concerns the meter moves both states on, any other the first alone; that the
  -- second stands beside the first is kept either way.
  induction commands generalizing s s' with
  | nil => exact ⟨rfl, rfl, apart⟩
  | cons command rest ih =>
      obtain ⟨reportsFirst, reportsRest⟩ := List.forall_mem_cons.mp reports
      rw [alone, concerning, traffic, onlyFrom_append, runIn_cons]
      cases concerned : s.concerns r command with
      | true =>
          have first := apart.execute_own reportsFirst concerned
          obtain ⟨answers, told, after⟩ := ih first.apart reportsRest
          simp only [if_true, List.map_cons, runIn_cons, first.answer, traffic, first.told]
          refine ⟨congrArg _ answers, congrArg _ told, after⟩
      | false =>
          have first := apart.execute_other reportsFirst concerned
          obtain ⟨answers, told, after⟩ := ih first.apart reportsRest
          rw [first.told]
          exact ⟨answers, told, after⟩

end Runs

/-! ## What is taken from a run -/

private theorem concerning_cons (s : State) (r : MeterRef) (command : OrderedCommand)
    (rest : List OrderedCommand) : s.concerning r (command :: rest) =
      (if s.concerns r command then [(command, (s.executeIn command).1)] else []) ++
        (s.executeIn command).2.concerning r rest := by
  simp only [concerning]
  split <;> rfl

/-- The answers are those given in the whole run. -/
theorem concerning_sublist (s : State) (r : MeterRef) (commands : List OrderedCommand) :
    (s.concerning r commands).Sublist (commands.zip (s.runIn commands).1) := by
  induction commands generalizing s with
  | nil => exact .slnil
  | cons command rest ih =>
      rw [concerning_cons, runIn_cons, List.zip_cons_cons]
      split
      · exact (ih _).cons_cons _
      · exact (ih _).cons _

/-- The run of a meter by itself makes the same sinks. -/
theorem sinks_alone (s : State) (r : MeterRef) (commands : List OrderedCommand) :
    (s.alone r commands).filterMap OrderedCommand.sink? =
      commands.filterMap OrderedCommand.sink? := by
  induction commands generalizing s with
  | nil => rfl
  | cons command rest ih =>
      have later : (((s.executeIn command).2.concerning r rest).map fun entry =>
          entry.1.moveTo ⟨0⟩).filterMap OrderedCommand.sink? =
            rest.filterMap OrderedCommand.sink? := ih _
      rw [alone, concerning_cons, List.map_append, List.filterMap_append, later]
      cases command with
      | createSink sink => rfl
      | perform | collect => split <;> rfl

/-- What is taken from a run grows with the run. -/
theorem alone_append (s : State) (r : MeterRef) (first second : List OrderedCommand) :
    s.alone r (first ++ second) =
      s.alone r first ++ (s.runIn first).2.alone r second := by
  induction first generalizing s with
  | nil => rfl
  | cons command rest ih =>
      have later := ih (s.executeIn command).2
      rw [alone, alone, alone] at later
      rw [List.cons_append, alone, concerning_cons, alone, concerning_cons, List.map_append,
        List.map_append, later, List.append_assoc]
      rfl

end State

/-- **Undisturbed by the others.** The run of a meter by itself against the whole run: what was
asked of the meter is answered alike, and the one run is as far as the other at every moment; the
meter is the same at the end, with its instruments, their numbers and binding tables, its batches
and the number of the next, and stands alone; and it has told sinks the same. Each sink holds what
it was told in the whole run, and by the one meter in the other. -/
structure Undisturbed (r : MeterRef) (commands : List OrderedCommand)
    (whole byItself : List Answer × State) : Prop where
  answers : byItself.1 = (State.empty.concerning r commands).map fun entry => entry.2.moveTo ⟨0⟩
  answered : (State.empty.concerning r commands).Sublist (commands.zip whole.1)
  begun : ∀ first second, commands = first ++ second →
    State.empty.alone r commands =
      State.empty.alone r first ++ (State.empty.runIn first).2.alone r second
  meter : byItself.2.meter? ⟨0⟩ = whole.2.meter? r
  others : ∀ q, q ≠ ⟨0⟩ → byItself.2.meter? q = none
  refCount : ∀ i h, i.meter = r → h.instrument.meter = r →
    byItself.2.refCount (i.moveTo ⟨0⟩) (h.moveTo ⟨0⟩) = whole.2.refCount i h
  traffic : State.empty.traffic (State.empty.alone r commands) =
    onlyFrom r (State.empty.traffic commands)
  told : whole.2.Tallied (commands.filterMap OrderedCommand.sink?) (State.empty.traffic commands)
  toldByItself : byItself.2.Tallied (commands.filterMap OrderedCommand.sink?)
    (onlyFrom r (State.empty.traffic commands))

/-- Bindings are held as often with the other meters away. -/
theorem State.Apart.refCount {r : MeterRef} {s s' : State} (apart : State.Apart r s s')
    {i : InstrumentRef} {h : Handle} (home : i.meter = r) (homeOfHandle : h.instrument.meter = r) :
    s'.refCount (i.moveTo ⟨0⟩) (h.moveTo ⟨0⟩) = s.refCount i h := by
  have same : (h.moveTo ⟨0⟩).instrument = i.moveTo ⟨0⟩ ↔ h.instrument = i := by
    obtain ⟨⟨_, _⟩, _⟩ := h
    obtain ⟨_, _⟩ := i
    cases home
    cases homeOfHandle
    simp [Handle.moveTo, InstrumentRef.moveTo]
  have binding : s'.binding? (h.moveTo ⟨0⟩) = s.binding? h :=
    congrArg (Option.bind · _) (apart.instrument? homeOfHandle)
  rw [State.refCount, State.refCount, binding]
  simp only [same]

/-- **Meters do not interfere.** In every run whose callbacks only report, every meter is
undisturbed by the others. What mixes two meters is turned away and changes nothing: a value for an
instrument of another meter, for the batch being spent if it is, and a handle of another instrument.
-/
theorem apart_of_reporting :
    (∀ (commands : List OrderedCommand) (r : MeterRef),
      (∀ command ∈ commands, command.reports = true) →
        Undisturbed r commands (State.empty.runIn commands)
          (State.empty.runIn (State.empty.alone r commands))) ∧
    (∀ (s : State) (b : BatchRef) (i : InstrumentRef) (value : Value) (batch : Batch) (m : Meter)
      (instrument : Instrument), i.meter ≠ b.meter → s.batch? b = some batch →
        s.meter? b.meter = some m → s.instrument? i = some instrument →
        s.perform (.put b i value) = (.error (.refused (if batch.spent then
          .batchSpent batch.labels.text
          else .foreignInstrument instrument.config.name m.name)), s)) ∧
    ∀ (s : State) (i : InstrumentRef) (h : Handle) (instrument owner : Instrument),
      h.instrument ≠ i → s.instrument? i = some instrument →
      s.instrument? h.instrument = some owner →
        s.perform (.unbind i h) = (.error (.refused
          (.foreignInstrument owner.config.name instrument.config.name)), s) := by
  refine ⟨fun commands r reports => ?_, ?_, ?_⟩
  · obtain ⟨answers, traffic, apart⟩ := (State.apart_empty r).run reports
    have tallied := State.tallied_runIn (State.empty.alone r commands)
    rw [State.sinks_alone, traffic] at tallied
    exact ⟨answers, State.empty.concerning_sublist r commands,
      fun first second split => split ▸ State.empty.alone_append r first second, apart.meter?_first,
      fun q other => (apart.meters q).trans (if_neg other),
      fun _ _ home homeOfHandle => apart.refCount home homeOfHandle, traffic,
      State.tallied_runIn commands, tallied⟩
  · intro s b i value batch m instrument mixed held standing found
    rw [State.put_of_mixed mixed, found, standing, held]
  · intro s i h instrument owner mixed found foundOwner
    rw [State.unbind_of_mixed mixed, found, foundOwner]

/-- Two meters of one name, one of a registry, that share a sink. -/
def shared : List OrderedCommand :=
  [.createSink (.recording []),
    .perform (.createMeter ⟨"m", none, ⟨0⟩, 16⟩),
    .perform (.createRegistry ⟨0⟩),
    .perform (.getMeter ⟨0⟩ "m"),
    .perform (.build ⟨0⟩ ⟨"hits", .counter, .long, []⟩),
    .perform (.build ⟨1⟩ ⟨"level", .observer, .long, []⟩),
    .perform (.build ⟨1⟩ ⟨"hits", .counter, .long, []⟩),
    .perform (.setCallback ⟨⟨1⟩, 0⟩ [.observe (.long 7) .empty]),
    .perform (.record ⟨⟨0⟩, 0⟩ (.long 1) .empty),
    .perform (.openBatch ⟨1⟩ .empty),
    .perform (.put ⟨⟨1⟩, 0⟩ ⟨⟨0⟩, 0⟩ (.long 2)),
    .perform (.put ⟨⟨1⟩, 0⟩ ⟨⟨1⟩, 1⟩ (.long 3)),
    .perform (.commit ⟨⟨1⟩, 0⟩),
    .collect ⟨1⟩ List.range]

/-- Two meters of one name, each with a counter and a batch. -/
def crossed : State :=
  let config := Config.draft "hits" .counter .long
  let meter : Meter := ⟨"m", none, ⟨0⟩, 16, 1, 0, [⟨config.descriptor "m" 0, config, .empty, none⟩],
    [⟨.empty, [], false⟩]⟩
  ⟨[.recording []], [meter, meter], [], []⟩

/-- Two meters of one name share a sink; the run without the first leaves all that the second did.
-/
theorem apart_shared :
    (∀ command ∈ shared, command.reports = true) ∧
    Undisturbed ⟨1⟩ shared (State.empty.runIn shared)
      (State.empty.runIn (State.empty.alone ⟨1⟩ shared)) ∧
    (State.empty.alone ⟨1⟩ shared).length = 10 ∧
    (State.empty.traffic shared).map Prod.fst = [⟨0⟩, ⟨1⟩, ⟨1⟩, ⟨1⟩, ⟨1⟩] ∧
    crossed.perform (.put ⟨⟨0⟩, 0⟩ ⟨⟨1⟩, 0⟩ (.long 1)) =
      (.error (.refused (.foreignInstrument "hits" "m")), crossed) ∧
    crossed.perform (.unbind ⟨⟨0⟩, 0⟩ ⟨⟨⟨1⟩, 0⟩, 0⟩) =
      (.error (.refused (.foreignInstrument "hits" "hits")), crossed) := by
  have reports : ∀ command ∈ shared, command.reports = true := by decide +kernel
  exact ⟨reports, apart_of_reporting.1 shared ⟨1⟩ reports, by decide +kernel, by decide +kernel,
    apart_of_reporting.2.1 crossed ⟨⟨0⟩, 0⟩ ⟨⟨1⟩, 0⟩ (.long 1) _ _ _ (by decide) rfl rfl rfl,
    apart_of_reporting.2.2 crossed ⟨⟨0⟩, 0⟩ ⟨⟨⟨1⟩, 0⟩, 0⟩ _ _ (by decide) rfl rfl⟩

/-- A batch of one meter, committed, and an instrument of another. -/
def committed : List OrderedCommand :=
  [.createSink (.recording []),
    .perform (.createMeter ⟨"a", none, ⟨0⟩, 16⟩),
    .perform (.createMeter ⟨"b", none, ⟨0⟩, 16⟩),
    .perform (.build ⟨1⟩ ⟨"hits", .counter, .long, []⟩),
    .perform (.openBatch ⟨0⟩ .empty),
    .perform (.commit ⟨⟨0⟩, 0⟩)]

/-- A spent batch turns an instrument of another meter away for being spent. -/
theorem put_foreign_into_spent : ¬ ∀ (commands : List OrderedCommand) (b : BatchRef)
    (i : InstrumentRef) (value : Value), i.meter ≠ b.meter →
      ((State.empty.runIn commands).2.batch? b).isSome →
      ((State.empty.runIn commands).2.instrument? i).isSome →
        ∃ instrument owner, ((State.empty.runIn commands).2.perform (.put b i value)).1 =
          .error (.refused (.foreignInstrument instrument owner)) := by
  intro claim
  obtain ⟨_, _, foreign⟩ := claim committed ⟨⟨0⟩, 0⟩ ⟨⟨1⟩, 0⟩ (.long 1) (by decide)
    (by decide +kernel) (by decide +kernel)
  have spent : ((State.empty.runIn committed).2.perform (.put ⟨⟨0⟩, 0⟩ ⟨⟨1⟩, 0⟩ (.long 1))).1 =
      .error (.refused (.batchSpent "\x7b\x7d")) := by decide +kernel
  rw [spent] at foreign
  cases foreign

end Metering
