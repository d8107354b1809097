import Metering.Proofs.Apart.Traffic
import Metering.Proofs.Meter.Answers

/-! # The moments of a run

A moment of a run is a request with the state of which it is made, be it made by a command or by a
callback that a command runs. A moment is the turn of one meter at most (`Metering.Moment.turn`).
What every request, every new sink and every journal entry keeps holds at the end of every run
(`Metering.State.kept_of_runIn`), in particular that the calls account for the state
(`Metering.State.accounted_runIn`). The traffic of a run is what its moments tell sinks
(`Metering.State.traffic_eq_flatMap`).
-/

namespace Metering

/-- What evolves keeps the sinks of its meters, and its instruments as they were registered. -/
theorem State.Evolves.frozen {s s' : State} (evolves : s.Evolves s') : s.Frozen s' where
  meters r m found := by
    obtain ⟨m', found', becomes⟩ := evolves.kept r m found
    exact ⟨m', found', becomes.fixed.2⟩
  instruments ref i found := by
    obtain ⟨m, standing, placed⟩ := State.instrument?_eq_some.mp found
    obtain ⟨m', standing', becomes⟩ := evolves.kept ref.meter m standing
    obtain ⟨i', placed', same⟩ := becomes.instrument placed
    exact ⟨i', State.instrument?_eq_some.mpr ⟨m', standing', placed'⟩, same⟩

/-- A request and the state of which it is made. -/
structure Moment where
  state : State
  request : Operation

namespace Moment

/-- The request with its answer. -/
def call (q : Moment) : Call :=
  q.state.call q.request

/-- The state that the request leads to. -/
def next (q : Moment) : State :=
  (q.state.perform q.request).2

/-- What the request tells sinks. -/
def given (q : Moment) : List (MeterRef × Delivery) :=
  q.state.given q.request

/-- Meters keep their sinks, and instruments stay as they were registered. -/
theorem frozen (q : Moment) : q.state.Frozen q.next :=
  (State.evolves_perform q.state q.request).frozen

/-- **What a request makes of a meter.** -/
inductive Turn (q : Moment) (r : MeterRef) : Prop where
  /-- The meter answers. -/
  | home (m : Meter) (outcome : Outcome Reply) (home : q.request.home? = some r)
      (standing : q.state.meter? r = some m) (does : m.Does r q.request outcome)
      (answer : q.call.answer = outcome.answer) (after : q.next.meter? r = some outcome.meter)
      (given : q.given = (outcome.output.flatMap Output.deliveries).map (r, ·))
  /-- The meter has nothing to do with it, or is asked for in vain. -/
  | away (absent : q.request.home? = some r →
        q.state.meter? r = none ∧ q.call.answer = .error .absent)
      (after : q.next.meter? r = q.state.meter? r)
  /-- The meter is made. -/
  | made (setup : MeterSetup) (homeless : q.request.home? = none)
      (missing : q.state.meter? r = none) (after : q.next.meter? r = some (.ofSetup setup))

private theorem turn_of_concat {q : Moment} (setup : MeterSetup) (homeless : q.request.home? = none)
    (grown : q.next.meters = q.state.meters ++ [Meter.ofSetup setup]) (r : MeterRef) :
    q.Turn r := by
  have after := State.meter?_of_concat grown r
  by_cases isNew : r = ⟨q.state.meters.length⟩
  · rw [if_pos isNew] at after
    refine .made setup homeless ?_ after
    rw [isNew]
    exact List.getElem?_eq_none (Nat.le_refl _)
  · rw [if_neg isNew] at after
    exact .away (fun home => by cases homeless.symm.trans home) after

/-- **A request is answered by its home**, and no other meter is changed; it may make a meter if it
has no home. -/
theorem turn (q : Moment) (r : MeterRef) : q.Turn r := by
  obtain ⟨s, operation⟩ := q
  cases home : operation.home? with
  | some owner =>
      have performed : s.perform operation = s.atMeter owner fun m => m.answer owner operation :=
        State.perform_of_home home
      cases standing : s.meter? owner with
      | none =>
          rw [State.atMeter, standing] at performed
          exact .away
            (fun same => ⟨Option.some.inj (home.symm.trans same) ▸ standing,
              congrArg Prod.fst performed⟩)
            (congrArg (fun done => done.2.meter? r) performed)
      | some m =>
          rw [State.atMeter, standing] at performed
          have after : (s.perform operation).2.meter? r =
              if r = owner then some (m.answer owner operation).meter else s.meter? r := by
            rw [performed, State.meter?, State.meters_giveAll]
            exact State.meter?_setMeter standing _ r
          -- The home has answered; any other meter stands as before.
          by_cases same : r = owner
          · subst same
            rw [if_pos rfl] at after
            exact .home m _ home standing (m.does_answer home) (congrArg Prod.fst performed) after
              (State.given_of_home home standing)
          · rw [if_neg same] at after
            exact .away (fun other => absurd (Option.some.inj (home.symm.trans other)).symm same)
              after
  | none =>
      have away (same : (s.perform operation).2.meters = s.meters) :
          (⟨s, operation⟩ : Moment).Turn r :=
        .away (fun other => by cases home.symm.trans other)
          (congrArg (fun meters : List Meter => meters[r.index]?) same)
      rcases State.perform_of_homeless (s := s) home with
        ⟨setup, rfl⟩ | ⟨k, rfl⟩ | ⟨k, name, rfl⟩ | ⟨_, failed⟩
      · cases there : s.sink? setup.sink with
        | none =>
            refine away ?_
            change (s.createMeter setup).2.meters = s.meters
            rw [State.createMeter, there]
        | some sink =>
            refine turn_of_concat setup home ?_ r
            change (s.createMeter setup).2.meters = _
            rw [State.createMeter, there]
            rfl
      · refine away ?_
        change (s.createRegistry k).2.meters = s.meters
        rw [State.createRegistry]
        cases s.sink? k <;> rfl
      · rcases s.getMeter_cases k name with
          ⟨_, done, _⟩ | ⟨_, _, _, _, done⟩ | ⟨registry, _, _, _, _, done⟩
        · exact away (congrArg (fun done => done.2.meters) done)
        · exact away (congrArg (fun done => done.2.meters) done)
        · exact turn_of_concat _ home (congrArg (fun done => done.2.meters) done) r
      · exact away (by rw [failed])

end Moment

namespace State

/-- The moments of an action of the callback of an observer. -/
def momentsOfAction (s : State) (observer : InstrumentRef) : Action → List Moment
  | .observe value labels => [⟨s, .record observer value labels⟩]
  | .perform operation => [⟨s, operation⟩]
  | .spawn m setup program =>
    ⟨s, .build m setup⟩ ::
      match s.build m setup with
      | (.error _, _) => []
      | (.ok i, s) => [⟨s, .setCallback i program⟩]
  | .replace program => [⟨s, .setCallback observer program⟩]
  | .describe => []

/-- The moments of the callback of an observer. -/
def momentsOfProgram (s : State) (observer : InstrumentRef) : List Action → List Moment
  | [] => []
  | action :: rest =>
    s.momentsOfAction observer action ++ (s.act observer action).2.momentsOfProgram observer rest

/-- The moments of callbacks that are run in the order given. -/
def momentsOfCallbacks (s : State) : List (InstrumentRef × List Action) → List Moment
  | [] => []
  | (observer, program) :: rest =>
    s.momentsOfProgram observer program ++
      (s.runProgram observer program).2.momentsOfCallbacks rest

/-- The moments of a command. -/
def momentsOfCommand (s : State) : OrderedCommand → List Moment
  | .createSink _ => []
  | .perform operation => [⟨s, operation⟩]
  | .collect m order => s.momentsOfCallbacks (s.ordered m order)

/-- The moments of a run. -/
def moments (s : State) : List OrderedCommand → List Moment
  | [] => []
  | command :: rest => s.momentsOfCommand command ++ (s.executeIn command).2.moments rest

/-! ## What is kept -/

section Kept

variable {P : List Moment → State → Prop}
  (performed : ∀ moments s operation, P moments s →
    P (moments ++ [⟨s, operation⟩]) (s.perform operation).2)
  {moments : List Moment} {s : State}

include performed

/-- What requests keep is kept by an action. -/
theorem kept_of_action (observer : InstrumentRef) (action : Action) (holds : P moments s) :
    P (moments ++ s.momentsOfAction observer action) (s.act observer action).2 := by
  cases action with
  | observe value labels => exact performed moments s _ holds
  | perform operation => exact performed moments s operation holds
  | replace program => exact performed moments s _ holds
  | describe =>
      rw [act_describe, momentsOfAction, List.append_nil]
      exact holds
  | spawn m setup program =>
      have built := performed moments s (.build m setup) holds
      have after : (s.perform (.build m setup)).2 = (s.build m setup).2 := rfl
      rw [after] at built
      rw [State.momentsOfAction, State.act]
      cases outcome : s.build m setup with
      | mk answer s' =>
          rw [outcome] at built
          cases answer with
          | error e => exact built
          | ok i =>
              have set := performed _ s' (.setCallback i program) built
              rw [List.append_assoc, List.singleton_append] at set
              exact set

/-- What requests keep is kept by a program. -/
theorem kept_of_program (observer : InstrumentRef) (program : List Action) (holds : P moments s) :
    P (moments ++ s.momentsOfProgram observer program) (s.runProgram observer program).2 := by
  induction program generalizing moments s with
  | nil =>
      rw [momentsOfProgram, List.append_nil]
      exact holds
  | cons action rest ih =>
      rw [momentsOfProgram, ← List.append_assoc]
      exact ih (kept_of_action performed observer action holds)

/-- What requests keep is kept by callbacks. -/
theorem kept_of_callbacks (callbacks : List (InstrumentRef × List Action)) (holds : P moments s) :
    P (moments ++ s.momentsOfCallbacks callbacks) (s.runCallbacks callbacks).2 := by
  induction callbacks generalizing moments s with
  | nil =>
      rw [momentsOfCallbacks, List.append_nil]
      exact holds
  | cons callback rest ih =>
      obtain ⟨observer, program⟩ := callback
      rw [momentsOfCallbacks, ← List.append_assoc]
      exact ih (kept_of_program performed observer program holds)

end Kept

section Runs

variable {P : List Sink → List Moment → State → Prop}
  (created : ∀ sinks moments s sink, P sinks moments s →
    P (sinks ++ [sink]) moments (s.createSink sink).2)
  (performed : ∀ sinks moments s operation, P sinks moments s →
    P sinks (moments ++ [⟨s, operation⟩]) (s.perform operation).2)
  (noted : ∀ sinks moments s entry, P sinks moments s → P sinks moments (s.note entry))
  {sinks : List Sink} {moments : List Moment} {s : State}

include created performed noted

variable (sinks moments) in
/-- What requests keep is kept by a command. -/
theorem kept_of_command (command : OrderedCommand) (holds : P sinks moments s) :
    P (sinks ++ command.sink?.toList) (moments ++ s.momentsOfCommand command)
      (s.executeIn command).2 := by
  cases command with
  | createSink sink =>
      rw [momentsOfCommand, List.append_nil]
      exact created sinks moments s sink holds
  | perform operation =>
      rw [OrderedCommand.sink?, Option.toList_none, List.append_nil]
      exact performed sinks moments s operation holds
  | collect m order =>
      rw [OrderedCommand.sink?, Option.toList_none, List.append_nil, momentsOfCommand, executeIn,
        collectInOrder]
      cases standing : s.meter? m with
      | none =>
          rw [ordered_of_missing standing, momentsOfCallbacks, List.append_nil]
          exact holds
      | some meter =>
          exact noted _ _ _ _ (kept_of_callbacks (performed sinks) (s.ordered m order) holds)

variable (sinks moments) in
/-- What requests keep is kept by a run. -/
theorem kept_of_commands (commands : List OrderedCommand) (holds : P sinks moments s) :
    P (sinks ++ commands.filterMap OrderedCommand.sink?) (moments ++ s.moments commands)
      (s.runIn commands).2 := by
  induction commands generalizing sinks moments s with
  | nil =>
      rw [List.filterMap_nil, List.append_nil, State.moments, List.append_nil]
      exact holds
  | cons command rest ih =>
      have made : (command :: rest).filterMap OrderedCommand.sink? =
          command.sink?.toList ++ rest.filterMap OrderedCommand.sink? := by
        cases command <;> rfl
      rw [made, State.moments, runIn_cons, ← List.append_assoc, ← List.append_assoc]
      exact ih _ _ (kept_of_command created performed noted _ _ command holds)

/-- **What is kept throughout holds at the end of every run.** -/
theorem kept_of_runIn (start : P [] [] .empty) (commands : List OrderedCommand) :
    P (commands.filterMap OrderedCommand.sink?) (State.empty.moments commands)
      (State.empty.runIn commands).2 :=
  kept_of_commands created performed noted [] [] commands start

end Runs

/-- The calls of a run account for the state at its end. -/
theorem accounted_runIn (commands : List OrderedCommand) :
    (State.empty.runIn commands).2.Accounted (commands.filterMap OrderedCommand.sink?)
      ((State.empty.moments commands).map Moment.call) := by
  refine kept_of_runIn (P := fun sinks moments s => s.Accounted sinks (moments.map Moment.call))
    ?_ ?_ ?_ accounted_empty commands
  · exact fun _ _ _ sink accounted => accounted.createSink sink
  · intro _ _ _ operation accounted
    rw [List.map_append]
    exact accounted.perform operation
  · exact fun _ _ _ entry accounted => accounted.note entry

/-- Every run leads to an orderly state. -/
theorem orderly_runIn (commands : List OrderedCommand) : (State.empty.runIn commands).2.Orderly :=
  kept_of_runIn (P := fun _ _ s => s.Orderly)
    (fun _ _ _ _ orderly => orderly.evolves (evolves_of_same rfl rfl))
    (fun _ _ s operation orderly => orderly.evolves (s.evolves_perform operation))
    (fun _ _ _ _ orderly => orderly.evolves (evolves_of_same rfl rfl)) orderly_empty commands

/-! ## Traffic, moment by moment -/

private theorem givenByAction_eq (s : State) (observer : InstrumentRef) (action : Action) :
    s.givenByAction observer action =
      (s.momentsOfAction observer action).flatMap Moment.given := by
  cases action with
  | observe | perform | replace => exact (List.append_nil _).symm
  | describe => rfl
  | spawn m setup program =>
      rw [givenByAction, momentsOfAction, List.flatMap_cons]
      cases s.build m setup with
      | mk answer s' =>
          cases answer with
          | error e => rfl
          | ok i => exact congrArg (_ ++ ·) (List.append_nil _).symm

private theorem givenByProgram_eq (s : State) (observer : InstrumentRef) (program : List Action) :
    s.givenByProgram observer program =
      (s.momentsOfProgram observer program).flatMap Moment.given := by
  induction program generalizing s with
  | nil => rfl
  | cons action rest ih =>
      rw [givenByProgram, momentsOfProgram, List.flatMap_append, givenByAction_eq, ih]

private theorem givenByCallbacks_eq (s : State) (callbacks : List (InstrumentRef × List Action)) :
    s.givenByCallbacks callbacks = (s.momentsOfCallbacks callbacks).flatMap Moment.given := by
  induction callbacks generalizing s with
  | nil => rfl
  | cons callback rest ih =>
      rw [givenByCallbacks, momentsOfCallbacks, List.flatMap_append, givenByProgram_eq, ih]

/-- **The traffic of a run is what its moments tell sinks**, in order. -/
theorem traffic_eq_flatMap (s : State) (commands : List OrderedCommand) :
    s.traffic commands = (s.moments commands).flatMap Moment.given := by
  induction commands generalizing s with
  | nil => rfl
  | cons command rest ih =>
      rw [traffic, moments, List.flatMap_append, ih]
      congr 1
      cases command with
      | createSink sink => rfl
      | perform operation => exact (List.append_nil _).symm
      | collect m order => exact s.givenByCallbacks_eq (s.ordered m order)

end State

end Metering
