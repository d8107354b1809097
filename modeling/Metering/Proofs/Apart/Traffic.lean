import Metering.Proofs.Registry.Serving
import Metering.Proofs.Stream.Perform
import Metering.Proofs.State.Routing
import Metering.State.Order

/-! # Traffic

The traffic of a run is what its meters told their sinks, in order, each delivery with the meter
that it came from. It accounts for the sinks: each has received what came from the meters that
report to it, and nothing else (`Metering.State.tallied_runIn`).
-/

namespace Metering

/-- The sink that a command makes. -/
def OrderedCommand.sink? : OrderedCommand → Option Sink
  | .createSink sink => some sink
  | .perform _ | .collect .. => none

namespace State

/-- What a request tells the sink of the meter that it concerns. -/
def given (s : State) (operation : Operation) : List (MeterRef × Delivery) :=
  match operation.home? with
  | none => []
  | some r =>
    match s.meter? r with
    | none => []
    | some m => ((m.answer r operation).output.flatMap Output.deliveries).map (r, ·)

/-- What an action of the callback of an observer tells sinks. -/
def givenByAction (s : State) (observer : InstrumentRef) : Action → List (MeterRef × Delivery)
  | .observe value labels => s.given (.record observer value labels)
  | .perform operation => s.given operation
  | .spawn m setup program =>
    s.given (.build m setup) ++
      match s.build m setup with
      | (.error _, _) => []
      | (.ok i, s) => s.given (.setCallback i program)
  | .replace program => s.given (.setCallback observer program)
  | .describe => []

/-- What the callback of an observer tells sinks. -/
def givenByProgram (s : State) (observer : InstrumentRef) :
    List Action → List (MeterRef × Delivery)
  | [] => []
  | action :: rest =>
    s.givenByAction observer action ++ (s.act observer action).2.givenByProgram observer rest

/-- What callbacks tell sinks, run in the order given. -/
def givenByCallbacks (s : State) :
    List (InstrumentRef × List Action) → List (MeterRef × Delivery)
  | [] => []
  | (observer, program) :: rest =>
    s.givenByProgram observer program ++ (s.runProgram observer program).2.givenByCallbacks rest

/-- What a command tells sinks. -/
def givenByCommand (s : State) : OrderedCommand → List (MeterRef × Delivery)
  | .createSink _ => []
  | .perform operation => s.given operation
  | .collect m order => s.givenByCallbacks (s.ordered m order)

/-- The traffic of a run. -/
def traffic (s : State) : List OrderedCommand → List (MeterRef × Delivery)
  | [] => []
  | command :: rest => s.givenByCommand command ++ (s.executeIn command).2.traffic rest

/-- The part of some traffic that goes to a sink. -/
def toldTo (s : State) (k : SinkRef) (traffic : List (MeterRef × Delivery)) : List Delivery :=
  (traffic.filter fun entry => (s.meter? entry.1).map Meter.sink = some k).map Prod.snd

/-- The traffic accounts for the sinks, given as they were made. -/
structure Tallied (made : List Sink) (traffic : List (MeterRef × Delivery)) (s : State) : Prop where
  sound : s.Sound
  known : ∀ entry ∈ traffic, ∃ m, s.meter? entry.1 = some m
  told : ∀ k, s.sink? k =
    (made[k.index]?).map fun sink => (s.toldTo k traffic).foldl Sink.receive sink

variable {made : List Sink} {traffic : List (MeterRef × Delivery)} {s : State}

private theorem toldTo_append (s : State) (k : SinkRef)
    (earlier later : List (MeterRef × Delivery)) :
    s.toldTo k (earlier ++ later) = s.toldTo k earlier ++ s.toldTo k later := by
  rw [toldTo, List.filter_append, List.map_append]
  rfl

/-- A request without a home tells sinks nothing. -/
theorem given_of_homeless {operation : Operation} (homeless : operation.home? = none) :
    s.given operation = [] := by
  rw [given, homeless]

/-- A request to a meter that does not stand tells sinks nothing. -/
theorem given_of_absent {operation : Operation} {r : MeterRef} (home : operation.home? = some r)
    (absent : s.meter? r = none) : s.given operation = [] := by
  simp only [given, home, absent]

/-- A request to a meter tells its sink what the meter gives out. -/
theorem given_of_home {operation : Operation} {r : MeterRef} {m : Meter}
    (home : operation.home? = some r) (standing : s.meter? r = some m) : s.given operation =
      ((m.answer r operation).output.flatMap Output.deliveries).map (r, ·) := by
  simp only [given, home, standing]

/-- What a request tells sinks comes from its home. -/
theorem known_of_given {operation : Operation} :
    ∀ entry ∈ s.given operation, operation.home? = some entry.1 ∧
      ∃ m, s.meter? entry.1 = some m := by
  intro entry member
  rw [given] at member
  split at member
  · cases member
  · next home =>
      split at member
      · cases member
      · next standing =>
          obtain ⟨_, _, rfl⟩ := List.mem_map.mp member
          exact ⟨home, _, standing⟩

/-- What a meter tells goes to its own sink. -/
theorem toldTo_of_meter {r : MeterRef} {m : Meter} (standing : s.meter? r = some m) (k : SinkRef)
    (deliveries : List Delivery) :
    s.toldTo k (deliveries.map (r, ·)) = if k = m.sink then deliveries else [] := by
  rw [toldTo, List.filter_map, List.map_map]
  by_cases same : k = m.sink
  · rw [if_pos same, List.filter_eq_self.mpr fun _ _ => by simp [standing, same]]
    exact List.map_id deliveries
  · rw [if_neg same, List.filter_eq_nil_iff.mpr fun _ _ => by simp [standing, Ne.symm same]]
    rfl

/-- A request tells sinks what it gives, and nothing else. -/
theorem sink?_perform (s : State) (operation : Operation) (k : SinkRef) :
    (s.perform operation).2.sink? k =
      (s.sink? k).map fun sink => (s.toldTo k (s.given operation)).foldl Sink.receive sink := by
  have nothingElse (nothing : s.given operation = [])
      (same : (s.perform operation).2.sinks = s.sinks) : (s.perform operation).2.sink? k =
        (s.sink? k).map fun sink => (s.toldTo k (s.given operation)).foldl Sink.receive sink := by
    rw [nothing, sink?, same]
    exact Option.map_id'.symm
  cases home : operation.home? with
  | some r =>
      cases standing : s.meter? r with
      | none =>
          refine nothingElse (given_of_absent home standing) ?_
          rw [perform_of_home home, atMeter, standing]
      | some m =>
          rw [perform_of_home home, atMeter, standing, given_of_home home standing,
            toldTo_of_meter standing]
          refine (sink?_giveAll ..).trans (congrArg ((s.sink? k).map ·) (funext fun sink => ?_))
          split <;> rfl
  | none =>
      refine nothingElse (given_of_homeless home) ?_
      rcases perform_of_homeless (s := s) home with
        ⟨setup, rfl⟩ | ⟨j, rfl⟩ | ⟨j, name, rfl⟩ | ⟨_, failed⟩
      · change (s.createMeter setup).2.sinks = s.sinks
        rw [createMeter]
        cases s.sink? setup.sink <;> rfl
      · change (s.createRegistry j).2.sinks = s.sinks
        rw [createRegistry]
        cases s.sink? j <;> rfl
      · change (s.getMeter j name).2.sinks = s.sinks
        rcases s.getMeter_cases j name with ⟨_, done, _⟩ | ⟨_, _, _, _, done⟩ | ⟨_, _, _, _, _, done⟩
        all_goals exact congrArg (fun done => done.2.sinks) done
      · rw [failed]

/-- Showing the result changes nothing. -/
theorem act_describe (s : State) (observer : InstrumentRef) :
    (s.act observer .describe).2 = s := by
  rw [act]
  cases s.instrument? observer <;> rfl

/-! ## Accounts of sinks -/

private theorem tallied_empty : Tallied [] [] .empty where
  sound := accounted_empty.sound
  known := nofun
  told _ := rfl

variable (tallied : s.Tallied made traffic)

include tallied

private theorem Tallied.perform (operation : Operation) :
    (s.perform operation).2.Tallied made (traffic ++ s.given operation) := by
  have advance := advance_of_perform tallied.sound operation
  have known : ∀ entry ∈ traffic ++ s.given operation, ∃ m, s.meter? entry.1 = some m :=
    fun entry member => (List.mem_append.mp member).elim (tallied.known entry)
      fun new => (known_of_given entry new).2
  refine ⟨advance.sound, fun entry member => ?_, fun k => ?_⟩
  · obtain ⟨m, standing⟩ := known entry member
    obtain ⟨m', standing', _⟩ := advance.frozen.meters _ m standing
    exact ⟨m', standing'⟩
  · have same : (s.perform operation).2.toldTo k (traffic ++ s.given operation) =
        s.toldTo k (traffic ++ s.given operation) := by
      rw [toldTo, toldTo]
      refine congrArg _ (List.filter_congr fun entry member => ?_)
      obtain ⟨m, standing⟩ := known entry member
      obtain ⟨m', standing', sink⟩ := advance.frozen.meters _ m standing
      rw [standing, standing', Option.map_some, Option.map_some, sink]
    rw [same, toldTo_append, sink?_perform, tallied.told, Option.map_map]
    refine congrArg (Option.map · _) (funext fun sink => ?_)
    exact (List.foldl_append ..).symm

private theorem Tallied.act (observer : InstrumentRef) (action : Action) :
    (s.act observer action).2.Tallied made (traffic ++ s.givenByAction observer action) := by
  cases action with
  | observe value labels => exact tallied.perform (.record observer value labels)
  | perform operation => exact tallied.perform operation
  | replace program => exact tallied.perform (.setCallback observer program)
  | describe =>
      rw [act_describe, givenByAction, List.append_nil]
      exact tallied
  | spawn m setup program =>
      have built := tallied.perform (.build m setup)
      have after : (s.perform (.build m setup)).2 = (s.build m setup).2 := rfl
      rw [after] at built
      rw [State.act, givenByAction]
      cases outcome : s.build m setup with
      | mk answer s' =>
          rw [outcome] at built
          cases answer with
          | error e =>
              rw [List.append_nil]
              exact built
          | ok i =>
              rw [← List.append_assoc]
              exact built.perform (.setCallback i program)

private theorem Tallied.runProgram (observer : InstrumentRef) (program : List Action) :
    (s.runProgram observer program).2.Tallied made
      (traffic ++ s.givenByProgram observer program) := by
  induction program generalizing s traffic with
  | nil =>
      rw [givenByProgram, List.append_nil]
      exact tallied
  | cons action rest ih =>
      rw [givenByProgram, ← List.append_assoc]
      exact ih (tallied.act observer action)

private theorem Tallied.runCallbacks (callbacks : List (InstrumentRef × List Action)) :
    (s.runCallbacks callbacks).2.Tallied made (traffic ++ s.givenByCallbacks callbacks) := by
  induction callbacks generalizing s traffic with
  | nil =>
      rw [givenByCallbacks, List.append_nil]
      exact tallied
  | cons callback rest ih =>
      obtain ⟨observer, program⟩ := callback
      rw [givenByCallbacks, ← List.append_assoc]
      exact ih (tallied.runProgram observer program)

private theorem Tallied.toldTo_eq_nil {k : SinkRef} (missing : s.sink? k = none) :
    s.toldTo k traffic = [] := by
  rw [toldTo, List.map_eq_nil_iff, List.filter_eq_nil_iff]
  intro entry member
  obtain ⟨m, standing⟩ := tallied.known entry member
  obtain ⟨sink, there⟩ := tallied.sound.sinks _ m standing
  rw [standing, Option.map_some, decide_eq_true_eq]
  intro same
  rw [Option.some.inj same, missing] at there
  cases there

private theorem Tallied.createSink (sink : Sink) :
    (s.createSink sink).2.Tallied (made ++ [sink]) traffic where
  sound := by
    refine ⟨tallied.sound.instruments, fun r m found => ?_⟩
    obtain ⟨held, there⟩ := tallied.sound.sinks r m found
    exact ⟨held, Place.getElem?_concat_eq_some.mpr (Or.inl there)⟩
  known := tallied.known
  told k := by
    refine Place.told_concat (fun place => tallied.told ⟨place⟩) (fun place missing sink => ?_)
      sink k.index
    rw [tallied.toldTo_eq_nil missing, List.foldl_nil]

private theorem Tallied.execute (command : OrderedCommand) : (s.executeIn command).2.Tallied
    (made ++ command.sink?.toList) (traffic ++ s.givenByCommand command) := by
  cases command with
  | createSink sink =>
      rw [givenByCommand, List.append_nil]
      exact tallied.createSink sink
  | perform operation =>
      rw [OrderedCommand.sink?, Option.toList_none, List.append_nil]
      exact tallied.perform operation
  | collect m order =>
      rw [OrderedCommand.sink?, Option.toList_none, List.append_nil, givenByCommand, executeIn,
        collectInOrder]
      cases standing : s.meter? m with
      | none =>
          rw [ordered_of_missing standing, givenByCallbacks, List.append_nil]
          exact tallied
      | some meter =>
          have ran := tallied.runCallbacks (s.ordered m order)
          exact ⟨⟨ran.sound.instruments, ran.sound.sinks⟩, ran.known, ran.told⟩

private theorem Tallied.run (commands : List OrderedCommand) : (s.runIn commands).2.Tallied
    (made ++ commands.filterMap OrderedCommand.sink?) (traffic ++ s.traffic commands) := by
  induction commands generalizing s made traffic with
  | nil =>
      rw [List.filterMap_nil, List.append_nil, State.traffic, List.append_nil]
      exact tallied
  | cons command rest ih =>
      have made' : (command :: rest).filterMap OrderedCommand.sink? =
          command.sink?.toList ++ rest.filterMap OrderedCommand.sink? := by
        cases command <;> rfl
      rw [made', State.traffic, runIn_cons, ← List.append_assoc, ← List.append_assoc]
      exact ih (tallied.execute command)

omit tallied in
/-- **The traffic of a run accounts for its sinks.** -/
theorem tallied_runIn (commands : List OrderedCommand) :
    (State.empty.runIn commands).2.Tallied (commands.filterMap OrderedCommand.sink?)
      (State.empty.traffic commands) :=
  tallied_empty.run commands

end State

end Metering
