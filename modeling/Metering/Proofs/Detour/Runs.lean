import Metering.Proofs.Detour.Records
import Metering.Proofs.Stream.Faithful
import Metering.State.Order

/-! # Recording through bindings in a run

Direct records of a run, those that callbacks make included, may be made through bindings instead,
each bound for the purpose and released at once. Whichever of them are so marked, the two runs
cannot be told apart, but by the names of handles and by what the journal tells of bindings released
(`Metering.bound_refines_direct`).

The names that handles have in the marked run depend on what was bound in passing before. Callbacks
may name handles before they are made, so the renaming has to be known from the start: it is found
from the end of the run backwards, as the course that the binding tables take
(`Metering.Foretold`).
-/

namespace Metering

namespace State

/-! ## Marked records -/

/-- Records a value through a binding of the labels, made for the purpose and released at once. -/
def recordThrough (s : State) (i : InstrumentRef) (value : Value) (labels : LabelSet) :
    Except Failure Unit × State :=
  match s.bind i labels with
  | (.error e, s) => (.error e, s)
  | (.ok h, s) =>
    let (answer, s) := s.recordBound h value
    (answer, (s.unbind i h).2)

/-- Answers a request; a direct record that is marked is made through a binding. -/
def performMarked (s : State) (mark : Bool) : Operation → Except Failure Reply × State
  | .record i value labels =>
    if mark then reply (fun _ => .done) (s.recordThrough i value labels)
    else s.perform (.record i value labels)
  | operation => s.perform operation

/-- Does one action of a callback. -/
def actMarked (s : State) (observer : InstrumentRef) (mark : Bool) :
    Action → Except Failure Reply × State
  | .observe value labels => s.performMarked mark (.record observer value labels)
  | .perform operation => s.performMarked mark operation
  | action => s.act observer action

/-- Does the actions of a callback in turn; the marks are by place. -/
def runProgramMarked (s : State) (observer : InstrumentRef) (marks : Nat → Bool) :
    List Action → List (Except Failure Reply) × State
  | [] => ([], s)
  | action :: rest =>
    let (answer, s) := s.actMarked observer (marks 0) action
    let (answers, s) := s.runProgramMarked observer (fun place => marks (place + 1)) rest
    (answer :: answers, s)

/-- Runs callbacks in the order given. -/
def runCallbacksMarked (s : State) (marks : Nat → Nat → Bool) :
    List (InstrumentRef × List Action) → List (InstrumentRef × Except Failure Reply) × State
  | [] => ([], s)
  | (observer, program) :: rest =>
    let (answers, s) := s.runProgramMarked observer (marks 0) program
    let (later, s) := s.runCallbacksMarked (fun place => marks (place + 1)) rest
    (answers.map (observer, ·) ++ later, s)

end State

/-- A command of a run, with marks at direct records. Observers are collected in any order, which is
given for each number of them. -/
inductive MarkedCommand where
  | createSink (sink : Sink)
  | perform (operation : Operation) (mark : Bool)
  | collect (meter : MeterRef) (order : Nat → List Nat) (marks : Nat → Nat → Bool)

/-- The command with its handles renamed. -/
def MarkedCommand.rename (ρ : Renaming) : MarkedCommand → MarkedCommand
  | .perform operation mark => .perform (operation.rename ρ) mark
  | command => command

/-- The command without marks; observers are collected in order of registration. -/
def Command.unmarked : Command → MarkedCommand
  | .createSink sink => .createSink sink
  | .perform operation => .perform operation false
  | .collect m => .collect m List.range fun _ _ => false

namespace State

/-- Carries out a command as if nothing were marked. -/
def executeDirect (s : State) : MarkedCommand → Answer × State
  | .createSink sink => s.execute (.createSink sink)
  | .perform operation _ => s.execute (.perform operation)
  | .collect m order _ =>
    let (answer, s) := s.collectInOrder m (s.ordered m order)
    (.collected answer, s)

/-- Carries out a command, recording through bindings where it is marked. -/
def executeMarked (s : State) : MarkedCommand → Answer × State
  | .createSink sink => s.execute (.createSink sink)
  | .perform operation mark =>
    let (answer, s) := s.performMarked mark operation
    (.replied answer, s)
  | .collect m order marks =>
    match s.meter? m with
    | none => (.collected (.error .absent), s)
    | some meter =>
      let callbacks := s.ordered m order
      let (calls, s) := s.runCallbacksMarked marks callbacks
      (.collected (.ok ⟨callbacks.length, calls⟩),
        s.note (.observersCollected meter.name callbacks.length))

/-- Carries out the commands of a run as if nothing were marked. -/
def runDirect (s : State) : List MarkedCommand → List Answer × State
  | [] => ([], s)
  | command :: rest =>
    let (answer, s) := s.executeDirect command
    let (answers, s) := s.runDirect rest
    (answer :: answers, s)

/-- Carries out the commands of a run, recording through bindings where they are marked. -/
def runMarked (s : State) : List MarkedCommand → List Answer × State
  | [] => ([], s)
  | command :: rest =>
    let (answer, s) := s.executeMarked command
    let (answers, s) := s.runMarked rest
    (answer :: answers, s)

/-- Every run is one of marked commands. -/
theorem runDirect_unmarked (s : State) (commands : List Command) :
    s.runDirect (commands.map Command.unmarked) = s.run commands := by
  have one (s : State) (command : Command) :
      s.executeDirect command.unmarked = s.execute command := by
    cases command with
    | createSink sink | perform operation => rfl
    | collect m =>
        have all : s.ordered m List.range = s.snapshot m :=
          Place.filterMap_getElem?_range (s.snapshot m)
        rw [Command.unmarked, executeDirect, all]
        rfl
  induction commands generalizing s with
  | nil => rfl
  | cons command rest ih =>
      rw [List.map_cons, runDirect, one, run]
      simp only [ih]

end State

/-! ## Told in advance -/

/-- What is done in the second of two twin states comes to the same, with the handles renamed, as
what is done in the first and leaves twins, whatever course is taken afterwards. -/
def Foretold {α : Type} (rename : Renaming → α → α) (s : State) (done : α × State)
    (done' : Renaming → State → α × State) : Prop :=
  ∀ after, ∃ before, ∀ ρ s', State.Twin ρ before s s' → s'.Sound →
    (done' ρ s').1 = rename ρ done.1 ∧ State.Twin ρ after done.2 (done' ρ s').2 ∧
      (done' ρ s').2.Sound

/-- One thing is done after another, and their answers are combined. -/
theorem Foretold.seq {α β γ : Type} {first : Renaming → α → α} {second : Renaming → β → β}
    {both : Renaming → γ → γ} {s : State} {done : α × State} {later : β × State}
    {done' : Renaming → State → α × State} {later' : Renaming → State → β × State}
    (foretold : Foretold first s done done') (following : Foretold second done.2 later later')
    (combine : α → β → γ)
    (natural : ∀ ρ a b, combine (first ρ a) (second ρ b) = both ρ (combine a b)) :
    Foretold both s (combine done.1 later.1, later.2) fun ρ s' =>
      (combine (done' ρ s').1 (later' ρ (done' ρ s').2).1, (later' ρ (done' ρ s').2).2) := by
  intro after
  obtain ⟨between, follows⟩ := following after
  obtain ⟨before, leads⟩ := foretold between
  refine ⟨before, fun ρ s' twin sound => ?_⟩
  obtain ⟨answer, between, soundBetween⟩ := leads ρ s' twin sound
  obtain ⟨answers, final, soundAfter⟩ := follows ρ _ between soundBetween
  refine ⟨?_, final, soundAfter⟩
  simp only [answer, answers, natural]

/-! ## One marked record -/

private theorem Meter.Twin.retire {ρ : Renaming} {course : Course} {r : MeterRef} {m m' : Meter}
    {i : Instrument} {place : Nat} (twin : m.Twin ρ (course.cons ⟨r, place⟩ false) r m')
    (found : m'.instruments[place]? = some i) (labels : LabelSet) :
    m.Twin ρ course r (m'.retire place labels) := by
  rcases twin.instrument_cases place with ⟨_, missing'⟩ | ⟨j, j', standing, standing', alike⟩
  · cases found.symm.trans missing'
  · have tables := alike.bindings
    rw [Course.cons_self] at tables
    have changed := twin.modifyInstrument id (fun k =>
      { k with bindings := k.bindings.retire labels k.config.constants }) standing standing'
      (fun other apart => (course.cons_of_ne (fun same =>
        apart (congrArg InstrumentRef.index same)) false).symm)
      ⟨alike.descriptor, alike.config, tables.retire labels j'.config.constants, alike.callback⟩
    rwa [Meter.modifyInstrument_self standing rfl] at changed

namespace State

variable {ρ : Renaming} {course : Course} {s s' : State}

private theorem Twin.retire {i : InstrumentRef} (twin : s.Twin ρ (course.cons i false) s')
    {instrument : Instrument} (found : s'.instrument? i = some instrument) (labels : LabelSet) :
    State.Twin ρ course s (s'.retire i labels) := by
  obtain ⟨m', standing', placed⟩ := instrument?_eq_some.mp found
  rcases twin.meter_cases i.meter with ⟨_, missing'⟩ | ⟨m, n, standing, here, meters⟩
  · cases standing'.symm.trans missing'
  · cases standing'.symm.trans here
    have changed := twin.setMeter (fun other apart => (course.cons_of_ne (fun same =>
      apart (congrArg InstrumentRef.meter same)) false).symm) standing standing'
      (meters.retire placed labels)
    rw [setMeter_self standing] at changed
    rw [retire_of_meter? standing' placed]
    exact ⟨changed.sinks, changed.registries, changed.journal.released .., changed.length,
      changed.meters, changed.blank⟩

private theorem Sound.perform (sound : s.Sound) (operation : Operation) :
    (s.perform operation).2.Sound :=
  (advance_of_perform sound operation).sound

private theorem Sound.recordThrough (sound : s.Sound) (i : InstrumentRef) (value : Value)
    (labels : LabelSet) : (s.recordThrough i value labels).2.Sound := by
  have first : (s.bind i labels).2.Sound := sound.perform (.bind i labels)
  rw [State.recordThrough]
  cases bound : s.bind i labels with
  | mk answer s₁ =>
      rw [bound] at first
      cases answer with
      | error e => exact first
      | ok h => exact (first.perform (.recordBound h value)).perform (.unbind i h)

/-- Without the instrument, binding fails as recording does. -/
theorem recordThrough_of_none {i : InstrumentRef} (missing : s.instrument? i = none)
    (value : Value) (labels : LabelSet) :
    s.recordThrough i value labels = (.error .absent, s) ∧
      s.record i value labels = (.error .absent, s) := by
  rw [State.recordThrough, State.bind, State.record, State.atMeter, State.atMeter]
  cases standing : s.meter? i.meter with
  | none => exact ⟨rfl, rfl⟩
  | some m =>
      have gone : m.instruments[i.index]? = none := by
        rw [instrument?, standing, Option.bind_some] at missing
        exact missing
      simp only [Meter.bind, Meter.record, gone, Meter.fail, Outcome.map, Except.map,
        setMeter_self standing, and_self]
      rfl

/-- A record through a binding in the second of two twins is a direct record in the first. -/
theorem Twin.recordThrough {i : InstrumentRef} {labels : LabelSet}
    (twin : s.Twin ρ (s.foresee i labels false course) s') (sound : s'.Sound)
    (value : Value) :
    (s'.recordThrough i value labels).1 = (s.record i value labels).1 ∧
      State.Twin ρ course (s.record i value labels).2 (s'.recordThrough i value labels).2 := by
  obtain ⟨answer, states⟩ := twin.atMeter i.meter fun m m' meters =>
    meters.record i.index value labels
  change (s'.record i value labels).1 = (s.record i value labels).1 at answer
  change State.Twin ρ _ (s.record i value labels).2 (s'.record i value labels).2 at states
  rcases twin.instrument_cases i with ⟨missing, missing'⟩ | ⟨j, j', found, found', alike⟩
  · obtain ⟨through, direct⟩ := recordThrough_of_none missing' value labels
    rw [foresee_of_none missing] at states
    rw [through]
    rw [direct] at answer states
    exact ⟨answer, states⟩
  · obtain ⟨h, s₁, s₂, s₃, detour⟩ := exists_detour sound found' value labels
    have through : s'.recordThrough i value labels = ((s'.record i value labels).1, s₃) := by
      simp only [State.recordThrough, detour.bound, detour.recorded, detour.released]
    have bound : s'.isBound i labels = (j.bindings.find? labels).isSome := by
      rw [twin.isBound, State.isBound, found, Option.bind_some]
    rw [foresee_of_some found] at states
    rw [through, detour.final, detoured, bound]
    refine ⟨answer, ?_⟩
    split
    · next listed =>
        rw [if_pos listed] at states
        exact states
    · next unlisted =>
        rw [if_neg unlisted] at states
        exact states.retire ((s'.instrument?_record i value labels i).trans found') labels

/-- The answer to a request with its handle renamed. -/
def renameAnswer (ρ : Renaming) (answer : Except Failure Reply) : Except Failure Reply :=
  answer.map (Reply.rename ρ)

/-- A request is foretold to come to the same in the twin, whatever handles are renamed to. -/
theorem foretold_perform (s : State) (operation : Operation) :
    Foretold renameAnswer s (s.perform operation) fun ρ s' => s'.perform (operation.rename ρ) := by
  intro after
  obtain ⟨before, alike⟩ := Twin.perform s operation after
  exact ⟨before, fun ρ s' twin sound =>
    ⟨(alike ρ s' twin).1, (alike ρ s' twin).2, sound.perform _⟩⟩

/-- So it is if a value is recorded by way of a binding made for the purpose. -/
theorem foretold_performMarked (s : State) (mark : Bool) (operation : Operation) :
    Foretold renameAnswer s (s.perform operation) fun ρ s' =>
      s'.performMarked mark (operation.rename ρ) := by
  cases operation with
  | record i value labels =>
      cases mark with
      | false => exact foretold_perform s (.record i value labels)
      | true =>
          intro after
          refine ⟨s.foresee i labels false after, fun ρ s' twin sound => ?_⟩
          have alike := Twin.alike_of_eq (f := fun _ => Reply.done) nofun
            (twin.recordThrough sound value)
          exact ⟨alike.1, alike.2, sound.recordThrough i value labels⟩
  | _ => exact foretold_perform s _

/-! ## Callbacks -/

/-- So it is of an action of a callback. -/
theorem foretold_actMarked (s : State) (observer : InstrumentRef) (mark : Bool) (action : Action) :
    Foretold renameAnswer s (s.act observer action) fun ρ s' =>
      s'.actMarked observer mark (action.rename ρ) := by
  cases action with
  | perform operation => exact foretold_performMarked s mark operation
  | observe value labels => exact foretold_performMarked s mark (.record observer value labels)
  | replace program => exact foretold_perform s (.setCallback observer program)
  | describe =>
      refine fun after => ⟨after, fun ρ s' twin sound => ?_⟩
      change (s'.act observer .describe).1 = renameAnswer ρ (s.act observer .describe).1 ∧
        State.Twin ρ after (s.act observer .describe).2 (s'.act observer .describe).2 ∧
          (s'.act observer .describe).2.Sound
      rw [State.act, State.act]
      rcases twin.instrument_cases observer with ⟨missing, missing'⟩ | ⟨i, i', found, found', alike⟩
      · rw [missing, missing']
        exact ⟨rfl, twin, sound⟩
      · rw [found, found']
        simp only [Instrument.resultText, alike.config]
        exact ⟨rfl, twin, sound⟩
  | spawn m setup program =>
      refine fun after => ⟨after, fun ρ s' twin sound => ?_⟩
      change (s'.act observer (.spawn m setup (Action.renameAll ρ program))).1 =
          renameAnswer ρ (s.act observer (.spawn m setup program)).1 ∧
        State.Twin ρ after (s.act observer (.spawn m setup program)).2
            (s'.act observer (.spawn m setup (Action.renameAll ρ program))).2 ∧
          (s'.act observer (.spawn m setup (Action.renameAll ρ program))).2.Sound
      obtain ⟨answer, built⟩ := twin.atMeter m fun n n' meters =>
        (meters.build setup).map (InstrumentRef.mk m)
      have soundBuilt : (s'.build m setup).2.Sound := sound.perform (.build m setup)
      change (s'.build m setup).1 = (s.build m setup).1 at answer
      change State.Twin ρ after (s.build m setup).2 (s'.build m setup).2 at built
      rw [State.act, State.act]
      cases done : s.build m setup with
      | mk answer₁ s₁ =>
          cases done' : s'.build m setup with
          | mk answer₂ s₂ =>
              rw [done, done'] at answer built
              rw [done'] at soundBuilt
              cases answer
              cases answer₁ with
              | error e => exact ⟨rfl, built, soundBuilt⟩
              | ok i =>
                  have alike := Twin.alike_of_eq (f := fun _ => Reply.instrument i)
                    (fun _ _ same => by cases same)
                    (built.atMeter i.meter fun n n' meters => meters.setCallback i.index program)
                  exact ⟨alike.1, alike.2, soundBuilt.perform (.setCallback i _)⟩

/-- **A callback is run alike** in both, whichever of its records are marked. -/
theorem foretold_runProgramMarked (s : State) (observer : InstrumentRef) (marks : Nat → Bool)
    (program : List Action) :
    Foretold (fun ρ answers => answers.map (renameAnswer ρ)) s (s.runProgram observer program)
      fun ρ s' => s'.runProgramMarked observer marks (Action.renameAll ρ program) := by
  induction program generalizing s marks with
  | nil => exact fun after => ⟨after, fun ρ s' twin sound => ⟨rfl, twin, sound⟩⟩
  | cons action rest ih =>
      exact (foretold_actMarked s observer (marks 0) action).seq (ih _ _) List.cons
        fun _ _ _ => rfl

/-- The callbacks with their handles renamed. -/
def renameCallbacks (ρ : Renaming) (callbacks : List (InstrumentRef × List Action)) :
    List (InstrumentRef × List Action) :=
  callbacks.map fun callback => (callback.1, Action.renameAll ρ callback.2)

/-- So it is of callbacks run one after the other. -/
theorem foretold_runCallbacksMarked (s : State) (marks : Nat → Nat → Bool)
    (callbacks : List (InstrumentRef × List Action)) :
    Foretold (fun ρ calls => calls.map fun call => (call.1, renameAnswer ρ call.2)) s
      (s.runCallbacks callbacks) fun ρ s' =>
        s'.runCallbacksMarked marks (renameCallbacks ρ callbacks) := by
  induction callbacks generalizing s marks with
  | nil => exact fun after => ⟨after, fun ρ s' twin sound => ⟨rfl, twin, sound⟩⟩
  | cons callback rest ih =>
      obtain ⟨observer, program⟩ := callback
      refine (foretold_runProgramMarked s observer (marks 0) program).seq (ih _ _)
        (fun answers later => answers.map (observer, ·) ++ later) fun ρ answers later => ?_
      simp only [List.map_append, List.map_map]
      rfl

private theorem Twin.ordered (twin : s.Twin ρ course s') (m : MeterRef) (order : Nat → List Nat) :
    s'.ordered m order = renameCallbacks ρ (s.ordered m order) := by
  have snapshot : s'.snapshot m = renameCallbacks ρ (s.snapshot m) := by
    rw [State.snapshot, State.snapshot]
    rcases twin.meter_cases m with ⟨missing, missing'⟩ | ⟨n, n', found, found', meters⟩
    · rw [missing, missing']
      rfl
    · rw [found, found']
      simp only [meters.callbacks, renameCallbacks, List.map_map]
      rfl
  rw [State.ordered, snapshot, renameCallbacks, renameCallbacks, State.ordered,
    List.map_filterMap, List.length_map]
  simp only [List.getElem?_map]

/-! ## Runs -/

/-- So it is of a command, whichever records are marked. -/
theorem foretold_executeMarked (s : State) (command : MarkedCommand) :
    Foretold Answer.rename s (s.executeDirect command) fun ρ s' =>
      s'.executeMarked (command.rename ρ) := by
  intro after
  cases command with
  | createSink sink =>
      refine ⟨after, fun ρ s' twin sound => ⟨?_, ⟨congrArg (· ++ [sink]) twin.sinks,
        twin.registries, twin.journal, twin.length, twin.meters, twin.blank⟩, ?_⟩⟩
      · exact congrArg (fun place => Answer.replied (Except.ok (Reply.sink ⟨place⟩)))
          (congrArg List.length twin.sinks)
      · refine ⟨sound.instruments, fun r m found => ?_⟩
        obtain ⟨held, there⟩ := sound.sinks r m found
        exact ⟨held, Place.getElem?_concat_eq_some.mpr (Or.inl there)⟩
  | perform operation mark =>
      obtain ⟨before, told⟩ := foretold_performMarked s mark operation after
      refine ⟨before, fun ρ s' twin sound => ?_⟩
      obtain ⟨answer, states⟩ := told ρ s' twin sound
      exact ⟨congrArg Answer.replied answer, states⟩
  | collect m order marks =>
      cases found : s.meter? m with
      | none =>
          refine ⟨after, fun ρ s' twin sound => ?_⟩
          rcases twin.meter_cases m with ⟨_, missing'⟩ | ⟨n, n', standing, _, _⟩
          · simp only [MarkedCommand.rename, executeDirect, executeMarked, collectInOrder, found,
              missing']
            exact ⟨rfl, twin, sound⟩
          · cases found.symm.trans standing
      | some n =>
          obtain ⟨before, told⟩ := foretold_runCallbacksMarked s marks (s.ordered m order) after
          refine ⟨before, fun ρ s' twin sound => ?_⟩
          rcases twin.meter_cases m with ⟨missing, _⟩ | ⟨_, n', standing, found', meters⟩
          · cases found.symm.trans missing
          · cases found.symm.trans standing
            obtain ⟨calls, states, soundAfter⟩ := told ρ s' twin sound
            have ran : (renameCallbacks ρ (s.ordered m order)).length =
                (s.ordered m order).length := List.length_map ..
            simp only [MarkedCommand.rename, executeDirect, executeMarked, collectInOrder, found,
              found', twin.ordered, ran, meters.name, calls]
            exact ⟨rfl, states.note _, soundAfter.instruments, soundAfter.sinks⟩

/-- **A run with marks** comes to what the run without comes to. -/
theorem foretold_runMarked (s : State) (commands : List MarkedCommand) :
    Foretold (fun ρ answers => answers.map (Answer.rename ρ)) s (s.runDirect commands)
      fun ρ s' => s'.runMarked (commands.map (MarkedCommand.rename ρ)) := by
  induction commands generalizing s with
  | nil => exact fun after => ⟨after, fun ρ s' twin sound => ⟨rfl, twin, sound⟩⟩
  | cons command rest ih =>
      exact (foretold_executeMarked s command).seq (ih _) List.cons fun _ _ _ => rfl

end State

/-- **Told apart by nothing.** Of two runs the second gives the same answers with handles renamed,
its sinks hold the same, a handle is held as often as the one that stands for it, as many bindings
are live, and the states are twins. -/
structure Indistinct (ρ : Renaming) (direct marked : List Answer × State) : Prop where
  answers : marked.1 = direct.1.map (Answer.rename ρ)
  sinks : marked.2.sinks = direct.2.sinks
  refCount : ∀ i h, marked.2.refCount i (ρ.apply h) = direct.2.refCount i h
  size : ∀ i, (marked.2.instrument? i).map (fun instrument => instrument.bindings.size) =
    (direct.2.instrument? i).map fun instrument => instrument.bindings.size
  twin : State.Twin ρ (fun _ => []) direct.2 marked.2

/-- **Recording through a binding refines recording directly**: at every instrument at the end of
every history, and wherever it is done in place of direct records in a run. -/
theorem bound_refines_direct :
    (∀ sinks calls s, History sinks calls s → ∀ i instrument, s.instrument? i = some instrument →
      ∀ value labels, ∃ h s₁ s₂ s₃, s.Detour i value labels h s₁ s₂ s₃) ∧
    ∀ commands : List MarkedCommand, ∃ ρ, Indistinct ρ (State.empty.runDirect commands)
      (State.empty.runMarked (commands.map (MarkedCommand.rename ρ))) := by
  refine ⟨fun sinks calls s history i instrument found value labels =>
    State.exists_detour (State.accounted_of_history history).sound found value labels,
    fun commands => ?_⟩
  obtain ⟨before, told⟩ := State.foretold_runMarked .empty commands fun _ => []
  let ρ : Renaming := ⟨fun i => ⟨BindingTable.placeIn (before i),
    (BindingTable.strictMono_placeIn (before i)).injective⟩⟩
  obtain ⟨answers, twin, _⟩ :=
    told ρ .empty (State.Twin.empty fun _ _ => rfl) State.accounted_empty.sound
  exact ⟨ρ, answers, twin.sinks, twin.refCount, twin.size, twin⟩

/-- A counter of hits with a constant label. -/
def hits : InstrumentSetup :=
  ⟨"hits", .counter, .long, [.constants [("zone", "a")]]⟩

/-- An observer whose callback records hits through handles, one of them made by the callback
itself, and directly. A direct record before gives the handles other identities when it is made
through a binding. -/
def passing : List MarkedCommand :=
  let x : InstrumentRef := ⟨⟨0⟩, 0⟩
  let one := LabelSet.ofList [("k", "1")]
  let two := LabelSet.ofList [("k", "2")]
  [.createSink (.recording []), .perform (.createMeter ⟨"app", none, ⟨0⟩, 1⟩) false,
    .perform (.build ⟨0⟩ hits) false, .perform (.build ⟨0⟩ ⟨"tick", .observer, .long, []⟩) false,
    .perform (.record x (.long 1) one) true, .perform (.bind x one) false,
    .perform (.setCallback ⟨⟨0⟩, 1⟩ [.perform (.recordBound ⟨x, 0⟩ (.long 2)),
      .perform (.record x (.long 3) two), .perform (.bind x two),
      .perform (.recordBound ⟨x, 1⟩ (.long 4)), .perform (.unbind x ⟨x, 1⟩)]) false,
    .collect ⟨0⟩ List.range fun _ _ => true, .perform (.unbind x ⟨x, 0⟩) false]

/-- A value is recorded directly in the one run and by way of a binding in the other; a handle bound
afterwards is the first of its instrument in the one and the second in the other. -/
theorem bound_refines_direct_passing :
    (∃ h s₁ s₂ s₃, (State.empty.runDirect (passing.take 4)).2.Detour ⟨⟨0⟩, 0⟩ (.long 1) .empty
      h s₁ s₂ s₃) ∧
    ∃ ρ, Indistinct ρ (State.empty.runDirect passing)
        (State.empty.runMarked (passing.map (MarkedCommand.rename ρ))) ∧
      ρ.identity ⟨⟨0⟩, 0⟩ 0 = 1 := by
  have history : History [.recording []] _ (State.empty.runDirect (passing.take 4)).2 :=
    (((History.empty.createSink (.recording [])).perform (.createMeter ⟨"app", none, ⟨0⟩, 1⟩)).perform
      (.build ⟨0⟩ hits)).perform (.build ⟨0⟩ ⟨"tick", .observer, .long, []⟩)
  obtain ⟨instrument, found⟩ : ∃ instrument,
      (State.empty.runDirect (passing.take 4)).2.instrument? ⟨⟨0⟩, 0⟩ = some instrument :=
    Option.isSome_iff_exists.mp (by decide +kernel)
  obtain ⟨ρ, indistinct⟩ := bound_refines_direct.2 passing
  refine ⟨bound_refines_direct.1 _ _ _ history _ _ found _ _, ρ, indistinct, ?_⟩
  have direct : (State.empty.runDirect passing).1[5]? =
      some (.replied (.ok (.handle ⟨⟨⟨0⟩, 0⟩, 0⟩))) := rfl
  have marked : (State.empty.runMarked (passing.map (MarkedCommand.rename ρ))).1[5]? =
      some (.replied (.ok (.handle ⟨⟨⟨0⟩, 0⟩, 1⟩))) := rfl
  rw [indistinct.answers, List.getElem?_map, direct] at marked
  exact congrArg Handle.identity
    (Reply.handle.inj (Except.ok.inj (Answer.replied.inj (Option.some.inj marked))))

end Metering
