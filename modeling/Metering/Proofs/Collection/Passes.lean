import Metering.Proofs.Collection.Callbacks
import Metering.State.Conduct

/-! # Collecting works on a snapshot

Collecting the observers of a meter carries out the callbacks that they had when it began, each once
and to its end, whatever the callbacks do and in whatever order they come. What callbacks set has
effect from the next collection on. Observing a value comes to what recording it would have come to
when the collection began (`Metering.collected_of_stretch`).
-/

namespace Metering

/-! ## Recording for an observer -/

namespace Instrument

variable {x x' : Instrument}

private theorem accept_congr (config : x'.config = x.config) (value : Value) :
    x'.accept value = x.accept value := by
  rw [accept, accept, config]

private theorem pointWith_congr (descriptor : x'.descriptor = x.descriptor)
    (config : x'.config = x.config)
    (labels : LabelSet) (value : Value) : x'.pointWith labels value = x.pointWith labels value := by
  rw [pointWith, pointWith, point, point, descriptor, config]

/-- An observer takes every value of its kind of number. -/
theorem accept_of_observer (observer : x.config.kind = .observer) (value : Value) :
    x.accept value = if value.kind = x.config.number then .ok () else .error .mistyped := by
  have signed : x.config.requiresNonNegative = false := by
    rw [Config.requiresNonNegative, observer]
    rfl
  rw [accept, Config.checkValue, signed]
  rfl

end Instrument

namespace State

variable {s s' : State} {i : InstrumentRef} {x : Instrument}

/-- **What recording a value comes to** is decided by the instrument. -/
theorem perform_record (there : s.instrument? i = some x) (value : Value) (labels : LabelSet) :
    (s.perform (.record i value labels)).1 = (x.accept value).map (fun _ => Reply.done) ∧
      s.given (.record i value labels) = match x.accept value with
        | .ok _ => [(i.meter, .point none (x.pointWith labels value))]
        | .error _ => [] := by
  obtain ⟨m, standing, placed⟩ := instrument?_eq_some.mp there
  have home : (Operation.record i value labels).home? = some i.meter := rfl
  rw [perform_of_home home, atMeter, standing, given_of_home home standing]
  cases accepted : x.accept value with
  | error e =>
      have refused : m.record i.index value labels = m.fail e := by
        simp only [Meter.record, placed, accepted]
      simp only [Meter.answer, refused]
      exact ⟨rfl, rfl⟩
  | ok _ =>
      have recorded : m.record i.index value labels =
          ⟨.ok (), m, [.passed 0 (.single labels (x.pointWith labels value))]⟩ := by
        simp only [Meter.record, placed, accepted]
      simp only [Meter.answer, recorded]
      exact ⟨rfl, rfl⟩

/-- Recording comes to the same as long as nothing happens but requests. -/
theorem Frozen.record (frozen : s.Frozen s') (there : s.instrument? i = some x) (value : Value)
    (labels : LabelSet) :
    (s'.perform (.record i value labels)).1 = (s.perform (.record i value labels)).1 ∧
      s'.given (.record i value labels) = s.given (.record i value labels) := by
  obtain ⟨x', there', descriptor, config⟩ := frozen.instruments i x there
  rw [(perform_record there value labels).1, (perform_record there value labels).2,
    (perform_record there' value labels).1, (perform_record there' value labels).2,
    Instrument.accept_congr config, Instrument.pointWith_congr descriptor config]
  exact ⟨rfl, rfl⟩

end State

/-! ## Acts in turn -/

namespace Act

/-- What an action tells sinks. -/
def given (a : Act) : List (MeterRef × Delivery) :=
  a.state.givenByAction a.observer a.action

/-- The requests of an action. -/
def moments (a : Act) : List Moment :=
  a.state.momentsOfAction a.observer a.action

/-- The actions are done in turn, the first in one state, and the last leads to the other. -/
def Chained : State → List Act → State → Prop
  | s, [], t => s = t
  | s, a :: acts, t => a.state = s ∧ Chained a.next acts t

end Act

/-- The actions are those of the conduct from its beginning to its end. -/
def Conduct.Follows : Conduct → List Act → Prop
  | .finished, acts => acts = []
  | .next _ _, [] => False
  | .next action goOn, a :: acts => a.action = action ∧ (goOn a.answer).Follows acts

/-- The actions carry out a callback: they are done for its observer and follow its conduct. -/
structure Manner.Carries (manner : Manner) (callback : InstrumentRef × List Action)
    (acts : List Act) : Prop where
  observer : ∀ a ∈ acts, a.observer = callback.1
  follows : (manner callback.1 callback.2).Follows acts

namespace Act

variable {s t u : State} {acts later : List Act}

/-- Two chains of acts, one after the other, are a chain. -/
theorem Chained.append (chained : Chained s acts t) (chained' : Chained t later u) :
    Chained s (acts ++ later) u := by
  induction acts generalizing s with
  | nil => exact chained.symm ▸ chained'
  | cons a acts ih => exact ⟨chained.1, ih chained.2⟩

/-- What every request keeps is kept by actions done in turn. -/
theorem Chained.kept {P : List Moment → State → Prop}
    (performed : ∀ moments s operation, P moments s →
      P (moments ++ [⟨s, operation⟩]) (s.perform operation).2)
    (chained : Chained s acts t) {moments : List Moment} (holds : P moments s) :
    P (moments ++ acts.flatMap Act.moments) t := by
  induction acts generalizing s moments with
  | nil =>
      cases chained
      rw [List.flatMap_nil, List.append_nil]
      exact holds
  | cons a acts ih =>
      obtain ⟨rfl, rest⟩ := chained
      rw [List.flatMap_cons, ← List.append_assoc]
      exact ih rest (State.kept_of_action performed a.observer a.action holds)

/-- A chain of acts prolongs a stretch by the moments of the acts. -/
theorem Chained.stretch (chained : Chained s acts t) {start : State} {moments : List Moment}
    (stretch : Stretch start moments s) :
    Stretch start (moments ++ acts.flatMap Act.moments) t :=
  chained.kept (P := Stretch start) (fun _ _ operation stretch => stretch.perform operation) stretch

/-- Each action is done after a stretch of requests. -/
theorem Chained.before (chained : Chained s acts t) :
    ∀ a ∈ acts, ∃ moments, Stretch s moments a.state := by
  intro a member
  obtain ⟨earlier, rest, rfl⟩ := List.append_of_mem member
  have split {s : State} (earlier : List Act) (chained : Chained s (earlier ++ a :: rest) t) :
      Chained s earlier a.state := by
    induction earlier generalizing s with
    | nil => exact chained.1.symm
    | cons b earlier ih => exact ⟨chained.1, ih chained.2⟩
  exact ⟨_, (split earlier chained).stretch .here⟩

end Act

namespace State

/-- What a conduct does is done for its observer. -/
theorem observer_follow (s : State) (observer : InstrumentRef) (conduct : Conduct) :
    ∀ a ∈ (s.follow observer conduct).1, a.observer = observer := by
  induction conduct generalizing s with
  | finished => exact fun _ none => (List.not_mem_nil none).elim
  | next action goOn ih =>
      intro a member
      rcases List.mem_cons.mp member with rfl | later
      · rfl
      · exact ih _ _ a later

/-- **A conduct is followed to its end.** -/
theorem follows_follow (s : State) (observer : InstrumentRef) (conduct : Conduct) :
    conduct.Follows (s.follow observer conduct).1 ∧
      Act.Chained s (s.follow observer conduct).1 (s.follow observer conduct).2 := by
  induction conduct generalizing s with
  | finished => exact ⟨rfl, rfl⟩
  | next action goOn ih =>
      obtain ⟨follows, chained⟩ := ih (s.act observer action).1 (s.act observer action).2
      exact ⟨⟨rfl, follows⟩, rfl, chained⟩

/-- **Callbacks are carried out in turn**, each once. -/
theorem follows_followAll (s : State) (manner : Manner)
    (callbacks : List (InstrumentRef × List Action)) :
    List.Forall₂ manner.Carries callbacks (s.followAll manner callbacks).1 ∧
      Act.Chained s (s.followAll manner callbacks).1.flatten (s.followAll manner callbacks).2 := by
  induction callbacks generalizing s with
  | nil => exact ⟨.nil, rfl⟩
  | cons callback rest ih =>
      obtain ⟨observer, program⟩ := callback
      obtain ⟨follows, chained⟩ := s.follows_follow observer (manner observer program)
      obtain ⟨later, chained'⟩ := ih (s.follow observer (manner observer program)).2
      exact ⟨.cons ⟨s.observer_follow observer _, follows⟩ later, chained.append chained'⟩

/-- A collection of a meter that stands answers with the calls that were made, and notes how many
callbacks ran. -/
theorem collectBy_of_standing {s : State} {r : MeterRef} {m : Meter}
    (standing : s.meter? r = some m) (manner : Manner)
    (callbacks : List (InstrumentRef × List Action)) :
    s.collectBy manner r callbacks =
      (.ok ⟨callbacks.length, (s.followAll manner callbacks).1.flatten.map Act.report⟩,
        (s.followAll manner callbacks).2.note
          (.observersCollected m.name callbacks.length)) := by
  rw [collectBy, standing]

end State

/-- A collection is a stretch of requests, in whatever manner its callbacks are carried out. -/
theorem Stretch.collectBy {start s : State} {moments : List Moment}
    (stretch : Stretch start moments s) {r : MeterRef} {m : Meter} (standing : s.meter? r = some m)
    (manner : Manner) (callbacks : List (InstrumentRef × List Action)) :
    Stretch start (moments ++ (s.followAll manner callbacks).1.flatten.flatMap Act.moments)
      (s.collectBy manner r callbacks).2 := by
  rw [State.collectBy_of_standing standing]
  exact ((s.follows_followAll manner callbacks).2.stretch stretch).note _

/-- What is done is done for one of the callbacks. -/
theorem exists_callback {manner : Manner} {callbacks : List (InstrumentRef × List Action)}
    {blocks : List (List Act)} (ran : List.Forall₂ manner.Carries callbacks blocks) :
    ∀ a ∈ blocks.flatten, ∃ program, (a.observer, program) ∈ callbacks := by
  induction ran with
  | nil => exact fun _ none => (List.not_mem_nil none).elim
  | @cons callback acts _ _ carries _ ih =>
      intro a member
      rcases List.mem_append.mp (List.flatten_cons ▸ member) with now | later
      · rw [carries.observer a now]
        exact ⟨callback.2, List.mem_cons_self⟩
      · obtain ⟨program, called⟩ := ih a later
        exact ⟨program, List.mem_cons_of_mem _ called⟩

/-! ## Collections -/

/-- **What is observed is what would be recorded**, in a collection that began in the state. -/
structure Observed (s : State) (a : Act) (value : Value) (labels : LabelSet) : Prop where
  /-- To observe is to record. -/
  recorded : (a.answer, a.next) = a.state.perform (.record a.observer value labels) ∧
    a.given = a.state.given (.record a.observer value labels)
  /-- It comes to what it would have come to when the collection began. -/
  begun : a.answer = (s.perform (.record a.observer value labels)).1 ∧
    a.given = s.given (.record a.observer value labels)
  /-- The sink of the meter is told of one point of the observer, unless the number is of the wrong
  kind, and no other sink is told of anything. -/
  told : ∃ m x, s.meter? a.observer.meter = some m ∧ s.instrument? a.observer = some x ∧
    (if value.kind = x.config.number then
      a.answer = .ok .done ∧
        a.given = [(a.observer.meter, .point none (x.pointWith labels value))]
    else a.answer = .error .mistyped ∧ a.given = []) ∧
    ∀ k, a.next.sink? k = (a.state.sink? k).map fun sink =>
      if k = m.sink then (a.given.map Prod.snd).foldl Sink.receive sink else sink

/-- **A collection of the observers of a meter**, in a state that requests led to: the actions done
for each callback, and the state that they lead to. -/
structure Collected (manner : Manner) (past : List Moment) (s : State) (r : MeterRef) (m : Meter)
    (callbacks : List (InstrumentRef × List Action)) (blocks : List (List Act)) (t : State) :
    Prop where
  /-- Each observer of the meter for which a callback was set has a place, for the last of them. -/
  installed : (callbacks.map Prod.fst).Nodup ∧
    ∀ i program, (i, program) ∈ callbacks ↔ i.meter = r ∧ lastSet i past = some program
  /-- Each of the callbacks is carried out once, for its observer and to its end. -/
  ran : List.Forall₂ manner.Carries callbacks blocks
  /-- The actions are done in turn, and nothing else is. -/
  chained : Act.Chained s blocks.flatten t
  /-- The answer gives the number of the callbacks, and the journal gains one entry. -/
  answered : s.collectBy manner r callbacks =
    (.ok ⟨callbacks.length, blocks.flatten.map Act.report⟩,
      t.note (.observersCollected m.name callbacks.length))
  /-- In the literal manner, this is how the observers of a meter are collected. -/
  literal : manner = .literal → s.collectInOrder r callbacks = s.collectBy manner r callbacks
  /-- So is the command to collect them in this order, which some order of their places gives. -/
  commanded : (∃ order, s.ordered r order = callbacks) ∧
    (manner = .literal → ∀ order, s.ordered r order = callbacks →
      s.executeIn (.collect r order) =
        (.collected (s.collectBy manner r callbacks).1, (s.collectBy manner r callbacks).2))
  /-- In order of registration, they are collected so without an order being given. -/
  registered : manner = .literal → callbacks = s.snapshot r →
    s.collect r = s.collectBy manner r callbacks ∧ s.execute (.collect r) =
      (.collected (s.collectBy manner r callbacks).1, (s.collectBy manner r callbacks).2)
  /-- Observing is recording. -/
  observed : ∀ a ∈ blocks.flatten, ∀ value labels, a.action = .observe value labels →
    Observed s a value labels
  /-- Nothing is done for instruments of other meters, or that have no callback. -/
  idle : ∀ i, i.meter ≠ r ∨ lastSet i past = none → ∀ a ∈ blocks.flatten, a.observer ≠ i
  /-- What is set by then and after is carried out by the next collection, and no other. -/
  next : ∀ later u, Stretch (s.collectBy manner r callbacks).2 later u → ∀ i program,
    (i, program) ∈ u.snapshot r ↔ i.meter = r ∧
      (lastSet i later).or ((lastSet i (blocks.flatten.flatMap Act.moments)).or (lastSet i past)) =
        some program

section Collections

variable {past : List Moment} {s t : State} {a : Act}

/-- At first no callback is set. -/
theorem callsObservers_empty : State.empty.CallsObservers := by
  intro i program called
  cases called

private theorem observed_of_stretch {moments : List Moment} (stretch : Stretch s moments a.state)
    {x : Instrument} (there : s.instrument? a.observer = some x)
    (observer : x.config.kind = .observer) {value : Value} {labels : LabelSet}
    (observes : a.action = .observe value labels) : Observed s a value labels := by
  have answer : a.answer = (a.state.perform (.record a.observer value labels)).1 := by
    rw [Act.answer, observes]
    rfl
  have next : a.next = (a.state.perform (.record a.observer value labels)).2 := by
    rw [Act.next, observes]
    rfl
  have given : a.given = a.state.given (.record a.observer value labels) := by
    rw [Act.given, observes]
    rfl
  obtain ⟨sameAnswer, sameGiven⟩ := stretch.frozen.record there value labels
  constructor
  case recorded => exact ⟨by rw [answer, next], given⟩
  case begun => exact ⟨answer.trans sameAnswer, given.trans sameGiven⟩
  case told =>
    obtain ⟨m, standing, placed⟩ := State.instrument?_eq_some.mp there
    obtain ⟨accepted, point⟩ := State.perform_record there value labels
    refine ⟨m, x, standing, there, ?_, fun k => ?_⟩
    · rw [answer, sameAnswer, accepted, given, sameGiven, point, x.accept_of_observer observer]
      split
      · exact ⟨rfl, rfl⟩
      · exact ⟨rfl, rfl⟩
    · obtain ⟨m', standing', sink⟩ := stretch.frozen.meters a.observer.meter m standing
      have home : (Operation.record a.observer value labels).home? = some a.observer.meter := rfl
      rw [next, given, State.sink?_perform, State.given_of_home home standing',
        State.toldTo_of_meter standing', sink, List.map_map]
      refine congrArg (Option.map · _) (funext fun sink => ?_)
      split
      · exact congrArg (List.foldl _ sink) (List.map_id _).symm
      · rfl

/-- **Collecting works on a snapshot**, for callbacks of any conduct, run in any order, in every
state that requests lead to. -/
theorem collected_of_stretch (stretch : Stretch .empty past s) {r : MeterRef} {m : Meter}
    (standing : s.meter? r = some m) (manner : Manner)
    {callbacks : List (InstrumentRef × List Action)} (complete : callbacks.Perm (s.snapshot r)) :
    Collected manner past s r m callbacks (s.followAll manner callbacks).1
      (s.followAll manner callbacks).2 := by
  have last (i : InstrumentRef) : s.callback? i = lastSet i past :=
    (stretch.callback?_eq i).trans (Option.or_none ..)
  have installed (i : InstrumentRef) (program : List Action) :
      (i, program) ∈ callbacks ↔ i.meter = r ∧ lastSet i past = some program := by
    rw [complete.mem_iff, State.mem_snapshot, last]
  obtain ⟨ran, chained⟩ := s.follows_followAll manner callbacks
  have literal (isLiteral : manner = .literal) :
      s.collectInOrder r callbacks = s.collectBy manner r callbacks := by
    subst isLiteral
    exact (s.collectBy_literal r callbacks).symm
  constructor
  case installed => exact ⟨(complete.map Prod.fst).nodup_iff.mpr (s.nodup_snapshot r), installed⟩
  case ran => exact ran
  case chained => exact chained
  case answered => exact State.collectBy_of_standing standing manner callbacks
  case literal => exact literal
  case commanded =>
    refine ⟨?_, fun isLiteral order isOrder => ?_⟩
    · obtain ⟨places, read⟩ := Place.exists_filterMap_getElem? complete.subset
      exact ⟨fun _ => places, read⟩
    · rw [State.executeIn, isOrder, literal isLiteral]
  case registered =>
    intro isLiteral inOrder
    have collected : s.collect r = s.collectBy manner r callbacks := by
      rw [State.collect, ← inOrder, literal isLiteral]
    exact ⟨collected, by rw [State.execute, collected]⟩
  case observed =>
    intro a member value labels observes
    -- The instrument is an observer, since it had a callback when the collection began.
    obtain ⟨program, called⟩ := exists_callback ran a member
    obtain ⟨_, set⟩ := State.mem_snapshot.mp (complete.mem_iff.mp called)
    obtain ⟨x, there, observer⟩ := stretch.callsObservers callsObservers_empty _ program set
    obtain ⟨_, before⟩ := chained.before a member
    exact observed_of_stretch before there observer observes
  case idle =>
    rintro i away a member rfl
    obtain ⟨program, called⟩ := exists_callback ran a member
    obtain ⟨own, set⟩ := (installed a.observer program).mp called
    rcases away with other | unset
    · exact other own
    · cases unset.symm.trans set
  case next =>
    intro later u after i program
    -- Three stretches follow one another, and what the last of them sets comes first.
    have pass := Stretch.here.collectBy standing manner callbacks
    rw [State.mem_snapshot, after.callback?_eq, pass.callback?_eq, last, List.nil_append]

end Collections

/-- Two of three observers have callbacks: one replaces itself, the other builds a fourth observer
with a callback and sets one for the third. -/
def replacing : List OrderedCommand :=
  [.createSink (.recording []), .perform (.createMeter ⟨"m", none, ⟨0⟩, 1⟩),
    .perform (.build ⟨0⟩ ⟨"x", .observer, .long, []⟩),
    .perform (.build ⟨0⟩ ⟨"y", .observer, .long, [.constants [("k", "v")]]⟩),
    .perform (.build ⟨0⟩ ⟨"z", .observer, .long, []⟩),
    .perform (.setCallback ⟨⟨0⟩, 0⟩ []),
    .perform (.setCallback ⟨⟨0⟩, 0⟩
      [.replace [.observe (.long 2) .empty], .observe (.long 1) .empty]),
    .perform (.setCallback ⟨⟨0⟩, 1⟩
      [.perform (.setCallback ⟨⟨0⟩, 2⟩ [.observe (.long 4) .empty]),
        .spawn ⟨0⟩ ⟨"w", .observer, .long, []⟩ [], .observe (.long (-3)) .empty])]

/-- The state in which the observers are collected then. -/
def beforeReplacing : State :=
  (State.empty.runIn replacing).2

/-- The callbacks then, the last observer first. -/
def replacingOrder : List (InstrumentRef × List Action) :=
  (beforeReplacing.snapshot ⟨0⟩).reverse

/-- A callback replaces the program of the observer called next and sets one for an observer that
had none: what was set at the start runs, each once, and the next collection runs the new ones. -/
theorem collected_replacing :
    (∃ m, Collected .literal (State.empty.moments replacing) beforeReplacing ⟨0⟩ m replacingOrder
      (beforeReplacing.followAll .literal replacingOrder).1
      (beforeReplacing.followAll .literal replacingOrder).2) ∧
    replacingOrder.map Prod.fst = [⟨⟨0⟩, 1⟩, ⟨⟨0⟩, 0⟩] ∧
    (beforeReplacing.collectInOrder ⟨0⟩ replacingOrder).2.sink? ⟨0⟩ = some (.recording
      [.point none ⟨⟨"m", 1, "y", .observer, .long, none⟩, .ofList [("k", "v")], .long (-3)⟩,
        .point none ⟨⟨"m", 0, "x", .observer, .long, none⟩, .empty, .long 1⟩]) ∧
    ((beforeReplacing.collectInOrder ⟨0⟩ replacingOrder).2.snapshot ⟨0⟩).map Prod.fst =
      [⟨⟨0⟩, 0⟩, ⟨⟨0⟩, 1⟩, ⟨⟨0⟩, 2⟩, ⟨⟨0⟩, 3⟩] := by
  obtain ⟨m, standing⟩ : ∃ m, beforeReplacing.meter? ⟨0⟩ = some m :=
    Option.isSome_iff_exists.mp (by decide +kernel)
  refine ⟨⟨m, ?_⟩, by decide +kernel, by decide +kernel, by decide +kernel⟩
  exact collected_of_stretch (Stretch.of_runIn .empty replacing) standing .literal
    (List.reverse_perm _)

end Metering
