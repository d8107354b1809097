import Mathlib.Data.List.ReduceOption
import Metering.Proofs.Collection.Passes
import Metering.Proofs.Run.Transitions

/-! # The journal of a run

The library's own entries in the journal are those for the transitions that a run makes, one for
each and in order (`Metering.journaled_of_chronicle`). Each request makes one transition or none,
and each pass over the observers of a meter makes one when its callbacks have come to their end;
these may make requests and passes of their own.
-/

namespace Metering

/-! ## Chronicles -/

/-- A step of a run: a request, or the end of a pass over the observers of a meter, with the states
in which the pass began and in which its callbacks have come to their end. -/
inductive Step where
  | request (q : Moment)
  | pass (began : State) (r : MeterRef) (ended : State)

/-- A step makes a transition. A pass collects the observers that had callbacks when it began. -/
def Step.Makes : Step → Transition → Prop
  | .request q, transition => q.Makes transition
  | .pass began r _, transition => transition = .collected r (began.snapshot r).length

/-- **A run of the library** from one state to another: new sinks, requests, and passes over
observers, in the course of which anything of the kind may happen. -/
inductive Chronicle : State → List Step → State → Prop where
  | here (s : State) : Chronicle s [] s
  | createSink {s t : State} {steps : List Step} (sink : Sink) :
    Chronicle s steps t → Chronicle s steps (t.createSink sink).2
  | perform {s t : State} {steps : List Step} (operation : Operation) :
    Chronicle s steps t → Chronicle s (steps ++ [.request ⟨t, operation⟩]) (t.perform operation).2
  | collect {s t u : State} {before during : List Step} {r : MeterRef} {m : Meter}
      (standing : t.meter? r = some m) : Chronicle s before t → Chronicle t during u →
    Chronicle s (before ++ (during ++ [.pass t r u]))
      (u.note (.observersCollected m.name (t.snapshot r).length))

namespace Chronicle

variable {s t u : State} {steps : List Step}

/-- Two chronicles, one after the other, are a chronicle. -/
theorem trans {later : List Step} (chronicle : Chronicle s steps t)
    (onward : Chronicle t later u) : Chronicle s (steps ++ later) u := by
  induction onward with
  | here =>
      rw [List.append_nil]
      exact chronicle
  | createSink sink _ ih => exact (ih chronicle).createSink sink
  | perform operation _ ih =>
      rw [← List.append_assoc]
      exact (ih chronicle).perform operation
  | collect standing _ during ih =>
      rw [← List.append_assoc]
      exact (ih chronicle).collect standing during

/-- The requests of a chronicle make a stretch. -/
theorem stretch (chronicle : Chronicle s steps t) : ∃ moments, Stretch s moments t := by
  induction chronicle with
  | here => exact ⟨_, .here⟩
  | createSink sink _ ih =>
      obtain ⟨moments, stretch⟩ := ih
      exact ⟨moments, stretch.createSink sink⟩
  | perform operation _ ih =>
      obtain ⟨moments, stretch⟩ := ih
      exact ⟨_, stretch.perform operation⟩
  | collect _ _ _ ih ih' =>
      obtain ⟨moments, stretch⟩ := ih
      obtain ⟨moments', stretch'⟩ := ih'
      exact ⟨_, (stretch.trans stretch').note _⟩

/-- Each request is made after a stretch of requests. -/
theorem exists_before (chronicle : Chronicle s steps t) {q : Moment}
    (member : Step.request q ∈ steps) : ∃ moments, Stretch s moments q.state := by
  induction chronicle with
  | here => cases member
  | createSink _ _ ih => exact ih member
  | perform operation before ih =>
      rcases List.mem_append.mp member with earlier | last
      · exact ih earlier
      · cases List.mem_singleton.mp last
        exact before.stretch
  | collect _ before _ ih ih' =>
      rcases List.mem_append.mp member with earlier | within
      · exact ih earlier
      · rcases List.mem_append.mp within with during | last
        · obtain ⟨moments, stretch⟩ := before.stretch
          obtain ⟨moments', stretch'⟩ := ih' during
          exact ⟨_, stretch.trans stretch'⟩
        · cases List.mem_singleton.mp last

/-- Each pass comes after all that has happened in its course. -/
theorem exists_during (chronicle : Chronicle s steps t) {began ended : State} {r : MeterRef}
    (member : Step.pass began r ended ∈ steps) :
    ∃ before during m, (before ++ (during ++ [.pass began r ended])) <+: steps ∧
      Chronicle s before began ∧ Chronicle began during ended ∧ began.meter? r = some m := by
  induction chronicle with
  | here => cases member
  | createSink _ _ ih => exact ih member
  | perform operation _ ih =>
      rcases List.mem_append.mp member with earlier | last
      · obtain ⟨before, during, m, leads, passed⟩ := ih earlier
        exact ⟨before, during, m, leads.trans (List.prefix_append _ _), passed⟩
      · cases List.mem_singleton.mp last
  | @collect s t u before during r m standing chronicle within ih ih' =>
      rcases List.mem_append.mp member with earlier | inside
      · obtain ⟨before', during', m', leads, passed⟩ := ih earlier
        exact ⟨before', during', m', leads.trans (List.prefix_append _ _), passed⟩
      · rcases List.mem_append.mp inside with inner | last
        · obtain ⟨before', during', m', leads, reaches, passed⟩ := ih' inner
          refine ⟨before ++ before', during', m', ?_, chronicle.trans reaches, passed⟩
          rw [List.append_assoc]
          exact (List.prefix_append_right_inj _).mpr (leads.trans (List.prefix_append _ _))
        · cases List.mem_singleton.mp last
          exact ⟨before, during, m, List.prefix_rfl, chronicle, within, standing⟩

end Chronicle

/-! ### Runs and collections are chronicles -/

namespace State

/-- The steps of collecting the observers of a meter by carrying out callbacks. -/
def stepsOfPass (s : State) (manner : Manner) (r : MeterRef)
    (callbacks : List (InstrumentRef × List Action)) : List Step :=
  ((s.followAll manner callbacks).1.flatten.flatMap Act.moments).map .request ++
    [.pass s r (s.followAll manner callbacks).2]

/-- The steps of a command. -/
def stepsOf (s : State) : Command → List Step
  | .createSink _ => []
  | .perform operation => [.request ⟨s, operation⟩]
  | .collect r =>
    match s.meter? r with
    | none => []
    | some _ => s.stepsOfPass .literal r (s.snapshot r)

/-- The steps of a run. -/
def steps (s : State) : List Command → List Step
  | [] => []
  | command :: rest => s.stepsOf command ++ (s.execute command).2.steps rest

end State

namespace Chronicle

variable {s t : State} {steps : List Step}

/-- **Collecting observers is a chronicle**, in whatever manner and order the callbacks are carried
out. -/
theorem collectBy (chronicle : Chronicle s steps t) {r : MeterRef} {m : Meter}
    (standing : t.meter? r = some m) (manner : Manner)
    {callbacks : List (InstrumentRef × List Action)} (complete : callbacks.Perm (t.snapshot r)) :
    Chronicle s (steps ++ t.stepsOfPass manner r callbacks) (t.collectBy manner r callbacks).2 := by
  have during := (t.follows_followAll manner callbacks).2.kept
    (P := fun moments => Chronicle t (moments.map .request))
    (fun moments s operation chronicle => by
      rw [List.map_append]
      exact chronicle.perform operation)
    (show Chronicle t (List.map .request []) t from .here t)
  rw [State.collectBy_of_standing standing, complete.length_eq]
  exact chronicle.collect standing during

/-- A chronicle goes on with the steps of a command. -/
theorem execute (chronicle : Chronicle s steps t) (command : Command) :
    Chronicle s (steps ++ t.stepsOf command) (t.execute command).2 := by
  cases command with
  | createSink sink =>
      rw [State.stepsOf, List.append_nil]
      exact chronicle.createSink sink
  | perform operation => exact chronicle.perform operation
  | collect r =>
      change Chronicle s _ (t.collectInOrder r (t.snapshot r)).2
      rw [State.stepsOf, ← State.collectBy_literal]
      cases standing : t.meter? r with
      | none =>
          rw [State.collectBy, standing, List.append_nil]
          exact chronicle
      | some m => exact chronicle.collectBy standing .literal (.refl _)

/-- **Every run is a chronicle.** -/
theorem of_run (s : State) (commands : List Command) :
    Chronicle s (s.steps commands) (s.run commands).2 := by
  induction commands generalizing s with
  | nil => exact .here s
  | cons command rest ih => exact ((here s).execute command).trans (ih _)

end Chronicle

/-! ## What a chronicle enters -/

/-- Entries stay true: the objects that they name keep what the entries tell of them. -/
theorem Stretch.entryOf? {s t : State} {moments : List Moment} (stretch : Stretch s moments t)
    {transition : Transition} {entry : Entry} (entered : s.entryOf? transition = some entry) :
    t.entryOf? transition = some entry := by
  obtain ⟨m, standing, told⟩ := Option.bind_eq_some_iff.mp entered
  obtain ⟨m', standing', name, stripes⟩ := stretch.standing standing
  have instrument {i : InstrumentRef} (own : i.meter = transition.meter) {x : Instrument}
      (placed : m.instruments[i.index]? = some x) : ∃ x', m'.instruments[i.index]? = some x' ∧
        x'.descriptor = x.descriptor ∧ x'.config = x.config := by
    obtain ⟨x', found, same⟩ := stretch.frozen.instruments i x
      (State.instrument?_eq_some.mpr ⟨m, own ▸ standing, placed⟩)
    rw [State.instrument?_of_standing (own ▸ standing')] at found
    exact ⟨x', found, same⟩
  rw [State.entryOf?, standing', Option.bind_some]
  cases transition with
  | created | recorded | collected =>
      rw [← told, Meter.entryOf?, Meter.entryOf?]
      simp only [name, stripes]
  | registered =>
      obtain ⟨x, placed, rfl⟩ := Option.map_eq_some_iff.mp told
      obtain ⟨x', placed', descriptor, config⟩ := instrument rfl placed
      rw [Meter.entryOf?, placed', Option.map_some, name, config, descriptor]
  | conflicted | released =>
      obtain ⟨x, placed, rfl⟩ := Option.map_eq_some_iff.mp told
      obtain ⟨x', placed', _, config⟩ := instrument rfl placed
      rw [Meter.entryOf?, placed', Option.map_some, name, config]

/-- The instruments of a meter. -/
def State.instruments (s : State) (r : MeterRef) : List Instrument :=
  (s.meter? r).elim [] Meter.instruments

/-- The place of the meter that is made. -/
def Transition.created? : Transition → Option Nat
  | .created r => some r.index
  | _ => none

/-- The place of the instrument of a meter that is registered. -/
def Transition.registered? (r : MeterRef) : Transition → Option Nat
  | .registered i => if i.meter = r then some i.index else none
  | _ => none

/-- What has been made between two states by the steps between them, and the entries for it. -/
structure Chronicled (s : State) (steps : List Step) (made : List (Option Transition))
    (t : State) : Prop where
  makes : List.Forall₂ (fun step one => ∀ transition, one = some transition ↔ step.Makes transition)
    steps made
  own : t.own.map some = s.own.map some ++ made.reduceOption.map t.entryOf?
  created : List.range s.meters.length ++ made.reduceOption.filterMap Transition.created? =
    List.range t.meters.length
  registered : ∀ r, List.range (s.instruments r).length ++
    made.reduceOption.filterMap (Transition.registered? r) = List.range (t.instruments r).length

section Chronicles

variable {s t u : State} {steps : List Step} {made : List (Option Transition)}

private theorem State.instrument?_eq (s : State) (i : InstrumentRef) :
    s.instrument? i = (s.instruments i.meter)[i.index]? := by
  rw [instrument?, instruments]
  cases s.meter? i.meter <;> rfl

private theorem Transition.created?_eq_some {transition : Transition} {place : Nat} :
    transition.created? = some place ↔ transition = .created ⟨place⟩ := by
  constructor
  · intro isNew
    cases transition with
    | created r =>
        cases isNew
        rfl
    | registered | conflicted | released | recorded | collected => cases isNew
  · rintro rfl
    rfl

private theorem Transition.registered?_eq_some
    {r : MeterRef} {transition : Transition} {place : Nat} :
    transition.registered? r = some place ↔ transition = .registered ⟨r, place⟩ := by
  constructor
  · intro isNew
    cases transition with
    | registered i =>
        rw [registered?] at isNew
        split at isNew
        · next own =>
            cases own
            cases isNew
            rfl
        · cases isNew
    | created | conflicted | released | recorded | collected => cases isNew
  · rintro rfl
    exact if_pos rfl

/-- What is new in a list that only grows, if at most one thing is, comes next in number. -/
theorem range_append_toList {α : Type} {xs ys : List α} {isNew : Option Nat}
    (kept : ∀ (place : Nat) (x : α), xs[place]? = some x → ∃ y, ys[place]? = some y)
    (only : ∀ place, isNew = some place ↔ xs[place]? = none ∧ ∃ y, ys[place]? = some y) :
    List.range xs.length ++ isNew.toList = List.range ys.length := by
  have grows : xs.length ≤ ys.length := by
    refine Nat.le_of_not_lt fun less => ?_
    obtain ⟨y, there⟩ := kept ys.length _ (List.getElem?_eq_getElem less)
    rw [List.getElem?_eq_none (Nat.le_refl _)] at there
    cases there
  have between (place : Nat) :
      isNew = some place ↔ xs.length ≤ place ∧ place < ys.length := by
    rw [only, List.getElem?_eq_none_iff]
    simp [List.getElem?_eq_some_iff]
  cases isNew with
  | none =>
      have none : ¬ xs.length < ys.length := fun less => by
        cases (between xs.length).mpr ⟨Nat.le_refl _, less⟩
      rw [Nat.le_antisymm grows (Nat.le_of_not_lt none)]
      exact List.append_nil _
  | some place =>
      obtain ⟨outside, inside⟩ := (between place).mp rfl
      cases (between xs.length).mpr ⟨Nat.le_refl _, Nat.lt_of_le_of_lt outside inside⟩
      have last : ¬ xs.length + 1 < ys.length := fun less => by
        have other := (between (xs.length + 1)).mpr ⟨Nat.le_succ _, less⟩
        exact absurd (Option.some.inj other) (Nat.ne_of_lt (Nat.lt_succ_self _))
      rw [Nat.le_antisymm (Nat.le_of_not_lt last) inside]
      exact List.range_succ.symm

private theorem reduceOption_filterMap_singleton {α β : Type} (pick : α → Option β)
    (one : Option α) :
    [one].reduceOption.filterMap pick = (one.bind pick).toList := by
  cases one with
  | none => rfl
  | some x => cases picked : pick x <;> simp [List.reduceOption, picked]

private theorem Chronicled.trans {steps' : List Step} {made' : List (Option Transition)}
    (first : Chronicled s steps made t) (second : Chronicled t steps' made' u)
    (kept : ∀ transition entry, t.entryOf? transition = some entry →
      u.entryOf? transition = some entry) : Chronicled s (steps ++ steps') (made ++ made') u := by
  constructor
  · exact List.rel_append first.makes second.makes
  · -- There is an entry for each transition before, and it is the same in the later state.
    have same : made.reduceOption.map t.entryOf? = made.reduceOption.map u.entryOf? := by
      refine List.map_congr_left fun transition member => ?_
      have entered : t.entryOf? transition ∈ t.own.map some := by
        rw [first.own]
        exact List.mem_append_right _ (List.mem_map_of_mem member)
      obtain ⟨entry, _, isEntry⟩ := List.mem_map.mp entered
      rw [← isEntry]
      exact (kept _ _ isEntry.symm).symm
    rw [second.own, first.own, same, List.reduceOption_append, List.map_append, List.append_assoc]
  · rw [List.reduceOption_append, List.filterMap_append, ← List.append_assoc, first.created,
      second.created]
  · intro r
    rw [List.reduceOption_append, List.filterMap_append, ← List.append_assoc, first.registered,
      second.registered]

/-- What changes neither the meters nor the journal makes nothing. -/
theorem chronicled_of_same (meters : t.meters = s.meters) (journal : t.journal = s.journal) :
    Chronicled s [] [] t := by
  refine ⟨.nil, ?_, ?_, fun r => ?_⟩
  · rw [State.own, journal]
    exact (List.append_nil _).symm
  · rw [meters]
    exact List.append_nil _
  · rw [State.instruments, State.instruments, State.meter?, State.meter?, meters]
    exact List.append_nil _

/-- A request makes the transition that its entry tells of, or none. -/
theorem chronicled_request (q : Moment) (orderly : q.state.Orderly) (sound : q.state.Sound) :
    ∃ made, Chronicled q.state [.request q] made q.next := by
  obtain ⟨one, enters⟩ := q.enters orderly sound
  refine ⟨[one], .cons enters.makes .nil, ?_, ?_, fun r => ?_⟩
  · rw [List.reduceOption_singleton]
    exact enters.own
  · rw [reduceOption_filterMap_singleton]
    refine range_append_toList (fun place m standing => ?_) fun place => ?_
    · obtain ⟨m', standing', _⟩ := q.frozen.meters ⟨place⟩ m standing
      exact ⟨m', standing'⟩
    · simp only [Option.bind_eq_some_iff, Transition.created?_eq_some, exists_eq_right]
      exact enters.makes (.created ⟨place⟩)
  · rw [reduceOption_filterMap_singleton]
    refine range_append_toList (fun place x standing => ?_) fun place => ?_
    · obtain ⟨x', standing', _⟩ := q.frozen.instruments ⟨r, place⟩ x
        ((q.state.instrument?_eq _).trans standing)
      exact ⟨x', (q.next.instrument?_eq _).symm.trans standing'⟩
    · simp only [Option.bind_eq_some_iff, Transition.registered?_eq_some, exists_eq_right]
      rw [enters.makes, Moment.Makes, State.instrument?_eq, State.instrument?_eq]

/-- A pass makes one transition, of which the count of callbacks tells. -/
theorem chronicled_pass (began : State) {ended : State} {r : MeterRef} {m : Meter}
    (standing : ended.meter? r = some m) :
    Chronicled ended [.pass began r ended] [some (.collected r (began.snapshot r).length)]
      (ended.note (.observersCollected m.name (began.snapshot r).length)) := by
  refine ⟨.cons (fun transition => ?_) .nil, ?_, List.append_nil _, fun r => List.append_nil _⟩
  · exact Option.some_inj.trans eq_comm
  · have entry : (ended.note (.observersCollected m.name (began.snapshot r).length)).entryOf?
        (.collected r (began.snapshot r).length) =
          some (.observersCollected m.name (began.snapshot r).length) := by
      change (ended.meter? r).bind _ = _
      rw [standing]
      rfl
    rw [List.reduceOption_singleton, State.own, State.note, List.filter_append, List.map_append]
    exact congrArg (_ ++ [·]) entry.symm

/-- **What a chronicle makes it enters in the journal**, and nothing else. -/
theorem Chronicle.chronicled (chronicle : Chronicle s steps t) (orderly : s.Orderly)
    (sound : s.Sound) : ∃ made, Chronicled s steps made t := by
  -- The state in which a pass began is orderly and sound too, so that what happens in its course is
  -- covered by the induction as well.
  induction chronicle with
  | here => exact ⟨[], chronicled_of_same rfl rfl⟩
  | createSink sink _ ih =>
      obtain ⟨made, chronicled⟩ := ih orderly sound
      refine ⟨made, ?_⟩
      have grown := chronicled.trans (chronicled_of_same (t := (State.createSink _ sink).2) rfl rfl)
        fun _ _ entered => entered
      rw [List.append_nil, List.append_nil] at grown
      exact grown
  | @perform s t _ operation before ih =>
      obtain ⟨made, chronicled⟩ := ih orderly sound
      obtain ⟨_, stretch⟩ := before.stretch
      obtain ⟨made', onward⟩ := chronicled_request ⟨t, operation⟩ (stretch.orderly orderly)
        (stretch.sound sound)
      exact ⟨_, chronicled.trans onward fun _ _ => (Stretch.here.perform operation).entryOf?⟩
  | @collect s t u _ _ r m standing before during ih ih' =>
      obtain ⟨made, chronicled⟩ := ih orderly sound
      obtain ⟨_, stretch⟩ := before.stretch
      obtain ⟨_, within⟩ := during.stretch
      obtain ⟨made', onward⟩ := ih' (stretch.orderly orderly) (stretch.sound sound)
      obtain ⟨m', standing', name, _⟩ := within.standing standing
      have passed := onward.trans (chronicled_pass t standing') fun _ _ entered => entered
      rw [name] at passed
      exact ⟨_, chronicled.trans passed fun _ _ => (within.note _).entryOf?⟩

end Chronicles

/-! ## The journal of a run -/

/-- **The journal of a run**: what each of the steps makes, and the state at the end. -/
structure Journaled (steps : List Step) (made : List (Option Transition)) (s : State) : Prop where
  /-- Beside each step stands the one transition that it makes, if it makes any. -/
  makes : List.Forall₂ (fun step one => ∀ transition, one = some transition ↔ step.Makes transition)
    steps made
  /-- The library's own entries are those for the transitions, one for each and in order, with the
  name and the stripes of the meter, and with the name, the kind and the number of the
  instrument. -/
  own : s.own.map some = made.reduceOption.map s.entryOf?
  /-- One transition has made each meter. -/
  created : made.reduceOption.filterMap Transition.created? = List.range s.meters.length
  /-- One has registered each instrument of a meter. -/
  registered : ∀ r, made.reduceOption.filterMap (Transition.registered? r) =
    List.range (s.instruments r).length
  /-- Instruments are numbered by it. -/
  numbered : ∀ i x, s.instrument? i = some x → x.descriptor.id = i.index
  /-- Transitions are made by requests for them, and no others. -/
  asked : ∀ q, .request q ∈ steps → ∀ transition, q.Makes transition →
    transition.AskedBy q.request q.call.answer
  /-- Every registration that is refused for a conflict makes one. -/
  conflicted : ∀ q, .request q ∈ steps →
    ((∃ name, q.call.answer = .error (.refused (.conflictingRegistration name))) ↔
      ∃ i requested, q.Makes (.conflicted i requested))
  /-- Every taking away of the last hold of a binding makes one. -/
  released : ∀ q, .request q ∈ steps → ∀ h, (∃ labels, q.Makes (.released h labels)) ↔
    0 < q.state.refCount h.instrument h ∧ q.next.refCount h.instrument h = 0
  /-- Every batch that is committed makes one, and the entry for it comes when sinks have been told
  all of the batch. -/
  recorded : ∀ q b reply, .request q ∈ steps → q.request = .commit b → q.call.answer = .ok reply →
    ∃ labels number points, q.Records b labels number points
  /-- A pass comes after all that has happened in its course. -/
  passed : ∀ began r ended, .pass began r ended ∈ steps → ∃ before during m,
    (before ++ (during ++ [.pass began r ended])) <+: steps ∧
      Chronicle .empty before began ∧ Chronicle began during ended ∧ began.meter? r = some m
  /-- Collecting the observers of a meter, in whatever manner and order their callbacks are carried
  out, is a pass, and its answer is the number that the entry for it gives. -/
  collected : ∀ r m, s.meter? r = some m → ∀ manner callbacks, callbacks.Perm (s.snapshot r) →
    Chronicle .empty (steps ++ s.stepsOfPass manner r callbacks)
      (s.collectBy manner r callbacks).2 ∧
    ∃ calls, s.collectBy manner r callbacks = (.ok ⟨(s.snapshot r).length, calls⟩,
      (s.followAll manner callbacks).2.note (.observersCollected m.name (s.snapshot r).length))
  /-- A run goes on whatever commands are carried out. -/
  onward : ∀ commands, Chronicle .empty (steps ++ s.steps commands) (s.run commands).2

/-- **The journal of a run is faithful**: the library's own entries are those for the transitions
of the run, one for each and in order. -/
theorem journaled_of_chronicle {steps : List Step} {s : State}
    (chronicle : Chronicle .empty steps s) : ∃ made, Journaled steps made s := by
  obtain ⟨made, chronicled⟩ :=
    chronicle.chronicled State.orderly_empty State.accounted_empty.sound
  obtain ⟨_, stretch⟩ := chronicle.stretch
  refine ⟨made, ?_⟩
  constructor
  case makes => exact chronicled.makes
  case own => exact chronicled.own
  case created => exact chronicled.created
  case registered => exact chronicled.registered
  case numbered =>
    intro i x there
    obtain ⟨m, standing, placed⟩ := State.instrument?_eq_some.mp there
    have orderly := (stretch.orderly State.orderly_empty).meters i.meter m standing
    rw [orderly.described i.index x placed]
    rfl
  case asked =>
    intro q member transition makes
    obtain ⟨_, before⟩ := chronicle.exists_before member
    obtain ⟨one, enters⟩ := q.enters (before.orderly State.orderly_empty)
      (before.sound State.accounted_empty.sound)
    exact enters.asked transition ((enters.makes transition).mpr makes)
  case conflicted => exact fun q _ => q.conflicts_iff
  case released => exact fun q _ => q.released_iff
  case recorded => exact fun q b reply _ => q.records_of_committed
  case passed => exact fun began r ended member => chronicle.exists_during member
  case collected =>
    intro r m standing manner callbacks complete
    refine ⟨chronicle.collectBy standing manner complete, ?_⟩
    rw [State.collectBy_of_standing standing, complete.length_eq]
    exact ⟨_, rfl⟩
  case onward => exact fun commands => chronicle.trans (.of_run s commands)

/-- A meter is asked for twice, and so are an instrument, which is then wished for as another kind,
and a binding, which is let go of three times. The callback of an observer commits a batch twice,
and builds an observer of another meter, whose observers are collected before and after. -/
def journaling : List Command :=
  [.createSink (.journaling .info), .perform (.createRegistry ⟨0⟩),
    .perform (.getMeter ⟨0⟩ "m"), .perform (.getMeter ⟨0⟩ "m"),
    .perform (.createMeter ⟨"n", none, ⟨0⟩, 3⟩),
    .perform (.build ⟨0⟩ ⟨"x", .counter, .long, []⟩),
    .perform (.build ⟨0⟩ ⟨"x", .counter, .long, []⟩),
    .perform (.build ⟨0⟩ ⟨"x", .gauge, .long, []⟩),
    .perform (.bind ⟨⟨0⟩, 0⟩ .empty), .perform (.bind ⟨⟨0⟩, 0⟩ .empty),
    .perform (.unbind ⟨⟨0⟩, 0⟩ ⟨⟨⟨0⟩, 0⟩, 0⟩), .perform (.unbind ⟨⟨0⟩, 0⟩ ⟨⟨⟨0⟩, 0⟩, 0⟩),
    .perform (.unbind ⟨⟨0⟩, 0⟩ ⟨⟨⟨0⟩, 0⟩, 0⟩),
    .perform (.openBatch ⟨0⟩ .empty), .perform (.put ⟨⟨0⟩, 0⟩ ⟨⟨0⟩, 0⟩ (.long 2)),
    .perform (.build ⟨0⟩ ⟨"y", .observer, .long, []⟩),
    .perform (.setCallback ⟨⟨0⟩, 1⟩ [.observe (.long 1) .empty, .perform (.commit ⟨⟨0⟩, 0⟩),
      .perform (.commit ⟨⟨0⟩, 0⟩), .spawn ⟨1⟩ ⟨"z", .observer, .long, []⟩ []]),
    .collect ⟨1⟩, .collect ⟨0⟩, .collect ⟨1⟩]

/-- Every kind of transition is made once at least, also from within callbacks, and all that writes
no entry lies in between. -/
theorem journaled_journaling :
    (∃ made, Journaled (State.empty.steps journaling) made (State.empty.run journaling).2) ∧
    (State.empty.run journaling).2.own =
      [.meterCreated "m" 16, .meterCreated "n" 4, .instrumentRegistered "m" "x" .counter 0,
        .registrationConflict "m" "x" .counter .gauge, .bindingReleased "m" "x" .empty,
        .instrumentRegistered "m" "y" .observer 1, .observersCollected "n" 0,
        .batchRecorded "m" .empty 0 1, .instrumentRegistered "n" "z" .observer 0,
        .observersCollected "m" 1, .observersCollected "n" 1] :=
  ⟨journaled_of_chronicle (.of_run .empty journaling), by decide +kernel⟩

end Metering
