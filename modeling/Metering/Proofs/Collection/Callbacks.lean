import Metering.Proofs.Run.Moments
import Metering.Proofs.State.Orderly

/-! # The callbacks that observers have

An observer has the callback that was set for it last, and none if none ever was, whoever set it
(`Metering.Stretch.callback?_eq`). Only observers have callbacks, and what an instrument is told as
does not change. So much holds of every stretch of requests, the runs and the collections among
them.
-/

namespace Metering

/-! ## Setting callbacks -/

/-- The callback that a call sets for an observer. -/
def Call.callback? (i : InstrumentRef) (c : Call) : Option (List Action) :=
  match c.request, c.answer with
  | .setCallback observer program, .ok _ => if observer = i then some program else none
  | _, _ => none

/-- A call sets a program for an observer if it asked for that and was answered. -/
theorem Call.callback?_eq_some {i : InstrumentRef} {c : Call} {program : List Action} :
    c.callback? i = some program ↔
      c.request = .setCallback i program ∧ ∃ reply, c.answer = .ok reply := by
  obtain ⟨operation, answer⟩ := c
  constructor
  · intro set
    rw [callback?] at set
    split at set
    · next request accepted =>
        split at set
        · next same =>
            cases same
            cases set
            exact ⟨request, _, accepted⟩
        · cases set
    · cases set
  · rintro ⟨request, reply, accepted⟩
    cases request
    cases accepted
    exact if_pos rfl

/-- A refused call sets nothing. -/
theorem Call.callback?_error (i : InstrumentRef) (operation : Operation) (e : Failure) :
    (⟨operation, .error e⟩ : Call).callback? i = none := by
  cases operation <;> rfl

/-- The callback that was set last for an observer. -/
def lastSet (i : InstrumentRef) (moments : List Moment) : Option (List Action) :=
  (moments.filterMap fun q => q.call.callback? i).getLast?

/-- What the later of two stretches sets last comes before what the earlier one does. -/
theorem lastSet_append (i : InstrumentRef) (earlier later : List Moment) :
    lastSet i (earlier ++ later) = (lastSet i later).or (lastSet i earlier) := by
  rw [lastSet, List.filterMap_append, List.getLast?_append]
  rfl

private theorem lastSet_singleton (i : InstrumentRef) (q : Moment) :
    lastSet i [q] = q.call.callback? i := by
  rw [lastSet, List.filterMap_cons]
  cases q.call.callback? i <;> rfl

/-- The callback of the instrument at a place. -/
def Meter.callback? (m : Meter) (place : Nat) : Option (List Action) :=
  m.instruments[place]?.bind Instrument.callback

/-- The callback of an observer. -/
def State.callback? (s : State) (i : InstrumentRef) : Option (List Action) :=
  (s.instrument? i).bind Instrument.callback

namespace Meter

variable {m : Meter} {operation : Operation} {outcome : Outcome Reply} {i : InstrumentRef}

private theorem callback?_modify (place other : Nat) (f : Instrument → Instrument) :
    (m.modifyInstrument other f).callback? place =
      (m.instruments[place]?.map fun x => if other = place then f x else x).bind
        Instrument.callback := by
  rw [callback?, modifyInstrument, List.getElem?_modify]
  rfl

/-- **What a meter does sets the callback asked for, and no other.** -/
theorem Does.callback?_eq (does : m.Does i.meter operation outcome)
    (home : operation.home? = some i.meter) : outcome.meter.callback? i.index =
      ((⟨operation, outcome.answer⟩ : Call).callback? i).or (m.callback? i.index) := by
  have rebound (place : Nat) (table : BindingTable) :
      (m.modifyInstrument place fun x => { x with bindings := table }).callback? i.index =
        m.callback? i.index := by
    rw [callback?_modify, callback?]
    cases m.instruments[i.index]? with
    | none => rfl
    | some x => by_cases same : place = i.index <;> simp [same]
  cases does with
  | refused e =>
      rw [Call.callback?_error]
      rfl
  | bound table => exact rebound _ table
  | unbound table => exact rebound _ table
  | registered =>
      change ((m.instruments ++ [_])[i.index]?).bind _ = m.callback? i.index
      rw [callback?]
      by_cases new : i.index = m.instruments.length
      · rw [new, List.getElem?_concat_length, List.getElem?_eq_none (Nat.le_refl _)]
        rfl
      · rw [Place.getElem?_concat_of_ne new]
  | @called j program instrument standing =>
      -- The request is one of this meter's, so that the place alone tells the instrument.
      have own : j = i ↔ j.index = i.index := by
        obtain ⟨_, _⟩ := j
        cases home
        exact ⟨congrArg InstrumentRef.index, congrArg (InstrumentRef.mk i.meter)⟩
      rw [callback?_modify]
      change _ = (if j = i then some program else none).or (m.callback? i.index)
      by_cases same : j.index = i.index
      · rw [same] at standing
        rw [if_pos (own.mpr same), standing, Option.map_some, if_pos same]
        rfl
      · simp only [if_neg same, if_neg fun equal => same (own.mp equal)]
        rw [Option.map_id']
        rfl
  | found | recorded | recordedBound | opened | put | committed => rfl

end Meter

namespace Moment

variable (q : Moment) (i : InstrumentRef)

/-- A request made of another meter sets nothing for an observer. -/
theorem callback?_eq_none (other : q.request.home? ≠ some i.meter) : q.call.callback? i = none := by
  refine Option.eq_none_iff_forall_ne_some.mpr fun program set => other ?_
  obtain ⟨request, _⟩ := Call.callback?_eq_some.mp set
  have request : q.request = .setCallback i program := request
  rw [request]
  rfl

/-- **A request sets the callback it asks for, and no other.** -/
theorem callback?_next :
    q.next.callback? i = (q.call.callback? i).or (q.state.callback? i) := by
  have unset (same : q.next.meter? i.meter = q.state.meter? i.meter)
      (nothing : q.call.callback? i = none) :
      q.next.callback? i = (q.call.callback? i).or (q.state.callback? i) := by
    rw [nothing, Option.none_or, State.callback?, State.instrument?, same]
    rfl
  cases q.turn i.meter with
  | home m outcome home standing does answer after =>
      have set := does.callback?_eq home
      have call : q.call = ⟨q.request, outcome.answer⟩ := congrArg (Call.mk q.request) answer
      rw [State.callback?, State.callback?, State.instrument?, State.instrument?, after, standing,
        call]
      exact set
  | away absent after =>
      refine unset after ?_
      by_cases home : q.request.home? = some i.meter
      · have call : q.call = ⟨q.request, .error .absent⟩ :=
          congrArg (Call.mk q.request) (absent home).2
        rw [call]
        exact Call.callback?_error ..
      · exact q.callback?_eq_none i home
  | made setup homeless missing after =>
      have nothing : q.call.callback? i = none :=
        q.callback?_eq_none i fun home => by cases homeless.symm.trans home
      rw [nothing, State.callback?, State.callback?, State.instrument?, State.instrument?, after,
        missing]
      rfl

variable {q i} in
/-- **Only observers have callbacks set.** -/
theorem observer_of_callback? {program : List Action} (set : q.call.callback? i = some program) :
    ∃ x, q.state.instrument? i = some x ∧ x.config.kind = .observer := by
  obtain ⟨request, reply, accepted⟩ := Call.callback?_eq_some.mp set
  have request : q.request = .setCallback i program := request
  cases q.turn i.meter with
  | home m outcome home standing does answer =>
      rw [request] at does
      rw [accepted] at answer
      cases does with
      | refused => cases answer
      | called x placed observer =>
          exact ⟨x, State.instrument?_eq_some.mpr ⟨m, standing, placed⟩, observer⟩
  | away absent =>
      have failed := (absent (by rw [request]; rfl)).2
      cases accepted.symm.trans failed
  | made setup homeless =>
      rw [request] at homeless
      cases homeless

end Moment

/-! ## Snapshots -/

namespace State

variable {s : State} {r : MeterRef} {i : InstrumentRef} {program : List Action}

/-- **A snapshot has the callbacks of the observers of the meter**, as they stand. -/
theorem mem_snapshot :
    (i, program) ∈ s.snapshot r ↔ i.meter = r ∧ s.callback? i = some program := by
  have inside (m : Meter) (place : Nat) :
      (place, program) ∈ m.callbacks ↔ m.callback? place = some program := by
    simp only [Meter.callbacks, List.mem_filterMap, Prod.exists, List.mem_zipIdx_iff_getElem?,
      Option.map_eq_some_iff, Prod.mk.injEq, Meter.callback?, Option.bind_eq_some_iff]
    constructor
    · rintro ⟨x, other, found, _, set, rfl, rfl⟩
      exact ⟨x, found, set⟩
    · rintro ⟨x, found, set⟩
      exact ⟨x, place, found, program, set, rfl, rfl⟩
  have callback (m : Meter) (standing : s.meter? i.meter = some m) :
      s.callback? i = m.callback? i.index := by
    rw [callback?, instrument?, standing]
    rfl
  rw [snapshot]
  constructor
  · intro member
    split at member
    · cases member
    · next m standing =>
        obtain ⟨⟨place, _⟩, called, same⟩ := List.mem_map.mp member
        cases same
        exact ⟨rfl, (callback m standing).trans ((inside m place).mp called)⟩
  · rintro ⟨rfl, set⟩
    cases standing : s.meter? i.meter with
    | none =>
        rw [callback?, instrument?, standing] at set
        cases set
    | some m =>
        rw [callback m standing] at set
        exact List.mem_map.mpr ⟨(i.index, program), (inside m i.index).mpr set, rfl⟩

/-- No observer is twice in a snapshot. -/
theorem nodup_snapshot (s : State) (r : MeterRef) : ((s.snapshot r).map Prod.fst).Nodup := by
  rw [snapshot]
  split
  · exact List.nodup_nil
  · next m _ =>
      have places : (m.instruments.zipIdx.map Prod.snd).Nodup := by
        rw [List.zipIdx_map_snd]
        exact List.nodup_range'
      have distinct : (m.callbacks.map Prod.fst).Nodup := by
        rw [List.Nodup, List.pairwise_map] at places ⊢
        refine places.filterMap _ fun _ _ different _ called _ called' => ?_
        obtain ⟨_, _, rfl⟩ := Option.map_eq_some_iff.mp called
        obtain ⟨_, _, rfl⟩ := Option.map_eq_some_iff.mp called'
        exact different
      have refs := distinct.map (f := InstrumentRef.mk r)
        fun _ _ same => (InstrumentRef.mk.inj same).2
      rw [List.map_map] at refs ⊢
      exact refs

end State

/-! ## Stretches -/

/-- **A stretch of requests** from a state, with the state that it leads to. New sinks and entries
in the journal may come between the requests. -/
inductive Stretch (s : State) : List Moment → State → Prop where
  | here : Stretch s [] s
  | createSink {moments : List Moment} {t : State} (sink : Sink) :
    Stretch s moments t → Stretch s moments (t.createSink sink).2
  | perform {moments : List Moment} {t : State} (operation : Operation) :
    Stretch s moments t → Stretch s (moments ++ [⟨t, operation⟩]) (t.perform operation).2
  | note {moments : List Moment} {t : State} (entry : Entry) :
    Stretch s moments t → Stretch s moments (t.note entry)

/-- Only observers have callbacks. -/
def State.CallsObservers (s : State) : Prop :=
  ∀ i program, s.callback? i = some program →
    ∃ x, s.instrument? i = some x ∧ x.config.kind = .observer

namespace Stretch

variable {s t : State} {moments : List Moment} {i : InstrumentRef}

/-- Every run is a stretch. -/
theorem of_runIn (s : State) (commands : List OrderedCommand) :
    Stretch s (s.moments commands) (s.runIn commands).2 :=
  State.kept_of_commands (P := fun _ => Stretch s)
    (fun _ _ _ sink stretch => stretch.createSink sink)
    (fun _ _ _ operation stretch => stretch.perform operation)
    (fun _ _ _ entry stretch => stretch.note entry) [] [] commands .here

/-- Along a stretch, instruments that stand remain with all that was registered of them. -/
theorem frozen (stretch : Stretch s moments t) : s.Frozen t := by
  induction stretch with
  | here => exact State.frozen_refl
  | createSink _ _ frozen | note _ _ frozen =>
      refine frozen.trans (State.Evolves.frozen ?_)
      exact State.evolves_of_same rfl rfl
  | @perform _ t operation _ frozen => exact frozen.trans (Moment.frozen ⟨t, operation⟩)

/-- **An observer has the callback that was set last**, the one it had if none was set. -/
theorem callback?_eq (stretch : Stretch s moments t) (i : InstrumentRef) :
    t.callback? i = (lastSet i moments).or (s.callback? i) := by
  induction stretch with
  | here => rfl
  | createSink _ _ ih | note _ _ ih => exact ih
  | @perform moments t operation _ ih =>
      have set := Moment.callback?_next ⟨t, operation⟩ i
      rw [lastSet_append, lastSet_singleton, Option.or_assoc, ← ih]
      exact set

/-- Along a stretch, callbacks come to be set for observers alone. -/
theorem callsObservers (stretch : Stretch s moments t) (observers : s.CallsObservers) :
    t.CallsObservers := by
  induction stretch with
  | here => exact observers
  | createSink _ _ ih | note _ _ ih => exact ih
  | @perform moments t operation _ ih =>
      intro i program called
      have last := (Moment.callback?_next ⟨t, operation⟩ i).symm.trans called
      rw [Option.or_eq_some_iff] at last
      obtain ⟨x, found, observer⟩ : ∃ x, t.instrument? i = some x ∧ x.config.kind = .observer := by
        rcases last with set | ⟨_, before⟩
        · exact Moment.observer_of_callback? set
        · exact ih i program before
      obtain ⟨x', found', _, config⟩ := (Moment.frozen ⟨t, operation⟩).instruments i x found
      exact ⟨x', found', config ▸ observer⟩

/-- Meters keep their names and their stripes. -/
theorem standing (stretch : Stretch s moments t) {r : MeterRef} {m : Meter}
    (standing : s.meter? r = some m) :
    ∃ m', t.meter? r = some m' ∧ m'.name = m.name ∧ m'.stripes = m.stripes := by
  induction stretch with
  | here => exact ⟨m, standing, rfl, rfl⟩
  | createSink _ _ ih | note _ _ ih => exact ih
  | @perform _ t operation _ ih =>
      obtain ⟨m', found, name, stripes⟩ := ih
      obtain ⟨m'', found', becomes⟩ := (t.evolves_perform operation).kept r m' found
      exact ⟨m'', found', becomes.fixed.1.trans name, becomes.stripes.trans stripes⟩

/-- The moments of a stretch have stretches before them. -/
theorem exists_before (stretch : Stretch s moments t) {q : Moment} (member : q ∈ moments) :
    ∃ earlier, Stretch s earlier q.state := by
  induction stretch with
  | here => cases member
  | createSink _ _ ih | note _ _ ih => exact ih member
  | perform operation before ih =>
      rcases List.mem_append.mp member with earlier | last
      · exact ih earlier
      · cases List.mem_singleton.mp last
        exact ⟨_, before⟩

/-- A stretch leads orderly states to orderly states. -/
theorem orderly (stretch : Stretch s moments t) (orderly : s.Orderly) : t.Orderly := by
  induction stretch with
  | here => exact orderly
  | createSink _ _ ih | note _ _ ih => exact ih.evolves (State.evolves_of_same rfl rfl)
  | @perform _ t operation _ ih => exact ih.evolves (t.evolves_perform operation)

/-- A stretch leads sound states to sound states. -/
theorem sound (stretch : Stretch s moments t) (sound : s.Sound) : t.Sound := by
  induction stretch with
  | here => exact sound
  | createSink sink _ ih =>
      refine ⟨ih.instruments, fun r m found => ?_⟩
      obtain ⟨held, there⟩ := ih.sinks r m found
      exact ⟨held, Place.getElem?_concat_eq_some.mpr (Or.inl there)⟩
  | note _ _ ih => exact ⟨ih.instruments, ih.sinks⟩
  | perform operation _ ih => exact (State.advance_of_perform ih operation).sound

/-- Two stretches, one after the other, are a stretch. -/
theorem trans {u : State} {later : List Moment} (stretch : Stretch s moments t)
    (onward : Stretch t later u) : Stretch s (moments ++ later) u := by
  induction onward with
  | here =>
      rw [List.append_nil]
      exact stretch
  | createSink sink _ ih => exact ih.createSink sink
  | note entry _ ih => exact ih.note entry
  | perform operation _ ih =>
      rw [← List.append_assoc]
      exact ih.perform operation

end Stretch

end Metering
