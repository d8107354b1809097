import Metering.Proofs.Collection.Callbacks
import Metering.Proofs.Meter.Transitions
import Metering.Proofs.Run.Journal

/-! # What requests enter in the journal

A request makes a meter, or makes a transition of the meter that answers it, or makes no transition;
this is told from the states before and after it, and not from the journal. The journal gains one
entry of the library's own for the transition that is made, and none otherwise
(`Metering.Moment.enters`).
-/

namespace Metering

/-! ## The journal without what sinks write -/

namespace State

/-- The library's own entries in the journal, in order. -/
def own (s : State) : List Entry :=
  s.journal.filter Entry.isOwn

/-- A journaling sink writes no entry of the kinds that meters write of themselves. -/
theorem isOwn_of_mem_reports {s : State} {k : SinkRef} {delivery : Delivery} {entry : Entry}
    (reported : entry ∈ s.reports k delivery) : entry.isOwn = false := by
  rw [reports] at reported
  cases found : s.sink? k with
  | none =>
      rw [found] at reported
      cases reported
  | some sink =>
      rw [found] at reported
      cases sink with
      | journaling level =>
          cases List.mem_singleton.mp reported
          cases delivery <;> rfl
      | recording | plain | silent => cases reported

/-- What is given out to a sink does not show among the library's own entries. -/
theorem own_giveAll (s : State) (k : SinkRef) (output : List Output) :
    (s.giveAll k output).own = s.own ++ (output.filterMap Output.noted?).filter Entry.isOwn := by
  rw [own, journal_giveAll, List.filter_append, own]
  congr 1
  induction output with
  | nil => rfl
  | cons out output ih =>
      rw [List.flatMap_cons, List.filter_append, ih]
      cases out with
      | noted entry =>
          rw [List.filterMap_cons_some (by rfl), List.filter_cons]
          cases isOwn : entry.isOwn <;> simp [Output.entries, isOwn]
      | passed number passage =>
          rw [List.filterMap_cons_none (by rfl)]
          have unowned : ((Output.passed number passage).entries (s.reports k)).filter
              Entry.isOwn = [] := by
            refine List.filter_eq_nil_iff.mpr fun entry member => ?_
            obtain ⟨_, _, reported⟩ := List.mem_flatMap.mp member
            rw [isOwn_of_mem_reports reported]
            exact Bool.false_ne_true
          rw [unowned, List.nil_append]

end State

/-! ## Transitions of the state -/

/-- The entry for a transition, by the objects in a state. -/
def State.entryOf? (s : State) (transition : Transition) : Option Entry :=
  (s.meter? transition.meter).bind fun m => m.entryOf? transition

/-- A request makes a transition, by the states before and after it. -/
def Moment.Makes (q : Moment) : Transition → Prop
  | .created r => q.state.meter? r = none ∧ ∃ m, q.next.meter? r = some m
  | .registered i => q.state.instrument? i = none ∧ ∃ x, q.next.instrument? i = some x
  | .conflicted i requested => ∃ setup x, q.request = .build i.meter setup ∧
    q.call.answer = .error (.refused (.conflictingRegistration setup.name)) ∧
    q.state.instrument? i = some x ∧ x.config.name = setup.name ∧ requested = setup.kind
  | .released h labels => 0 < q.state.refCount h.instrument h ∧
    q.next.refCount h.instrument h = 0 ∧ (q.state.binding? h).map Binding.labels = some labels
  | .recorded b labels number points =>
    (∃ batch, q.state.batch? b = some batch ∧ batch.labels = labels ∧ batch.spent = false) ∧
    (∃ batch, q.next.batch? b = some batch ∧ batch.spent = true) ∧
    q.given = ((.batchBegin number :: points.map (.point (some number)) ++
      [.batchEnd number]) : List Delivery).map (b.meter, ·)
  | .collected .. => False

namespace State

variable {s : State} {r : MeterRef} {m : Meter}

private theorem refCount_of_standing
    {h : Handle} (standing : s.meter? h.instrument.meter = some m) :
    s.refCount h.instrument h = m.refs h.instrument.index h.identity := by
  rw [refCount, if_pos rfl, binding?, instrument?, standing, Option.bind_some, Meter.refs]
  cases m.instruments[h.instrument.index]? <;> rfl

private theorem labels_of_standing {h : Handle} (standing : s.meter? h.instrument.meter = some m) :
    (s.binding? h).map Binding.labels = m.boundLabels h.instrument.index h.identity := by
  rw [binding?, instrument?, standing]
  rfl

private theorem batch?_of_standing {b : BatchRef} (standing : s.meter? b.meter = some m) :
    s.batch? b = m.batches[b.index]? := by
  rw [batch?, standing]
  rfl

/-- An instrument is one of its meter. -/
theorem instrument?_of_standing {i : InstrumentRef} (standing : s.meter? i.meter = some m) :
    s.instrument? i = m.instruments[i.index]? := by
  rw [instrument?, standing]
  rfl

end State

namespace Moment

variable {q : Moment} {r : MeterRef} {m : Meter}

/-- What is made of a meter that stays as it is can only be a conflict. -/
theorem makes_of_same {transition : Transition} (makes : q.Makes transition)
    (same : q.next.meter? transition.meter = q.state.meter? transition.meter) :
    ∃ i requested, transition = .conflicted i requested := by
  cases transition with
  | conflicted i requested => exact ⟨i, requested, rfl⟩
  | collected => cases makes
  | created r =>
      obtain ⟨missing, m, found⟩ := makes
      cases missing.symm.trans (same.symm.trans found)
  | registered i =>
      obtain ⟨missing, x, found⟩ := makes
      have same : q.next.meter? i.meter = q.state.meter? i.meter := same
      rw [State.instrument?, same] at found
      cases missing.symm.trans found
  | released h labels =>
      obtain ⟨held, unheld, _⟩ := makes
      have same : q.next.meter? h.instrument.meter = q.state.meter? h.instrument.meter := same
      rw [State.refCount, State.binding?, State.instrument?, same] at unheld
      exact absurd unheld (Nat.ne_of_gt held)
  | recorded b labels number points =>
      obtain ⟨⟨batch, held, _, unspent⟩, ⟨batch', held', spent⟩, _⟩ := makes
      have same : q.next.meter? b.meter = q.state.meter? b.meter := same
      rw [State.batch?, same] at held'
      cases held.symm.trans held'
      cases unspent.symm.trans spent

/-- What comes of a request that a meter answers. -/
theorem next_of_home (home : q.request.home? = some r) (standing : q.state.meter? r = some m) :
    q.call.answer = (m.answer r q.request).answer ∧
      q.next = ({ q.state with
        meters := q.state.meters.set r.index (m.answer r q.request).meter } : State).giveAll m.sink
          (m.answer r q.request).output ∧
      ∀ other, q.next.meter? other =
        if other = r then some (m.answer r q.request).meter else q.state.meter? other := by
  have performed : q.state.perform q.request =
      q.state.atMeter r fun m => m.answer r q.request := State.perform_of_home home
  rw [State.atMeter, standing] at performed
  have next : q.next = _ := congrArg Prod.snd performed
  refine ⟨congrArg Prod.fst performed, next, fun other => ?_⟩
  rw [next, State.meter?, State.meters_giveAll]
  exact State.meter?_setMeter standing _ other

/-- A request that a meter answers makes what it makes of the meter. -/
theorem makes_iff_of_home (home : q.request.home? = some r)
    (standing : q.state.meter? r = some m) (transition : Transition) :
    q.Makes transition ↔ m.Makes r q.request (m.answer r q.request) transition := by
  obtain ⟨answer, _, after⟩ := next_of_home home standing
  have given : q.given = ((m.answer r q.request).output.flatMap Output.deliveries).map (r, ·) :=
    State.given_of_home home standing
  by_cases own : transition.meter = r
  · subst own
    have next := (after transition.meter).trans (if_pos rfl)
    cases transition with
    | collected => exact Iff.rfl
    | created r => exact ⟨fun makes => (by cases makes.1.symm.trans standing), nofun⟩
    | registered i =>
        rw [Makes, State.instrument?_of_standing standing, State.instrument?_of_standing next]
        exact (and_iff_right rfl).symm
    | conflicted i requested =>
        rw [Makes, State.instrument?_of_standing standing, answer]
        exact (and_iff_right rfl).symm
    | released h labels =>
        rw [Makes, State.refCount_of_standing standing, State.refCount_of_standing next,
          State.labels_of_standing standing]
        exact (and_iff_right rfl).symm
    | recorded b labels number points =>
        have apart : Function.Injective fun delivery : Delivery => (b.meter, delivery) :=
          fun _ _ same => (Prod.mk.inj same).2
        have told (deliveries : List Delivery) := (List.map_injective_iff.mpr apart).eq_iff
          (a := (m.answer b.meter q.request).output.flatMap Output.deliveries) (b := deliveries)
        rw [Makes, State.batch?_of_standing standing, State.batch?_of_standing next, given]
        simp only [Transition.meter, told]
        exact (and_iff_right rfl).symm
  · refine ⟨fun makes => ?_, fun makes => ?_⟩
    · obtain ⟨i, requested, rfl⟩ := makes_of_same makes ((after _).trans (if_neg own))
      obtain ⟨setup, _, isBuild, _⟩ := makes
      rw [isBuild] at home
      exact absurd (Option.some.inj home) own
    · cases transition with
      | created | collected => cases makes
      | registered | conflicted | released | recorded => exact absurd makes.1 own

/-- A request makes one transition or none, which it asks for, and enters it in the journal. -/
structure Enters (q : Moment) (made : Option Transition) : Prop where
  makes : ∀ transition, made = some transition ↔ q.Makes transition
  asked : ∀ transition, made = some transition → transition.AskedBy q.request q.call.answer
  own : q.next.own.map some = q.state.own.map some ++ made.toList.map q.next.entryOf?

/-- What changes no meter, and refuses no conflicting registration, enters nothing. -/
theorem enters_of_still (meters : q.next.meters = q.state.meters)
    (journal : q.next.journal = q.state.journal)
    (agreed : ∀ r setup, q.request = .build r setup → q.call.answer = .error .absent) :
    q.Enters none := by
  refine ⟨fun transition => ⟨nofun, fun makes => ?_⟩, nofun, ?_⟩
  · obtain ⟨i, requested, rfl⟩ := makes_of_same makes (by rw [State.meter?, meters]; rfl)
    obtain ⟨setup, _, isBuild, answer, _⟩ := makes
    cases (agreed i.meter setup isBuild).symm.trans answer
  · rw [State.own, journal]
    exact (List.append_nil _).symm

/-- Where no meter was, a request that is no registration can only make the meter, which has
nothing yet. -/
theorem eq_created_of_makes {transition : Transition} {setup : MeterSetup}
    (makes : q.Makes transition) (unbuilt : ∀ r setup, q.request ≠ .build r setup)
    (missing : q.state.meter? transition.meter = none)
    (found : q.next.meter? transition.meter = some (Meter.ofSetup setup)) :
    transition = .created transition.meter := by
  cases transition with
  | created r => rfl
  | collected => cases makes
  | conflicted i requested =>
      obtain ⟨_, _, isBuild, _⟩ := makes
      exact absurd isBuild (unbuilt _ _)
  | registered i =>
      obtain ⟨_, x, there⟩ := makes
      rw [State.instrument?_of_standing found] at there
      cases there
  | released h labels =>
      obtain ⟨held, _⟩ := makes
      have missing : q.state.meter? h.instrument.meter = none := missing
      rw [State.refCount, if_pos rfl, State.binding?, State.instrument?, missing] at held
      cases held
  | recorded b labels number points =>
      obtain ⟨⟨batch, held, _⟩, _⟩ := makes
      have missing : q.state.meter? b.meter = none := missing
      rw [State.batch?, missing] at held
      cases held

/-- A new meter is the only thing that is made with it. -/
theorem enters_of_concat {setup : MeterSetup} (homeless : q.request.home? = none)
    (answer : q.call.answer = .ok (.meter ⟨q.state.meters.length⟩))
    (grown : q.next.meters = q.state.meters ++ [Meter.ofSetup setup])
    (journal : q.next.journal =
      q.state.journal ++ [.meterCreated setup.name (Stripe.count setup.stripes)]) :
    q.Enters (some (.created ⟨q.state.meters.length⟩)) := by
  have after := State.meter?_of_concat grown
  have missing : q.state.meter? ⟨q.state.meters.length⟩ = none :=
    List.getElem?_eq_none (Nat.le_refl _)
  have found : q.next.meter? ⟨q.state.meters.length⟩ = some (Meter.ofSetup setup) :=
    (after _).trans (if_pos rfl)
  have unbuilt (r : MeterRef) (setup : InstrumentSetup) : q.request ≠ .build r setup := by
    intro isBuild
    rw [isBuild] at homeless
    cases homeless
  refine ⟨fun transition => ⟨?_, fun makes => ?_⟩, ?_, ?_⟩
  · rintro same
    cases same
    exact ⟨missing, _, found⟩
  · by_cases isNew : transition.meter = ⟨q.state.meters.length⟩
    · rw [← isNew] at missing found ⊢
      exact congrArg some (eq_created_of_makes makes unbuilt missing found).symm
    · obtain ⟨i, requested, rfl⟩ := makes_of_same makes ((after _).trans (if_neg isNew))
      obtain ⟨_, _, isBuild, _⟩ := makes
      exact absurd isBuild (unbuilt _ _)
  · rintro transition same
    cases same
    exact ⟨homeless, answer⟩
  · rw [State.own, journal, List.filter_append, List.map_append]
    congr 1
    change [some _] = [State.entryOf? _ _]
    rw [State.entryOf?]
    change _ = [(q.next.meter? ⟨q.state.meters.length⟩).bind _]
    rw [found]
    rfl

/-- A request that a meter answers. -/
theorem enters_of_home (home : q.request.home? = some r)
    (standing : q.state.meter? r = some m) (orderly : m.Orderly) (sound : m.Sound) :
    ∃ made, q.Enters made := by
  obtain ⟨made, makes, asked, noted⟩ := m.enters_answer orderly sound home
  obtain ⟨answer, next, after⟩ := next_of_home home standing
  refine ⟨made, fun transition => ?_, fun transition isMade => ?_, ?_⟩
  · rw [makes, makes_iff_of_home home standing]
  · rw [answer]
    exact asked transition isMade
  · -- All that is given out to the journal is the library's own.
    have own : ((m.answer r q.request).output.filterMap Output.noted?).filter Entry.isOwn =
        (m.answer r q.request).output.filterMap Output.noted? := by
      refine List.filter_eq_self.mpr fun entry member => ?_
      have entered : some entry ∈ made.toList.map (m.answer r q.request).meter.entryOf? :=
        noted ▸ List.mem_map_of_mem member
      obtain ⟨transition, _, isEntry⟩ := List.mem_map.mp entered
      exact Meter.isOwn_of_entryOf? isEntry
    have entry (transition : Transition) (member : transition ∈ made.toList) :
        (m.answer r q.request).meter.entryOf? transition = q.next.entryOf? transition := by
      have isMeter := ((makes transition).mp (Option.mem_toList.mp member)).meter
      rw [State.entryOf?, after, if_pos isMeter]
      rfl
    rw [← List.map_congr_left entry, ← noted, next, State.own_giveAll, own, List.map_append]
    rfl

/-- A request that no meter answers makes a meter, or nothing of which there is an entry. -/
theorem enters_of_homeless (homeless : q.request.home? = none) : ∃ made, q.Enters made := by
  obtain ⟨s, operation⟩ := q
  have still (meters : (s.perform operation).2.meters = s.meters)
      (journal : (s.perform operation).2.journal = s.journal) :=
    enters_of_still (q := ⟨s, operation⟩) meters journal fun _ _ isBuild => by
      have isBuild : operation = _ := isBuild
      have homeless : operation.home? = none := homeless
      rw [isBuild] at homeless
      cases homeless
  rcases State.perform_of_homeless (s := s) homeless with
    ⟨setup, rfl⟩ | ⟨k, rfl⟩ | ⟨k, name, rfl⟩ | ⟨_, failed⟩
  · cases there : s.sink? setup.sink with
    | none =>
        have same : (s.createMeter setup).2 = s := by rw [State.createMeter, there]
        exact ⟨none, still (congrArg State.meters same) (congrArg State.journal same)⟩
    | some sink =>
        have made : s.createMeter setup = (.ok ⟨s.meters.length⟩,
            { s with meters := s.meters ++ [Meter.ofSetup setup] }.note
              (.meterCreated setup.name (Stripe.count setup.stripes))) := by
          rw [State.createMeter, there]
        exact ⟨_, enters_of_concat homeless (congrArg (fun done => done.1.map Reply.meter) made)
          (congrArg (fun done => done.2.meters) made) (congrArg (fun done => done.2.journal) made)⟩
  · have kept : (s.createRegistry k).2.meters = s.meters ∧
        (s.createRegistry k).2.journal = s.journal := by
      rw [State.createRegistry]
      cases s.sink? k <;> exact ⟨rfl, rfl⟩
    exact ⟨none, still kept.1 kept.2⟩
  · rcases s.getMeter_cases k name with
      ⟨_, done, _⟩ | ⟨_, _, _, _, done⟩ | ⟨registry, _, _, _, _, done⟩
    · exact ⟨none, still (congrArg (fun done => done.2.meters) done)
        (congrArg (fun done => done.2.journal) done)⟩
    · exact ⟨none, still (congrArg (fun done => done.2.meters) done)
        (congrArg (fun done => done.2.journal) done)⟩
    · exact ⟨_, enters_of_concat homeless (congrArg (fun done => done.1.map Reply.meter) done)
        (congrArg (fun done => done.2.meters) done) (congrArg (fun done => done.2.journal) done)⟩
  · have same : (s.perform operation).2 = s := congrArg Prod.snd failed
    exact ⟨none, still (congrArg State.meters same) (congrArg State.journal same)⟩

/-- **A request enters in the journal** the one transition that it makes, if it makes any. -/
theorem enters (q : Moment) (orderly : q.state.Orderly) (sound : q.state.Sound) :
    ∃ made, q.Enters made := by
  cases home : q.request.home? with
  | none => exact enters_of_homeless home
  | some r =>
      cases standing : q.state.meter? r with
      | some m =>
          exact enters_of_home home standing (orderly.meters r m standing) (sound.meter standing)
      | none =>
          have performed : q.state.perform q.request = (.error .absent, q.state) := by
            rw [State.perform_of_home home, State.atMeter, standing]
          exact ⟨none, enters_of_still (congrArg (fun done => done.2.meters) performed)
            (congrArg (fun done => done.2.journal) performed)
            fun _ _ _ => congrArg Prod.fst performed⟩

/-! ### What answers tell -/

/-- **A registration is refused for a conflict** exactly if an instrument of the name is found in
its place. -/
theorem conflicts_iff (q : Moment) :
    (∃ name, q.call.answer = .error (.refused (.conflictingRegistration name))) ↔
      ∃ i requested, q.Makes (.conflicted i requested) := by
  obtain ⟨s, operation⟩ := q
  constructor
  · rintro ⟨name, answer⟩
    have failed : s.perform operation =
        (.error (.refused (.conflictingRegistration name)), (s.perform operation).2) :=
      Prod.ext answer rfl
    have refused := (State.unchanged_of_perform failed).2 _ rfl
    cases refused with
    | conflictingRegistration r setup =>
        cases standing : s.meter? r with
        | none =>
            rw [State.perform_of_home (r := r) rfl, State.atMeter, standing] at failed
            cases failed
        | some m =>
            obtain ⟨named, _⟩ := setup.config_fixed
            have built := (State.perform_build standing setup).1.symm.trans answer
            rcases m.build_cases setup with ⟨_, _, outcome⟩ | ⟨_, registered⟩
            · rw [outcome] at built
              cases built
            · rw [registered] at built
              rcases m.register_cases setup.config with
                ⟨place, x, placed, same, _, _⟩ | ⟨_, _, _, _, outcome⟩ | ⟨_, outcome⟩
              · exact ⟨⟨r, place⟩, setup.kind, setup, x, rfl, answer,
                  (State.instrument?_of_standing (i := ⟨r, place⟩) standing).trans placed,
                  same.trans named, rfl⟩
              · rw [outcome] at built
                cases built
              · rw [outcome] at built
                cases built
  · rintro ⟨_, _, setup, _, _, answer, _⟩
    exact ⟨setup.name, answer⟩

/-- **A binding is released** when the last hold of it is taken away. -/
theorem released_iff (q : Moment) (h : Handle) :
    (∃ labels, q.Makes (.released h labels)) ↔
      0 < q.state.refCount h.instrument h ∧ q.next.refCount h.instrument h = 0 := by
  constructor
  · rintro ⟨_, held, unheld, _⟩
    exact ⟨held, unheld⟩
  · rintro ⟨held, unheld⟩
    cases bound : q.state.binding? h with
    | none =>
        rw [State.refCount, if_pos rfl, bound] at held
        cases held
    | some binding => exact ⟨binding.labels, held, unheld, congrArg (Option.map _) bound⟩

/-- A batch is recorded, and the entry for it is the last thing that is done: by then sinks have
been told all that they are told of it. -/
structure Records (q : Moment) (b : BatchRef) (labels : LabelSet) (number : Nat)
    (points : List Point) : Prop where
  made : q.Makes (.recorded b labels number points)
  last : ∃ told entry, q.next = State.note told entry ∧
    q.next.entryOf? (.recorded b labels number points) = some entry ∧ told.own = q.state.own ∧
    ∀ k, told.sink? k =
      (q.state.sink? k).map fun sink => (q.state.toldTo k q.given).foldl Sink.receive sink

/-- **A batch that is committed is recorded.** -/
theorem records_of_committed {b : BatchRef} {reply : Reply} (commit : q.request = .commit b)
    (answer : q.call.answer = .ok reply) :
    ∃ labels number points, q.Records b labels number points := by
  obtain ⟨s, operation⟩ := q
  have commit : operation = .commit b := commit
  subst commit
  have home : (Operation.commit b).home? = some b.meter := rfl
  cases standing : s.meter? b.meter with
  | none =>
      have absent : (s.perform (.commit b)).1 = .error .absent := by
        rw [State.perform_of_home home, State.atMeter, standing]
      cases absent.symm.trans answer
  | some m =>
      obtain ⟨answered, next, after⟩ := next_of_home (q := ⟨s, .commit b⟩) home standing
      have makes := makes_iff_of_home (q := ⟨s, .commit b⟩) home standing
      dsimp only at answered next after makes
      rcases m.commit_recording (r := b.meter) b with ⟨e, failed⟩ | ⟨batch, held, unspent, outcome⟩
      · rw [failed] at answered
        cases answered.symm.trans answer
      · rw [outcome] at next after makes
        refine ⟨batch.labels, m.nextBatch, m.batchPoints batch,
          (makes _).mpr (m.makes_recorded rfl held unspent), _, _, next, ?_, ?_, fun k => ?_⟩
        · rw [State.entryOf?]
          change (State.meter? _ b.meter).bind _ = _
          rw [after, if_pos rfl]
          rfl
        · exact (State.own_giveAll _ m.sink
            [.passed m.nextBatch (.batch batch.labels (m.batchPoints batch))]).trans
              (List.append_nil _)
        · refine Eq.trans ?_ (State.sink?_perform s (.commit b) k)
          change _ = (Moment.next ⟨s, .commit b⟩).sink? k
          rw [next]
          rfl

end Moment

end Metering
