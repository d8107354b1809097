import Metering.Proofs.Run.Moments

/-! # What a request makes of a recorder

A recorder is opened, gains or changes an entry, or is committed, and no request does anything else
to it (`Metering.Moment.step`). Only when it is committed is the sink told of it, and then of all
its entries between the brackets of one number. What putting and committing come to is decided by
the recorder, the instrument and the value (`Metering.State.perform_put`,
`Metering.State.perform_commit`).
-/

namespace Metering

/-- The recorder that a request is made of. -/
def Operation.recorder? : Operation → Option BatchRef
  | .put b _ _ | .commit b => some b
  | _ => none

/-- What the entries of a batch of a meter measure. -/
def Batch.members (batch : Batch) (r : MeterRef) : List Measurement :=
  batch.entries.map fun (place, value) => ⟨⟨r, place⟩, batch.labels, value⟩

/-- What is told of a recorder that is committed under a number. -/
def State.block (s : State) (b : BatchRef) (batch : Batch) (number : Nat) : List Delivery :=
  s.deliveries (.batch b.meter number (batch.members b.meter))

/-- What a request made of a recorder tells sinks. -/
def Moment.toldBy (b : BatchRef) (q : Moment) : List Delivery :=
  if q.request.recorder? = some b then q.given.map Prod.snd else []

namespace State

variable {s : State} {b : BatchRef} {m : Meter} {batch : Batch}

/-- A recorder is one of its meter's. -/
theorem batch?_eq_some : s.batch? b = some batch ↔
    ∃ m, s.meter? b.meter = some m ∧ m.batches[b.index]? = some batch :=
  Option.bind_eq_some_iff

/-- The points of a batch are those of what its entries measure. -/
theorem filterMap_point?_members (standing : s.meter? b.meter = some m) :
    (batch.members b.meter).filterMap s.point? = m.batchPoints batch := by
  rw [Batch.members, List.filterMap_map, Meter.batchPoints]
  refine List.filterMap_congr fun entry _ => ?_
  simp only [Function.comp_apply, point?, instrument?, standing, Option.bind_some]

/-! ## Putting and committing -/

/-- **What putting a value comes to.** -/
theorem perform_put (standing : s.meter? b.meter = some m)
    (held : m.batches[b.index]? = some batch) {i : InstrumentRef} {x : Instrument}
    (there : s.instrument? i = some x) (value : Value) :
    s.perform (.put b i value) =
      if batch.spent then (.error (.refused (.batchSpent batch.labels.text)), s)
      else if i.meter = b.meter then
        match x.accept value with
        | .error e => (.error e, s)
        | .ok () => (.ok .done, { s with
            meters := s.meters.set b.meter.index (m.modifyBatch b.index fun batch =>
              { batch with entries := putEntry i.index value batch.entries }) })
      else (.error (.refused (.foreignInstrument x.config.name m.name)), s) := by
  by_cases same : i.meter = b.meter
  · obtain ⟨m', standing', placed⟩ := instrument?_eq_some.mp there
    rw [same, standing] at standing'
    cases standing'
    rw [put_of_home same, if_pos same]
    cases spent : batch.spent with
    | true =>
        rw [if_pos rfl]
        refine atMeter_fail standing ?_
        simp only [Meter.answer, placed, Meter.put, held, spent, if_true]
        rfl
    | false =>
        rw [if_neg Bool.false_ne_true]
        cases accepted : x.accept value with
        | error e =>
            refine atMeter_fail standing ?_
            simp only [Meter.answer, placed, Meter.put, held, spent, Bool.false_eq_true, if_false,
              accepted]
            rfl
        | ok _ =>
            simp only [atMeter, standing, Meter.answer, placed, Meter.put, held, spent,
              Bool.false_eq_true, if_false, accepted]
            rfl
  · have reached : s.batch? b = some batch := batch?_eq_some.mpr ⟨m, standing, held⟩
    rw [put_of_mixed same, if_neg same]
    simp only [there, standing, reached]
    cases batch.spent <;> rfl

/-- **What committing comes to.** -/
theorem perform_commit (standing : s.meter? b.meter = some m)
    (held : m.batches[b.index]? = some batch) :
    s.perform (.commit b) =
      if batch.spent then (.error (.refused (.batchSpent batch.labels.text)), s)
      else (.ok .done, { s with
          meters := s.meters.set b.meter.index
            { m.modifyBatch b.index (fun batch => { batch with spent := true }) with
              nextBatch := m.nextBatch + 1 } }.giveAll m.sink
          [.passed m.nextBatch (.batch batch.labels (m.batchPoints batch)),
            .noted (.batchRecorded m.name batch.labels m.nextBatch
              (m.batchPoints batch).length)]) := by
  rw [perform_of_home (r := b.meter) rfl]
  cases spent : batch.spent with
  | true =>
      rw [if_pos rfl]
      refine atMeter_fail standing ?_
      simp only [Meter.answer, Meter.commit, held, spent, if_true]
      rfl
  | false =>
      simp only [atMeter, standing, Meter.answer, Meter.commit, held, spent, Bool.false_eq_true,
        if_false]
      rfl

end State

namespace Moment

/-! ## Steps -/

/-- **What a request makes of a recorder.** -/
inductive Step (q : Moment) (b : BatchRef) : Prop where
  | idle (after : q.next.batch? b = q.state.batch? b) (told : q.toldBy b = [])
  | opened (labels : LabelSet) (missing : q.state.batch? b = none)
      (request : q.request = .openBatch b.meter labels) (answer : q.call.answer = .ok (.batch b))
      (after : q.next.batch? b = some ⟨labels, [], false⟩) (told : q.toldBy b = [])
  | put (batch : Batch) (i : InstrumentRef) (value : Value) (held : q.state.batch? b = some batch)
      (unspent : batch.spent = false) (request : q.request = .put b i value)
      (after : q.next.batch? b =
        some { batch with entries := putEntry i.index value batch.entries })
      (told : q.toldBy b = [])
  | committed (batch : Batch) (number : Nat) (held : q.state.batch? b = some batch)
      (unspent : batch.spent = false) (request : q.request = .commit b)
      (after : q.next.batch? b = some { batch with spent := true })
      (told : q.toldBy b = q.state.block b batch number)

variable {q : Moment} {b : BatchRef}

private theorem toldBy_eq_nil (silent : q.request.recorder? = some b → q.given = []) :
    q.toldBy b = [] := by
  rw [toldBy]
  split
  · next same => rw [silent same, List.map_nil]
  · rfl

/-- A request made of a recorder is made of its meter, or is turned away for a foreign
instrument. -/
theorem given_of_recorder? (asked : q.request.recorder? = some b)
    (away : q.request.home? = some b.meter → q.given = []) : q.given = [] := by
  cases home : q.request.home? with
  | none => exact State.given_of_homeless home
  | some r =>
      refine away ?_
      cases request : q.request with
      | put other i value =>
          rw [request] at asked home
          cases asked
          rw [Operation.home?] at home ⊢
          split at home
          · next same => exact if_pos same
          · cases home
      | commit other =>
          rw [request] at asked
          cases asked
          rfl
      | _ =>
          rw [request] at asked
          cases asked

private theorem getElem?_modify_other {m : Meter} {other : BatchRef} (own : other.meter = b.meter)
    (different : other ≠ b) (f : Batch → Batch) :
    (m.modifyBatch other.index f).batches[b.index]? = m.batches[b.index]? := by
  obtain ⟨r, place⟩ := other
  cases own
  have apart : place ≠ b.index := fun same => different (congrArg (BatchRef.mk b.meter) same)
  rw [Meter.modifyBatch, List.getElem?_modify]
  cases m.batches[b.index]? <;> simp [apart]

/-- **A request opens a recorder, puts a value into it, commits it, or leaves it as it is.** -/
theorem step (q : Moment) (b : BatchRef) : q.Step b := by
  obtain ⟨s, operation⟩ := q
  have reach {s : State} {m : Meter} (standing : s.meter? b.meter = some m) :
      s.batch? b = m.batches[b.index]? := by
    rw [State.batch?, standing, Option.bind_some]
  rcases Moment.turn ⟨s, operation⟩ b.meter with
    ⟨m, outcome, home, standing, does, answer, after, given⟩ | ⟨absent, after⟩ |
    ⟨setup, homeless, missing, after⟩
  · have before := reach standing
    have next := reach after
    cases does with
    | refused e warnings =>
        rw [Output.flatMap_deliveries_noted] at given
        exact .idle (next.trans before.symm) (toldBy_eq_nil fun _ => given)
    | found | registered | bound | called =>
        exact .idle (next.trans before.symm) (toldBy_eq_nil fun _ => given)
    | unbound table entries =>
        rw [Output.flatMap_deliveries_noted] at given
        exact .idle (next.trans before.symm) (toldBy_eq_nil fun _ => given)
    | recorded | recordedBound =>
        exact .idle (next.trans before.symm) (if_neg fun asked => by cases asked)
    | @opened labels =>
        have silent : (⟨s, .openBatch b.meter labels⟩ : Moment).toldBy b = [] :=
          toldBy_eq_nil fun _ => given
        -- The recorder that is opened takes the next place, which may be that of `b` or another.
        by_cases isNew : b.index = m.batches.length
        · refine .opened labels (before.trans ?_) rfl (answer.trans ?_) (next.trans ?_) silent
          · exact List.getElem?_eq_none (Nat.le_of_eq isNew.symm)
          · rw [← isNew]
          · rw [isNew]
            exact List.getElem?_concat_length
        · exact .idle (next.trans ((Place.getElem?_concat_of_ne isNew).trans before.symm)) silent
    | @put other i value batch instrument home own held unspent standing takes =>
        have silent : (⟨s, .put other i value⟩ : Moment).toldBy b = [] :=
          toldBy_eq_nil fun _ => given
        by_cases same : other = b
        · subst same
          exact .put batch i value (before.trans held) unspent rfl
            (next.trans (Place.getElem?_modify_eq_some.mpr ⟨batch, held, (if_pos rfl).symm⟩)) silent
        · exact .idle (next.trans ((getElem?_modify_other own same _).trans before.symm)) silent
    | @committed other batch own held unspent =>
        by_cases same : other = b
        · subst same
          refine .committed batch m.nextBatch (before.trans held) unspent rfl
            (next.trans (Place.getElem?_modify_eq_some.mpr ⟨batch, held, (if_pos rfl).symm⟩)) ?_
          refine (if_pos rfl).trans ?_
          rw [given, List.map_map, Function.comp_def, List.map_id', State.block, State.deliveries,
            State.filterMap_point?_members standing]
          exact List.append_nil _
        · exact .idle (next.trans ((getElem?_modify_other own same _).trans before.symm))
            (if_neg fun asked => same (Option.some.inj asked))
  · have same : (⟨s, operation⟩ : Moment).next.batch? b = s.batch? b := by
      rw [State.batch?, after, State.batch?]
    refine .idle same (toldBy_eq_nil ?_)
    exact fun asked => given_of_recorder? asked fun home =>
      State.given_of_absent home (absent home).1
  · have before : s.batch? b = none := by
      rw [State.batch?, missing, Option.bind_none]
    exact .idle ((reach after).trans before.symm)
      (toldBy_eq_nil fun _ => State.given_of_homeless homeless)

end Moment

end Metering
