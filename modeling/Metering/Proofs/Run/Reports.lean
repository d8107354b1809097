import Metering.Proofs.Run.Transitions

/-! # What sinks report

What a meter gives out to the journal itself is an entry of the library's own
(`Metering.Meter.discreet_answer`). So the other entries that a command adds to the journal are what
sinks report of what its requests tell them, one stretch for each delivery and in order
(`Metering.State.filter_written`).
-/

namespace Metering

/-- Whether an entry is the report of a sink. -/
def Entry.isReport (entry : Entry) : Bool :=
  !entry.isOwn

/-! ## What a meter gives out -/

/-- All that is given out to the journal is the library's own. -/
def Outcome.Discreet {α : Type} (outcome : Outcome α) : Prop :=
  ∀ entry, .noted entry ∈ outcome.output → entry.isOwn = true

namespace Meter

variable {m : Meter}

private theorem discreet_of_silent {α : Type} {outcome : Outcome α} (silent : outcome.output = []) :
    outcome.Discreet := by
  intro entry noted
  rw [silent] at noted
  exact absurd noted List.not_mem_nil

private theorem discreet_of_fail {α : Type} {outcome : Outcome α} {e : Failure}
    (failed : outcome = m.fail e) : outcome.Discreet :=
  discreet_of_silent (congrArg Outcome.output failed)

private theorem discreet_build (setup : InstrumentSetup) : (m.build setup).Discreet := by
  rcases m.build_cases setup with ⟨_, _, failed⟩ | ⟨_, registered⟩
  · exact discreet_of_fail failed
  · rw [registered]
    rcases m.register_cases setup.config with
      ⟨_, _, _, _, _, outcome⟩ | ⟨_, _, _, _, outcome⟩ | ⟨_, outcome⟩
    · rw [outcome]
      intro entry noted
      cases List.mem_singleton.mp noted
      rfl
    · rw [outcome]
      exact discreet_of_silent rfl
    · rw [outcome]
      intro entry noted
      cases List.mem_singleton.mp noted
      rfl

private theorem discreet_unbind (place identity : Nat) : (m.unbind place identity).Discreet := by
  rcases m.unbind_cases place identity with ⟨_, failed, _⟩ | ⟨_, _, _, remaining, _, _, _, outcome⟩
  · exact discreet_of_fail failed
  · rw [outcome]
    intro entry noted
    change Output.noted entry ∈ if remaining = 0 then _ else _ at noted
    split at noted
    · cases List.mem_singleton.mp noted
      rfl
    · cases noted

private theorem discreet_commit (place : Nat) : (m.commit place).Discreet := by
  rcases m.commit_cases place with ⟨_, failed, _⟩ | ⟨_, _, _, outcome⟩
  · exact discreet_of_fail failed
  · rw [outcome]
    intro entry noted
    rcases List.mem_cons.mp noted with point | noted
    · cases point
    · cases List.mem_singleton.mp noted
      rfl

/-- **All that a meter gives out to the journal is the library's own.** -/
theorem discreet_answer (m : Meter) (r : MeterRef) (operation : Operation) :
    (m.answer r operation).Discreet := by
  cases operation with
  | createMeter | createRegistry | getMeter => exact discreet_of_fail rfl
  | build owner setup => exact m.discreet_build setup
  | record i value labels =>
      change (m.record i.index value labels).Discreet
      rcases m.record_cases i.index value labels with ⟨_, failed, _⟩ | ⟨_, _, _, outcome⟩
      · exact discreet_of_fail failed
      · rw [outcome]
        intro entry noted
        cases List.mem_singleton.mp noted
  | recordBound h value =>
      change (m.recordBound h.instrument.index h.identity value).Discreet
      rcases m.recordBound_cases h.instrument.index h.identity value with
        ⟨_, failed, _⟩ | ⟨_, _, _, _, _, _, outcome⟩
      · exact discreet_of_fail failed
      · rw [outcome]
        intro entry noted
        cases List.mem_singleton.mp noted
  | bind i labels =>
      change (m.bind i.index labels).Discreet
      rcases m.bind_cases i.index labels with failed | ⟨_, _, outcome⟩
      · exact discreet_of_fail failed
      · rw [outcome]
        exact discreet_of_silent rfl
  | unbind i h =>
      rw [answer]
      split
      · split
        · exact m.discreet_unbind i.index h.identity
        · exact discreet_of_fail rfl
      · exact discreet_of_fail rfl
  | openBatch owner labels => exact discreet_of_silent rfl
  | put b i value =>
      rw [answer]
      split
      · exact discreet_of_fail rfl
      · change (m.put b.index (.own i.index) value).Discreet
        rcases m.put_cases b.index (.own i.index) value with
          ⟨_, failed, _⟩ | ⟨_, _, _, _, _, _, _, _, outcome⟩
        · exact discreet_of_fail failed
        · rw [outcome]
          exact discreet_of_silent rfl
  | commit b => exact m.discreet_commit b.index
  | setCallback i program =>
      change (m.setCallback i.index program).Discreet
      rcases m.setCallback_cases i.index program with ⟨_, failed, _⟩ | ⟨_, _, _, outcome⟩
      · exact discreet_of_fail failed
      · rw [outcome]
        exact discreet_of_silent rfl

end Meter

/-! ## Requests and commands -/

namespace State

/-- What the sink of a meter reports of a delivery. -/
def reportsTo (s : State) (r : MeterRef) (delivery : Delivery) : List Entry :=
  (s.meter? r).elim [] fun m => s.reports m.sink delivery

/-- The reports among the entries in the journal. -/
def reported (s : State) : List Entry :=
  s.journal.filter Entry.isReport

end State

/-- What sinks report of what a request tells them. -/
def Moment.reports (q : Moment) : List Entry :=
  q.given.flatMap fun (r, delivery) => q.state.reportsTo r delivery

/-- What sinks report of what the requests of a command tell them. -/
def State.reportedBy (s : State) (command : OrderedCommand) : List Entry :=
  (s.momentsOfCommand command).flatMap Moment.reports

namespace State

variable {s : State}

private theorem filter_entries {outcome : Outcome Reply} (discreet : outcome.Discreet)
    (k : SinkRef) : (outcome.output.flatMap (Output.entries (s.reports k))).filter Entry.isReport =
      (outcome.output.flatMap Output.deliveries).flatMap (s.reports k) := by
  rw [List.filter_flatMap, List.flatMap_assoc]
  refine List.flatMap_congr fun out member => ?_
  cases out with
  | passed number passage =>
      refine List.filter_eq_self.mpr fun entry among => ?_
      obtain ⟨_, _, isReport⟩ := List.mem_flatMap.mp among
      rw [Entry.isReport, isOwn_of_mem_reports isReport]
      rfl
  | noted entry =>
      refine List.filter_eq_nil_iff.mpr fun other among => ?_
      cases List.mem_singleton.mp among
      rw [Entry.isReport, discreet entry member]
      exact Bool.false_ne_true

private theorem reported_append {s' : State} {entries : List Entry}
    (journal : s'.journal = s.journal ++ entries) :
    s'.reported = s.reported ++ entries.filter Entry.isReport := by
  rw [reported, journal, List.filter_append]
  rfl

private theorem reported_createMeter (s : State) (setup : MeterSetup) :
    (s.createMeter setup).2.reported = s.reported := by
  rw [createMeter]
  cases s.sink? setup.sink with
  | none => rfl
  | some sink => exact (reported_append (s := s) rfl).trans (List.append_nil _)

/-- **The reports that a request adds are those of what it tells sinks**, in order. -/
theorem reported_perform (s : State) (operation : Operation) :
    (s.perform operation).2.reported = s.reported ++ (⟨s, operation⟩ : Moment).reports := by
  have silent (given : s.given operation = [])
      (same : (s.perform operation).2.reported = s.reported) :
      (s.perform operation).2.reported = s.reported ++ (⟨s, operation⟩ : Moment).reports := by
    have none : (⟨s, operation⟩ : Moment).reports = [] := by
      rw [Moment.reports, Moment.given, given, List.flatMap_nil]
    rw [none, List.append_nil, same]
  cases home : operation.home? with
  | some r =>
      cases standing : s.meter? r with
      | none =>
          refine silent (given_of_absent home standing) ?_
          rw [perform_of_home home, atMeter, standing]
      | some m =>
          rw [reported_append (journal_perform_of_home home standing),
            filter_entries (m.discreet_answer r operation), Moment.reports, Moment.given,
            given_of_home home standing, List.flatMap_map]
          simp only [reportsTo, standing, Option.elim_some]
  | none =>
      refine silent (given_of_homeless home) ?_
      rcases perform_of_homeless (s := s) home with
        ⟨setup, rfl⟩ | ⟨k, rfl⟩ | ⟨k, name, rfl⟩ | ⟨_, failed⟩
      · exact s.reported_createMeter setup
      · change (s.createRegistry k).2.reported = s.reported
        rw [createRegistry]
        cases s.sink? k <;> rfl
      · change (s.getMeter k name).2.reported = s.reported
        rcases s.getMeter_cases k name with
          ⟨_, done, _⟩ | ⟨_, _, _, _, done⟩ | ⟨registry, _, _, _, _, done⟩
        · rw [done]
        · rw [done]
        · rw [done]
          exact (reported_append (s := s) rfl).trans (List.append_nil _)
      · rw [failed]

/-- **The reports that a command adds are those of what its requests tell sinks**, in order. -/
theorem reported_executeIn (s : State) (command : OrderedCommand) :
    (s.executeIn command).2.reported = s.reported ++ s.reportedBy command := by
  have kept (moments : List Moment) (s' : State) (operation : Operation)
      (told : s'.reported = s.reported ++ moments.flatMap Moment.reports) :
      (s'.perform operation).2.reported =
        s.reported ++ (moments ++ [(⟨s', operation⟩ : Moment)]).flatMap Moment.reports := by
    rw [reported_perform, told, List.flatMap_append, List.flatMap_singleton, List.append_assoc]
  have start : s.reported = s.reported ++ ([] : List Moment).flatMap Moment.reports :=
    (List.append_nil _).symm
  cases command with
  | createSink sink => exact start
  | perform operation => exact kept [] s operation start
  | collect r order =>
      rw [executeIn, collectInOrder, reportedBy, momentsOfCommand]
      have ran := kept_of_callbacks
        (P := fun moments s' => s'.reported = s.reported ++ moments.flatMap Moment.reports)
        kept (s.ordered r order) start
      cases standing : s.meter? r with
      | none =>
          rw [ordered_of_missing standing]
          exact start
      | some m => exact (reported_append rfl).trans ((List.append_nil _).trans ran)

/-- **The reports among what a command writes** are those of what its requests tell sinks, one
stretch for each delivery and in order. -/
theorem filter_written (s : State) (command : OrderedCommand) :
    (s.written command).filter Entry.isReport = s.reportedBy command :=
  List.append_cancel_left
    ((reported_append (s.journal_executeIn command)).symm.trans (s.reported_executeIn command))

end State

end Metering
