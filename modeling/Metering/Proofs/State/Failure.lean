import Metering.Proofs.State.Giving
import Metering.Proofs.Workspace.Labels
import Metering.State.Collection

/-! # Failed operations are atomic

An operation that fails leaves every sink, meter and registry as it was, whatever the state it is
tried in: no instrument is registered, no number drawn, no binding, batch or callback changed, and
nothing is told to a sink (`Metering.State.atomic_of_failed`). Only the journal may gain the warning
about a conflicting registration. The refusals that each operation can meet are listed in
`Metering.Operation.Refuses`.
-/

namespace Metering

/-! ## Configurations keep what they are asked for -/

private theorem Config.apply_fixed (c : Config) (setting : Setting) :
    (c.apply setting).name = c.name ∧ (c.apply setting).kind = c.kind := by
  cases setting with
  | description _ | unit _ | labelKeys _ | constants _ => exact ⟨rfl, rfl⟩
  | absolute flag =>
      rw [apply]
      split <;> exact ⟨rfl, rfl⟩

/-- The settings leave the name and the kind. -/
theorem InstrumentSetup.config_fixed (setup : InstrumentSetup) :
    setup.config.name = setup.name ∧ setup.config.kind = setup.kind := by
  have kept (settings : List Setting) (c : Config) :
      (settings.foldl Config.apply c).name = c.name ∧
        (settings.foldl Config.apply c).kind = c.kind := by
    induction settings generalizing c with
    | nil => exact ⟨rfl, rfl⟩
    | cons setting settings ih =>
        obtain ⟨name, kind⟩ := ih (c.apply setting)
        obtain ⟨sameName, sameKind⟩ := c.apply_fixed setting
        exact ⟨name.trans sameName, kind.trans sameKind⟩
  exact kept setup.settings _

/-! ## The refusals of operations -/

/-- The refusals that an operation can meet. -/
inductive Operation.Refuses : Operation → Error → Prop where
  | invalidName (m : MeterRef) (setup : InstrumentSetup) (fault : NameFault) :
    Refuses (.build m setup) (.invalidName setup.name fault.reason)
  | conflictingRegistration (m : MeterRef) (setup : InstrumentSetup) :
    Refuses (.build m setup) (.conflictingRegistration setup.name)
  | negativeRecord (i : InstrumentRef) (value : Value) (labels : LabelSet) (name : String) :
    Refuses (.record i value labels) (.negativeValue name value.text)
  | negativeBound (h : Handle) (value : Value) (name : String) :
    Refuses (.recordBound h value) (.negativeValue name value.text)
  | bindingReleased (h : Handle) (value : Value) (name labels : String) :
    Refuses (.recordBound h value) (.bindingReleased name labels)
  | foreignHandle (i : InstrumentRef) (h : Handle) (name owner : String) :
    Refuses (.unbind i h) (.foreignInstrument name owner)
  | unknownBinding (i : InstrumentRef) (h : Handle) (name labels : String) :
    Refuses (.unbind i h) (.unknownBinding name labels)
  | spentPut (b : BatchRef) (i : InstrumentRef) (value : Value) (labels : String) :
    Refuses (.put b i value) (.batchSpent labels)
  | foreignPut (b : BatchRef) (i : InstrumentRef) (value : Value) (name owner : String) :
    Refuses (.put b i value) (.foreignInstrument name owner)
  | negativePut (b : BatchRef) (i : InstrumentRef) (value : Value) (name : String) :
    Refuses (.put b i value) (.negativeValue name value.text)
  | spentCommit (b : BatchRef) (labels : String) : Refuses (.commit b) (.batchSpent labels)

/-- The warnings that a failed operation can leave in the journal. -/
inductive Operation.Warns : Operation → Entry → Prop where
  | conflict (m : MeterRef) (setup : InstrumentSetup) (meter : String) (existing : Kind) :
    Warns (.build m setup) (.registrationConflict meter setup.name existing setup.kind)

/-- The request that an action of the callback of an observer makes first. -/
def Action.request? (observer : InstrumentRef) : Action → Option Operation
  | .observe value labels => some (.record observer value labels)
  | .perform operation => some operation
  | .spawn m setup _ => some (.build m setup)
  | .replace program => some (.setCallback observer program)
  | .describe => none

/-! ## Requests to one meter -/

/-- A request that fails leaves the meter as it is and gives out warnings at most. -/
def Outcome.FailsCleanly {α : Type} (m : Meter) (refuses : Error → Prop) (warns : Entry → Prop)
    (o : Outcome α) : Prop :=
  ∀ e, o.answer = .error e → o.meter = m ∧ e.Within refuses ∧
    ∃ warnings : List Entry, o.output = warnings.map .noted ∧ ∀ entry ∈ warnings, warns entry

section Requests

variable {α β : Type} {m : Meter} {refuses : Error → Prop} {warns : Entry → Prop}

/-- A refusal that changes nothing fails cleanly. -/
theorem Meter.fail_failsCleanly {e : Failure} (within : e.Within refuses) :
    (m.fail e : Outcome α).FailsCleanly m refuses warns := by
  intro e' same
  cases same
  exact ⟨rfl, within, [], rfl, List.forall_mem_nil warns⟩

/-- What is answered does not fail. -/
theorem Outcome.failsCleanly_of_ok {o : Outcome α} {a : α} (answered : o.answer = .ok a) :
    o.FailsCleanly m refuses warns := by
  intro e failed
  rw [answered] at failed
  cases failed

private theorem Outcome.FailsCleanly.map {o : Outcome α} (clean : o.FailsCleanly m refuses warns)
    (f : α → β) : (o.map f).FailsCleanly m refuses warns := by
  intro e failed
  apply clean e
  cases answered : o.answer with
  | error e' =>
      rw [Outcome.map, answered] at failed
      cases failed
      rfl
  | ok a =>
      rw [Outcome.map, answered] at failed
      cases failed

private theorem Meter.record_failsCleanly (m : Meter) (i : InstrumentRef) (value : Value)
    (labels : LabelSet) :
    (m.record i.index value labels).FailsCleanly m (Operation.record i value labels).Refuses
      warns := by
  rcases m.record_cases i.index value labels with ⟨e, failed, within⟩ | ⟨_, _, _, done⟩
  · rw [failed]
    apply Meter.fail_failsCleanly
    refine within.mono ?_
    rintro _ ⟨name, rfl⟩
    exact .negativeRecord i value labels name
  · exact Outcome.failsCleanly_of_ok (by rw [done])

private theorem Meter.bind_failsCleanly (m : Meter) (place : Nat) (labels : LabelSet) :
    (m.bind place labels).FailsCleanly m refuses warns := by
  rcases m.bind_cases place labels with failed | ⟨_, _, done⟩
  · rw [failed]
    exact Meter.fail_failsCleanly Failure.within_absent
  · exact Outcome.failsCleanly_of_ok (by rw [done])

private theorem Meter.recordBound_failsCleanly (m : Meter) (h : Handle) (value : Value) :
    (m.recordBound h.instrument.index h.identity value).FailsCleanly m
      (Operation.recordBound h value).Refuses warns := by
  rcases m.recordBound_cases h.instrument.index h.identity value with
    ⟨e, failed, within⟩ | ⟨_, _, _, _, _, _, done⟩
  · rw [failed]
    apply Meter.fail_failsCleanly
    refine within.mono ?_
    rintro _ (⟨name, rfl⟩ | ⟨name, labels, rfl⟩)
    · exact .negativeBound h value name
    · exact .bindingReleased h value name labels
  · exact Outcome.failsCleanly_of_ok (by rw [done])

private theorem Meter.unbind_failsCleanly (m : Meter) (i : InstrumentRef) (h : Handle) :
    (m.unbind i.index h.identity).FailsCleanly m (Operation.unbind i h).Refuses warns := by
  rcases m.unbind_cases i.index h.identity with
    ⟨e, failed, within⟩ | ⟨_, _, _, _, _, _, _, done⟩
  · rw [failed]
    apply Meter.fail_failsCleanly
    refine within.mono ?_
    rintro _ ⟨name, labels, rfl⟩
    exact .unknownBinding i h name labels
  · exact Outcome.failsCleanly_of_ok (by rw [done])

private theorem Meter.setCallback_failsCleanly (m : Meter) (place : Nat) (program : List Action) :
    (m.setCallback place program).FailsCleanly m refuses warns := by
  rcases m.setCallback_cases place program with ⟨e, failed, within⟩ | ⟨_, _, _, done⟩
  · rw [failed]
    exact Meter.fail_failsCleanly (within.mono fun _ never => never.elim)
  · exact Outcome.failsCleanly_of_ok (by rw [done])

private theorem Meter.put_failsCleanly (m : Meter) (b : BatchRef) (i : InstrumentRef)
    (offer : Offer)
    (value : Value) :
    (m.put b.index offer value).FailsCleanly m (Operation.put b i value).Refuses warns := by
  rcases m.put_cases b.index offer value with
    ⟨e, failed, within⟩ | ⟨_, _, _, _, _, _, _, _, done⟩
  · rw [failed]
    apply Meter.fail_failsCleanly
    refine within.mono ?_
    rintro _ (⟨labels, rfl⟩ | ⟨name, rfl⟩ | ⟨name, rfl⟩)
    · exact .spentPut b i value labels
    · exact .foreignPut b i value name m.name
    · exact .negativePut b i value name
  · exact Outcome.failsCleanly_of_ok (by rw [done])

private theorem Meter.commit_failsCleanly (m : Meter) (b : BatchRef) :
    (m.commit b.index).FailsCleanly m (Operation.commit b).Refuses warns := by
  rcases m.commit_cases b.index with ⟨e, failed, within⟩ | ⟨_, _, _, done⟩
  · rw [failed]
    apply Meter.fail_failsCleanly
    refine within.mono ?_
    rintro _ ⟨labels, rfl⟩
    exact .spentCommit b labels
  · exact Outcome.failsCleanly_of_ok (by rw [done])

/-- A conflicting registration takes no number; it is only warned of. -/
theorem Meter.build_failsCleanly (m : Meter) (r : MeterRef) (setup : InstrumentSetup) :
    (m.build setup).FailsCleanly m (Operation.build r setup).Refuses
      (Operation.build r setup).Warns := by
  obtain ⟨name, kind⟩ := setup.config_fixed
  rcases m.build_cases setup with ⟨fault, _, failed⟩ | ⟨_, registered⟩
  · rw [failed, name]
    exact Meter.fail_failsCleanly (Failure.within_refused (.invalidName r setup fault))
  · rw [registered]
    rcases m.register_cases setup.config with
      ⟨_, existing, _, _, _, failed⟩ | ⟨place, _, _, _, found⟩ | ⟨_, added⟩
    · rw [failed, name, kind]
      intro e same
      cases same
      refine ⟨rfl, Failure.within_refused (.conflictingRegistration r setup), [_], rfl, ?_⟩
      intro entry member
      rw [List.mem_singleton.mp member]
      exact .conflict r setup m.name existing.config.kind
    · exact Outcome.failsCleanly_of_ok (by rw [found])
    · exact Outcome.failsCleanly_of_ok (by rw [added]; rfl)

end Requests

/-! ## The state of all objects -/

namespace State

variable {α : Type} {s s' : State} {refuses : Error → Prop} {warns : Entry → Prop} {e : Failure}

/-- All objects are as they were, and the journal has gained warnings at most. -/
structure Unchanged (warns : Entry → Prop) (s s' : State) : Prop where
  sinks : s'.sinks = s.sinks
  meters : s'.meters = s.meters
  registries : s'.registries = s.registries
  journal : ∃ warnings, s'.journal = s.journal ++ warnings ∧ ∀ entry ∈ warnings, warns entry

private theorem unchanged_refl : s.Unchanged warns s :=
  ⟨rfl, rfl, rfl, [], (List.append_nil _).symm, List.forall_mem_nil warns⟩

private theorem giveAll_noted (s : State) (k : SinkRef) (entries : List Entry) :
    s.giveAll k (entries.map .noted) = { s with journal := s.journal ++ entries } := by
  induction entries generalizing s with
  | nil => rw [List.append_nil]; rfl
  | cons entry entries ih =>
      rw [List.map_cons, giveAll, List.foldl_cons, ← giveAll, ih, give, note]
      simp only [List.append_assoc, List.singleton_append]

private theorem unchanged_of_atMeter {r : MeterRef} {request : Meter → Outcome α}
    (clean : ∀ m, (request m).FailsCleanly m refuses warns)
    (failed : s.atMeter r request = (.error e, s')) : s.Unchanged warns s' ∧ e.Within refuses := by
  unfold atMeter at failed
  cases found : s.meter? r with
  | none =>
      rw [found] at failed
      cases failed
      exact ⟨unchanged_refl, Failure.within_absent⟩
  | some m =>
      rw [found] at failed
      obtain ⟨answered, rfl⟩ := Prod.mk.inj failed
      obtain ⟨same, within, warnings, output, warned⟩ := clean m e answered
      rw [output, giveAll_noted, same, setMeter_self found]
      exact ⟨⟨rfl, rfl, rfl, warnings, rfl, warned⟩, within⟩

private theorem reply_eq_error {f : α → Reply} {done : Except Failure α × State}
    (failed : reply f done = (.error e, s')) : done = (.error e, s') := by
  obtain ⟨answer, after⟩ := done
  obtain ⟨answered, rfl⟩ := Prod.mk.inj failed
  cases answer with
  | error e' =>
      cases answered
      rfl
  | ok a => cases answered

/-- No meter is created for a sink that is absent, and nothing changes. -/
theorem createMeter_failed {setup : MeterSetup} (failed : s.createMeter setup = (.error e, s')) :
    s' = s ∧ e = .absent := by
  unfold createMeter at failed
  split at failed
  · cases failed
    exact ⟨rfl, rfl⟩
  · cases failed

/-- **A request that fails changes nothing**, whatever the state. -/
theorem unchanged_of_perform {operation : Operation}
    (failed : s.perform operation = (.error e, s')) :
    s.Unchanged operation.Warns s' ∧ e.Within operation.Refuses := by
  cases operation with
  | createMeter setup =>
      obtain ⟨rfl, rfl⟩ := createMeter_failed (reply_eq_error failed)
      exact ⟨unchanged_refl, Failure.within_absent⟩
  | createRegistry k =>
      have failed := reply_eq_error failed
      unfold createRegistry at failed
      split at failed
      · cases failed
        exact ⟨unchanged_refl, Failure.within_absent⟩
      · cases failed
  | getMeter r name =>
      have failed := reply_eq_error failed
      unfold getMeter at failed
      split at failed
      · cases failed
        exact ⟨unchanged_refl, Failure.within_absent⟩
      · split at failed
        · cases failed
        · split at failed
          · next created =>
              obtain ⟨rfl, rfl⟩ := createMeter_failed created
              cases failed
              exact ⟨unchanged_refl, Failure.within_absent⟩
          · cases failed
  | build r setup =>
      exact unchanged_of_atMeter (fun m => (m.build_failsCleanly r setup).map _)
        (reply_eq_error failed)
  | record i value labels =>
      exact unchanged_of_atMeter (fun m => m.record_failsCleanly i value labels)
        (reply_eq_error failed)
  | bind i labels =>
      exact unchanged_of_atMeter (fun m => (m.bind_failsCleanly i.index labels).map _)
        (reply_eq_error failed)
  | recordBound h value =>
      exact unchanged_of_atMeter (fun m => m.recordBound_failsCleanly h value)
        (reply_eq_error failed)
  | unbind i h =>
      have failed := reply_eq_error failed
      unfold unbind at failed
      split at failed
      · split at failed
        · exact unchanged_of_atMeter (fun m => m.unbind_failsCleanly i h) failed
        · cases failed
          exact ⟨unchanged_refl, Failure.within_refused (.foreignHandle i h _ _)⟩
      · cases failed
        exact ⟨unchanged_refl, Failure.within_absent⟩
  | openBatch r labels =>
      exact unchanged_of_atMeter (fun _ => (Outcome.failsCleanly_of_ok rfl).map _)
        (reply_eq_error failed)
  | put b i value =>
      have failed := reply_eq_error failed
      unfold put at failed
      split at failed
      · cases failed
        exact ⟨unchanged_refl, Failure.within_absent⟩
      · exact unchanged_of_atMeter (fun m => m.put_failsCleanly b i _ value) failed
  | commit b =>
      exact unchanged_of_atMeter (fun m => m.commit_failsCleanly b) (reply_eq_error failed)
  | setCallback i program =>
      exact unchanged_of_atMeter (fun m => m.setCallback_failsCleanly i.index program)
        (reply_eq_error failed)

/-- What a callback does changes nothing either when it is refused. -/
theorem unchanged_of_act {observer : InstrumentRef} {action : Action} {error : Error}
    (failed : s.act observer action = (.error (.refused error), s')) :
    ∃ operation, action.request? observer = some operation ∧ s.Unchanged operation.Warns s' ∧
      operation.Refuses error := by
  have of_perform {operation : Operation}
      (failed : s.perform operation = (.error (.refused error), s')) :
      s.Unchanged operation.Warns s' ∧ operation.Refuses error := by
    obtain ⟨unchanged, within⟩ := unchanged_of_perform failed
    exact ⟨unchanged, within error rfl⟩
  cases action with
  | observe value labels => exact ⟨_, rfl, of_perform failed⟩
  | perform operation => exact ⟨operation, rfl, of_perform failed⟩
  | replace program => exact ⟨_, rfl, of_perform failed⟩
  | spawn m setup program =>
      rw [act] at failed
      split at failed
      · next built =>
          cases failed
          refine ⟨_, rfl, of_perform ?_⟩
          rw [perform, built]
          rfl
      · next i after built =>
          -- An instrument just built can be of the wrong kind, but no rule refuses it.
          have clean (m : Meter) : (m.setCallback i.index program).FailsCleanly m
              (fun _ => False) fun _ => False := m.setCallback_failsCleanly i.index program
          have refused := reply_eq_error failed
          have never := (unchanged_of_atMeter clean refused).2
          exact (never error rfl).elim
  | describe =>
      rw [act] at failed
      split at failed <;> cases failed

/-- **Failed operations are atomic.** A request that fails, in any state, and an action of a
callback that is refused leave all objects as they were; making a label set that is refused leaves
all of a workspace as it was. -/
theorem atomic_of_failed :
    (∀ (s s' : State) (operation : Operation) (e : Failure),
      s.perform operation = (.error e, s') →
        s.Unchanged operation.Warns s' ∧ e.Within operation.Refuses) ∧
    (∀ (s s' : State) (observer : InstrumentRef) (action : Action) (error : Error),
      s.act observer action = (.error (.refused error), s') →
        ∃ operation, action.request? observer = some operation ∧
          s.Unchanged operation.Warns s' ∧ operation.Refuses error) ∧
    (∀ (w w' : Workspace) (id : String) (source : LabelsSource) (e : Failure),
      (Script.createLabels id source).exec w = (.error e, w') →
        w' = w ∧ e.Within Error.OfLabels) :=
  ⟨fun _ _ _ _ failed => unchanged_of_perform failed,
    fun _ _ _ _ _ refused => unchanged_of_act refused,
    fun _ _ _ _ _ failed => Script.exec_createLabels_failed failed⟩

/-- A meter with a measure of values of at least zero, and a batch that has one of them. -/
def measuring : State :=
  let config : Config := { Config.draft "size" .measure .long with absolute := true }
  let measure : Instrument := ⟨config.descriptor "m" 0, config, .empty, none⟩
  let batch : Batch := ⟨.empty, [(0, .long 5)], false⟩
  ⟨[.recording []], [⟨"m", none, ⟨0⟩, 16, 1, 0, [measure], [batch]⟩], [], []⟩

/-- A negative value is refused for a batch, though another was put before. -/
theorem atomic_put_negative :
    ∃ e s', measuring.perform (.put ⟨⟨0⟩, 0⟩ ⟨⟨0⟩, 0⟩ (.long (-1))) = (.error e, s') ∧
      s'.meters = measuring.meters ∧ s'.sinks = measuring.sinks := by
  have failed : measuring.perform (.put ⟨⟨0⟩, 0⟩ ⟨⟨0⟩, 0⟩ (.long (-1))) =
      (.error (.refused (.negativeValue "size" (Value.long (-1)).text)), measuring) := rfl
  have unchanged := (atomic_of_failed.1 measuring measuring _ _ failed).1
  exact ⟨_, _, failed, unchanged.meters, unchanged.sinks⟩

end State

end Metering
