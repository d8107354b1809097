import Metering.Meter.Batching
import Metering.Meter.Registration

/-! # What requests to a meter come to

Each request either fails, which leaves the meter as it is and gives nothing out, or does one
definite thing. The refusals that a request can meet are named. Only the refusal of a conflicting
registration is noted in the journal.
-/

namespace Metering

/-- A failure that is no refusal, or a refusal of some kind. -/
def Failure.Within (refusal : Error → Prop) (e : Failure) : Prop :=
  ∀ error, e = .refused error → refusal error

/-- To be absent is within every refusal. -/
theorem Failure.within_absent {refusal : Error → Prop} : Failure.absent.Within refusal := by
  intro error same
  cases same

private theorem Failure.within_mistyped {refusal : Error → Prop} :
    Failure.mistyped.Within refusal := by
  intro error same
  cases same

/-- What is refused is within every refusal that it meets. -/
theorem Failure.within_refused {refusal : Error → Prop} {error : Error} (holds : refusal error) :
    (Failure.refused error).Within refusal := by
  intro other same
  cases same
  exact holds

/-- A failure within a refusal is within a weaker one. -/
theorem Failure.Within.mono {refusal weaker : Error → Prop} {e : Failure}
    (within : e.Within refusal) (implies : ∀ error, refusal error → weaker error) :
    e.Within weaker :=
  fun error same => implies error (within error same)

/-! ## Values -/

/-- A refusal of a value below zero. -/
def Error.OfNegative (value : Value) (e : Error) : Prop :=
  ∃ name, e = .negativeValue name value.text

/-- A value that the configuration of an instrument allows. -/
structure Config.Takes (c : Config) (value : Value) : Prop where
  kind : value.kind = c.number
  sign : c.requiresNonNegative = true → value.isNonNegative = true

/-- An instrument accepts the values that its configuration takes. -/
theorem Instrument.accept_eq_ok_iff {i : Instrument} {value : Value} :
    i.accept value = .ok () ↔ i.config.Takes value := by
  unfold accept
  by_cases kind : value.kind = i.config.number
  · rw [if_pos kind, Config.checkValue]
    by_cases refused : (i.config.requiresNonNegative && !value.isNonNegative) = true
    · rw [if_pos refused]
      rw [Bool.and_eq_true, Bool.not_eq_true'] at refused
      refine ⟨fun accepted => (by cases accepted), fun takes => ?_⟩
      have sign := takes.sign refused.1
      rw [refused.2] at sign
      cases sign
    · rw [if_neg refused]
      refine ⟨fun _ => ⟨kind, fun required => ?_⟩, fun _ => rfl⟩
      cases sign : value.isNonNegative with
      | true => rfl
      | false => exact absurd (by rw [required, sign]; rfl) refused
  · rw [if_neg kind]
    exact ⟨fun accepted => (by cases accepted), fun takes => absurd takes.kind kind⟩

/-- A value of the right kind that an instrument does not take is refused for being below zero. -/
theorem Instrument.accept_eq_negative {i : Instrument} {value : Value}
    (kind : value.kind = i.config.number) (refused : ¬ i.config.Takes value) :
    i.accept value = .error (.refused (.negativeValue i.config.name value.text)) := by
  unfold accept
  rw [if_pos kind, Config.checkValue]
  split
  · rfl
  · next allowed =>
    refine absurd ⟨kind, fun required => ?_⟩ refused
    rw [required, Bool.true_and, Bool.not_eq_true', Bool.not_eq_false] at allowed
    exact allowed

/-- An instrument that refuses a value does so since it is negative or of the other kind of numbers.
-/
theorem Instrument.within_of_accept {i : Instrument} {value : Value} {e : Failure}
    (refused : i.accept value = .error e) : e.Within (Error.OfNegative value) := by
  unfold accept at refused
  by_cases kind : value.kind = i.config.number
  · rw [if_pos kind, Config.checkValue] at refused
    split at refused
    · cases refused
      exact Failure.within_refused ⟨i.config.name, rfl⟩
    · cases refused
  · rw [if_neg kind] at refused
    cases refused
    exact Failure.within_mistyped

namespace Meter

variable (m : Meter)

/-! ## Recording -/

/-- A record is refused, or it changes nothing and passes on one point. -/
theorem record_cases (place : Nat) (value : Value) (labels : LabelSet) :
    (∃ e, m.record place value labels = m.fail e ∧ e.Within (Error.OfNegative value)) ∨
    ∃ i, m.instruments[place]? = some i ∧ i.config.Takes value ∧
      m.record place value labels =
        ⟨.ok (), m, [.passed 0 (.single labels (i.pointWith labels value))]⟩ := by
  unfold record
  cases found : m.instruments[place]? with
  | none => exact Or.inl ⟨.absent, rfl, Failure.within_absent⟩
  | some i =>
      cases accepted : i.accept value with
      | error e =>
          refine Or.inl ⟨e, ?_, i.within_of_accept accepted⟩
          simp only [accepted]
      | ok _ =>
          refine Or.inr ⟨i, rfl, i.accept_eq_ok_iff.mp accepted, ?_⟩
          simp only [accepted]

/-- A binding is made or found for an instrument that stands. -/
theorem bind_cases (place : Nat) (labels : LabelSet) :
    m.bind place labels = m.fail .absent ∨
    ∃ i, m.instruments[place]? = some i ∧
      m.bind place labels =
        ⟨.ok (i.bindings.acquire labels i.config.constants).2,
          m.modifyInstrument place fun i' =>
            { i' with bindings := (i.bindings.acquire labels i.config.constants).1 }, []⟩ := by
  unfold bind
  cases found : m.instruments[place]? with
  | none => exact Or.inl rfl
  | some i => exact Or.inr ⟨i, rfl, rfl⟩

/-- A record through a binding is refused, or it changes nothing and passes on one point under the
labels of the binding. -/
theorem recordBound_cases (place identity : Nat) (value : Value) :
    (∃ e, m.recordBound place identity value = m.fail e ∧ e.Within fun error =>
      error.OfNegative value ∨ ∃ name labels, error = .bindingReleased name labels) ∨
    ∃ i binding, m.instruments[place]? = some i ∧ i.bindings.made[identity]? = some binding ∧
      i.config.Takes value ∧ binding.released = false ∧
      m.recordBound place identity value =
        ⟨.ok (), m, [.passed 0 (.single binding.labels (i.point binding.effective value))]⟩ := by
  unfold recordBound
  cases found : m.instruments[place]? with
  | none => exact Or.inl ⟨.absent, rfl, Failure.within_absent⟩
  | some i =>
      cases made : i.bindings.made[identity]? with
      | none =>
          refine Or.inl ⟨.absent, ?_, Failure.within_absent⟩
          simp only [made]
      | some binding =>
          cases accepted : i.accept value with
          | error e =>
              refine Or.inl ⟨e, ?_, (i.within_of_accept accepted).mono fun _ => Or.inl⟩
              simp only [made, accepted]
          | ok _ =>
              cases released : binding.released with
              | true =>
                  refine Or.inl ⟨.refused (i.bindingReleased binding), ?_,
                    Failure.within_refused (Or.inr ⟨_, _, rfl⟩)⟩
                  simp only [made, accepted, released, if_true]
                  rfl
              | false =>
                  have takes := i.accept_eq_ok_iff.mp accepted
                  refine Or.inr ⟨i, binding, rfl, made, takes, released, ?_⟩
                  simp only [made, accepted, released, Bool.false_eq_true, if_false]

/-- An unbinding is refused, or takes one reference from a binding that was live. -/
theorem unbind_cases (place identity : Nat) :
    (∃ e, m.unbind place identity = m.fail e ∧ e.Within fun error =>
      ∃ name labels, error = .unknownBinding name labels) ∨
    ∃ i binding table remaining, m.instruments[place]? = some i ∧
      i.bindings.made[identity]? = some binding ∧
      i.bindings.release identity = some (table, remaining) ∧
      m.unbind place identity =
        ⟨.ok (), m.modifyInstrument place fun i => { i with bindings := table },
          if remaining = 0 then [.noted (.bindingReleased m.name i.config.name binding.labels)]
          else []⟩ := by
  unfold unbind
  cases found : m.instruments[place]? with
  | none => exact Or.inl ⟨.absent, rfl, Failure.within_absent⟩
  | some i =>
      cases made : i.bindings.made[identity]? with
      | none =>
          refine Or.inl ⟨.absent, ?_, Failure.within_absent⟩
          simp only [made]
      | some binding =>
          cases released : i.bindings.release identity with
          | none =>
              refine Or.inl ⟨.refused (i.unknownBinding binding), ?_,
                Failure.within_refused ⟨_, _, rfl⟩⟩
              simp only [made, released]
              rfl
          | some result =>
              obtain ⟨table, remaining⟩ := result
              refine Or.inr ⟨i, binding, table, remaining, rfl, made, released, ?_⟩
              simp only [made, released]

/-- A callback is refused, or set for an observer. -/
theorem setCallback_cases (place : Nat) (program : List Action) :
    (∃ e, m.setCallback place program = m.fail e ∧ e.Within fun _ => False) ∨
    ∃ i, m.instruments[place]? = some i ∧ i.config.kind = .observer ∧
      m.setCallback place program =
        ⟨.ok (), m.modifyInstrument place fun i => { i with callback := some program }, []⟩ := by
  unfold setCallback
  cases found : m.instruments[place]? with
  | none => exact Or.inl ⟨.absent, rfl, Failure.within_absent⟩
  | some i =>
      by_cases observer : i.config.kind = .observer
      · refine Or.inr ⟨i, rfl, observer, ?_⟩
        simp only [observer, if_true]
      · refine Or.inl ⟨.mistyped, ?_, Failure.within_mistyped⟩
        simp only [observer, if_false]

/-! ## Batches -/

/-- A value is refused, or it enters an open batch under an instrument of the meter. -/
theorem put_cases (batchPlace : Nat) (offer : Offer) (value : Value) :
    (∃ e, m.put batchPlace offer value = m.fail e ∧ e.Within fun error =>
      (∃ labels, error = .batchSpent labels) ∨ (∃ name, error = .foreignInstrument name m.name) ∨
        error.OfNegative value) ∨
    ∃ batch place i, m.batches[batchPlace]? = some batch ∧ batch.spent = false ∧
      offer = .own place ∧ m.instruments[place]? = some i ∧ i.config.Takes value ∧
      m.put batchPlace offer value =
        ⟨.ok (), m.modifyBatch batchPlace fun batch =>
          { batch with entries := putEntry place value batch.entries }, []⟩ := by
  unfold put
  cases held : m.batches[batchPlace]? with
  | none => exact Or.inl ⟨.absent, rfl, Failure.within_absent⟩
  | some batch =>
      cases spent : batch.spent with
      | true =>
          refine Or.inl ⟨.refused (.batchSpent batch.labels.text), ?_,
            Failure.within_refused (Or.inl ⟨_, rfl⟩)⟩
          simp only [spent, if_true]
          rfl
      | false =>
          cases offer with
          | «foreign» name =>
              refine Or.inl ⟨.refused (.foreignInstrument name m.name), ?_,
                Failure.within_refused (Or.inr (Or.inl ⟨name, rfl⟩))⟩
              simp only [spent, Bool.false_eq_true, if_false]
              rfl
          | own place =>
              cases found : m.instruments[place]? with
              | none =>
                  refine Or.inl ⟨.absent, ?_, Failure.within_absent⟩
                  simp only [spent, Bool.false_eq_true, if_false, found]
              | some i =>
                  cases accepted : i.accept value with
                  | error e =>
                      refine Or.inl ⟨e, ?_, (i.within_of_accept accepted).mono
                        fun _ negative => Or.inr (Or.inr negative)⟩
                      simp only [spent, Bool.false_eq_true, if_false, found, accepted]
                  | ok _ =>
                      refine Or.inr ⟨batch, place, i, rfl, spent, rfl, found,
                        i.accept_eq_ok_iff.mp accepted, ?_⟩
                      simp only [spent, Bool.false_eq_true, if_false, found, accepted]

/-- A commit is refused, or tells all of an open batch and spends it. -/
theorem commit_cases (batchPlace : Nat) :
    (∃ e, m.commit batchPlace = m.fail e ∧ e.Within fun error =>
      ∃ labels, error = .batchSpent labels) ∨
    ∃ batch, m.batches[batchPlace]? = some batch ∧ batch.spent = false ∧
      m.commit batchPlace =
        { answer := .ok ()
          meter :=
            { m.modifyBatch batchPlace (fun batch => { batch with spent := true }) with
              nextBatch := m.nextBatch + 1 }
          output :=
            [.passed m.nextBatch (.batch batch.labels (m.batchPoints batch)),
              .noted (.batchRecorded m.name batch.labels m.nextBatch
                (m.batchPoints batch).length)] } := by
  unfold commit
  cases held : m.batches[batchPlace]? with
  | none => exact Or.inl ⟨.absent, rfl, Failure.within_absent⟩
  | some batch =>
      cases spent : batch.spent with
      | true =>
          refine Or.inl ⟨.refused (.batchSpent batch.labels.text), ?_,
            Failure.within_refused ⟨_, rfl⟩⟩
          simp only [spent, if_true]
          rfl
      | false =>
          refine Or.inr ⟨batch, rfl, spent, ?_⟩
          simp only [spent, Bool.false_eq_true, if_false]

/-! ## Registration -/

/-- The instrument found under a name has that name. -/
theorem find?_eq_some {name : String} {place : Fin m.instruments.length}
    (found : m.find? name = some place) : (m.instruments.get place).config.name = name := by
  obtain ⟨named, _⟩ := List.findFinIdx?_eq_some_iff.mp found
  exact beq_iff_eq.mp named

/-- Nothing is found under a name that no instrument has. -/
theorem find?_eq_none {name : String} (absent : m.find? name = none) :
    ∀ i ∈ m.instruments, i.config.name ≠ name := by
  intro i member named
  have differs := List.findFinIdx?_eq_none_iff.mp absent i member
  exact differs (beq_iff_eq.mpr named)

/-- A registration conflicts with an instrument of its name, comes to the one that is equal, or adds
one. -/
theorem register_cases (config : Config) :
    (∃ (place : Nat) (existing : Instrument), m.instruments[place]? = some existing ∧
      existing.config.name = config.name ∧ existing.config ≠ config ∧
      m.register config = ⟨.error (.refused (.conflictingRegistration config.name)), m,
        [.noted (.registrationConflict m.name config.name existing.config.kind config.kind)]⟩) ∨
    (∃ (place : Nat) (i : Instrument), m.instruments[place]? = some i ∧ i.config = config ∧
      m.register config = ⟨.ok place, m, []⟩) ∨
    ((∀ i ∈ m.instruments, i.config.name ≠ config.name) ∧ m.register config = m.add config) := by
  unfold register
  cases found : m.find? config.name with
  | none => exact Or.inr (Or.inr ⟨m.find?_eq_none found, rfl⟩)
  | some place =>
      have standing : m.instruments[place.val]? = some m.instruments[place] :=
        List.getElem?_eq_getElem place.isLt
      by_cases equal : m.instruments[place].config = config
      · refine Or.inr (Or.inl ⟨place, m.instruments[place], standing, equal, ?_⟩)
        simp only [equal, if_true]
      · refine Or.inl ⟨place, m.instruments[place], standing, m.find?_eq_some found, equal, ?_⟩
        simp only [equal, if_false]

/-- An instrument is refused for its name, or registered. -/
theorem build_cases (setup : InstrumentSetup) :
    (∃ fault, Name.fault? setup.config.name = some fault ∧
      m.build setup = m.refuse (.invalidName setup.config.name fault.reason)) ∨
    (Name.fault? setup.config.name = none ∧ m.build setup = m.register setup.config) := by
  unfold build Name.validate
  cases Name.fault? setup.config.name with
  | none => exact Or.inr ⟨rfl, rfl⟩
  | some fault => exact Or.inl ⟨fault, rfl, rfl⟩

end Meter

end Metering
