import Metering.Proofs.Stream.Settled
import Metering.State.Run

/-! # Accounts of calls

What the calls made so far come to, told from the calls and their answers alone: the labels that a
handle was bound to, the labels and the values of a batch, and the number of batches committed. From
the account of the calls before it follows what an accepted call gives to a sink.
-/

namespace Metering

/-- A request and its answer. -/
structure Call where
  request : Operation
  answer : Except Failure Reply

namespace Call

/-- The labels that a call binds to a handle. -/
def bound? (h : Handle) (c : Call) : Option LabelSet :=
  match c.request, c.answer with
  | .bind _ labels, .ok (.handle made) => if made = h then some labels else none
  | _, _ => none

/-- The labels with which a call opens a batch. -/
def opened? (b : BatchRef) (c : Call) : Option LabelSet :=
  match c.request, c.answer with
  | .openBatch _ labels, .ok (.batch made) => if made = b then some labels else none
  | _, _ => none

/-- The instrument and the value that a call puts into a batch. -/
def put? (b : BatchRef) (c : Call) : Option (InstrumentRef × Value) :=
  match c.request, c.answer with
  | .put batch i value, .ok _ => if batch = b then some (i, value) else none
  | _, _ => none

/-- Whether a call commits a batch of a meter. -/
def commits (r : MeterRef) (c : Call) : Bool :=
  match c.request, c.answer with
  | .commit b, .ok _ => b.meter = r
  | _, _ => false

end Call

/-! ## Accounts -/

/-- What calls to a meter come to: the labels bound, by place and identity; the labels and the
entries of batches, by place; and the number of batches committed. -/
@[ext]
structure Account where
  bound : Nat → Nat → Option LabelSet
  opened : Nat → Option LabelSet
  entries : Nat → List (InstrumentRef × Value)
  committed : Nat

/-- The account of a meter never called. -/
def Account.blank : Account where
  bound _ _ := none
  opened _ := none
  entries _ := []
  committed := 0

/-- The account of a meter after some calls. -/
def accountOf (calls : List Call) (r : MeterRef) : Account where
  bound place identity := calls.findSome? (Call.bound? ⟨⟨r, place⟩, identity⟩)
  opened place := calls.findSome? (Call.opened? ⟨r, place⟩)
  entries place := settled (calls.filterMap (Call.put? ⟨r, place⟩))
  committed := calls.countP (Call.commits r)

/-- The account after one more call. -/
def Account.after (a : Account) (r : MeterRef) (c : Call) : Account where
  bound place identity := (a.bound place identity).or (c.bound? ⟨⟨r, place⟩, identity⟩)
  opened place := (a.opened place).or (c.opened? ⟨r, place⟩)
  entries place :=
    match c.put? ⟨r, place⟩ with
    | none => a.entries place
    | some (i, value) => assign i value (a.entries place)
  committed := a.committed + if c.commits r then 1 else 0

/-- An account is carried on by each call. -/
theorem accountOf_concat (calls : List Call) (c : Call) (r : MeterRef) :
    accountOf (calls ++ [c]) r = (accountOf calls r).after r c := by
  have entries (place : Nat) : settled ((calls ++ [c]).filterMap (Call.put? ⟨r, place⟩)) =
      match c.put? ⟨r, place⟩ with
      | none => settled (calls.filterMap (Call.put? ⟨r, place⟩))
      | some (i, value) => assign i value (settled (calls.filterMap (Call.put? ⟨r, place⟩))) := by
    rw [List.filterMap_append]
    cases put : c.put? ⟨r, place⟩ with
    | none => rw [List.filterMap_cons_none put, List.filterMap_nil, List.append_nil]
    | some entry =>
        rw [List.filterMap_cons_some put, List.filterMap_nil]
        exact settled_concat _ entry.1 entry.2
  simp only [accountOf, Account.after, List.findSome?_append, List.findSome?_singleton,
    List.countP_append, List.countP_singleton, entries]

/-- A call that does not count for a meter. -/
structure Call.IsIdle (r : MeterRef) (c : Call) : Prop where
  bound : ∀ place identity, c.bound? ⟨⟨r, place⟩, identity⟩ = none
  opened : ∀ place, c.opened? ⟨r, place⟩ = none
  put : ∀ place, c.put? ⟨r, place⟩ = none
  commits : c.commits r = false

/-- An idle call leaves an account as it is. -/
theorem Account.after_of_idle {r : MeterRef} {c : Call} (idle : c.IsIdle r) (a : Account) :
    a.after r c = a := by
  simp only [Account.after, idle.bound, idle.opened, idle.put, idle.commits, Option.or_none,
    Bool.false_eq_true, if_false, Nat.add_zero]

/-- A call that was refused is idle. -/
theorem Call.isIdle_of_error (r : MeterRef) (request : Operation) (e : Failure) :
    Call.IsIdle r ⟨request, .error e⟩ := by
  cases request <;> exact ⟨fun _ _ => rfl, fun _ => rfl, fun _ => rfl, rfl⟩

/-! ## What calls emit -/

/-- A value for an instrument under labels given by the caller. -/
structure Measurement where
  instrument : InstrumentRef
  labels : LabelSet
  value : Value

/-- What an accepted call gives to the sink of a meter: one point, or a batch under its number. -/
inductive Emission where
  | single (x : Measurement)
  | batch (meter : MeterRef) (number : Nat) (members : List Measurement)

namespace Emission

/-- The meter whose sink is told. -/
def meter : Emission → MeterRef
  | .single x => x.instrument.meter
  | .batch r _ _ => r

/-- What is measured. -/
def measurements : Emission → List Measurement
  | .single x => [x]
  | .batch _ _ members => members

end Emission

/-- What a call emits when it is accepted. The labels are those given with the call, to the handle,
or to the batch. -/
def Call.emission? (accounts : MeterRef → Account) (c : Call) : Option Emission :=
  match c.request, c.answer with
  | .record i value labels, .ok _ => some (.single ⟨i, labels, value⟩)
  | .recordBound h value, .ok _ =>
    ((accounts h.instrument.meter).bound h.instrument.index h.identity).map fun labels =>
      .single ⟨h.instrument, labels, value⟩
  | .commit b, .ok _ =>
    ((accounts b.meter).opened b.index).map fun labels =>
      .batch b.meter (accounts b.meter).committed
        (((accounts b.meter).entries b.index).map fun (i, value) => ⟨i, labels, value⟩)
  | _, _ => none

/-- Whether a call records something and is accepted. -/
def Call.isRecorded (c : Call) : Bool :=
  match c.request, c.answer with
  | .record .., .ok _ | .recordBound .., .ok _ | .commit _, .ok _ => true
  | _, _ => false

/-- Only three kinds of calls emit anything. -/
theorem Call.emission?_cases {accounts : MeterRef → Account} {c : Call} {e : Emission}
    (emits : c.emission? accounts = some e) :
    (∃ i value labels a, c = ⟨.record i value labels, .ok a⟩ ∧ e = .single ⟨i, labels, value⟩) ∨
    (∃ h value labels a, c = ⟨.recordBound h value, .ok a⟩ ∧
      (accounts h.instrument.meter).bound h.instrument.index h.identity = some labels ∧
      e = .single ⟨h.instrument, labels, value⟩) ∨
    (∃ b labels a, c = ⟨.commit b, .ok a⟩ ∧ (accounts b.meter).opened b.index = some labels ∧
      e = .batch b.meter (accounts b.meter).committed
        (((accounts b.meter).entries b.index).map fun (i, value) => ⟨i, labels, value⟩)) := by
  obtain ⟨request, answer⟩ := c
  cases answer with
  | error e' => cases request <;> cases emits
  | ok a =>
      cases request with
      | record i value labels =>
          cases emits
          exact Or.inl ⟨i, value, labels, a, rfl, rfl⟩
      | recordBound h value =>
          obtain ⟨labels, bound, rfl⟩ := Option.map_eq_some_iff.mp emits
          exact Or.inr (Or.inl ⟨h, value, labels, a, rfl, bound, rfl⟩)
      | commit b =>
          obtain ⟨labels, opened, rfl⟩ := Option.map_eq_some_iff.mp emits
          exact Or.inr (Or.inr ⟨b, labels, a, rfl, opened, rfl⟩)
      | _ => cases emits

/-- What calls emit that are made after others. -/
def emissionsAfter (earlier : List Call) : List Call → List Emission
  | [] => []
  | c :: rest => (c.emission? (accountOf earlier)).toList ++ emissionsAfter (earlier ++ [c]) rest

/-- What calls emit, in order. -/
def emissions (calls : List Call) : List Emission :=
  emissionsAfter [] calls

/-- What a call emits comes after what was emitted before. -/
theorem emissions_concat (calls : List Call) (c : Call) :
    emissions (calls ++ [c]) = emissions calls ++ (c.emission? (accountOf calls)).toList := by
  have general (earlier : List Call) : emissionsAfter earlier (calls ++ [c]) =
      emissionsAfter earlier calls ++ (c.emission? (accountOf (earlier ++ calls))).toList := by
    induction calls generalizing earlier with
    | nil => simp only [List.nil_append, emissionsAfter, List.append_nil]
    | cons first rest ih =>
        rw [List.cons_append, emissionsAfter, ih, emissionsAfter, List.append_assoc,
          List.append_assoc, List.singleton_append]
  exact general []

end Metering
