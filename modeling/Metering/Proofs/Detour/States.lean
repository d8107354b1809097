import Metering.Proofs.Detour.Meters
import Metering.Proofs.State.Giving

/-! # Twin states

Two states are twins when their meters are twins and all else is equal, but that the journal of the
second may tell of more bindings released (`Metering.State.Twin`). A request that both are made, of
the handles that stand for one another, comes to the same answer up to the names of handles, and
leaves twins (`Metering.State.Twin.perform`).
-/

namespace Metering

/-! ## Journals -/

/-- Whether an entry tells of a binding released. -/
def Entry.isRelease : Entry → Bool
  | .bindingReleased .. => true
  | _ => false

/-- The second journal has the entries of the first in order, and between them only entries that
tell of bindings released. -/
structure Entry.Interspersed (journal journal' : List Entry) : Prop where
  kept : journal.Sublist journal'
  others : journal'.filter (fun entry => !entry.isRelease) =
    journal.filter fun entry => !entry.isRelease

namespace Entry.Interspersed

variable {journal journal' : List Entry}

/-- The same entries may be written to both journals. -/
theorem append (interspersed : Interspersed journal journal') (more : List Entry) :
    Interspersed (journal ++ more) (journal' ++ more) where
  kept := interspersed.kept.append (.refl more)
  others := by
    rw [List.filter_append, interspersed.others, List.filter_append]

/-- A release may be written to the second journal alone. -/
theorem released (interspersed : Interspersed journal journal') (meter instrument : String)
    (labels : LabelSet) :
    Interspersed journal (journal' ++ [.bindingReleased meter instrument labels]) where
  kept := interspersed.kept.trans (List.sublist_append_left ..)
  others := by
    rw [List.filter_append, interspersed.others]
    exact List.append_nil _

end Entry.Interspersed

/-! ## States -/

/-- Whether labels are bound to an instrument. -/
def State.isBound (s : State) (i : InstrumentRef) (labels : LabelSet) : Bool :=
  ((s.instrument? i).bind fun instrument => instrument.bindings.find? labels).isSome

/-- The course before labels are bound to an instrument, in both runs or in the second alone. -/
def State.foresee (s : State) (i : InstrumentRef) (labels : LabelSet) (both : Bool)
    (after : Course) : Course :=
  if (s.instrument? i).isNone || s.isBound i labels then after else after.cons i both

/-- An instrument that does not stand has no binding made ahead. -/
theorem State.foresee_of_none {s : State} {i : InstrumentRef} (missing : s.instrument? i = none)
    (labels : LabelSet) (both : Bool) (after : Course) : s.foresee i labels both after = after := by
  rw [foresee, missing]
  rfl

/-- Labels that are bound already have no binding made ahead, others have one. -/
theorem State.foresee_of_some {s : State} {i : InstrumentRef} {instrument : Instrument}
    (found : s.instrument? i = some instrument) (labels : LabelSet) (both : Bool) (after : Course) :
    s.foresee i labels both after =
      if (instrument.bindings.find? labels).isSome then after else after.cons i both := by
  rw [foresee, isBound, found]
  rfl

private theorem State.foresee_of_ne (s : State) {i other : InstrumentRef} (apart : other ≠ i)
    (labels : LabelSet) (both : Bool) (after : Course) :
    s.foresee i labels both after other = after other := by
  rw [foresee]
  split
  · rfl
  · exact after.cons_of_ne apart both

/-- **Twin states.** The course tells the identities of bindings yet to be made. -/
structure State.Twin (ρ : Renaming) (course : Course) (s s' : State) : Prop where
  sinks : s'.sinks = s.sinks
  registries : s'.registries = s.registries
  journal : Entry.Interspersed s.journal s'.journal
  length : s'.meters.length = s.meters.length
  meters : ∀ (r : MeterRef) (m m' : Meter), s.meter? r = some m → s'.meter? r = some m' →
    m.Twin ρ course r m'
  blank : ∀ (r : MeterRef) (place : Nat), s.meter? r = none → ∀ k,
    ρ.identity ⟨r, place⟩ k = BindingTable.placeIn (course ⟨r, place⟩) k

namespace State.Twin

variable {ρ : Renaming} {course course' : Course} {s s' : State}

/-- Two empty states are twins. -/
theorem empty (told : ∀ i k, ρ.identity i k = BindingTable.placeIn (course i) k) :
    State.Twin ρ course .empty .empty where
  sinks := rfl
  registries := rfl
  journal := ⟨.refl _, rfl⟩
  length := rfl
  meters _ _ _ found := by cases found
  blank r place _ := told ⟨r, place⟩

/-- Twins have the same sinks. -/
theorem sink?_eq (twin : s.Twin ρ course s') (k : SinkRef) : s'.sink? k = s.sink? k := by
  rw [sink?, twin.sinks, sink?]

/-- Under each reference, either neither state has a meter, or the two that they have are twins. -/
theorem meter_cases (twin : s.Twin ρ course s') (r : MeterRef) :
    (s.meter? r = none ∧ s'.meter? r = none) ∨
    ∃ m m', s.meter? r = some m ∧ s'.meter? r = some m' ∧
      m.Twin ρ course r m' := by
  by_cases inside : r.index < s.meters.length
  · have inside' : r.index < s'.meters.length := twin.length.symm ▸ inside
    exact Or.inr ⟨_, _, List.getElem?_eq_getElem inside, List.getElem?_eq_getElem inside',
      twin.meters r _ _ (List.getElem?_eq_getElem inside) (List.getElem?_eq_getElem inside')⟩
  · have outside := Nat.le_of_not_lt inside
    exact Or.inl ⟨List.getElem?_eq_none outside,
      List.getElem?_eq_none (twin.length.symm ▸ outside)⟩

/-- Under each reference, either neither state has an instrument, or the two that they have are
twins. -/
theorem instrument_cases (twin : s.Twin ρ course s') (i : InstrumentRef) :
    (s.instrument? i = none ∧ s'.instrument? i = none) ∨
    ∃ instrument instrument', s.instrument? i = some instrument ∧
      s'.instrument? i = some instrument' ∧
      instrument.Twin ρ (ρ.identity i) (course i) instrument' := by
  rcases twin.meter_cases i.meter with ⟨missing, missing'⟩ | ⟨m, m', found, found', meters⟩
  · simp only [instrument?, missing, missing', Option.bind_none, and_self, true_or]
  · simp only [instrument?, found, found', Option.bind_some]
    exact meters.instrument_cases i.index

/-- In twins the same labels are bound to an instrument. -/
theorem isBound (twin : s.Twin ρ course s') (i : InstrumentRef) (labels : LabelSet) :
    s'.isBound i labels = s.isBound i labels := by
  rw [State.isBound, State.isBound]
  rcases twin.instrument_cases i with ⟨missing, missing'⟩ | ⟨j, j', found, found', alike⟩
  · rw [missing, missing']
  · rw [found, found', Option.bind_some, Option.bind_some, alike.bindings.find?, Option.isSome_map]

/-- A handle is held as often as the one that stands for it. -/
theorem refCount (twin : s.Twin ρ course s') (i : InstrumentRef) (h : Handle) :
    s'.refCount i (ρ.apply h) = s.refCount i h := by
  have binding : s'.binding? (ρ.apply h) = s.binding? h := by
    rw [binding?, Renaming.apply, binding?]
    rcases twin.instrument_cases h.instrument with ⟨missing, missing'⟩ | ⟨j, j', found, found', alike⟩
    · rw [missing, missing']
      rfl
    · rw [found, found']
      exact alike.bindings.made h.identity
  rw [State.refCount, binding, State.refCount]
  rfl

/-- An instrument has as many live bindings. -/
theorem size (twin : s.Twin ρ course s') (i : InstrumentRef) :
    (s'.instrument? i).map (fun instrument => instrument.bindings.size) =
      (s.instrument? i).map fun instrument => instrument.bindings.size := by
  rcases twin.instrument_cases i with ⟨missing, missing'⟩ | ⟨j, j', found, found', alike⟩
  · rw [missing, missing']
  · rw [found, found', Option.map_some, Option.map_some, alike.bindings.size]

/-! ## Changes made to both -/

/-- A change of the sinks, and the same entries in both journals. -/
theorem told (twin : s.Twin ρ course s') (sinks : List Sink) (more : List Entry) :
    State.Twin ρ course { s with sinks := sinks, journal := s.journal ++ more }
      { s' with sinks := sinks, journal := s'.journal ++ more } where
  sinks := rfl
  registries := twin.registries
  journal := twin.journal.append more
  length := twin.length
  meters := twin.meters
  blank := twin.blank

/-- Twins may write the same entry. -/
theorem note (twin : s.Twin ρ course s') (entry : Entry) :
    State.Twin ρ course (s.note entry) (s'.note entry) := by
  have noted := twin.told s.sinks [entry]
  rw [← twin.sinks] at noted
  have same : { s with sinks := s'.sinks, journal := s.journal ++ [entry] } = s.note entry := by
    rw [twin.sinks]
    rfl
  rwa [same] at noted

private theorem deliver (twin : s.Twin ρ course s') (k : SinkRef) (delivery : Delivery) :
    State.Twin ρ course (s.deliver k delivery) (s'.deliver k delivery) := by
  rw [State.deliver, State.deliver, twin.sink?_eq]
  cases s.sink? k with
  | none => exact twin
  | some sink =>
      rw [twin.sinks]
      exact twin.told _ _

private theorem giveAll (twin : s.Twin ρ course s') (k : SinkRef) (output : List Output) :
    State.Twin ρ course (s.giveAll k output) (s'.giveAll k output) := by
  induction output generalizing s s' with
  | nil => exact twin
  | cons out output ih =>
      rw [State.giveAll, State.giveAll, List.foldl_cons, List.foldl_cons, ← State.giveAll,
        ← State.giveAll]
      refine ih ?_
      cases out with
      | noted entry => exact twin.note entry
      | passed number passage =>
          rw [give, give]
          generalize passage.deliveries number = deliveries
          clear ih
          induction deliveries generalizing s s' with
          | nil => exact twin
          | cons delivery deliveries ih => exact ih (twin.deliver k delivery)

/-- Both states get twin meters for those at one place, whose course alone may be another then. -/
theorem setMeter (twin : s.Twin ρ course s') {r : MeterRef} {m m' n n' : Meter}
    (others : ∀ i, i.meter ≠ r → course' i = course i)
    (found : s.meter? r = some m) (found' : s'.meter? r = some m') (alike : n.Twin ρ course' r n') :
    State.Twin ρ course' { s with meters := s.meters.set r.index n }
      { s' with meters := s'.meters.set r.index n' } where
  sinks := twin.sinks
  registries := twin.registries
  journal := twin.journal
  length := by
    rw [List.length_set, List.length_set, twin.length]
  meters other k k' standing standing' := by
    rw [meter?_setMeter found] at standing
    rw [meter?_setMeter found'] at standing'
    by_cases here : other = r
    · subst here
      rw [if_pos rfl] at standing standing'
      cases standing
      cases standing'
      exact alike
    · rw [if_neg here] at standing standing'
      exact (twin.meters other k k' standing standing').congr fun place =>
        others ⟨other, place⟩ here
  blank other place missing := by
    rw [meter?_setMeter found] at missing
    split at missing
    · cases missing
    · next apart =>
        rw [others ⟨other, place⟩ apart]
        exact twin.blank other place missing

/-- A request that twin meters answer alike is answered alike by twin states. -/
theorem atMeter {α : Type} (twin : s.Twin ρ course s') (r : MeterRef)
    {request request' : Meter → Outcome α}
    (alike : ∀ m m' : Meter, m.Twin ρ course r m' →
      Outcome.Twin ρ course r (request m) (request' m')) :
    (s'.atMeter r request').1 = (s.atMeter r request).1 ∧
      State.Twin ρ course (s.atMeter r request).2 (s'.atMeter r request').2 := by
  rw [State.atMeter, State.atMeter]
  rcases twin.meter_cases r with ⟨missing, missing'⟩ | ⟨m, m', found, found', meters⟩
  · rw [missing, missing']
    exact ⟨rfl, twin⟩
  · have outcome := alike m m' meters
    rw [found, found']
    simp only [meters.sink, outcome.output]
    exact ⟨outcome.answer,
      (twin.setMeter (fun _ _ => rfl) found found' outcome.meter).giveAll _ _⟩

/-! ## Requests made of both -/

/-- What a request is answered in both, and the states that it leaves. -/
def Alike (ρ : Renaming) (course : Course) (done done' : Except Failure Reply × State) : Prop :=
  done'.1 = done.1.map (Reply.rename ρ) ∧ State.Twin ρ course done.2 done'.2

/-- Answers that are no handles are the same in both runs. -/
theorem alike_of_eq {α : Type} {f : α → Reply} {done done' : Except Failure α × State}
    (plain : ∀ a h, f a ≠ .handle h)
    (both : done'.1 = done.1 ∧ State.Twin ρ course done.2 done'.2) :
    Alike ρ course (reply f done) (reply f done') := by
  obtain ⟨answer, twin⟩ := both
  refine ⟨?_, twin⟩
  change done'.1.map f = (done.1.map f).map (Reply.rename ρ)
  rw [answer]
  cases done.1 with
  | error e => rfl
  | ok a =>
      have same : (f a).rename ρ = f a := by
        cases given : f a with
        | handle h => exact absurd given (plain a h)
        | done | sink | meter | instrument | batch | registry | text => rfl
      exact congrArg Except.ok same.symm

private theorem bind {i : InstrumentRef} {labels : LabelSet}
    (twin : s.Twin ρ (s.foresee i labels true course) s') :
    Alike ρ course (reply .handle (s.bind i labels)) (reply .handle (s'.bind i labels)) := by
  rw [State.bind, State.bind, State.atMeter, State.atMeter]
  rcases twin.meter_cases i.meter with ⟨missing, missing'⟩ | ⟨m, m', found, found', meters⟩
  · have absent : s.instrument? i = none := by
      rw [instrument?, missing]
      rfl
    rw [foresee_of_none absent] at twin
    rw [missing, missing']
    exact ⟨rfl, twin⟩
  · rcases meters.instrument_cases i.index with ⟨absent, absent'⟩ | ⟨j, j', placed, _, _⟩
    · have nothing : s.instrument? i = none := by
        rw [instrument?, found]
        exact absent
      rw [foresee_of_none nothing] at twin meters
      have bound : m.bind i.index labels = m.fail .absent := by rw [Meter.bind, absent]
      have bound' : m'.bind i.index labels = m'.fail .absent := by rw [Meter.bind, absent']
      rw [found, found']
      simp only [bound, bound']
      exact ⟨rfl, twin.setMeter (fun _ _ => rfl) found found' meters⟩
    · have same := foresee_of_some (instrument?_eq_some.mpr ⟨m, found, placed⟩) labels true course
      obtain ⟨answer, output, alike⟩ := Meter.Twin.bind placed (same ▸ meters)
      have apart : ∀ other : InstrumentRef, other.meter ≠ i.meter →
          course other = s.foresee i labels true course other := fun other different =>
        (s.foresee_of_ne (fun same => different (congrArg InstrumentRef.meter same)) ..).symm
      rw [found, found']
      simp only [reply, Outcome.map, meters.sink, output, answer]
      refine ⟨?_, (twin.setMeter apart found found' alike).giveAll m.sink _⟩
      cases (m.bind i.index labels).answer <;> rfl

private theorem unbind (twin : s.Twin ρ course s') (i : InstrumentRef) (h : Handle) :
    (s'.unbind i (ρ.apply h)).1 = (s.unbind i h).1 ∧
      State.Twin ρ course (s.unbind i h).2 (s'.unbind i (ρ.apply h)).2 := by
  have owner : (ρ.apply h).instrument = h.instrument := rfl
  unfold State.unbind
  rw [owner]
  rcases twin.instrument_cases i with ⟨missing, missing'⟩ | ⟨j, j', found, found', alike⟩
  · rw [missing, missing']
    exact ⟨rfl, twin⟩
  · rw [found, found']
    rcases twin.instrument_cases h.instrument with ⟨missing, missing'⟩ |
      ⟨k, k', standing, standing', alike'⟩
    · rw [missing, missing']
      exact ⟨rfl, twin⟩
    · rw [standing, standing']
      simp only [alike.config, alike'.config]
      split
      · next own =>
          subst own
          exact twin.atMeter h.instrument.meter fun m m' meters => meters.unbind _ h.identity
      · exact ⟨rfl, twin⟩

private theorem put (twin : s.Twin ρ course s') (b : BatchRef) (i : InstrumentRef) (value : Value) :
    (s'.put b i value).1 = (s.put b i value).1 ∧
      State.Twin ρ course (s.put b i value).2 (s'.put b i value).2 := by
  unfold State.put
  rcases twin.instrument_cases i with ⟨missing, missing'⟩ | ⟨j, j', found, found', alike⟩
  · rw [missing, missing']
    exact ⟨rfl, twin⟩
  · rw [found, found']
    simp only [alike.config]
    exact twin.atMeter b.meter fun m m' meters => meters.put b.index _ value

/-- Twins create a meter alike. -/
theorem createMeter (twin : s.Twin ρ course s') (setup : MeterSetup) :
    (s'.createMeter setup).1 = (s.createMeter setup).1 ∧
      State.Twin ρ course (s.createMeter setup).2 (s'.createMeter setup).2 := by
  rw [State.createMeter, State.createMeter, twin.sink?_eq]
  cases s.sink? setup.sink with
  | none => exact ⟨rfl, twin⟩
  | some _ =>
      have made : State.Twin ρ course { s with meters := s.meters ++ [Meter.ofSetup setup] }
          { s' with meters := s'.meters ++ [Meter.ofSetup setup] } := by
        refine ⟨twin.sinks, twin.registries, twin.journal, ?_, ?_, ?_⟩
        · rw [List.length_append, List.length_append, twin.length]
        · intro r m m' found found'
          rcases Place.getElem?_concat_eq_some.mp found with before | ⟨last, rfl⟩
          · rcases Place.getElem?_concat_eq_some.mp found' with before' | ⟨last, _⟩
            · exact twin.meters r m m' before before'
            · have inside := (List.getElem?_eq_some_iff.mp before).1
              rw [last, twin.length] at inside
              exact absurd inside (Nat.lt_irrefl _)
          · rcases Place.getElem?_concat_eq_some.mp found' with before' | ⟨_, rfl⟩
            · have inside := (List.getElem?_eq_some_iff.mp before').1
              rw [last, twin.length] at inside
              exact absurd inside (Nat.lt_irrefl _)
            · have missing : s.meter? r = none :=
                List.getElem?_eq_none (Nat.le_of_eq last.symm)
              exact Meter.Twin.ofSetup setup fun place => twin.blank r place missing
        · intro r place missing
          refine twin.blank r place (List.getElem?_eq_none ?_)
          have outside := List.getElem?_eq_none_iff.mp missing
          rw [List.length_append] at outside
          exact Nat.le_trans (Nat.le_add_right ..) outside
      exact ⟨congrArg (fun n => Except.ok (MeterRef.mk n)) twin.length, made.note _⟩

private theorem createRegistry (twin : s.Twin ρ course s') (k : SinkRef) :
    (s'.createRegistry k).1 = (s.createRegistry k).1 ∧
      State.Twin ρ course (s.createRegistry k).2 (s'.createRegistry k).2 := by
  rw [State.createRegistry, State.createRegistry, twin.sink?_eq, twin.registries]
  cases s.sink? k with
  | none => exact ⟨rfl, twin⟩
  | some _ => exact ⟨rfl, twin.sinks, rfl, twin.journal, twin.length, twin.meters, twin.blank⟩

private theorem getMeter (twin : s.Twin ρ course s') (k : RegistryRef) (name : String) :
    (s'.getMeter k name).1 = (s.getMeter k name).1 ∧
      State.Twin ρ course (s.getMeter k name).2 (s'.getMeter k name).2 := by
  have registry : s'.registryAt? k = s.registryAt? k := by
    rw [registryAt?, twin.registries, registryAt?]
  rw [State.getMeter, State.getMeter, registry]
  cases s.registryAt? k with
  | none => exact ⟨rfl, twin⟩
  | some registry =>
      simp only
      cases registry.meters.lookup name with
      | some r => exact ⟨rfl, twin⟩
      | none =>
          simp only
          obtain ⟨answer, made⟩ := twin.createMeter ⟨name, none, registry.sink, Stripe.default⟩
          cases done : s.createMeter ⟨name, none, registry.sink, Stripe.default⟩ with
          | mk answer₁ s₁ =>
              cases done' : s'.createMeter ⟨name, none, registry.sink, Stripe.default⟩ with
              | mk answer₂ s₂ =>
                  rw [done, done'] at answer made
                  cases answer
                  cases answer₁ with
                  | error e => exact ⟨rfl, made⟩
                  | ok r =>
                      refine ⟨rfl, made.sinks, ?_, made.journal, made.length, made.meters,
                        made.blank⟩
                      change s₂.registries.modify k.index _ = s₁.registries.modify k.index _
                      rw [made.registries]

/-- A request other than to bind comes to the same in twins, for the course that both have. -/
theorem perform_of_ne_bind (twin : s.Twin ρ course s') {operation : Operation}
    (other : ∀ i labels, operation ≠ .bind i labels) :
    Alike ρ course (s.perform operation) (s'.perform (operation.rename ρ)) := by
  cases operation with
  | bind i labels => exact absurd rfl (other i labels)
  | createMeter setup => exact alike_of_eq nofun (twin.createMeter setup)
  | createRegistry k => exact alike_of_eq nofun (twin.createRegistry k)
  | getMeter k name => exact alike_of_eq nofun (twin.getMeter k name)
  | unbind i h => exact alike_of_eq nofun (twin.unbind i h)
  | put b i value => exact alike_of_eq nofun (twin.put b i value)
  | build r setup =>
      exact alike_of_eq nofun (twin.atMeter r fun m m' meters => (meters.build setup).map _)
  | record i value labels =>
      exact alike_of_eq nofun (twin.atMeter i.meter fun m m' meters =>
        meters.record i.index value labels)
  | recordBound h value =>
      exact alike_of_eq nofun (twin.atMeter h.instrument.meter fun m m' meters =>
        meters.recordBound _ h.identity value)
  | openBatch r labels =>
      exact alike_of_eq nofun (twin.atMeter r fun m m' meters => (meters.openBatch labels).map _)
  | commit b =>
      exact alike_of_eq nofun (twin.atMeter b.meter fun m m' meters => meters.commit b.index)
  | setCallback i program =>
      exact alike_of_eq nofun (twin.atMeter i.meter fun m m' meters =>
        meters.setCallback i.index program)

/-- **Twins answer a request alike**, up to the names of handles, and stay twins. -/
theorem perform (s : State) (operation : Operation) (after : Course) :
    ∃ before, ∀ ρ s', State.Twin ρ before s s' →
      Alike ρ after (s.perform operation) (s'.perform (operation.rename ρ)) := by
  by_cases binds : ∃ i labels, operation = .bind i labels
  · obtain ⟨i, labels, rfl⟩ := binds
    exact ⟨s.foresee i labels true after, fun ρ s' twin => twin.bind⟩
  · exact ⟨after, fun ρ s' twin => twin.perform_of_ne_bind fun i labels same =>
      binds ⟨i, labels, same⟩⟩

end State.Twin

end Metering
