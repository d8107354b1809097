import Metering.Proofs.Apart.Moving
import Metering.Proofs.Apart.Reporting
import Metering.Proofs.Apart.Traffic

/-! # A meter by itself

Beside a state with many meters stands one that has a single meter of them, as it is there, and
whose registries list nothing else. What is requested of this meter comes to the same in both
(`Metering.State.Apart.perform_own`), and what is requested of the others does not show in the
second (`Metering.State.Apart.perform_other`).
-/

namespace Metering

/-- The registry with the entries of one meter alone, which stands first. -/
def Registry.only (r : MeterRef) (registry : Registry) : Registry :=
  { registry with
    meters := (registry.meters.filter fun entry => entry.2 = r).map fun entry => (entry.1, ⟨0⟩) }

/-- The traffic of one meter alone, which stands first. -/
def onlyFrom (r : MeterRef) (traffic : List (MeterRef × Delivery)) : List (MeterRef × Delivery) :=
  (traffic.filter fun entry => entry.1 = r).map fun entry => (⟨0⟩, entry.2)

section Traffic

variable {r : MeterRef}

/-- What comes from a meter in two stretches of traffic, one after the other. -/
theorem onlyFrom_append (earlier later : List (MeterRef × Delivery)) :
    onlyFrom r (earlier ++ later) = onlyFrom r earlier ++ onlyFrom r later := by
  rw [onlyFrom, List.filter_append, List.map_append]
  rfl

private theorem onlyFrom_own (deliveries : List Delivery) :
    onlyFrom r (deliveries.map (r, ·)) = deliveries.map (⟨0⟩, ·) := by
  rw [onlyFrom, List.filter_map, List.map_map, List.filter_eq_self.mpr fun _ _ => by simp]
  rfl

private theorem onlyFrom_eq_nil {traffic : List (MeterRef × Delivery)}
    (others : ∀ entry ∈ traffic, entry.1 ≠ r) : onlyFrom r traffic = [] := by
  rw [onlyFrom, List.map_eq_nil_iff, List.filter_eq_nil_iff]
  exact fun entry member same => others entry member (of_decide_eq_true same)

end Traffic

namespace Registry

variable {r : MeterRef} {registry : Registry} {name : String}

private theorem lookup_only (known : registry.meters.lookup name = some r) :
    (registry.only r).meters.lookup name = some ⟨0⟩ := by
  obtain ⟨before, after, split, new⟩ := List.lookup_eq_some_iff.mp known
  refine List.lookup_eq_some_iff.mpr
    ⟨(before.filter fun entry => entry.2 = r).map fun entry => (entry.1, ⟨0⟩),
      (after.filter fun entry => entry.2 = r).map fun entry => (entry.1, ⟨0⟩), ?_, ?_⟩
  · rw [only, split, List.filter_append, List.filter_cons_of_pos (by simp), List.map_append,
      List.map_cons]
  · intro entry member
    obtain ⟨entry, kept, rfl⟩ := List.mem_map.mp member
    exact new entry (List.mem_filter.mp kept).1

private theorem lookup_only_eq_none (unknown : registry.meters.lookup name = none) :
    (registry.only r).meters.lookup name = none := by
  rw [List.lookup_eq_none_iff] at unknown ⊢
  intro entry member
  obtain ⟨entry, kept, rfl⟩ := List.mem_map.mp member
  exact unknown entry (List.mem_filter.mp kept).1

private theorem only_enter_own (registry : Registry) (name : String) (r : MeterRef) :
    (registry.enter [(name, r)]).only r = (registry.only r).enter [(name, ⟨0⟩)] := by
  have kept : [(name, r)].filter (fun entry => entry.2 = r) = [(name, r)] := by simp
  simp only [only, enter, List.filter_append, kept, List.map_append, List.map_cons, List.map_nil]

private theorem only_enter_other (registry : Registry) (name : String) {other : MeterRef}
    (different : other ≠ r) : (registry.enter [(name, other)]).only r = registry.only r := by
  have dropped : [(name, other)].filter (fun entry => entry.2 = r) = [] := by simp [different]
  simp only [only, enter, List.filter_append, dropped, List.append_nil]

end Registry

namespace State

variable {r q : MeterRef} {s s' t t' : State} {operation : Operation}

/-! ## What a request changes -/

private theorem meter?_perform_of_home (home : operation.home? = some q) (other : MeterRef) :
    (s.perform operation).2.meter? other =
      if other = q then (s.meter? q).map fun m => (m.answer q operation).meter
      else s.meter? other := by
  rw [perform_of_home home, atMeter]
  cases standing : s.meter? q with
  | none =>
      by_cases same : other = q
      · rw [if_pos same, same, standing]
        rfl
      · rw [if_neg same]
  | some m =>
      rw [meter?, meters_giveAll]
      exact meter?_setMeter standing _ other

private theorem registries_perform_of_home (home : operation.home? = some q) :
    (s.perform operation).2.registries = s.registries := by
  rw [perform_of_home home, registries_atMeter]

private theorem length_sinks_perform (s : State) (operation : Operation) :
    (s.perform operation).2.sinks.length = s.sinks.length :=
  Place.length_eq_of_told fun place => s.sink?_perform operation ⟨place⟩

private theorem createMeter_cases (s : State) (setup : MeterSetup) :
    (s.sink? setup.sink = none ∧ s.createMeter setup = (.error .absent, s)) ∨
    ((∃ sink, s.sink? setup.sink = some sink) ∧ s.createMeter setup =
      (.ok ⟨s.meters.length⟩, { s with meters := s.meters ++ [Meter.ofSetup setup] }.note
        (.meterCreated setup.name (Stripe.count setup.stripes)))) := by
  rw [createMeter]
  cases s.sink? setup.sink with
  | none => exact Or.inl ⟨rfl, rfl⟩
  | some sink => exact Or.inr ⟨⟨sink, rfl⟩, rfl⟩

/-- A meter asked to set no callback but one that only reports has only such callbacks then. -/
theorem quiet_perform (quiet : ∀ q m, s.meter? q = some m → m.Quiet)
    (home : operation.home? = some q) (reports : operation.reports = true) :
    ∀ q m, (s.perform operation).2.meter? q = some m → m.Quiet := by
  intro other m found
  rw [meter?_perform_of_home home] at found
  split at found
  · obtain ⟨before, standing, rfl⟩ := Option.map_eq_some_iff.mp found
    exact (quiet q before standing).answer q reports
  · exact quiet other m found

/-! ## States apart -/

/-- **A state, and one beside it that has a single meter of it.** -/
structure Apart (r : MeterRef) (s s' : State) : Prop where
  quiet : ∀ q m, s.meter? q = some m → m.Quiet
  meters : ∀ q, s'.meter? q = if q = ⟨0⟩ then s.meter? r else none
  sinks : s'.sinks.length = s.sinks.length
  registries : s'.registries = s.registries.map (Registry.only r)

/-- What is done in the one state comes to the same in the other. -/
structure Alike {α : Type} (r : MeterRef) (move : α → α) (done done' : α × State)
    (told told' : List (MeterRef × Delivery)) : Prop where
  answer : done'.1 = move done.1
  told : told' = onlyFrom r told
  apart : Apart r done.2 done'.2

/-- What is done in the one state does not show in the other. -/
structure Aside {α : Type} (r : MeterRef) (s' : State) (done : α × State)
    (told : List (MeterRef × Delivery)) : Prop where
  told : onlyFrom r told = []
  apart : Apart r done.2 s'

/-- A meter made or found in the one state: the one that the other has, or a different one, or
none. -/
def Obtains (r : MeterRef) (s' : State) (done done' : Except Failure MeterRef × State) : Prop :=
  (done.1 = .ok r ∧ done'.1 = .ok ⟨0⟩ ∧ Apart r done.2 done'.2) ∨
    (done.1 ≠ .ok r ∧ Apart r done.2 s')

/-- With nothing there, a meter that is not there is apart. -/
theorem apart_empty (r : MeterRef) : Apart r .empty .empty where
  quiet _ _ found := by cases found
  meters q := by split <;> rfl
  sinks := rfl
  registries := rfl

variable (apart : Apart r s s')

include apart

/-- The meter stands as it does among the others. -/
theorem Apart.meter?_first : s'.meter? ⟨0⟩ = s.meter? r :=
  (apart.meters ⟨0⟩).trans (if_pos rfl)

private theorem Apart.exists_sink {k : SinkRef} {sink : Sink} (there : s.sink? k = some sink) :
    ∃ sink', s'.sink? k = some sink' := by
  have inside := (List.getElem?_eq_some_iff.mp there).1
  exact ⟨_, List.getElem?_eq_getElem (apart.sinks ▸ inside)⟩

private theorem Apart.sink?_eq_none {k : SinkRef} (missing : s.sink? k = none) :
    s'.sink? k = none :=
  List.getElem?_eq_none (apart.sinks ▸ List.getElem?_eq_none_iff.mp missing)

private theorem Apart.registryAt? (k : RegistryRef) :
    s'.registryAt? k = (s.registryAt? k).map (Registry.only r) := by
  rw [State.registryAt?, apart.registries, List.getElem?_map]
  rfl

private theorem Apart.further (home : operation.home? = some q) (reports : operation.reports = true)
    (meters : ∀ q, t'.meter? q = if q = ⟨0⟩ then (s.perform operation).2.meter? r else none)
    (sinks : t'.sinks.length = s'.sinks.length) (registries : t'.registries = s'.registries) :
    Apart r (s.perform operation).2 t' where
  quiet := quiet_perform apart.quiet home reports
  meters := meters
  sinks := by rw [sinks, apart.sinks, length_sinks_perform]
  registries := by rw [registries, registries_perform_of_home home, apart.registries]

/-- **A request of the meter comes to the same.** -/
theorem Apart.perform_own (home : operation.home? = some r) (reports : operation.reports = true) :
    Alike r (Except.map (Reply.moveTo ⟨0⟩)) (s.perform operation)
      (s'.perform (operation.moveTo ⟨0⟩)) (s.given operation)
      (s'.given (operation.moveTo ⟨0⟩)) := by
  have home' := operation.home?_moveTo ⟨0⟩ home
  have first := apart.meter?_first
  refine ⟨?_, ?_, apart.further home reports (fun q => ?_) (length_sinks_perform ..)
    (registries_perform_of_home home')⟩
  · rw [perform_of_home home, perform_of_home home', atMeter, atMeter, first]
    cases s.meter? r with
    | none => rfl
    | some m => exact congrArg Outcome.answer (m.answer_moveTo ⟨0⟩ home)
  · cases standing : s.meter? r with
    | none => rw [given_of_absent home standing, given_of_absent home' (first.trans standing)]; rfl
    | some m =>
        rw [given_of_home home standing, given_of_home home' (first.trans standing),
          m.answer_moveTo ⟨0⟩ home, onlyFrom_own]
        rfl
  · rw [meter?_perform_of_home home', meter?_perform_of_home home, if_pos rfl, first, apart.meters]
    split
    · refine congrArg (Option.map · _) (funext fun m => ?_)
      rw [m.answer_moveTo ⟨0⟩ home]
      rfl
    · rfl

/-- **A request of another meter does not show.** -/
theorem Apart.perform_other (home : operation.home? = some q) (other : q ≠ r)
    (reports : operation.reports = true) :
    Aside r s' (s.perform operation) (s.given operation) where
  told := onlyFrom_eq_nil fun entry member same => by
    have from_home := (known_of_given entry member).1
    rw [home, same] at from_home
    exact other (Option.some.inj from_home)
  apart := apart.further home reports
    (fun _ => by rw [meter?_perform_of_home home, if_neg (Ne.symm other), apart.meters]) rfl rfl

/-- A new sink keeps a meter apart. -/
theorem Apart.createSink (sink : Sink) :
    Apart r (s.createSink sink).2 (s'.createSink sink).2 where
  quiet := apart.quiet
  meters := apart.meters
  sinks := by
    change (s'.sinks ++ [sink]).length = (s.sinks ++ [sink]).length
    rw [List.length_append, List.length_append, apart.sinks]
  registries := apart.registries

/-- An entry in the journal keeps a meter apart. -/
theorem Apart.note (entry entry' : Entry) : Apart r (s.note entry) (s'.note entry') :=
  ⟨apart.quiet, apart.meters, apart.sinks, apart.registries⟩

private theorem Apart.quiet_of_concat {m : Meter} (quiet : m.Quiet)
    (grown : t.meters = s.meters ++ [m]) :
    ∀ q m, t.meter? q = some m → m.Quiet := by
  intro q m' found
  rw [meter?_of_concat grown] at found
  split at found
  · exact Option.some.inj found ▸ quiet
  · exact apart.quiet q m' found

/-- Where the one state makes the meter, the other has none yet. -/
theorem Apart.length_meters (own : ⟨s.meters.length⟩ = r) : s'.meters.length = 0 := by
  have missing : s.meter? r = none := own ▸ List.getElem?_eq_none (Nat.le_refl _)
  exact Nat.le_zero.mp (List.getElem?_eq_none_iff.mp (apart.meter?_first.trans missing))

/-- A new meter, made in both states. -/
theorem Apart.made {m : Meter} (own : ⟨s.meters.length⟩ = r) (quiet : m.Quiet)
    (grown : t.meters = s.meters ++ [m]) (grown' : t'.meters = s'.meters ++ [m])
    (sinks : t.sinks = s.sinks) (sinks' : t'.sinks = s'.sinks)
    (registries : t'.registries = t.registries.map (Registry.only r)) : Apart r t t' where
  quiet := apart.quiet_of_concat quiet grown
  meters q := by
    rw [meter?_of_concat grown', meter?_of_concat grown, if_pos own.symm, apart.length_meters own,
      apart.meters]
    split <;> rfl
  sinks := by rw [sinks, sinks', apart.sinks]
  registries := registries

/-- A new meter, made in the one state alone. -/
theorem Apart.made_other {m : Meter} (other : ⟨s.meters.length⟩ ≠ r) (quiet : m.Quiet)
    (grown : t.meters = s.meters ++ [m]) (sinks : t.sinks = s.sinks)
    (registries : s'.registries = t.registries.map (Registry.only r)) : Apart r t s' where
  quiet := apart.quiet_of_concat quiet grown
  meters _ := by rw [meter?_of_concat grown, if_neg (Ne.symm other), apart.meters]
  sinks := by rw [sinks, apart.sinks]
  registries := registries

/-- Making a meter is getting one, whichever it is. -/
theorem Apart.createMeter (setup : MeterSetup) :
    Obtains r s' (s.createMeter setup) (s'.createMeter setup) := by
  rcases s.createMeter_cases setup with ⟨_, done⟩ | ⟨⟨sink, there⟩, done⟩
  · rw [done]
    exact Or.inr ⟨nofun, apart⟩
  obtain ⟨sink', there'⟩ := apart.exists_sink there
  rcases s'.createMeter_cases setup with ⟨missing, _⟩ | ⟨_, done'⟩
  · cases missing.symm.trans there'
  rw [done, done']
  by_cases own : ⟨s.meters.length⟩ = r
  · refine Or.inl ⟨congrArg _ own, ?_, apart.made own (Meter.quiet_ofSetup setup) rfl rfl rfl rfl
      apart.registries⟩
    rw [apart.length_meters own]
  · exact Or.inr ⟨fun same => own (Except.ok.inj same),
      apart.made_other own (Meter.quiet_ofSetup setup) rfl rfl apart.registries⟩

/-- Getting a meter by name comes to the same with the other meters away. -/
theorem Apart.getMeter (k : RegistryRef) (name : String) :
    Obtains r s' (s.getMeter k name) (s'.getMeter k name) := by
  rcases s.getMeter_cases k name with
    ⟨_, done, _⟩ | ⟨registry, found, standing, known, done⟩ |
    ⟨registry, sink, standing, there, unknown, done⟩
  · rw [done]
    exact Or.inr ⟨nofun, apart⟩
  · by_cases own : found = r
    · subst own
      have done' : s'.getMeter k name = (.ok ⟨0⟩, s') := by
        rw [State.getMeter, apart.registryAt?, standing]
        simp only [Option.map_some, Registry.lookup_only known]
      rw [done, done']
      exact Or.inl ⟨rfl, rfl, apart⟩
    · rw [done]
      exact Or.inr ⟨fun same => own (Except.ok.inj same), apart⟩
  -- The registry makes a meter. Either it is the one meter, and then the registry of the second
  -- state, which has no entry of the name either, makes it too; or its entry is left out there.
  · by_cases own : ⟨s.meters.length⟩ = r
    · have standing' : s'.registryAt? k = some (registry.only r) := by
        rw [apart.registryAt?, standing, Option.map_some]
      have unknown' := Registry.lookup_only_eq_none (r := r) unknown
      have entries : (registry.only r).enter (entriesFrom s'.meters.length [name]) =
          (registry.enter (entriesFrom s.meters.length [name])).only r := by
        rw [apart.length_meters own]
        exact own ▸ (registry.only_enter_own name ⟨s.meters.length⟩).symm
      obtain ⟨sink', there'⟩ := apart.exists_sink there
      rcases s'.getMeter_cases k name with
        ⟨_, _, missing⟩ | ⟨other, _, same, known, _⟩ | ⟨other, _, same, _, _, done'⟩
      · exact (missing (registry.only r) sink' standing' there').elim
      · cases standing'.symm.trans same
        cases unknown'.symm.trans known
      · cases standing'.symm.trans same
        rw [done, done']
        refine Or.inl ⟨congrArg _ own, ?_, apart.made own (Meter.quiet_ofSetup _) rfl rfl rfl rfl
          ?_⟩
        · rw [apart.length_meters own]
        · rw [serve, serve, List.map_set, ← entries, apart.registries]
    · rw [done]
      refine Or.inr ⟨fun same => own (Except.ok.inj same),
        apart.made_other own (Meter.quiet_ofSetup _) rfl rfl ?_⟩
      have entries : (registry.enter (entriesFrom s.meters.length [name])).only r =
          registry.only r := registry.only_enter_other name own
      rw [serve, List.map_set, entries, apart.registries, ← List.map_set, Place.set_self standing]

/-- Making a registry comes to the same with the other meters away. -/
theorem Apart.createRegistry (k : SinkRef) :
    (s'.createRegistry k).1 = (s.createRegistry k).1 ∧
      Apart r (s.createRegistry k).2 (s'.createRegistry k).2 := by
  rw [State.createRegistry, State.createRegistry]
  cases there : s.sink? k with
  | none =>
      rw [apart.sink?_eq_none there]
      exact ⟨rfl, apart⟩
  | some sink =>
      obtain ⟨sink', there'⟩ := apart.exists_sink there
      rw [there']
      refine ⟨?_, apart.quiet, apart.meters, apart.sinks, ?_⟩
      · rw [apart.registries, List.length_map]
      · rw [apart.registries, List.map_append]
        rfl

end State

end Metering
