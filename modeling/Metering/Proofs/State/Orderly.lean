import Metering.Proofs.Meter.Names
import Metering.Proofs.State.Giving
import Metering.Proofs.Stream.History

/-! # Orderly states

A request leaves each meter as it is, changes the bindings, the callback or the batches of it, or
registers one instrument (`Metering.Meter.Becomes`); and it leaves the registries as they are, or
makes one, or enters a new meter in one (`Metering.State.Evolves`). So every history leads to an
orderly state: all meters are orderly, and each registry lists distinct names, each with a meter of
that name that reports to the registry's sink (`Metering.State.orderly_of_history`).
-/

namespace Metering

namespace Meter

/-- **What a request makes of a meter.** -/
inductive Becomes (m : Meter) : Meter → Prop where
  | same : Becomes m m
  | changed (place : Nat) (f : Instrument → Instrument)
      (descriptor : ∀ i, (f i).descriptor = i.descriptor) (config : ∀ i, (f i).config = i.config) :
      Becomes m (m.modifyInstrument place f)
  | batched (batches : List Batch) (nextBatch : Nat) :
      Becomes m { m with batches := batches, nextBatch := nextBatch }
  | registered (config : Config) (free : ∀ i ∈ m.instruments, i.config.name ≠ config.name)
      (named : Name.fault? config.name = none) (regular : config.Regular) :
      Becomes m (m.add config).meter

variable {m m' : Meter}

/-- A meter keeps its name and its sink. -/
theorem Becomes.fixed (becomes : m.Becomes m') : m'.name = m.name ∧ m'.sink = m.sink := by
  cases becomes with
  | same | changed | batched | registered => exact ⟨rfl, rfl⟩

/-- A meter keeps its stripes. -/
theorem Becomes.stripes (becomes : m.Becomes m') : m'.stripes = m.stripes := by
  cases becomes with
  | same | changed | batched | registered => rfl

/-- An instrument that stands stays as it was registered. -/
theorem Becomes.instrument (becomes : m.Becomes m') {place : Nat} {i : Instrument}
    (found : m.instruments[place]? = some i) : ∃ i', m'.instruments[place]? = some i' ∧
      i'.descriptor = i.descriptor ∧ i'.config = i.config := by
  cases becomes with
  | same | batched => exact ⟨i, found, rfl, rfl⟩
  | registered => exact ⟨i, Place.getElem?_concat_eq_some.mpr (Or.inl found), rfl, rfl⟩
  | changed other f descriptor config =>
      refine ⟨_, Place.getElem?_modify_eq_some.mpr ⟨i, found, rfl⟩, ?_⟩
      split
      · exact ⟨descriptor i, config i⟩
      · exact ⟨rfl, rfl⟩

private theorem Orderly.becomes (orderly : m.Orderly) (becomes : m.Becomes m') : m'.Orderly := by
  cases becomes with
  | same => exact orderly
  | batched batches nextBatch =>
      exact ⟨orderly.described, orderly.next, orderly.distinct, orderly.named, orderly.regular⟩
  | registered config free named regular => exact orderly.add free named regular
  | changed place f descriptor config =>
      have names : (m.instruments.modify place f).map (fun i => i.config.name) =
          m.instruments.map fun i => i.config.name := by
        refine List.ext_getElem? fun other => ?_
        rw [List.getElem?_map, List.getElem?_map, List.getElem?_modify]
        cases m.instruments[other]? with
        | none => rfl
        | some i => by_cases same : place = other <;> simp [same, config]
      have of_mem (i : Instrument) (member : i ∈ m.instruments.modify place f) :
          ∃ j ∈ m.instruments, i.config = j.config := by
        obtain ⟨other, found⟩ := List.mem_iff_getElem?.mp member
        obtain ⟨j, standing, rfl⟩ := Place.getElem?_modify_eq_some.mp found
        refine ⟨j, List.mem_of_getElem? standing, ?_⟩
        split
        · exact config j
        · rfl
      constructor
      · intro other i found
        obtain ⟨j, standing, rfl⟩ := Place.getElem?_modify_eq_some.mp found
        have described := orderly.described other j standing
        split
        · rw [descriptor, config, described]
          rfl
        · exact described
      · exact orderly.next.trans (List.length_modify ..).symm
      · change ((m.instruments.modify place f).map fun i => i.config.name).Nodup
        rw [names]
        exact orderly.distinct
      · intro i member
        obtain ⟨j, standing, same⟩ := of_mem i member
        exact same ▸ orderly.named j standing
      · intro i member
        obtain ⟨j, standing, same⟩ := of_mem i member
        exact same ▸ orderly.regular j standing

section Requests

variable (m : Meter)

private theorem becomes_of_fail
    {α : Type} {outcome : Outcome α} {e : Failure} (failed : outcome = m.fail e) :
    m.Becomes outcome.meter := by
  rw [failed]
  exact .same

private theorem becomes_record (place : Nat) (value : Value) (labels : LabelSet) :
    m.Becomes (m.record place value labels).meter := by
  rcases m.record_cases place value labels with ⟨e, failed, _⟩ | ⟨i, _, _, outcome⟩
  · exact m.becomes_of_fail failed
  · rw [outcome]
    exact .same

private theorem becomes_bind (place : Nat) (labels : LabelSet) :
    m.Becomes (m.bind place labels).meter := by
  rcases m.bind_cases place labels with failed | ⟨i, _, outcome⟩
  · exact m.becomes_of_fail failed
  · rw [outcome]
    exact .changed place _ (fun _ => rfl) fun _ => rfl

private theorem becomes_recordBound (place identity : Nat) (value : Value) :
    m.Becomes (m.recordBound place identity value).meter := by
  rcases m.recordBound_cases place identity value with ⟨e, failed, _⟩ | ⟨_, _, _, _, _, _, outcome⟩
  · exact m.becomes_of_fail failed
  · rw [outcome]
    exact .same

private theorem becomes_unbind (place identity : Nat) :
    m.Becomes (m.unbind place identity).meter := by
  rcases m.unbind_cases place identity with ⟨e, failed, _⟩ | ⟨_, _, _, _, _, _, _, outcome⟩
  · exact m.becomes_of_fail failed
  · rw [outcome]
    exact .changed place _ (fun _ => rfl) fun _ => rfl

private theorem becomes_setCallback (place : Nat) (program : List Action) :
    m.Becomes (m.setCallback place program).meter := by
  rcases m.setCallback_cases place program with ⟨e, failed, _⟩ | ⟨_, _, _, outcome⟩
  · exact m.becomes_of_fail failed
  · rw [outcome]
    exact .changed place _ (fun _ => rfl) fun _ => rfl

private theorem becomes_put (batchPlace : Nat) (offer : Offer) (value : Value) :
    m.Becomes (m.put batchPlace offer value).meter := by
  rcases m.put_cases batchPlace offer value with ⟨e, failed, _⟩ | ⟨_, _, _, _, _, _, _, _, outcome⟩
  · exact m.becomes_of_fail failed
  · rw [outcome]
    exact .batched _ _

private theorem becomes_commit (batchPlace : Nat) : m.Becomes (m.commit batchPlace).meter := by
  rcases m.commit_cases batchPlace with ⟨e, failed, _⟩ | ⟨_, _, _, outcome⟩
  · exact m.becomes_of_fail failed
  · rw [outcome]
    exact .batched _ _

private theorem becomes_build (setup : InstrumentSetup) : m.Becomes (m.build setup).meter := by
  rcases m.build_cases setup with ⟨_, _, failed⟩ | ⟨named, registered⟩
  · exact m.becomes_of_fail failed
  · rw [registered]
    rcases m.register_cases setup.config with
      ⟨_, _, _, _, _, outcome⟩ | ⟨_, _, _, _, outcome⟩ | ⟨free, outcome⟩
    · rw [outcome]
      exact .same
    · rw [outcome]
      exact .same
    · rw [outcome]
      exact .registered setup.config free named setup.config_regular

end Requests

end Meter

namespace State

variable {s s' : State}

/-- **What a request makes of the meters and the registries.** -/
structure Evolves (s s' : State) : Prop where
  kept : ∀ (r : MeterRef) (m : Meter), s.meter? r = some m →
    ∃ m', s'.meter? r = some m' ∧ m.Becomes m'
  new : ∀ (r : MeterRef) (m' : Meter), s.meter? r = none → s'.meter? r = some m' →
    ∃ setup, m' = .ofSetup setup
  registries : s'.registries = s.registries ∨ (∃ k, s'.registries = s.registries ++ [⟨k, []⟩]) ∨
    ∃ place registry name r, s.registries[place]? = some registry ∧
      registry.meters.lookup name = none ∧ s.meter? r = none ∧
      s'.meter? r = some (.ofSetup ⟨name, none, registry.sink, Stripe.default⟩) ∧
      s'.registries = s.registries.set place
        { registry with meters := registry.meters ++ [(name, r)] }

private theorem evolves_refl : s.Evolves s where
  kept r m found := ⟨m, found, .same⟩
  new r m' missing found := by cases missing.symm.trans found
  registries := Or.inl rfl

/-- A change of the journal alone. -/
theorem evolves_of_same (meters : s'.meters = s.meters)
    (registries : s'.registries = s.registries) :
    s.Evolves s' where
  kept r m found := ⟨m, by rw [meter?, meters]; exact found, .same⟩
  new r m' missing found := by
    rw [meter?, meters] at found
    cases missing.symm.trans found
  registries := Or.inl registries

private theorem evolves_atMeter {α : Type} (r : MeterRef) {request : Meter → Outcome α}
    (becomes : ∀ m : Meter, m.Becomes (request m).meter) : s.Evolves (s.atMeter r request).2 := by
  rw [atMeter]
  cases found : s.meter? r with
  | none => exact evolves_refl
  | some m =>
      have meters (other : MeterRef) :
          (({ s with meters := s.meters.set r.index (request m).meter } : State).giveAll m.sink
            (request m).output).meter? other =
              if other = r then some (request m).meter else s.meter? other := by
        rw [meter?, meters_giveAll]
        exact meter?_setMeter found _ other
      constructor
      · intro other m' standing
        rw [meters]
        split
        · next same =>
            subst same
            cases found.symm.trans standing
            exact ⟨_, rfl, becomes m⟩
        · exact ⟨m', standing, .same⟩
      · intro other m' missing standing
        rw [meters] at standing
        split at standing
        · next same =>
            subst same
            cases found.symm.trans missing
        · cases missing.symm.trans standing
      · exact Or.inl (registries_giveAll ..)

/-- A meter that is created is new, and leaves the others and the registries. -/
theorem meter?_createMeter {setup : MeterSetup} {r : MeterRef}
    (done : s.createMeter setup = (.ok r, s')) : s.meter? r = none ∧
      (∀ other, s'.meter? other = if other = r then some (.ofSetup setup) else s.meter? other) ∧
      s'.registries = s.registries := by
  unfold createMeter at done
  split at done
  · cases done
  · cases done
    exact ⟨List.getElem?_eq_none (Nat.le_refl _), meter?_of_concat rfl, rfl⟩

private theorem evolves_createMeter (s : State) (setup : MeterSetup) :
    s.Evolves (s.createMeter setup).2 := by
  cases done : s.createMeter setup with
  | mk answer s' =>
      cases answer with
      | error e =>
          obtain ⟨rfl, _⟩ := createMeter_failed done
          exact evolves_refl
      | ok r =>
          obtain ⟨missing, meters, registries⟩ := meter?_createMeter done
          constructor
          · intro other m found
            rw [meters]
            split
            · next same => cases (same ▸ missing).symm.trans found
            · exact ⟨m, found, .same⟩
          · intro other m' absent found
            rw [meters] at found
            split at found
            · exact ⟨setup, (Option.some.inj found).symm⟩
            · cases absent.symm.trans found
          · exact Or.inl registries

private theorem evolves_getMeter (s : State) (k : RegistryRef) (name : String) :
    s.Evolves (s.getMeter k name).2 := by
  rw [getMeter]
  cases standing : s.registryAt? k with
  | none => exact evolves_refl
  | some registry =>
      simp only
      cases known : registry.meters.lookup name with
      | some r => exact evolves_refl
      | none =>
          simp only
          have evolves := s.evolves_createMeter ⟨name, none, registry.sink, Stripe.default⟩
          cases done : s.createMeter ⟨name, none, registry.sink, Stripe.default⟩ with
          | mk answer s' =>
              rw [done] at evolves
              cases answer with
              | error e => exact evolves
              | ok r =>
                  obtain ⟨missing, meters, registries⟩ := meter?_createMeter done
                  refine ⟨evolves.kept, evolves.new, Or.inr (Or.inr
                    ⟨k.index, registry, name, r, standing, known, missing, ?_, ?_⟩)⟩
                  · exact (meters r).trans (if_pos rfl)
                  · change s'.registries.modify k.index _ = _
                    rw [registries, Place.modify_eq_set standing]

/-- **Every request lets the state evolve.** -/
theorem evolves_perform (s : State) (operation : Operation) :
    s.Evolves (s.perform operation).2 := by
  cases operation with
  | createMeter setup => exact s.evolves_createMeter setup
  | getMeter k name => exact s.evolves_getMeter k name
  | createRegistry k =>
      change s.Evolves (s.createRegistry k).2
      rw [createRegistry]
      cases s.sink? k with
      | none => exact evolves_refl
      | some sink =>
          exact ⟨fun _ m found => ⟨m, found, .same⟩,
            fun _ _ missing found => (by cases missing.symm.trans found), Or.inr (Or.inl ⟨k, rfl⟩)⟩
  | build r setup =>
      change s.Evolves (s.atMeter r fun m => (m.build setup).map (InstrumentRef.mk r)).2
      exact evolves_atMeter r fun m => m.becomes_build setup
  | record i value labels =>
      exact evolves_atMeter i.meter fun m => m.becomes_record i.index value labels
  | bind i labels =>
      change s.Evolves (s.atMeter i.meter fun m => (m.bind i.index labels).map (Handle.mk i)).2
      exact evolves_atMeter i.meter fun m => m.becomes_bind i.index labels
  | recordBound h value =>
      exact evolves_atMeter h.instrument.meter fun m =>
        m.becomes_recordBound h.instrument.index h.identity value
  | unbind i h =>
      change s.Evolves (s.unbind i h).2
      unfold unbind
      split
      · split
        · exact evolves_atMeter i.meter fun m => m.becomes_unbind i.index h.identity
        · exact evolves_refl
      · exact evolves_refl
  | openBatch r labels =>
      change s.Evolves (s.atMeter r fun m => (m.openBatch labels).map (BatchRef.mk r)).2
      exact evolves_atMeter r fun m => .batched (m.batches ++ [⟨labels, [], false⟩]) m.nextBatch
  | put b i value =>
      change s.Evolves (s.put b i value).2
      unfold put
      split
      · exact evolves_refl
      · exact evolves_atMeter b.meter fun m => m.becomes_put b.index _ value
  | commit b => exact evolves_atMeter b.meter fun m => m.becomes_commit b.index
  | setCallback i program =>
      exact evolves_atMeter i.meter fun m => m.becomes_setCallback i.index program

/-- **Orderly states.** -/
structure Orderly (s : State) : Prop where
  meters : ∀ (r : MeterRef) (m : Meter), s.meter? r = some m → m.Orderly
  /-- A registry lists distinct names. -/
  distinct : ∀ (place : Nat) (registry : Registry), s.registries[place]? = some registry →
    (registry.meters.map Prod.fst).Nodup
  /-- Under each name stands a meter of that name that reports to the sink of the registry. -/
  listed : ∀ (place : Nat) (registry : Registry), s.registries[place]? = some registry →
    ∀ (name : String) (r : MeterRef), (name, r) ∈ registry.meters →
      ∃ m, s.meter? r = some m ∧ m.name = name ∧ m.sink = registry.sink

/-- What becomes of an orderly state is orderly. -/
theorem Orderly.evolves (orderly : s.Orderly) (evolves : s.Evolves s') : s'.Orderly := by
  have kept {registry : Registry} {name : String} {r : MeterRef}
      (listed : ∃ m, s.meter? r = some m ∧ m.name = name ∧ m.sink = registry.sink) :
      ∃ m, s'.meter? r = some m ∧ m.name = name ∧ m.sink = registry.sink := by
    obtain ⟨m, found, named, reports⟩ := listed
    obtain ⟨m', found', becomes⟩ := evolves.kept r m found
    exact ⟨m', found', becomes.fixed.1.trans named, becomes.fixed.2.trans reports⟩
  have meters : ∀ r m, s'.meter? r = some m → m.Orderly := by
    intro r m' found
    cases before : s.meter? r with
    | none =>
        obtain ⟨setup, rfl⟩ := evolves.new r m' before found
        exact Meter.orderly_ofSetup setup
    | some m =>
        obtain ⟨m'', found', becomes⟩ := evolves.kept r m before
        cases found.symm.trans found'
        exact (orderly.meters r m before).becomes becomes
  rcases evolves.registries with same | ⟨k, grown⟩ |
    ⟨changed, old, name, r, standing, unknown, missing, made, entered⟩
  · refine ⟨meters, fun place registry found => ?_, fun place registry found name r member => ?_⟩
    · exact orderly.distinct place registry (same ▸ found)
    · exact kept (orderly.listed place registry (same ▸ found) name r member)
  · refine ⟨meters, fun place registry found => ?_, fun place registry found name r member => ?_⟩
    · rw [grown] at found
      rcases Place.getElem?_concat_eq_some.mp found with before | ⟨_, rfl⟩
      · exact orderly.distinct place registry before
      · exact List.nodup_nil
    · rw [grown] at found
      rcases Place.getElem?_concat_eq_some.mp found with before | ⟨_, rfl⟩
      · exact kept (orderly.listed place registry before name r member)
      · cases member
  · refine ⟨meters, fun place registry found => ?_, fun place registry found other r' member => ?_⟩
    · -- The name was unknown to the registry, and so the entry that it gains repeats none.
      rw [entered] at found
      rcases (Place.getElem?_set_eq_some standing).mp found with ⟨rfl, rfl⟩ | ⟨_, before⟩
      · rw [List.map_append, List.nodup_append]
        refine ⟨orderly.distinct place old standing, List.nodup_singleton _, ?_⟩
        intro first known second new same
        cases List.mem_singleton.mp new
        obtain ⟨entry, member, rfl⟩ := List.mem_map.mp known
        have differs := List.lookup_eq_none_iff.mp unknown entry member
        rw [same] at differs
        simp at differs
      · exact orderly.distinct place registry before
    · rw [entered] at found
      rcases (Place.getElem?_set_eq_some standing).mp found with ⟨rfl, rfl⟩ | ⟨_, before⟩
      · rcases List.mem_append.mp member with known | new
        · exact kept (orderly.listed place old standing other r' known)
        · cases List.mem_singleton.mp new
          exact ⟨_, made, rfl, rfl⟩
      · exact kept (orderly.listed place registry before other r' member)

/-- The empty state is orderly. -/
theorem orderly_empty : State.empty.Orderly where
  meters _ _ found := by cases found
  distinct _ _ found := by cases found
  listed _ _ found := by cases found

/-- **Every history leads to an orderly state.** -/
theorem orderly_of_history
    {sinks : List Sink} {calls : List Call} (history : History sinks calls s) :
    s.Orderly :=
  history.invariant (P := fun _ _ s => s.Orderly) orderly_empty
    (fun _ _ _ _ orderly => orderly.evolves (evolves_of_same rfl rfl))
    (fun _ _ s operation orderly => orderly.evolves (s.evolves_perform operation))
    fun _ _ _ _ orderly => orderly.evolves (evolves_of_same rfl rfl)

end State

end Metering
