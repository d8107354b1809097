import Metering.Proofs.State.Orderly
import Metering.Proofs.State.Routing
import Metering.Proofs.Stream.Faithful

/-! # Registries that serve names

A registry that has no meter of a name makes one, always with the same wishes but for the name, and
enters it at the end (`Metering.State.getMeter_cases`). In every history, a registry lists distinct
names, each with the meter that was made for it (`Metering.State.standing_of_history`).
-/

namespace Metering

private theorem Stripe.count_default : Stripe.count Stripe.default = Stripe.default := by
  decide

namespace Registry

/-- The wishes of a registry for the meter of a name. -/
def setup (registry : Registry) (name : String) : MeterSetup :=
  ⟨name, none, registry.sink, Stripe.default⟩

/-- The registry with more entries. -/
def enter (registry : Registry) (entries : List (String × MeterRef)) : Registry :=
  { registry with meters := registry.meters ++ entries }

/-- A meter as its registry made it for a name, whatever was built in it since. -/
structure Made (registry : Registry) (name : String) (m : Meter) : Prop where
  name : m.name = name
  version : m.version = none
  stripes : m.stripes = Stripe.default
  sink : m.sink = registry.sink

private theorem made_ofSetup (registry : Registry) (name : String) :
    registry.Made name (.ofSetup (registry.setup name)) := by
  refine ⟨rfl, rfl, ?_, rfl⟩
  simp only [Meter.ofSetup, setup]
  exact Stripe.count_default

/-- What a request makes of a meter does not show in how it was made. -/
theorem Made.becomes {registry : Registry} {name : String} {m m' : Meter}
    (made : registry.Made name m) (becomes : m.Becomes m') : registry.Made name m' := by
  cases becomes with
  | same | changed | batched | registered =>
      exact ⟨made.name, made.version, made.stripes, made.sink⟩

/-- A registry in order: its sink is there, and it lists distinct names, each with a meter made for
the name. -/
structure Standing (s : State) (registry : Registry) : Prop where
  sink : ∃ sink, s.sink? registry.sink = some sink
  distinct : (registry.meters.map Prod.fst).Nodup
  made : ∀ name r, (name, r) ∈ registry.meters → ∃ m, s.meter? r = some m ∧ registry.Made name m

/-- No meter stands under two names. -/
theorem Standing.nodup_meters {s : State} {registry : Registry} (standing : registry.Standing s) :
    (registry.meters.map Prod.snd).Nodup := by
  refine List.Nodup.of_map (fun r => (s.meter? r).map Meter.name) ?_
  have named : (registry.meters.map Prod.snd).map (fun r => (s.meter? r).map Meter.name) =
      (registry.meters.map Prod.fst).map some := by
    rw [List.map_map, List.map_map]
    refine List.map_congr_left fun entry member => ?_
    obtain ⟨m, found, made⟩ := standing.made entry.1 entry.2 member
    rw [Function.comp_apply, Function.comp_apply, found, Option.map_some, made.name]
  rw [named]
  exact standing.distinct.map fun _ _ => Option.some.inj

end Registry

/-- The entries of meters made one after the other for some names, the first of them at a place. -/
def entriesFrom (place : Nat) (names : List String) : List (String × MeterRef) :=
  (names.zipIdx place).map fun (name, index) => (name, ⟨index⟩)

/-- Entries made for names have those names. -/
theorem map_fst_entriesFrom (place : Nat) (names : List String) :
    (entriesFrom place names).map Prod.fst = names := by
  rw [entriesFrom, List.map_map]
  exact List.zipIdx_map_fst place names

private theorem entriesFrom_concat (place : Nat) (names : List String) (name : String) :
    entriesFrom place (names ++ [name]) =
      entriesFrom place names ++ [(name, ⟨place + names.length⟩)] := by
  rw [entriesFrom, List.zipIdx_append, List.map_append]
  rfl

namespace State

variable {s : State} {k : RegistryRef} {registry : Registry} {name : String}

/-- The state after a registry has made meters for some names, one after the other. -/
def serve (s : State) (k : RegistryRef) (registry : Registry) (names : List String) : State :=
  { s with
    meters := s.meters ++ names.map fun name => .ofSetup (registry.setup name)
    registries :=
      s.registries.set k.index (registry.enter (entriesFrom s.meters.length names))
    journal := s.journal ++ names.map fun name => .meterCreated name (Stripe.count Stripe.default) }

/-- A registry that has served names has an entry for each more. -/
theorem registryAt?_serve (found : s.registryAt? k = some registry) (names : List String) :
    (s.serve k registry names).registryAt? k =
      some (registry.enter (entriesFrom s.meters.length names)) :=
  List.getElem?_set_self (List.getElem?_eq_some_iff.mp found).1

/-- To serve no names changes nothing. -/
theorem serve_nil (found : s.registryAt? k = some registry) : s.serve k registry [] = s := by
  have same : s.registries.set k.index registry = s.registries := Place.set_self found
  have unchanged : registry.enter (entriesFrom s.meters.length []) = registry := by
    rw [Registry.enter]
    exact congrArg (Registry.mk registry.sink) (List.append_nil _)
  rw [serve, unchanged, same, List.map_nil, List.append_nil, List.map_nil, List.append_nil]

/-- A registry in order is in order after it has served further names. -/
theorem standing_serve (standing : registry.Standing s) {names : List String}
    (distinct : (registry.meters.map Prod.fst ++ names).Nodup) (k : RegistryRef) :
    (registry.enter (entriesFrom s.meters.length names)).Standing (s.serve k registry names) where
  sink := standing.sink
  distinct := by rwa [Registry.enter, List.map_append, map_fst_entriesFrom]
  made name r member := by
    rcases List.mem_append.mp member with before | new
    · obtain ⟨m, found, made⟩ := standing.made name r before
      obtain ⟨inside, _⟩ := List.getElem?_eq_some_iff.mp found
      exact ⟨m, (List.getElem?_append_left inside).trans found, made.name, made.version,
        made.stripes, made.sink⟩
    · obtain ⟨⟨_, index⟩, numbered, same⟩ := List.mem_map.mp new
      cases same
      obtain ⟨later, found⟩ := List.mem_zipIdx_iff_le_and_getElem?_sub.mp numbered
      refine ⟨.ofSetup (registry.setup name), ?_, (registry.enter _).made_ofSetup name⟩
      refine (List.getElem?_append_right later).trans ?_
      rw [List.getElem?_map, found]
      rfl

/-- A meter made later comes at the end. -/
theorem serve_concat (s : State) (k : RegistryRef) (registry : Registry) (names : List String)
    (name : String) :
    (s.serve k registry names).serve k (registry.enter (entriesFrom s.meters.length names)) [name] =
      s.serve k registry (names ++ [name]) := by
  have entries : (registry.enter (entriesFrom s.meters.length names)).enter
      (entriesFrom (s.meters ++ names.map fun name => Meter.ofSetup (registry.setup name)).length
        [name]) = registry.enter (entriesFrom s.meters.length (names ++ [name])) := by
    rw [entriesFrom_concat, List.length_append, List.length_map]
    exact congrArg (Registry.mk registry.sink) (List.append_assoc ..)
  simp only [serve, entries, List.set_set, List.map_append, List.append_assoc]
  rfl

/-- **What getting a meter does.** -/
theorem getMeter_cases (s : State) (k : RegistryRef) (name : String) :
    (∃ e, s.getMeter k name = (.error e, s) ∧
      ∀ registry sink, s.registryAt? k = some registry → s.sink? registry.sink ≠ some sink) ∨
    (∃ registry r, s.registryAt? k = some registry ∧ registry.meters.lookup name = some r ∧
      s.getMeter k name = (.ok r, s)) ∨
    ∃ registry sink, s.registryAt? k = some registry ∧ s.sink? registry.sink = some sink ∧
      registry.meters.lookup name = none ∧
      s.getMeter k name = (.ok ⟨s.meters.length⟩, s.serve k registry [name]) := by
  rw [getMeter]
  cases standing : s.registryAt? k with
  | none => exact Or.inl ⟨.absent, rfl, fun _ _ same => by cases same⟩
  | some registry =>
      simp only
      cases known : registry.meters.lookup name with
      | some r => exact Or.inr (Or.inl ⟨registry, r, rfl, known, rfl⟩)
      | none =>
          simp only [createMeter]
          cases there : s.sink? registry.sink with
          | none =>
              refine Or.inl ⟨.absent, rfl, fun other sink same found => ?_⟩
              cases same
              cases there.symm.trans found
          | some sink =>
              refine Or.inr (Or.inr ⟨registry, sink, rfl, there, known, ?_⟩)
              simp only [note]
              rw [Place.modify_eq_set standing]
              rfl

/-! ## Registries in every history -/

/-- What is asked of a meter leaves the registries. -/
theorem registries_atMeter {α : Type} (s : State) (r : MeterRef) (request : Meter → Outcome α) :
    (s.atMeter r request).2.registries = s.registries := by
  rw [atMeter]
  cases s.meter? r with
  | none => rfl
  | some m => exact registries_giveAll ..

/-- A registry that stands after a request stood before, was made by the request, or has one more
entry. -/
theorem registry_of_perform {operation : Operation} {registry' : Registry}
    (member : registry' ∈ (s.perform operation).2.registries) :
    registry' ∈ s.registries ∨
    (∃ j sink, s.sink? j = some sink ∧ registry' = ⟨j, []⟩) ∨
    ∃ registry ∈ s.registries, ∃ name, registry.meters.lookup name = none ∧
      (s.perform operation).2.meter? ⟨s.meters.length⟩ = some (.ofSetup (registry.setup name)) ∧
      registry' = registry.enter [(name, ⟨s.meters.length⟩)] := by
  cases operation with
  | createMeter setup =>
      refine Or.inl ?_
      change registry' ∈ (s.createMeter setup).2.registries at member
      rw [createMeter] at member
      cases there : s.sink? setup.sink with
      | none | some =>
          rw [there] at member
          exact member
  | createRegistry j =>
      change registry' ∈ (s.createRegistry j).2.registries at member
      rw [createRegistry] at member
      cases there : s.sink? j with
      | none => exact Or.inl (by simpa only [there] using member)
      | some sink =>
          simp only [there] at member
          rcases List.mem_append.mp member with before | new
          · exact Or.inl before
          · exact Or.inr (Or.inl ⟨j, sink, there, List.mem_singleton.mp new⟩)
  | getMeter j name =>
      -- Only to get a meter enters one, and only under a name that the registry did not have.
      have performed : (s.perform (.getMeter j name)).2 = (s.getMeter j name).2 := rfl
      rw [performed] at member ⊢
      rcases s.getMeter_cases j name with ⟨e, done, _⟩ | ⟨_, _, _, _, done⟩ |
        ⟨registry, sink, found, _, unknown, done⟩
      · exact Or.inl (by rwa [done] at member)
      · exact Or.inl (by rwa [done] at member)
      · rw [done] at member ⊢
        rcases List.mem_or_eq_of_mem_set member with before | rfl
        · exact Or.inl before
        · exact Or.inr (Or.inr ⟨registry, List.mem_of_getElem? found, name, unknown,
            List.getElem?_concat_length, rfl⟩)
  | put b i value =>
      refine Or.inl ?_
      change registry' ∈ (s.put b i value).2.registries at member
      unfold put at member
      split at member
      · exact member
      · rwa [registries_atMeter] at member
  | unbind i h =>
      refine Or.inl ?_
      change registry' ∈ (s.unbind i h).2.registries at member
      unfold unbind at member
      split at member
      · split at member
        · rwa [registries_atMeter] at member
        · exact member
      · exact member
  | build | record | bind | recordBound | openBatch | commit | setCallback =>
      rw [perform_of_home rfl, registries_atMeter] at member
      exact Or.inl member

private theorem standing_of_perform (sound : s.Sound) {operation : Operation}
    (standing : ∀ registry ∈ s.registries, registry.Standing s) :
    ∀ registry ∈ (s.perform operation).2.registries,
      registry.Standing (s.perform operation).2 := by
  have told := (advance_of_perform sound operation).told
  have sinks {j : SinkRef} {sink : Sink} (there : s.sink? j = some sink) :
      ∃ sink, (s.perform operation).2.sink? j = some sink := by
    rw [told, there]
    exact ⟨_, rfl⟩
  have evolves := s.evolves_perform operation
  have kept {registry : Registry} (before : registry.Standing s) :
      registry.Standing (s.perform operation).2 := by
    refine ⟨before.sink.elim fun _ there => sinks there, before.distinct, fun name r member => ?_⟩
    obtain ⟨m, found, made⟩ := before.made name r member
    obtain ⟨m', found', becomes⟩ := evolves.kept r m found
    exact ⟨m', found', made.becomes becomes⟩
  intro registry' member
  rcases registry_of_perform member with before | ⟨j, sink, there, rfl⟩ |
    ⟨registry, before, name, unknown, new, rfl⟩
  · exact kept (standing registry' before)
  · exact ⟨sinks there, List.nodup_nil, fun _ _ member => (List.not_mem_nil member).elim⟩
  · obtain ⟨sink, distinct, made⟩ := kept (standing registry before)
    refine ⟨sink, ?_, fun other r member => ?_⟩
    · rw [Registry.enter, List.map_append]
      refine List.nodup_append.mpr ⟨distinct, List.nodup_singleton _, ?_⟩
      rintro known member _ new rfl
      rw [List.mem_singleton.mp new] at member
      exact lookup_eq_none_iff_not_mem.mp unknown member
    · rcases List.mem_append.mp member with known | isNew
      · obtain ⟨m, found, isMade⟩ := made other r known
        exact ⟨m, found, isMade.name, isMade.version, isMade.stripes, isMade.sink⟩
      · cases List.mem_singleton.mp isNew
        exact ⟨_, new, (registry.enter _).made_ofSetup name⟩

/-- **In every history the registries are in order.** -/
theorem standing_of_history
    {sinks : List Sink} {calls : List Call} (history : History sinks calls s)
    {registry : Registry} (member : registry ∈ s.registries) : registry.Standing s := by
  refine (history.invariant (P := fun _ _ s => s.Sound ∧ ∀ registry ∈ s.registries,
    registry.Standing s) ?_ ?_ ?_ ?_).2 registry member
  · exact ⟨accounted_empty.sound, fun _ member => (List.not_mem_nil member).elim⟩
  · rintro _ _ s sink ⟨sound, standing⟩
    have there {j : SinkRef} {held : Sink} (found : s.sink? j = some held) :
        (s.createSink sink).2.sink? j = some held :=
      Place.getElem?_concat_eq_some.mpr (Or.inl found)
    refine ⟨⟨sound.instruments, fun r m found => ?_⟩, fun registry member => ?_⟩
    · obtain ⟨held, found⟩ := sound.sinks r m found
      exact ⟨held, there found⟩
    · obtain ⟨⟨held, found⟩, distinct, made⟩ := standing registry member
      exact ⟨⟨held, there found⟩, distinct, made⟩
  · rintro _ _ s operation ⟨sound, standing⟩
    exact ⟨(advance_of_perform sound operation).sound, standing_of_perform sound standing⟩
  · rintro _ _ s entry ⟨sound, standing⟩
    exact ⟨⟨sound.instruments, sound.sinks⟩, fun registry member =>
      ⟨(standing registry member).sink, (standing registry member).distinct,
        (standing registry member).made⟩⟩

end State

end Metering
