import Mathlib.Data.List.Nodup
import Metering.Proofs.Meter.Requests
import Metering.Proofs.Place
import Metering.Proofs.State.Failure

/-! # Instruments by their names

A meter is orderly when its instruments have distinct names that keep to the rule, when each is
described by its configuration under the number of its place, and when only measures are absolute
(`Metering.Meter.Orderly`). Building keeps a meter orderly, and in an orderly meter what building
comes to follows from the one instrument of the name, if there is one.
-/

namespace Metering

/-! ## Configurations as they are wished for -/

/-- Only measures are absolute. -/
def Config.Regular (c : Config) : Prop :=
  c.absolute = true → c.kind = .measure

private theorem Config.apply_number (c : Config) (setting : Setting) :
    (c.apply setting).number = c.number := by
  cases setting with
  | description _ | unit _ | labelKeys _ | constants _ => rfl
  | absolute flag =>
      rw [apply]
      split <;> rfl

private theorem Config.Regular.apply {c : Config} (regular : c.Regular) (setting : Setting) :
    (c.apply setting).Regular := by
  cases setting with
  | description _ | unit _ | labelKeys _ | constants _ => exact regular
  | absolute flag =>
      rw [Config.apply]
      split
      · next measure => exact fun _ => measure
      · exact regular

/-- The settings leave the kind of numbers. -/
theorem InstrumentSetup.config_number (setup : InstrumentSetup) :
    setup.config.number = setup.number := by
  have kept (settings : List Setting) (c : Config) :
      (settings.foldl Config.apply c).number = c.number := by
    induction settings generalizing c with
    | nil => rfl
    | cons setting settings ih => exact (ih _).trans (c.apply_number setting)
  exact kept setup.settings _

/-- The settings leave no configuration absolute but that of a measure. -/
theorem InstrumentSetup.config_regular (setup : InstrumentSetup) : setup.config.Regular := by
  have kept (settings : List Setting) (c : Config) (regular : c.Regular) :
      (settings.foldl Config.apply c).Regular := by
    induction settings generalizing c with
    | nil => exact regular
    | cons setting settings ih => exact ih _ (regular.apply setting)
  exact kept setup.settings _ nofun

namespace Meter

/-- **Orderly meters.** -/
structure Orderly (m : Meter) : Prop where
  described : ∀ (place : Nat) (i : Instrument), m.instruments[place]? = some i →
    i.descriptor = i.config.descriptor m.name place
  next : m.nextInstrument = m.instruments.length
  distinct : (m.instruments.map fun i => i.config.name).Nodup
  named : ∀ i ∈ m.instruments, Name.fault? i.config.name = none
  regular : ∀ i ∈ m.instruments, i.config.Regular

variable {m : Meter} {config : Config} {place : Nat} {i : Instrument}

/-- A meter that has just been made is orderly. -/
theorem orderly_ofSetup (setup : MeterSetup) : (ofSetup setup).Orderly where
  described _ _ found := by simp [ofSetup] at found
  next := rfl
  distinct := List.nodup_nil
  named _ member := (List.not_mem_nil member).elim
  regular _ member := (List.not_mem_nil member).elim

/-- An instrument is added if no other has its name. -/
theorem register_of_free (free : ∀ i ∈ m.instruments, i.config.name ≠ config.name) :
    m.register config = m.add config := by
  rcases m.register_cases config with
    ⟨other, j, standing, named, _⟩ | ⟨other, j, standing, equal, _⟩ | ⟨_, outcome⟩
  · exact absurd named (free j (List.mem_of_getElem? standing))
  · exact absurd (congrArg Config.name equal) (free j (List.mem_of_getElem? standing))
  · exact outcome

namespace Orderly

variable (orderly : m.Orderly)

include orderly

/-- No two instruments of an orderly meter have one name. -/
theorem eq_place {other : Nat} {j : Instrument} (found : m.instruments[place]? = some i)
    (foundOther : m.instruments[other]? = some j) (same : i.config.name = j.config.name) :
    place = other := by
  have inside : place < (m.instruments.map fun i => i.config.name).length := by
    rw [List.length_map]
    exact (List.getElem?_eq_some_iff.mp found).1
  refine (List.getElem?_inj inside orderly.distinct).mp ?_
  rw [List.getElem?_map, List.getElem?_map, found, foundOther, Option.map_some, same,
    Option.map_some]

/-- The place found for a name is that of the one instrument of the name. -/
theorem find?_eq_some_iff {name : String} :
    (m.find? name).map Fin.val = some place ↔
      ∃ i, m.instruments[place]? = some i ∧ i.config.name = name := by
  constructor
  · intro found
    obtain ⟨place, isFound, rfl⟩ := Option.map_eq_some_iff.mp found
    exact ⟨m.instruments[place], List.getElem?_eq_getElem place.isLt, m.find?_eq_some isFound⟩
  · rintro ⟨i, standing, rfl⟩
    cases found : m.find? i.config.name with
    | none => exact absurd rfl (m.find?_eq_none found i (List.mem_of_getElem? standing))
    | some other =>
        have foundOther : m.instruments[other.val]? = some m.instruments[other] :=
          List.getElem?_eq_getElem other.isLt
        rw [Option.map_some, orderly.eq_place standing foundOther (m.find?_eq_some found).symm]

/-- Instruments are numbered in the order of their registration. -/
theorem numbered :
    m.instruments.map (fun i => i.descriptor.id) = List.range m.instruments.length := by
  refine List.ext_getElem (by rw [List.length_map, List.length_range]) fun place inside _ => ?_
  rw [List.length_map] at inside
  rw [List.getElem_map, List.getElem_range,
    orderly.described place _ (List.getElem?_eq_getElem inside)]
  rfl

/-- Registering under a name that is taken comes to the instrument of the name if the configurations
are equal, and is refused otherwise. -/
theorem register_of_taken (found : m.instruments[place]? = some i)
    (taken : i.config.name = config.name) :
    (m.register config).meter = m ∧ (m.register config).answer =
      if i.config = config then .ok place
      else .error (.refused (.conflictingRegistration config.name)) := by
  rcases m.register_cases config with
    ⟨other, j, standing, named, differs, outcome⟩ | ⟨other, j, standing, equal, outcome⟩ |
    ⟨free, _⟩
  · cases orderly.eq_place found standing (taken.trans named.symm)
    cases found.symm.trans standing
    rw [outcome, if_neg differs]
    exact ⟨rfl, rfl⟩
  · have named : j.config.name = config.name := by rw [equal]
    cases orderly.eq_place found standing (taken.trans named.symm)
    cases found.symm.trans standing
    rw [outcome, if_pos equal]
    exact ⟨rfl, rfl⟩
  · exact absurd taken (free i (List.mem_of_getElem? found))

/-- A lawful instrument of a new name may be added. -/
theorem add (free : ∀ i ∈ m.instruments, i.config.name ≠ config.name)
    (named : Name.fault? config.name = none) (regular : config.Regular) :
    (m.add config).meter.Orderly where
  described place i found := by
    rcases Place.getElem?_concat_eq_some.mp found with before | ⟨rfl, rfl⟩
    · exact orderly.described place i before
    · change config.descriptor m.name m.nextInstrument = _
      rw [orderly.next]
      rfl
  next := by
    change m.nextInstrument + 1 = (m.instruments ++ [_]).length
    rw [orderly.next, List.length_append, List.length_singleton]
  distinct := by
    rw [Meter.add, List.map_append, List.nodup_append]
    refine ⟨orderly.distinct, List.nodup_singleton _, ?_⟩
    intro name old _ new same
    obtain ⟨i, member, rfl⟩ := List.mem_map.mp old
    cases List.mem_singleton.mp new
    exact free i member same
  named i member := by
    rcases List.mem_append.mp member with before | new
    · exact orderly.named i before
    · rw [List.mem_singleton.mp new]
      exact named
  regular i member := by
    rcases List.mem_append.mp member with before | new
    · exact orderly.regular i before
    · rw [List.mem_singleton.mp new]
      exact regular

/-- Registering keeps a meter orderly. -/
theorem register (named : Name.fault? config.name = none) (regular : config.Regular) :
    (m.register config).meter.Orderly := by
  rcases m.register_cases config with
    ⟨_, _, _, _, _, outcome⟩ | ⟨_, _, _, _, outcome⟩ | ⟨free, outcome⟩
  · rw [outcome]
    exact orderly
  · rw [outcome]
    exact orderly
  · rw [outcome]
    exact orderly.add free named regular

end Orderly

end Meter

end Metering
