import Metering.Proofs.Instrument.Naming
import Metering.Proofs.LabelSet.Pairs

/-! # The last setting counts

A configuration has, for each of its settings, the last argument that was given, or the default if
none was. Nothing else of the order of settings shows, nor how often they were made. So two builds
under one name come to the same instrument exactly if the last arguments agree, and the second is
refused otherwise (`Metering.settled_of_stretch`).
-/

namespace Metering

/-! ## Last arguments -/

/-- The settings of an instrument, each with the kind of argument that it takes. -/
inductive Setter where
  | description
  | unit
  | labelKeys
  | constants
  | absolute
deriving DecidableEq

/-- What a setting is set to. Constant labels are given as pairs. -/
@[reducible]
def Setter.Argument : Setter → Type
  | .description | .unit => String
  | .labelKeys => List String
  | .constants => List (String × String)
  | .absolute => Bool

namespace Setting

/-- What is set. -/
def setter : Setting → Setter
  | .description _ => .description
  | .unit _ => .unit
  | .labelKeys _ => .labelKeys
  | .constants _ => .constants
  | .absolute _ => .absolute

/-- The argument given for a setting, if it is the one that is set. -/
def argument? : (setter : Setter) → Setting → Option setter.Argument
  | .description, .description text => some text
  | .unit, .unit text => some text
  | .labelKeys, .labelKeys keys => some keys
  | .constants, .constants pairs => some pairs
  | .absolute, .absolute flag => some flag
  | _, _ => none

private theorem argument?_of_ne
    {setter : Setter} {setting : Setting} (other : setting.setter ≠ setter) :
    setting.argument? setter = none := by
  cases setting <;> cases setter <;> first | rfl | exact absurd rfl other

end Setting

/-- The argument that was given last for a setting. -/
def lastArgument (setter : Setter) (settings : List Setting) : Option setter.Argument :=
  (settings.filterMap (Setting.argument? setter)).getLast?

private theorem lastArgument_concat (setter : Setter) (settings : List Setting)
    (setting : Setting) :
    lastArgument setter (settings ++ [setting]) =
      (setting.argument? setter).or (lastArgument setter settings) := by
  rw [lastArgument, List.filterMap_append, List.getLast?_append, lastArgument]
  congr 1
  rw [List.filterMap_cons]
  cases setting.argument? setter <;> rfl

/-- The other settings do not matter for a last argument. -/
theorem lastArgument_filter (setter : Setter) (settings : List Setting) :
    lastArgument setter (settings.filter fun setting => setting.setter = setter) =
      lastArgument setter settings := by
  rw [lastArgument, List.filterMap_filter, lastArgument]
  congr 1
  refine List.filterMap_congr fun setting _ => ?_
  by_cases same : setting.setter = setter
  · rw [if_pos (decide_eq_true same)]
  · rw [if_neg (by simpa using same), Setting.argument?_of_ne same]

/-! ## Configurations -/

namespace Config

/-- The configuration by the last arguments, with the defaults where there are none. -/
def ofLast (name : String) (kind : Kind) (number : NumberKind) (settings : List Setting) :
    Config where
  name := name
  kind := kind
  number := number
  description := lastArgument .description settings
  unit := lastArgument .unit settings
  labelKeys := (lastArgument .labelKeys settings).getD []
  constants := .ofList ((lastArgument .constants settings).getD [])
  absolute := kind = .measure && (lastArgument .absolute settings).getD false

/-- **The last setting counts.** -/
theorem ofSettings_eq_ofLast (name : String) (kind : Kind) (number : NumberKind)
    (settings : List Setting) :
    ofSettings name kind number settings = ofLast name kind number settings := by
  induction settings using List.reverseRecOn with
  | nil =>
      change draft name kind number = _
      rw [ofLast, draft]
      congr
      exact (Bool.and_false _).symm
  | append_singleton settings setting ih =>
      rw [ofSettings, List.foldl_append]
      change ((settings.foldl apply (draft name kind number)).apply setting) = _
      rw [← ofSettings, ih]
      cases setting with
      | description text | unit text | labelKeys keys | constants pairs =>
          simp only [apply, ofLast, lastArgument_concat, Setting.argument?, Option.some_or,
            Option.none_or, Option.getD_some]
      | absolute flag =>
          by_cases measure : kind = .measure <;>
            simp [apply, ofLast, lastArgument_concat, Setting.argument?, measure]

end Config

/-- **Settings agree** if what counts of them does, for an instrument of a kind. -/
structure Agree (kind : Kind) (S T : List Setting) : Prop where
  /-- A description that was set to the empty text is not one that was never set. -/
  description : lastArgument .description S = lastArgument .description T
  /-- Nor is such a unit. -/
  unit : lastArgument .unit S = lastArgument .unit T
  /-- The keys of labels come in an order. -/
  labelKeys : (lastArgument .labelKeys S).getD [] = (lastArgument .labelKeys T).getD []
  /-- Of the constant labels the last value for a key counts. -/
  constants : ∀ key, ((lastArgument .constants S).getD []).reverse.lookup key =
    ((lastArgument .constants T).getD []).reverse.lookup key
  /-- Only measures can be absolute. -/
  absolute : kind = .measure →
    (lastArgument .absolute S).getD false = (lastArgument .absolute T).getD false

/-- **Configurations are equal exactly if the settings agree.** -/
theorem Config.ofLast_eq_iff {name : String} {kind : Kind} {number : NumberKind}
    {S T : List Setting} : ofLast name kind number S = ofLast name kind number T ↔
      Agree kind S T := by
  rw [ofLast, ofLast, Config.mk.injEq]
  constructor
  · rintro ⟨-, -, -, description, unit, labelKeys, constants, absolute⟩
    refine ⟨description, unit, labelKeys, LabelSet.ofList_eq_iff.mp constants, ?_⟩
    rintro rfl
    simpa using absolute
  · intro agree
    refine ⟨rfl, rfl, rfl, agree.description, agree.unit, agree.labelKeys,
      LabelSet.ofList_eq_iff.mpr agree.constants, ?_⟩
    by_cases measure : kind = .measure
    · rw [agree.absolute measure]
    · simp [measure]

instance (kind : Kind) (S T : List Setting) : Decidable (Agree kind S T) :=
  decidable_of_iff (Config.ofLast "" kind .long S = Config.ofLast "" kind .long T)
    Config.ofLast_eq_iff

/-- Settings with the same arguments for each setter, in the same order. Calls of different setters
may come in any order among each other. -/
def Reordered (S S' : List Setting) : Prop :=
  ∀ setter : Setter, S.filter (fun setting => setting.setter = setter) =
    S'.filter fun setting => setting.setter = setter

private theorem Reordered.ofSettings {S S' : List Setting} (reordered : Reordered S S')
    (name : String)
    (kind : Kind) (number : NumberKind) :
    Config.ofSettings name kind number S = Config.ofSettings name kind number S' := by
  have last (setter : Setter) : lastArgument setter S = lastArgument setter S' := by
    rw [← lastArgument_filter, reordered, lastArgument_filter]
  rw [Config.ofSettings_eq_ofLast, Config.ofSettings_eq_ofLast, Config.ofLast, Config.ofLast]
  simp only [last]

/-! ## Building twice -/

namespace Meter

variable {m : Meter} {setup : InstrumentSetup} {place : Nat} {x : Instrument}

/-- Building under a name that keeps to the rule and is free registers a new instrument. -/
theorem build_of_free (lawful : Name.Lawful setup.name)
    (free : ∀ i ∈ m.instruments, i.config.name ≠ setup.name) :
    m.build setup = m.add setup.config := by
  have named : setup.config.name = setup.name := setup.config_fixed.1
  rcases m.build_cases setup with ⟨fault, found, _⟩ | ⟨_, registered⟩
  · rw [named] at found
    exact absurd (Name.fault?_eq_some_iff.mp found) (lawful.not_breaks fault)
  · rw [registered]
    exact register_of_free (named ▸ free)

/-- Building under a name that is taken comes to the instrument of the name if the configurations
are equal, and is refused otherwise. -/
theorem Orderly.build_of_taken (orderly : m.Orderly) (found : m.instruments[place]? = some x)
    (taken : x.config.name = setup.name) : (m.build setup).answer =
      if x.config = setup.config then .ok place
      else .error (.refused (.conflictingRegistration setup.name)) := by
  have named : setup.config.name = setup.name := setup.config_fixed.1
  rcases m.build_cases setup with ⟨fault, broken, _⟩ | ⟨_, registered⟩
  · have lawful := orderly.named x (List.mem_of_getElem? found)
    rw [taken, ← named, broken] at lawful
    cases lawful
  · rw [registered, (orderly.register_of_taken found (taken.trans named.symm)).2, named]

end Meter

section Built

variable {s t : State} {r : MeterRef} {m : Meter}

/-- What is built under a name that is free is there, as it was configured, from then on. -/
theorem Stretch.exists_built {moments : List Moment} {setup : InstrumentSetup}
    (standing : s.meter? r = some m) (lawful : Name.Lawful setup.name)
    (free : ∀ i ∈ m.instruments, i.config.name ≠ setup.name)
    (later : Stretch (s.perform (.build r setup)).2 moments t) :
    ∃ x, t.instrument? ⟨r, m.instruments.length⟩ = some x ∧ x.config = setup.config := by
  have after := (State.perform_build standing setup).2
  rw [Meter.build_of_free lawful free] at after
  have placed : (s.perform (.build r setup)).2.instrument? ⟨r, m.instruments.length⟩ = some _ :=
    State.instrument?_eq_some.mpr ⟨_, after, List.getElem?_concat_length⟩
  obtain ⟨x, found, _, same⟩ := later.frozen.instruments _ _ placed
  exact ⟨x, found, same⟩

/-- Building under the name of an instrument comes to the instrument if the configurations are
equal, and is refused otherwise. -/
theorem State.Orderly.perform_build_taken (orderly : t.Orderly) {i : InstrumentRef} {x : Instrument}
    (found : t.instrument? i = some x) {setup : InstrumentSetup}
    (taken : x.config.name = setup.name) : (t.perform (.build i.meter setup)).1 =
      if x.config = setup.config then .ok (.instrument i)
      else .error (.refused (.conflictingRegistration setup.name)) := by
  obtain ⟨m, standing, placed⟩ := State.instrument?_eq_some.mp found
  rw [(State.perform_build standing setup).1,
    (orderly.meters i.meter m standing).build_of_taken placed taken]
  split <;> rfl

end Built

/-- **Of each setting the last one counts.** An instrument was built with the settings `S` in the
state `s`, and the state is `t` by now. -/
structure Settled (s : State) (i : InstrumentRef) (name : String) (kind : Kind)
    (number : NumberKind) (S : List Setting) (t : State) : Prop where
  /-- A new instrument was registered. -/
  built : s.instrument? i = none ∧
    (s.perform (.build i.meter ⟨name, kind, number, S⟩)).1 = .ok (.instrument i)
  /-- It is configured by the last arguments of the settings. -/
  config : ∃ x, t.instrument? i = some x ∧ x.config = .ofLast name kind number S
  /-- Building with other settings comes to the same instrument exactly if they agree. -/
  again : ∀ T, (t.perform (.build i.meter ⟨name, kind, number, T⟩)).1 = .ok (.instrument i) ↔
    Agree kind S T
  /-- Otherwise it is refused. -/
  refused : ∀ T, ¬ Agree kind S T → (t.perform (.build i.meter ⟨name, kind, number, T⟩)).1 =
    .error (.refused (.conflictingRegistration name))
  /-- Either way the instrument stays as it was configured. -/
  kept : ∀ T, ∃ x, (t.perform (.build i.meter ⟨name, kind, number, T⟩)).2.instrument? i = some x ∧
    x.config = .ofLast name kind number S
  /-- Calls of different setters may change places, whatever the state is. -/
  reordered : ∀ T T', Reordered T T' → ∀ u : State,
    u.perform (.build i.meter ⟨name, kind, number, T⟩) =
      u.perform (.build i.meter ⟨name, kind, number, T'⟩)

/-- **Of each setting the last one counts**, in every state of a meter, for a name that is free. -/
theorem settled_of_stretch {s t : State} {earlier between : List Moment} {r : MeterRef} {m : Meter}
    {name : String} {kind : Kind} {number : NumberKind} {S : List Setting}
    (past : Stretch .empty earlier s) (standing : s.meter? r = some m) (lawful : Name.Lawful name)
    (free : ∀ i ∈ m.instruments, i.config.name ≠ name)
    (later : Stretch (s.perform (.build r ⟨name, kind, number, S⟩)).2 between t) :
    ∃ i, i.meter = r ∧ Settled s i name kind number S t := by
  have config (T : List Setting) :
      (⟨name, kind, number, T⟩ : InstrumentSetup).config = .ofLast name kind number T :=
    Config.ofSettings_eq_ofLast name kind number T
  obtain ⟨x, found, configured⟩ := later.exists_built standing lawful free
  have made : x.config = .ofLast name kind number S := configured.trans (config S)
  have orderly : t.Orderly :=
    later.orderly ((past.orderly State.orderly_empty).evolves (State.evolves_perform ..))
  have answered (T : List Setting) : (t.perform (.build r ⟨name, kind, number, T⟩)).1 =
      if Agree kind S T then .ok (.instrument ⟨r, m.instruments.length⟩)
      else .error (.refused (.conflictingRegistration name)) := by
    have taken : x.config.name = name := congrArg Config.name made
    rw [orderly.perform_build_taken found taken, made, config]
    simp only [Config.ofLast_eq_iff]
  refine ⟨⟨r, m.instruments.length⟩, rfl, ?_⟩
  constructor
  case built =>
    refine ⟨?_, ?_⟩
    · rw [State.instrument?, standing]
      exact List.getElem?_eq_none (Nat.le_refl _)
    · rw [(State.perform_build standing _).1, Meter.build_of_free lawful free]
      rfl
  case config => exact ⟨x, found, made⟩
  case again =>
    intro T
    rw [answered]
    split
    · next agree => exact ⟨fun _ => agree, fun _ => rfl⟩
    · next differs => exact ⟨fun same => (by cases same), fun agree => absurd agree differs⟩
  case refused => exact fun T differs => (answered T).trans (if_neg differs)
  case kept =>
    intro T
    obtain ⟨x', found', _, same⟩ :=
      (Moment.frozen ⟨t, .build r ⟨name, kind, number, T⟩⟩).instruments _ x found
    exact ⟨x', found', same.trans made⟩
  case reordered =>
    intro T T' reordered u
    have same : (⟨name, kind, number, T⟩ : InstrumentSetup).config =
        (⟨name, kind, number, T'⟩ : InstrumentSetup).config := reordered.ofSettings name kind number
    change reply _ (u.build r _) = reply _ (u.build r _)
    simp only [State.build, Meter.build, same]

/-- A meter without instruments. -/
def unbuilt : State :=
  (State.empty.runIn [.createSink .silent, .perform (.createMeter ⟨"m", none, ⟨0⟩, 1⟩)]).2

/-- Settings of a measure, the constant labels among them twice. -/
def overwriting : List Setting :=
  [.description "", .constants [("k", "1"), ("j", "0")], .absolute true, .unit "ms",
    .constants [("k", "2")]]

/-- What is built has the last of the constant labels. The same last settings made in another way,
from other labels with the same last values, come to the same instrument; without the empty
description they do not. -/
theorem settled_overwriting :
    (∃ i, i.meter = ⟨0⟩ ∧ Settled unbuilt i "latency" .measure .long overwriting
      (unbuilt.perform (.build ⟨0⟩ ⟨"latency", .measure, .long, overwriting⟩)).2) ∧
    Config.ofLast "latency" .measure .long overwriting =
      ⟨"latency", .measure, .long, some "", some "ms", [], .ofList [("k", "2")], true⟩ ∧
    Agree .measure overwriting
      [.unit "s", .constants [("k", "1"), ("k", "2")], .absolute false, .absolute true, .unit "ms",
        .labelKeys [], .description ""] ∧
    ¬ Agree .measure overwriting [.absolute true, .unit "ms", .constants [("k", "2")]] := by
  have standing : unbuilt.meter? ⟨0⟩ = some (Meter.ofSetup ⟨"m", none, ⟨0⟩, 1⟩) := rfl
  refine ⟨?_, by decide +kernel, by decide +kernel, by decide +kernel⟩
  exact settled_of_stretch (Stretch.of_runIn .empty _) standing
    (Name.fault?_eq_none_iff.mp (by decide +kernel))
    (fun _ member => (List.not_mem_nil member).elim) .here

end Metering
