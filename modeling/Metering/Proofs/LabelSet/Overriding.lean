import Metering.Proofs.LabelSet.Canonical

/-! # The laws of overriding

Overriding label sets by one another is associative and idempotent, the set without labels changes
nothing on either side, and the order matters exactly if some key has different values on the two
sides. The laws hold of sets in storage however the merges are nested, and the answers that a side
without labels gives at once are those that entering all labels one by one would give
(`Metering.overriding_of_handed`).
-/

namespace Metering

namespace LabelSet

variable {s t : LabelSet}

/-- The keys of a set, in ascending order. -/
def keys (s : LabelSet) : List String :=
  s.entries.map Prod.fst

/-- The keys that two sets share. -/
def sharedKeys (s t : LabelSet) : List String :=
  s.keys.filter (· ∈ t.keys)

/-- A set has as many keys as its size says. -/
theorem length_keys (s : LabelSet) : s.keys.length = s.size :=
  List.length_map _

/-- A set has no value for a key that is none of its own. -/
theorem get?_eq_none_iff {key : String} : s.get? key = none ↔ key ∉ s.keys :=
  lookup_eq_none_iff_not_mem

/-- To override by no labels changes nothing. -/
theorem mergedWith_empty (s : LabelSet) : s.mergedWith empty = s :=
  rfl

/-- No labels are overridden by any. -/
theorem empty_mergedWith (s : LabelSet) : empty.mergedWith s = s :=
  ext_get? fun _ => (get?_mergedWith ..).trans (Option.or_none ..)

/-- Overriding is associative. -/
theorem mergedWith_assoc (s t u : LabelSet) :
    (s.mergedWith t).mergedWith u = s.mergedWith (t.mergedWith u) := by
  refine ext_get? fun key => ?_
  rw [get?_mergedWith, get?_mergedWith, get?_mergedWith, get?_mergedWith, Option.or_assoc]

/-- A set overridden by itself stays as it is. -/
theorem mergedWith_self (s : LabelSet) : s.mergedWith s = s := by
  refine ext_get? fun key => ?_
  rw [get?_mergedWith, Option.or_self]

/-- Being overridden twice by one set is being overridden once. -/
theorem mergedWith_mergedWith_self (s t : LabelSet) :
    (s.mergedWith t).mergedWith t = s.mergedWith t := by
  rw [mergedWith_assoc, mergedWith_self]

/-- The order does not matter exactly if the sets agree on every key they share. -/
theorem mergedWith_comm_iff : s.mergedWith t = t.mergedWith s ↔
    ∀ key value value', s.get? key = some value → t.get? key = some value' → value = value' := by
  constructor
  · intro equal key value value' inFirst inSecond
    have same : (s.mergedWith t).get? key = (t.mergedWith s).get? key := by rw [equal]
    rw [get?_mergedWith, get?_mergedWith, inFirst, inSecond] at same
    exact (Option.some.inj same).symm
  · intro agree
    refine ext_get? fun key => ?_
    rw [get?_mergedWith, get?_mergedWith]
    cases inFirst : s.get? key with
    | none => rw [Option.or_none, Option.none_or]
    | some value =>
        cases inSecond : t.get? key with
        | none => rfl
        | some value' => rw [agree key value value' inFirst inSecond]

/-- The keys are those of the constants, and those of the caller that the constants lack. -/
theorem keys_mergedWith (s t : LabelSet) :
    (s.mergedWith t).keys.Perm (t.keys ++ s.keys.filter (· ∉ t.keys)) := by
  have distinct : (t.keys ++ s.keys.filter (· ∉ t.keys)).Nodup := by
    refine List.nodup_append.mpr ⟨t.nodup_keys, s.nodup_keys.filter _, ?_⟩
    rintro key known _ other rfl
    have lacking := (List.mem_filter.mp other).2
    rw [decide_eq_true_eq] at lacking
    exact lacking known
  refine (List.perm_ext_iff_of_nodup (nodup_keys _) distinct).mpr fun key => ?_
  change key ∈ (s.mergedWith t).keys ↔ _
  rw [← not_iff_not, ← get?_eq_none_iff, get?_mergedWith, Option.or_eq_none_iff,
    get?_eq_none_iff, get?_eq_none_iff, List.mem_append, List.mem_filter, decide_eq_true_eq]
  tauto

/-- **The number of labels**, those with a shared key counted once. -/
theorem size_mergedWith (s t : LabelSet) :
    (s.mergedWith t).size + (s.sharedKeys t).length = s.size + t.size := by
  have count := (keys_mergedWith s t).length_eq
  have split := List.length_eq_length_filter_add (l := s.keys) (fun key => decide (key ∈ t.keys))
  rw [List.length_append, length_keys, length_keys] at count
  simp only [← decide_not, length_keys] at split
  rw [count, sharedKeys]
  omega

/-- The answers at once are what entering all constants would come to. -/
theorem mergedWith_eq_insertAll (s t : LabelSet) : s.mergedWith t = s.insertAll t.entries :=
  ext_get? fun key => (get?_mergedWith ..).trans (get?_insertAll s key t.ascending).symm

end LabelSet

/-! ## Merges in storage -/

/-- What merges are asked for: a set as it stands, the set without labels, or one of these
overridden by another. -/
inductive Merging where
  | set (r : LabelRef)
  | blank
  | merged (labels constants : Merging)

/-- The set that merges are to come to, if they are of sets in storage. -/
def Merging.value? (storage : Storage) : Merging → Option LabelSet
  | .set r => (storage.at? r).map StoredSet.set
  | .blank => some .empty
  | .merged labels constants =>
    (labels.value? storage).bind fun s => (constants.value? storage).map fun t => s.mergedWith t

namespace Storage

section Making

variable (digest : List (String × String) → UInt64)

/-- Carries out merges, those of the overridden side first. -/
def carryOut (storage : Storage) : Merging → Option LabelRef × Storage
  | .set r => (some r, storage)
  | .blank =>
    let (r, storage) := storage.blank digest
    (some r, storage)
  | .merged labels constants =>
    match storage.carryOut labels with
    | (none, storage) => (none, storage)
    | (some a, storage) =>
      match storage.carryOut constants with
      | (none, storage) => (none, storage)
      | (some b, storage) => storage.merge digest a b

/-- Whether merges carried out one after the other come to equal sets. -/
def agree (storage : Storage) (first second : Merging) : Bool :=
  let (a, storage) := storage.carryOut digest first
  let (b, storage) := storage.carryOut digest second
  match a, b with
  | some a, some b => storage.same a b
  | _, _ => false

/-- A set with the labels of another entered one by one, whether there are any or not. -/
def enterAll (storage : Storage) (a b : LabelRef) : Option LabelRef × Storage :=
  match storage.at? a, storage.at? b with
  | some left, some constants =>
    let (r, storage) := storage.keep digest (left.set.insertAll constants.set.entries)
    (some r, storage)
  | _, _ => (none, storage)

end Making

end Storage

section Laws

variable {digest : List (String × String) → UInt64} {storage storage' : Storage}
  {handed : List (LabelRef × List (String × String))}

private theorem Merging.value?_of_grown (grown : storage.sets <+: storage'.sets) {x : Merging}
    {set : LabelSet} (value : x.value? storage = some set) : x.value? storage' = some set := by
  induction x generalizing set with
  | set r =>
      obtain ⟨stored, found, rfl⟩ := Option.map_eq_some_iff.mp value
      exact Option.map_eq_some_iff.mpr ⟨stored, Storage.at?_of_grown grown found, rfl⟩
  | blank => exact value
  | merged labels constants first second =>
      obtain ⟨s, left, rest⟩ := Option.bind_eq_some_iff.mp value
      obtain ⟨t, right, rfl⟩ := Option.map_eq_some_iff.mp rest
      rw [Merging.value?, first left, second right]
      rfl

namespace Storage

variable (sound : storage.Sound digest)

include sound

/-- Merges come to the set that they are to come to. -/
theorem carryOut_makes {x : Merging} {set : LabelSet} (value : x.value? storage = some set) :
    ∃ done, storage.carryOut digest x = (some done.1, done.2) ∧ Makes digest storage done set := by
  induction x generalizing storage set with
  | set r =>
      obtain ⟨stored, found, rfl⟩ := Option.map_eq_some_iff.mp value
      exact ⟨(r, storage), rfl, sound, List.prefix_rfl, stored, found, rfl⟩
  | blank =>
      cases value
      exact ⟨_, rfl, makes_blank sound⟩
  | merged labels constants first second =>
      obtain ⟨s, left, rest⟩ := Option.bind_eq_some_iff.mp value
      obtain ⟨t, right, rfl⟩ := Option.map_eq_some_iff.mp rest
      obtain ⟨a, carriedFirst, makes⟩ := first sound left
      obtain ⟨b, carriedSecond, makes'⟩ :=
        second makes.sound (Merging.value?_of_grown makes.grown right)
      obtain ⟨kept, found, rfl⟩ := makes.made
      obtain ⟨constant, found', rfl⟩ := makes'.made
      obtain ⟨done, merged, makes''⟩ :=
        merge_makes makes'.sound (at?_of_grown makes'.grown found) found'
      refine ⟨done, ?_, makes''.sound, makes.grown.trans (makes'.grown.trans makes''.grown),
        makes''.made⟩
      simp only [carryOut, carriedFirst, carriedSecond, merged]

/-- **Merges agree exactly if they are to come to the same set.** -/
theorem agree_iff {x y : Merging} {s t : LabelSet} (first : x.value? storage = some s)
    (second : y.value? storage = some t) : storage.agree digest x y = true ↔ s = t := by
  obtain ⟨a, carriedFirst, makes⟩ := carryOut_makes sound first
  obtain ⟨b, carriedSecond, makes'⟩ :=
    carryOut_makes makes.sound (Merging.value?_of_grown makes.grown second)
  obtain ⟨left, found, rfl⟩ := makes.made
  obtain ⟨right, found', rfl⟩ := makes'.made
  simp only [agree, carriedFirst, carriedSecond]
  exact same_iff makes'.sound (at?_of_grown makes'.grown found) found'

end Storage

/-- **The laws of overriding**, for sets in storage and merges of them however nested. -/
structure Overriding (digest : List (String × String) → UInt64) (storage : Storage) : Prop where
  /-- A constant decides the value of its key, and the caller that of any other; labels with a
  shared key are counted once. All sets made before stay. -/
  merges : ∀ a b left right, storage.at? a = some left → storage.at? b = some right →
    ∃ r storage' stored, storage.merge digest a b = (some r, storage') ∧
      storage.sets <+: storage'.sets ∧ storage'.at? r = some stored ∧
      (∀ key, stored.set.get? key = (right.set.get? key).or (left.set.get? key)) ∧
      stored.set.size + (left.set.sharedKeys right.set).length = left.set.size + right.set.size
  assoc : ∀ x y z s t u, x.value? storage = some s → y.value? storage = some t →
    z.value? storage = some u →
    storage.agree digest (.merged (.merged x y) z) (.merged x (.merged y z)) = true
  blank_right : ∀ x s, x.value? storage = some s → storage.agree digest (.merged x .blank) x = true
  blank_left : ∀ x s, x.value? storage = some s → storage.agree digest (.merged .blank x) x = true
  idempotent : ∀ x s, x.value? storage = some s → storage.agree digest (.merged x x) x = true
  /-- Being overridden twice by one set is being overridden once. -/
  absorbs : ∀ x y s t, x.value? storage = some s → y.value? storage = some t →
    storage.agree digest (.merged (.merged x y) y) (.merged x y) = true
  /-- The order does not matter exactly if the sets agree on every key they share. -/
  comm : ∀ x y s t, x.value? storage = some s → y.value? storage = some t →
    (storage.agree digest (.merged x y) (.merged y x) = true ↔
      ∀ key value value', s.get? key = some value → t.get? key = some value' → value = value')
  /-- A side without labels makes the other the answer, as it stands and with nothing made. -/
  atOnce : ∀ a b left right, storage.at? a = some left → storage.at? b = some right →
    (right.set.isEmpty = true → storage.merge digest a b = (some a, storage)) ∧
    (right.set.isEmpty = false → left.set.isEmpty = true →
      storage.merge digest a b = (some b, storage))
  /-- Entering all labels one by one gives the same mapping, the same digest and the same effect on
  every hasher. -/
  entered : ∀ a b left right, storage.at? a = some left → storage.at? b = some right →
    ∃ r storage' merged r' storage'' entered, storage.merge digest a b = (some r, storage') ∧
      storage'.at? r = some merged ∧ storage.enterAll digest a b = (some r', storage'') ∧
      storage''.at? r' = some entered ∧ merged.set.entries = entered.set.entries ∧
      merged.digest = entered.digest ∧
      ∀ (σ : Type) (write : σ → UInt64 → σ) (hasher : σ),
        merged.hash write hasher = entered.hash write hasher

/-- **The laws of overriding** hold of all sets that builds and merges lead to, whatever the
digest. -/
theorem overriding_of_handed (history : Handed digest storage handed) :
    Overriding digest storage := by
  have sound := (stands_of_handed history).1
  have value {x y : Merging} {s t : LabelSet} (first : x.value? storage = some s)
      (second : y.value? storage = some t) :
      (Merging.merged x y).value? storage = some (s.mergedWith t) := by
    rw [Merging.value?, first, second]
    rfl
  have digested {storage : Storage} (sound : storage.Sound digest) {r : LabelRef}
      {stored : StoredSet} (found : storage.at? r = some stored) :
      stored.digest = digest stored.set.entries :=
    sound.digested stored (List.mem_of_getElem? found)
  constructor
  case merges =>
    intro a b left right first second
    obtain ⟨done, merged, makes⟩ := Storage.merge_makes sound first second
    obtain ⟨stored, found, isSet⟩ := makes.made
    refine ⟨done.1, done.2, stored, merged, makes.grown, found, fun key => ?_, ?_⟩
    · rw [isSet, LabelSet.get?_mergedWith]
    · rw [isSet, LabelSet.size_mergedWith]
  case assoc =>
    intro x y z s t u first second third
    rw [Storage.agree_iff sound (value (value first second) third)
      (value first (value second third))]
    exact LabelSet.mergedWith_assoc s t u
  case blank_right =>
    intro x s first
    rw [Storage.agree_iff sound (value first rfl) first]
    exact LabelSet.mergedWith_empty s
  case blank_left =>
    intro x s first
    rw [Storage.agree_iff sound (value rfl first) first]
    exact LabelSet.empty_mergedWith s
  case idempotent =>
    intro x s first
    rw [Storage.agree_iff sound (value first first) first]
    exact LabelSet.mergedWith_self s
  case absorbs =>
    intro x y s t first second
    rw [Storage.agree_iff sound (value (value first second) second) (value first second)]
    exact LabelSet.mergedWith_mergedWith_self s t
  case comm =>
    intro x y s t first second
    rw [Storage.agree_iff sound (value first second) (value second first)]
    exact LabelSet.mergedWith_comm_iff
  case atOnce =>
    intro a b left right first second
    rw [Storage.merge, first, second]
    refine ⟨fun noConstants => ?_, fun constants noLabels => ?_⟩
    · simp only [noConstants, if_true]
    · simp only [constants, noLabels, Bool.false_eq_true, if_false, if_true]
  case entered =>
    intro a b left right first second
    obtain ⟨done, merged, makes⟩ := Storage.merge_makes sound first second
    obtain ⟨stored, found, isSet⟩ := makes.made
    have kept := Storage.makes_keep sound (left.set.insertAll right.set.entries)
    obtain ⟨entered, found', isEntered⟩ := kept.made
    have same : stored.set = entered.set := by
      rw [isSet, isEntered, LabelSet.mergedWith_eq_insertAll]
    have digests : stored.digest = entered.digest := by
      rw [digested makes.sound found, digested kept.sound found', same]
    refine ⟨done.1, done.2, stored, _, _, entered, merged, found, ?_, found',
      congrArg LabelSet.entries same, digests, fun σ write hasher => ?_⟩
    · rw [Storage.enterAll, first, second]
    · rw [StoredSet.hash, StoredSet.hash, digests]

end Laws

/-- Storage with a set of two labels, one that sets a key of it to another value, and one without
labels. -/
def overlapping : Storage :=
  (((Storage.bare.build blind (.pairs [("region", "eu"), ("host", "a")])).2.build blind
    (.flat none ["host", "fixed", "zone", "1"])).2.build blind .nothing).2

/-- Sets with a key in common do not commute, sets without one do. -/
theorem overriding_overlapping :
    Merging.value? overlapping (.merged (.set ⟨0⟩) (.set ⟨1⟩)) =
        some (.ofList [("host", "fixed"), ("region", "eu"), ("zone", "1")]) ∧
      overlapping.agree blind (.merged (.set ⟨0⟩) (.set ⟨1⟩)) (.merged (.set ⟨1⟩) (.set ⟨0⟩)) =
        false ∧
      overlapping.agree blind (.merged (.set ⟨0⟩) (.set ⟨2⟩)) (.merged (.set ⟨2⟩) (.set ⟨0⟩)) =
        true ∧
      Overriding blind overlapping :=
  ⟨by decide +kernel, by decide +kernel, by decide +kernel,
    overriding_of_handed
      (((Handed.bare.build (.pairs [("region", "eu"), ("host", "a")])
        (Prod.ext (by decide +kernel) rfl)).build (.flat none ["host", "fixed", "zone", "1"])
          (Prod.ext (by decide +kernel) rfl)).build .nothing
            (Prod.ext (by decide +kernel) rfl))⟩

end Metering
