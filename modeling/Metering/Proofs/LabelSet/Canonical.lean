import Metering.Proofs.LabelSet.Pairs
import Metering.Proofs.Workspace.Labels
import Metering.Workspace.Storage

/-! # Label sets are canonical

However label sets are built and merged, two of them are equal exactly if the pairs they were made
from assign the same values to the same keys, the last pair with a key deciding its value; and what
can be seen of equal sets is equal (`Metering.canonical_of_handed`). Neither the digest nor the
sharing of the set without labels shows in any of this.
-/

namespace Metering

/-! ## Sets in storage -/

namespace Storage

variable {digest : List (String × String) → UInt64} {storage storage' : Storage} {r : LabelRef}
  {set : LabelSet}

/-- Storage in order: every set has its digest, and the one without labels has none. -/
structure Sound (digest : List (String × String) → UInt64) (storage : Storage) : Prop where
  digested : ∀ stored ∈ storage.sets, stored.digest = digest stored.set.entries
  canonical : ∀ r, storage.canonical = some r → ∃ stored, storage.at? r = some stored ∧
    stored.set = .empty

/-- What is stored remains where it is. -/
theorem at?_of_grown (grown : storage.sets <+: storage'.sets) {stored : StoredSet}
    (found : storage.at? r = some stored) : storage'.at? r = some stored := by
  obtain ⟨more, extended⟩ := grown
  rw [at?, ← extended, List.getElem?_append_left (List.getElem?_eq_some_iff.mp found).1]
  exact found

/-- A reference to a set is handed out, which is made if need be; all sets made before stay. -/
structure Makes (digest : List (String × String) → UInt64) (storage : Storage)
    (done : LabelRef × Storage) (set : LabelSet) : Prop where
  sound : done.2.Sound digest
  grown : storage.sets <+: done.2.sets
  made : ∃ stored, done.2.at? done.1 = some stored ∧ stored.set = set

variable (sound : storage.Sound digest)

include sound

/-- To keep a set makes it. -/
theorem makes_keep (set : LabelSet) : Makes digest storage (storage.keep digest set) set where
  sound := by
    refine ⟨fun stored member => ?_, fun r isCanonical => ?_⟩
    · rcases List.mem_append.mp member with before | new
      · exact sound.digested stored before
      · rw [List.mem_singleton.mp new]
    · obtain ⟨stored, found, blank⟩ := sound.canonical r isCanonical
      exact ⟨stored, at?_of_grown (List.prefix_append ..) found, blank⟩
  grown := List.prefix_append ..
  made := ⟨_, List.getElem?_concat_length, rfl⟩

/-- To begin makes the empty set. -/
theorem makes_blank : Makes digest storage (storage.blank digest) .empty := by
  rw [blank]
  cases known : storage.canonical with
  | some r => exact ⟨sound, List.prefix_refl _, sound.canonical r known⟩
  | none =>
      have kept := makes_keep sound .empty
      refine ⟨⟨kept.sound.digested, fun r isCanonical => ?_⟩, kept.grown, kept.made⟩
      cases isCanonical
      exact kept.made

private theorem makes_ofList (pairs : List (String × String)) :
    Makes digest storage (storage.ofList digest pairs) (.ofList pairs) := by
  rw [ofList]
  cases blank : (LabelSet.ofList pairs).isEmpty with
  | true =>
      rw [LabelSet.eq_empty_of_isEmpty blank]
      exact makes_blank sound
  | false => exact makes_keep sound _

/-- Building from a flat list comes to a set exactly if no key is left without a value. -/
theorem ofFlat_cases (flat : List String) :
    (flat.length % 2 = 0 ∧ ∃ done, storage.ofFlat digest flat = (.ok done.1, done.2) ∧
      Makes digest storage done (.ofList (LabelSet.pairsOf flat))) ∨
    (flat.length % 2 ≠ 0 ∧
      storage.ofFlat digest flat = (.error (.oddLabelSequence flat.length), storage)) := by
  rw [ofFlat]
  by_cases even : flat.length % 2 = 0
  · rw [if_pos even]
    refine Or.inl ⟨even, _, rfl, ?_⟩
    cases flat with
    | nil => exact makes_blank sound
    | cons text rest => exact makes_keep sound _
  · rw [if_neg even]
    exact Or.inr ⟨even, rfl⟩

/-- **What building does.** -/
theorem build_cases (source : LabelsSource) :
    (∃ done, storage.build digest source = (.ok done.1, done.2) ∧
      Makes digest storage done (.ofList source.given)) ∨
    ∃ error, storage.build digest source = (.error error, storage) ∧ error.OfLabels := by
  cases source with
  | nothing => exact Or.inl ⟨_, rfl, makes_blank sound⟩
  | pairs pairs => exact Or.inl ⟨_, rfl, makes_ofList sound pairs⟩
  | flat meter texts =>
      rcases ofFlat_cases sound texts with ⟨_, built⟩ | ⟨odd, refused⟩
      · exact Or.inl built
      · exact Or.inr ⟨_, refused, .odd texts odd⟩
  | mapping meter pairs =>
      cases pairs with
      | none => exact Or.inr ⟨_, rfl, .missing⟩
      | some pairs => exact Or.inl ⟨_, rfl, makes_ofList sound pairs⟩

/-- **What merging does.** -/
theorem merge_makes {a b : LabelRef} {left constants : StoredSet}
    (first : storage.at? a = some left) (second : storage.at? b = some constants) :
    ∃ done, storage.merge digest a b = (some done.1, done.2) ∧
      Makes digest storage done (left.set.mergedWith constants.set) := by
  rw [merge, first, second]
  simp only [LabelSet.mergedWith]
  split
  · exact ⟨(a, storage), rfl, sound, List.prefix_refl _, left, first, rfl⟩
  · split
    · exact ⟨(b, storage), rfl, sound, List.prefix_refl _, constants, second, rfl⟩
    · exact ⟨_, rfl, makes_keep sound _⟩

/-- Two references are equal exactly if their sets are, whatever the digest is. -/
theorem same_iff {a b : LabelRef} {left right : StoredSet} (first : storage.at? a = some left)
    (second : storage.at? b = some right) : storage.same a b = true ↔ left.set = right.set := by
  have digested {r : LabelRef} {stored : StoredSet} (found : storage.at? r = some stored) :=
    sound.digested stored (List.mem_of_getElem? found)
  rw [same, first, second]
  simp only [Bool.or_eq_true, Bool.and_eq_true, beq_iff_eq]
  refine ⟨?_, fun equal => Or.inr ⟨?_, congrArg LabelSet.entries equal⟩⟩
  · rintro (rfl | ⟨_, entries⟩)
    · cases first.symm.trans second
      rfl
    · exact LabelSet.ext_entries entries
  · rw [digested first, digested second, equal]

end Storage

/-! ## Sets handed out -/

section Handed

variable {digest : List (String × String) → UInt64} {storage : Storage}
  {handed : List (LabelRef × List (String × String))}

/-- Each set handed out is the one built from its pairs. -/
theorem stands_of_handed (history : Handed digest storage handed) : storage.Sound digest ∧
    ∀ r P, (r, P) ∈ handed → ∃ stored, storage.at? r = some stored ∧ stored.set = .ofList P := by
  -- What is handed out stays as it is, and a new set is made as it should be.
  have further {storage : Storage} {done : LabelRef × Storage} {P : List (String × String)}
      {handed : List (LabelRef × List (String × String))}
      (makes : storage.Makes digest done (.ofList P))
      (stands : ∀ r P, (r, P) ∈ handed → ∃ stored, storage.at? r = some stored ∧
        stored.set = .ofList P) :
      ∀ r Q, (r, Q) ∈ handed ++ [(done.1, P)] → ∃ stored, done.2.at? r = some stored ∧
        stored.set = .ofList Q := by
    intro r Q member
    rcases List.mem_append.mp member with before | new
    · obtain ⟨stored, found, isSet⟩ := stands r Q before
      exact ⟨stored, Storage.at?_of_grown makes.grown found, isSet⟩
    · cases List.mem_singleton.mp new
      exact makes.made
  induction history with
  | bare => exact ⟨⟨fun _ member => (List.not_mem_nil member).elim, nofun⟩,
      fun _ _ member => (List.not_mem_nil member).elim⟩
  | build source _ built ih =>
      rcases Storage.build_cases ih.1 source with ⟨done, made, makes⟩ | ⟨_, refused, _⟩
      · cases built.symm.trans made
        exact ⟨makes.sound, further makes ih.2⟩
      · cases built.symm.trans refused
  | merge _ first second merged ih =>
      obtain ⟨left, found, isLeft⟩ := ih.2 _ _ first
      obtain ⟨constants, found', isConstants⟩ := ih.2 _ _ second
      obtain ⟨done, made, makes⟩ := Storage.merge_makes ih.1 found found'
      cases merged.symm.trans made
      rw [isLeft, isConstants, LabelSet.mergedWith_ofList] at makes
      exact ⟨makes.sound, further makes ih.2⟩

/-- A script that makes a set makes the one built from the pairs of its source. -/
theorem Script.labelsFrom_given {source : LabelsSource} {w w' : Workspace} {set : LabelSet}
    (made : (Script.labelsFrom source).exec w = (.ok set, w')) : set = .ofList source.given := by
  have checked {name : Option String} {result : Except Error LabelSet}
      (made : (Script.requireMeter name >>= fun _ => Script.ofExcept result).exec w =
        (.ok set, w')) : result = .ok set := by
    rw [Script.exec_bind] at made
    rcases Script.exec_requireMeter name w with present | absent
    · rw [present] at made
      cases result with
      | ok _ =>
          cases made
          rfl
      | error _ => cases made
    · rw [absent] at made
      cases made
  cases source with
  | nothing | pairs =>
      cases made
      rfl
  | flat meter texts =>
      have built := checked made
      rw [LabelSet.ofFlat] at built
      split at built
      · cases built
        rfl
      · cases built
  | mapping meter pairs =>
      have built := checked made
      cases pairs with
      | none => cases built
      | some pairs =>
          cases built
          rfl

/-- **Label sets are canonical.** The sets are given with the pairs that they were made from. -/
structure Canonical (digest : List (String × String) → UInt64) (storage : Storage)
    (handed : List (LabelRef × List (String × String))) : Prop where
  /-- Two sets are equal exactly if the last pair with a key gives it the same value in both. -/
  same : ∀ a P b Q, (a, P) ∈ handed → (b, Q) ∈ handed →
    (storage.same a b = true ↔ ∀ key, P.reverse.lookup key = Q.reverse.lookup key)
  /-- Equal sets have the same digest, the same effect on every hasher, the same texts and the same
  entries in the same order. -/
  alike : ∀ a P b Q, (a, P) ∈ handed → (b, Q) ∈ handed → storage.same a b = true →
    ∃ left right, storage.at? a = some left ∧ storage.at? b = some right ∧
      left.digest = right.digest ∧
      (∀ (σ : Type) (write : σ → UInt64 → σ) (hasher : σ),
        left.hash write hasher = right.hash write hasher) ∧
      left.set.text = right.set.text ∧ left.set.quoted = right.set.quoted ∧
      left.set.entries = right.set.entries
  /-- A set has the value of the last pair with a key, as many labels as there are distinct keys,
  and its keys strictly in the order of their bytes. -/
  mapping : ∀ a P, (a, P) ∈ handed → ∃ stored, storage.at? a = some stored ∧
    stored.digest = digest stored.set.entries ∧
    (∀ key, stored.set.get? key = P.reverse.lookup key) ∧
    stored.set.size = (P.map Prod.fst).eraseDups.length ∧
    (stored.set.entries.map Prod.fst).Pairwise fun key key' => Name.bytes key < Name.bytes key'
  /-- Pairs with distinct keys may come in any order. -/
  permuted : ∀ a P b Q, (a, P) ∈ handed → (b, Q) ∈ handed → P.Perm Q → (P.map Prod.fst).Nodup →
    storage.same a b = true
  /-- Among pairs with repeated keys, neighbours with different keys may change places. -/
  swapped : ∀ a b before x y after, (a, before ++ x :: y :: after) ∈ handed →
    (b, before ++ y :: x :: after) ∈ handed → x.1 ≠ y.1 → storage.same a b = true
  /-- A pair whose key comes again later may be left out. -/
  overridden : ∀ a b before pair after, (a, before ++ pair :: after) ∈ handed →
    (b, before ++ after) ∈ handed → pair.1 ∈ after.map Prod.fst → storage.same a b = true
  /-- Pairs can be built into a set in every way, through a meter or not. -/
  ways : ∀ meter pairs,
    ∀ source ∈ [.flat meter (LabelSet.flatten pairs), .mapping meter (some pairs), .pairs pairs],
      ∃ r storage', storage.build digest source = (.ok r, storage') ∧
        Handed digest storage' (handed ++ [(r, pairs)])
  /-- A flat list is built into a set exactly if its length is even, and is refused with its length
  otherwise. -/
  flat : ∀ meter texts,
    ((∃ r storage', storage.build digest (.flat meter texts) = (.ok r, storage')) ↔
      texts.length % 2 = 0) ∧
    (texts.length % 2 ≠ 0 → storage.build digest (.flat meter texts) =
      (.error (.oddLabelSequence texts.length), storage))
  /-- What a script makes of a source is the set that is built from it. -/
  scripted : ∀ source r storage', storage.build digest source = (.ok r, storage') →
    ∃ stored, storage'.at? r = some stored ∧
      ∀ w set w', (Script.labelsFrom source).exec w = (.ok set, w') → stored.set = set

/-- **Label sets are canonical**, whatever the digest, and in whichever way they were made. -/
theorem canonical_of_handed (history : Handed digest storage handed) :
    Canonical digest storage handed := by
  obtain ⟨sound, stands⟩ := stands_of_handed history
  have same {a b : LabelRef} {P Q : List (String × String)} (first : (a, P) ∈ handed)
      (second : (b, Q) ∈ handed) : storage.same a b = true ↔
        ∀ key, P.reverse.lookup key = Q.reverse.lookup key := by
    obtain ⟨left, found, isLeft⟩ := stands a P first
    obtain ⟨right, found', isRight⟩ := stands b Q second
    rw [Storage.same_iff sound found found', isLeft, isRight, LabelSet.ofList_eq_iff]
  constructor
  case same => exact fun a P b Q => same
  case alike =>
    intro a P b Q first second equal
    obtain ⟨left, found, isLeft⟩ := stands a P first
    obtain ⟨right, found', isRight⟩ := stands b Q second
    have sets := (Storage.same_iff sound found found').mp equal
    -- Digests are computed from the entries, so that equal sets have equal ones; nothing is asked
    -- of the digests of sets that differ.
    have digests : left.digest = right.digest := by
      rw [sound.digested left (List.mem_of_getElem? found),
        sound.digested right (List.mem_of_getElem? found'), sets]
    refine ⟨left, right, found, found', digests, fun σ write hasher => ?_, ?_, ?_, ?_⟩
    · rw [StoredSet.hash, StoredSet.hash, digests]
    all_goals rw [sets]
  case mapping =>
    intro a P member
    obtain ⟨stored, found, isSet⟩ := stands a P member
    have mapping (key : String) : stored.set.get? key = P.reverse.lookup key := by
      rw [isSet, LabelSet.get?_ofList]
    exact ⟨stored, found, sound.digested stored (List.mem_of_getElem? found), mapping,
      LabelSet.size_of_get? mapping, stored.set.pairwise_bytes⟩
  case permuted =>
    exact fun a P b Q first second permuted distinct =>
      (same first second).mpr (last_of_perm distinct permuted)
  case swapped =>
    exact fun a b before x y after first second different =>
      (same first second).mpr (last_of_swap different before after)
  case overridden =>
    exact fun a b before pair after first second overridden =>
      (same first second).mpr (last_of_overridden overridden)
  case ways =>
    -- Each of the three ways is given the same pairs, and no check turns them away.
    intro meter pairs source member
    have built : ∃ r storage', storage.build digest source = (.ok r, storage') ∧
        source.given = pairs := by
      simp only [List.mem_cons, List.not_mem_nil, or_false] at member
      rcases member with rfl | rfl | rfl
      · have even : (LabelSet.flatten pairs).length % 2 = 0 := by
          rw [LabelSet.length_flatten, Nat.mul_mod_right]
        rcases Storage.ofFlat_cases sound (LabelSet.flatten pairs) with ⟨_, done, built, _⟩ |
          ⟨odd, _⟩
        · exact ⟨done.1, done.2, built, LabelSet.pairsOf_flatten pairs⟩
        · exact absurd even odd
      · exact ⟨_, _, rfl, rfl⟩
      · exact ⟨_, _, rfl, rfl⟩
    obtain ⟨r, storage', made, given⟩ := built
    exact ⟨r, storage', made, given ▸ history.build source made⟩
  case flat =>
    intro meter texts
    rcases Storage.ofFlat_cases sound texts with ⟨even, done, built, _⟩ | ⟨odd, refused⟩
    · exact ⟨⟨fun _ => even, fun _ => ⟨done.1, done.2, built⟩⟩, fun odd => absurd even odd⟩
    · refine ⟨⟨fun ⟨r, storage', built⟩ => ?_, fun even => absurd even odd⟩, fun _ => refused⟩
      cases built.symm.trans refused
  case scripted =>
    intro source r storage' built
    rcases Storage.build_cases sound source with ⟨done, made, makes⟩ | ⟨_, refused, _⟩
    · cases built.symm.trans made
      obtain ⟨stored, found, isSet⟩ := makes.made
      exact ⟨stored, found, fun w set w' scripted =>
        isSet.trans (Script.labelsFrom_given scripted).symm⟩
    · cases built.symm.trans refused

end Handed

/-- A digest that tells no sets apart. -/
def blind (_ : List (String × String)) : UInt64 := 7

/-- Storage in which a set was built from a flat list with a key that comes twice, another from a
mapping in another order, and a third from a mapping without labels. -/
def blindly : Storage :=
  (((Storage.bare.build blind (.flat none ["z", "1", "a", "2", "z", "3"])).2.build blind
    (.mapping none (some [("a", "2"), ("z", "3")]))).2.build blind (.mapping none (some []))).2

/-- Labels given with a key twice are the same as those given sorted, and differ from none, though
the digest tells no two sets apart. -/
theorem canonical_blindly :
    blindly.same ⟨0⟩ ⟨1⟩ = true ∧ blindly.same ⟨1⟩ ⟨2⟩ = false ∧
      Canonical blind blindly
        [(⟨0⟩, [("z", "1"), ("a", "2"), ("z", "3")]), (⟨1⟩, [("a", "2"), ("z", "3")]), (⟨2⟩, [])] :=
  ⟨by decide +kernel, by decide +kernel,
    canonical_of_handed
      (((Handed.bare.build (.flat none ["z", "1", "a", "2", "z", "3"])
        (Prod.ext (by decide +kernel) rfl)).build (.mapping none (some [("a", "2"), ("z", "3")]))
          (Prod.ext (by decide +kernel) rfl)).build (.mapping none (some []))
            (Prod.ext (by decide +kernel) rfl))⟩

end Metering
