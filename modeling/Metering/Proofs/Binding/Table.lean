import Mathlib.Data.List.Nodup
import Mathlib.Data.List.Perm.Lattice
import Metering.Instrument.Binding
import Metering.Proofs.Place

/-! # Well-formed binding tables

A table is well formed when its entries are exactly the bindings not yet released, each under its
own labels, when no labels have two entries, and when a binding is released exactly once nobody
holds it (`Metering.BindingTable.WellFormed`). Acquiring and releasing keep a table well formed. In
a well-formed table a binding can be released exactly while it is held
(`Metering.BindingTable.WellFormed.release_isSome_iff`), acquiring adds one to the count of the
binding it answers (`Metering.BindingTable.WellFormed.refs_acquire`), and releasing takes one away
(`Metering.BindingTable.WellFormed.refs_release`).
-/

namespace Metering.BindingTable

/-- How often a binding is held; a binding never made is held by nobody. -/
def refs (t : BindingTable) (identity : Nat) : Nat :=
  (t.made[identity]?.map Binding.refs).getD 0

/-- The identities of the bindings that somebody holds. -/
def liveIdentities (t : BindingTable) : List Nat :=
  (List.range t.made.length).filter fun identity => decide (0 < t.refs identity)

/-- **Well-formed tables** of an instrument with some constant labels. -/
structure WellFormed (constants : LabelSet) (t : BindingTable) : Prop where
  /-- No labels have two entries. -/
  distinct : (t.live.map Prod.fst).Nodup
  /-- The entries are the bindings not yet released, each under its labels. -/
  listed : ∀ labels identity, (labels, identity) ∈ t.live ↔
    ∃ b : Binding, t.made[identity]? = some b ∧ b.labels = labels ∧ b.released = false
  /-- A binding records under its labels as overridden by the constants. -/
  merged : ∀ (identity : Nat) (b : Binding), t.made[identity]? = some b →
    b.effective = b.labels.mergedWith constants
  /-- A binding is released exactly when nobody holds it. -/
  held : ∀ (identity : Nat) (b : Binding), t.made[identity]? = some b →
    (b.released = true ↔ b.refs = 0)

variable {constants labels : LabelSet} {t t' : BindingTable} {identity remaining : Nat}
  {b : Binding}

/-- A binding that was made is held as often as it says. -/
theorem refs_of_made (made : t.made[identity]? = some b) : t.refs identity = b.refs := by
  simp only [refs, made, Option.map_some, Option.getD_some]

private theorem refs_of_length_le (outside : t.made.length ≤ identity) : t.refs identity = 0 := by
  simp only [refs, List.getElem?_eq_none outside, Option.map_none, Option.getD_none]

/-- A table without bindings is well formed. -/
theorem wellFormed_empty (constants : LabelSet) : empty.WellFormed constants where
  distinct := List.nodup_nil
  listed := by simp [empty]
  merged := by simp [empty]
  held := by simp [empty]

/-! ## What acquiring and releasing do -/

/-- Labels that have a live binding get one more hold of it. -/
theorem acquire_of_find? (found : t.find? labels = some identity) :
    t.acquire labels constants =
      ({ t with made := t.made.modify identity fun b => { b with refs := b.refs + 1 } },
        identity) := by
  simp only [acquire, found]

/-- Labels that have no live binding get a new one. -/
theorem acquire_of_find?_none (missing : t.find? labels = none) :
    t.acquire labels constants =
      ({ made := t.made ++ [⟨labels, labels.mergedWith constants, 1, false⟩]
         live := t.live ++ [(labels, t.made.length)] }, t.made.length) := by
  simp only [acquire, missing]

/-- A release that succeeds finds the binding under its labels in the table, and either takes one
from its count or releases it for good. -/
theorem release_eq_some (released : t.release identity = some (t', remaining)) :
    ∃ b : Binding, t.made[identity]? = some b ∧ t.find? b.labels = some identity ∧
      remaining = b.refs - 1 ∧
      ((remaining = 0 ∧
          t' = { made := t.made.modify identity fun b => { b with refs := 0, released := true }
                 live := t.live.filter fun entry => entry.2 != identity }) ∨
        (0 < remaining ∧
          t' = { t with
                 made := t.made.modify identity fun b => { b with refs := remaining } })) := by
  unfold release at released
  cases made : t.made[identity]? with
  | none => simp only [made, reduceCtorEq] at released
  | some b =>
      simp only [made] at released
      split at released
      · next found =>
        refine ⟨b, rfl, found, ?_⟩
        split at released
        · next zero =>
          obtain ⟨rfl, rfl⟩ := Prod.mk.inj (Option.some.inj released)
          exact ⟨zero.symm, Or.inl ⟨rfl, rfl⟩⟩
        · next positive =>
          obtain ⟨rfl, rfl⟩ := Prod.mk.inj (Option.some.inj released)
          exact ⟨rfl, Or.inr ⟨Nat.pos_of_ne_zero positive, rfl⟩⟩
      · cases released

/-- A release makes no binding. -/
theorem length_release (released : t.release identity = some (t', remaining)) :
    t'.made.length = t.made.length := by
  obtain ⟨b, _, _, _, ⟨_, rfl⟩ | ⟨_, rfl⟩⟩ := release_eq_some released
  · exact List.length_modify ..
  · exact List.length_modify ..

/-- A release leaves the labels of all bindings. -/
theorem labels_release (released : t.release identity = some (t', remaining)) (other : Nat) :
    t'.made[other]?.map Binding.labels = t.made[other]?.map Binding.labels := by
  obtain ⟨b, _, _, _, ⟨_, rfl⟩ | ⟨_, rfl⟩⟩ := release_eq_some released
  all_goals
    simp only [List.getElem?_modify]
    by_cases same : identity = other <;> cases t.made[other]? <;> simp [same]

namespace WellFormed

variable (wf : t.WellFormed constants)

include wf

/-- The binding found for labels is the one that the table lists for them. -/
theorem find?_eq_some_iff : t.find? labels = some identity ↔ (labels, identity) ∈ t.live := by
  unfold find?
  rw [List.lookup_eq_some_iff]
  constructor
  · rintro ⟨before, after, split, _⟩
    rw [split]
    exact List.mem_append_right _ List.mem_cons_self
  · intro member
    obtain ⟨before, after, split⟩ := List.append_of_mem member
    refine ⟨before, after, split, fun entry earlier => ?_⟩
    have keys := wf.distinct
    rw [split, List.map_append, List.map_cons, List.nodup_append] at keys
    have different := keys.2.2 entry.1 (List.mem_map_of_mem earlier) labels List.mem_cons_self
    simpa using fun same => different same.symm

private theorem find?_eq_none_iff : t.find? labels = none ↔ labels ∉ t.live.map Prod.fst := by
  rw [Option.eq_none_iff_forall_ne_some, List.mem_map]
  constructor
  · rintro missing ⟨entry, member, rfl⟩
    exact missing entry.2 (wf.find?_eq_some_iff.mpr member)
  · intro missing identity found
    exact missing ⟨(labels, identity), wf.find?_eq_some_iff.mp found, rfl⟩

/-- A binding is held as long as it is not released. -/
theorem pos_refs_iff (made : t.made[identity]? = some b) : 0 < b.refs ↔ b.released = false := by
  rw [Nat.pos_iff_ne_zero, ← Bool.not_eq_true, not_iff_not]
  exact (wf.held identity b made).symm

/-- A binding stands in the table under its labels exactly when it is held. -/
theorem find?_labels_iff (made : t.made[identity]? = some b) :
    t.find? b.labels = some identity ↔ 0 < b.refs := by
  rw [wf.find?_eq_some_iff, wf.listed, wf.pos_refs_iff made]
  constructor
  · rintro ⟨other, same, _, standing⟩
    rw [made] at same
    exact Option.some.inj same ▸ standing
  · exact fun standing => ⟨b, made, rfl, standing⟩

/-- The binding found for labels is one of these labels that is held. -/
theorem made_of_find? (found : t.find? labels = some identity) :
    ∃ b : Binding, t.made[identity]? = some b ∧ b.labels = labels ∧ 0 < b.refs := by
  obtain ⟨b, made, same, standing⟩ := (wf.listed _ _).mp (wf.find?_eq_some_iff.mp found)
  exact ⟨b, made, same, (wf.pos_refs_iff made).mpr standing⟩

/-- Of two bindings of the same labels, one at most is held. -/
theorem identity_unique {other : Nat} {c : Binding} (made : t.made[identity]? = some b)
    (madeOther : t.made[other]? = some c) (live : 0 < b.refs) (liveOther : 0 < c.refs)
    (same : b.labels = c.labels) : identity = other := by
  have found := (wf.find?_labels_iff made).mpr live
  have foundOther := (wf.find?_labels_iff madeOther).mpr liveOther
  rw [same, foundOther] at found
  exact (Option.some.inj found).symm

private theorem nodup_identities : (t.live.map Prod.snd).Nodup := by
  refine List.Nodup.map_on ?_ (List.Nodup.of_map _ wf.distinct)
  rintro ⟨labels, identity⟩ member ⟨others, same⟩ memberOther rfl
  obtain ⟨b, made, rfl, _⟩ := (wf.listed _ _).mp member
  obtain ⟨c, madeOther, rfl, _⟩ := (wf.listed _ _).mp memberOther
  rw [made] at madeOther
  rw [Option.some.inj madeOther]

/-- The entries of the table stand for the bindings that are held. -/
theorem perm_liveIdentities : (t.live.map Prod.snd).Perm t.liveIdentities := by
  refine (List.perm_ext_iff_of_nodup wf.nodup_identities
    (List.nodup_range.filter _)).mpr fun identity => ?_
  simp only [List.mem_map, List.mem_filter, List.mem_range, decide_eq_true_eq]
  constructor
  · rintro ⟨⟨labels, _⟩, member, rfl⟩
    obtain ⟨b, made, _, standing⟩ := (wf.listed _ _).mp member
    exact ⟨(List.getElem?_eq_some_iff.mp made).1,
      refs_of_made made ▸ (wf.pos_refs_iff made).mpr standing⟩
  · rintro ⟨inside, live⟩
    have made := List.getElem?_eq_getElem inside
    rw [refs_of_made made] at live
    exact ⟨(t.made[identity].labels, identity),
      (wf.listed _ _).mpr ⟨_, made, rfl, (wf.pos_refs_iff made).mp live⟩, rfl⟩

/-- A table has as many entries as live bindings. -/
theorem size_eq : t.size = t.liveIdentities.length := by
  rw [← wf.perm_liveIdentities.length_eq, List.length_map, size]

/-! ## Acquiring and releasing keep a table well formed -/

/-- Counting a binding anew keeps a table well formed, if the binding is held before and after. -/
theorem recount (count : Binding → Nat)
    (standing : ∀ b : Binding, t.made[identity]? = some b → b.released = false)
    (positive : ∀ b : Binding, t.made[identity]? = some b → 0 < count b) :
    WellFormed constants
      { t with made := t.made.modify identity fun b => { b with refs := count b } } where
  distinct := wf.distinct
  listed := by
    intro labels other
    rw [wf.listed, List.getElem?_modify]
    by_cases same : identity = other
    · subst same
      cases made : t.made[identity]? <;> simp
    · simp [same]
  merged := by
    intro other c madeOther
    obtain ⟨b, made, rfl⟩ := Place.getElem?_modify_eq_some.mp madeOther
    by_cases same : identity = other
    · simpa only [same, ↓reduceIte] using wf.merged other b made
    · simpa only [same, ↓reduceIte] using wf.merged other b made
  held := by
    intro other c madeOther
    obtain ⟨b, made, rfl⟩ := Place.getElem?_modify_eq_some.mp madeOther
    by_cases same : identity = other
    · subst same
      have live := positive b made
      simp only [↓reduceIte, standing b made, Bool.false_eq_true, false_iff]
      omega
    · simpa only [same, ↓reduceIte] using wf.held other b made

/-- Binding keeps a table well formed. -/
theorem acquire (labels : LabelSet) : (t.acquire labels constants).1.WellFormed constants := by
  cases found : t.find? labels with
  | some identity =>
      rw [acquire_of_find? found]
      obtain ⟨b, made, _, live⟩ := wf.made_of_find? found
      refine wf.recount (fun b => b.refs + 1) (fun c other => ?_) fun _ _ => Nat.succ_pos _
      rw [made] at other
      exact Option.some.inj other ▸ (wf.pos_refs_iff made).mp live
  | none =>
      rw [acquire_of_find?_none found]
      have absent := wf.find?_eq_none_iff.mp found
      constructor
      · rw [List.map_append, List.nodup_append]
        refine ⟨wf.distinct, List.nodup_singleton _, ?_⟩
        rintro key member _ last rfl
        rw [List.map_singleton, List.mem_singleton] at last
        exact absent (by rwa [last] at member)
      · intro others identity
        simp only [List.mem_append, List.mem_singleton, Prod.mk.injEq, wf.listed,
          Place.getElem?_concat_eq_some]
        constructor
        · rintro (⟨b, made, same, standing⟩ | ⟨rfl, rfl⟩)
          · exact ⟨b, Or.inl made, same, standing⟩
          · exact ⟨_, Or.inr ⟨rfl, rfl⟩, rfl, rfl⟩
        · rintro ⟨b, made | ⟨rfl, rfl⟩, same, standing⟩
          · exact Or.inl ⟨b, made, same, standing⟩
          · exact Or.inr ⟨same.symm, rfl⟩
      · intro identity c made
        rcases Place.getElem?_concat_eq_some.mp made with made | ⟨rfl, rfl⟩
        · exact wf.merged identity c made
        · rfl
      · intro identity c made
        rcases Place.getElem?_concat_eq_some.mp made with made | ⟨rfl, rfl⟩
        · exact wf.held identity c made
        · simp

/-- Releasing keeps a table well formed. -/
theorem release (released : t.release identity = some (t', remaining)) :
    t'.WellFormed constants := by
  obtain ⟨b, made, found, _, ⟨_, rfl⟩ | ⟨positive, rfl⟩⟩ := release_eq_some released
  · constructor
    · exact wf.distinct.sublist (List.filter_sublist.map _)
    · intro labels other
      simp only [List.mem_filter, bne_iff_ne, ne_eq, List.getElem?_modify, wf.listed]
      by_cases same : identity = other
      · subst same
        simp [made]
      · simp [same, Ne.symm same]
    · intro other c madeOther
      obtain ⟨d, madeBefore, rfl⟩ := Place.getElem?_modify_eq_some.mp madeOther
      by_cases same : identity = other
      · simpa only [same, ↓reduceIte] using wf.merged other d madeBefore
      · simpa only [same, ↓reduceIte] using wf.merged other d madeBefore
    · intro other c madeOther
      obtain ⟨d, madeBefore, rfl⟩ := Place.getElem?_modify_eq_some.mp madeOther
      by_cases same : identity = other
      · simp only [same, ↓reduceIte]
      · simpa only [same, ↓reduceIte] using wf.held other d madeBefore
  · refine wf.recount (fun _ => remaining) (fun c other => ?_) fun _ _ => positive
    rw [made] at other
    exact Option.some.inj other ▸
      (wf.pos_refs_iff made).mp ((wf.find?_labels_iff made).mp found)

/-- The bindings made by then are those before and the one that is bound. -/
theorem lt_length_acquire_iff (labels : LabelSet) (other : Nat) :
    other < (t.acquire labels constants).1.made.length ↔
      other < t.made.length ∨ other = (t.acquire labels constants).2 := by
  cases found : t.find? labels with
  | some identity =>
      rw [acquire_of_find? found]
      obtain ⟨b, made, _, _⟩ := wf.made_of_find? found
      have inside := (List.getElem?_eq_some_iff.mp made).1
      simp only [List.length_modify]
      omega
  | none =>
      rw [acquire_of_find?_none found]
      simp only [List.length_append, List.length_singleton]
      omega

/-- A binding that nobody holds any more is not bound again. -/
theorem acquire_ne_of_refs_eq_zero (labels : LabelSet) (inside : identity < t.made.length)
    (exhausted : t.refs identity = 0) : (t.acquire labels constants).2 ≠ identity := by
  cases found : t.find? labels with
  | some other =>
      rw [acquire_of_find? found]
      obtain ⟨b, made, _, live⟩ := wf.made_of_find? found
      rintro rfl
      rw [refs_of_made made] at exhausted
      omega
  | none =>
      rw [acquire_of_find?_none found]
      exact Nat.ne_of_gt inside

/-! ## Counts -/

/-- Acquiring adds one to the count of the binding it answers, and to no other. -/
theorem refs_acquire (labels : LabelSet) (other : Nat) :
    (t.acquire labels constants).1.refs other =
      t.refs other + if other = (t.acquire labels constants).2 then 1 else 0 := by
  cases found : t.find? labels with
  | some identity =>
      rw [acquire_of_find? found]
      obtain ⟨b, made, _, _⟩ := wf.made_of_find? found
      simp only [refs, List.getElem?_modify]
      by_cases same : other = identity
      · subst same
        simp [made]
      · simp [same, Ne.symm same]
  | none =>
      rw [acquire_of_find?_none found]
      rcases Nat.lt_trichotomy other t.made.length with inside | rfl | outside
      · simp [refs, List.getElem?_append_left inside, Nat.ne_of_lt inside]
      · simp [refs]
      · rw [refs_of_length_le (Nat.le_of_lt outside), refs_of_length_le]
        · simp only [Nat.ne_of_gt outside, ↓reduceIte]
        · rw [List.length_append, List.length_singleton]
          exact outside

/-- Acquiring gives the labels to the identity that it answers, unless that has them already. -/
theorem labels_acquire (labels : LabelSet) (other : Nat) :
    (t.acquire labels constants).1.made[other]?.map Binding.labels =
      (t.made[other]?.map Binding.labels).or
        (if (t.acquire labels constants).2 = other then some labels else none) := by
  cases found : t.find? labels with
  | some identity =>
      rw [acquire_of_find? found]
      obtain ⟨b, made, rfl, _⟩ := wf.made_of_find? found
      simp only [List.getElem?_modify]
      by_cases same : identity = other
      · subst same
        simp [made]
      · simp [same]
  | none =>
      rw [acquire_of_find?_none found]
      rcases Nat.lt_trichotomy other t.made.length with inside | rfl | outside
      · simp [List.getElem?_append_left inside, Nat.ne_of_gt inside]
      · simp
      · have beyond :
            (t.made ++ [(⟨labels, labels.mergedWith constants, 1, false⟩ : Binding)]).length ≤
              other := by
          rw [List.length_append, List.length_singleton]
          exact outside
        simp [List.getElem?_eq_none beyond, List.getElem?_eq_none (Nat.le_of_lt outside),
          Nat.ne_of_lt outside]

/-- Binding labels gives a binding of these labels. -/
theorem labels_acquired (labels : LabelSet) :
    (t.acquire labels constants).1.made[(t.acquire labels constants).2]?.map Binding.labels =
      some labels := by
  cases found : t.find? labels with
  | some identity =>
      rw [acquire_of_find? found]
      obtain ⟨b, made, rfl, _⟩ := wf.made_of_find? found
      simp [made]
  | none =>
      rw [acquire_of_find?_none found]
      simp

/-- Releasing takes one from the count of its binding, which was held, and from no other. -/
theorem refs_release (released : t.release identity = some (t', remaining)) (other : Nat) :
    t'.refs other + (if other = identity then 1 else 0) = t.refs other := by
  obtain ⟨b, made, found, counted, ⟨zero, rfl⟩ | ⟨_, rfl⟩⟩ := release_eq_some released
  all_goals
    have live := (wf.find?_labels_iff made).mp found
    simp only [refs, List.getElem?_modify]
    by_cases same : other = identity
    · subst same
      simp only [made, Option.map_eq_map, ↓reduceIte, Option.map_some, Option.getD_some]
      omega
    · simp [same, Ne.symm same]

/-- A binding can be released exactly while it is held. -/
theorem release_isSome_iff : (t.release identity).isSome ↔ 0 < t.refs identity := by
  unfold BindingTable.release
  cases made : t.made[identity]? with
  | none => simp [refs, made]
  | some b =>
      rw [refs_of_made made, ← wf.find?_labels_iff made]
      by_cases found : t.find? b.labels = some identity
      · simp only [found, ↓reduceIte, iff_true]
        split <;> rfl
      · simp only [found, ↓reduceIte, Option.isSome_none, Bool.false_eq_true]

end WellFormed

end Metering.BindingTable
