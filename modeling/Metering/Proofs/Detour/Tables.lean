import Mathlib.Order.Monotone.Basic
import Mathlib.Logic.Embedding.Basic
import Metering.Proofs.Binding.Table

/-! # Detours in a binding table

A binding that is acquired and released at once leaves the table as it was, but for one more binding
made and released when the labels were not bound before
(`Metering.BindingTable.WellFormed.exists_detour`). So a table in which such detours were made is
the twin of one without them: it holds the same bindings under identities of its own
(`Metering.BindingTable.Twin`), and acquiring and releasing keep two tables twins.
-/

namespace Metering.BindingTable

variable {t t' : BindingTable} {labels constants : LabelSet} {f : Nat ↪ Nat} {course : List Bool}

/-! ## Acquired and released at once -/

/-- The table with one more binding, which nobody holds any more. -/
def retire (t : BindingTable) (labels constants : LabelSet) : BindingTable :=
  { t with made := t.made ++ [⟨labels, labels.mergedWith constants, 0, true⟩] }

/-- What acquiring labels and releasing them at once does. -/
structure Detour (t : BindingTable) (labels constants : LabelSet) (b : Binding) (remaining : Nat) :
    Prop where
  made : (t.acquire labels constants).1.made[(t.acquire labels constants).2]? = some b
  bound : b.labels = labels
  effective : b.effective = labels.mergedWith constants
  standing : b.released = false
  /-- The table is as before, but for a binding made anew. -/
  released : (t.acquire labels constants).1.release (t.acquire labels constants).2 =
    some (if (t.find? labels).isSome then t else t.retire labels constants, remaining)
  isLast : remaining = 0 ↔ t.find? labels = none

/-- The count of a binding that is shared goes up and down by one. -/
theorem WellFormed.detour_of_find? (wf : t.WellFormed constants) {identity : Nat}
    (found : t.find? labels = some identity) :
    ∃ b remaining, Detour t labels constants b remaining := by
  obtain ⟨b, made, rfl, live⟩ := wf.made_of_find? found
  let held := t.made.modify identity fun b => { b with refs := b.refs + 1 }
  have counted : held[identity]? = some { b with refs := b.refs + 1 } := by
    simp [held, made]
  have back : held.modify identity (fun c => { c with refs := b.refs }) = t.made := by
    refine List.ext_getElem? fun other => ?_
    rw [List.getElem?_modify, List.getElem?_modify]
    by_cases same : identity = other
    · subst same
      simp [made]
    · simp [same]
  have listed : (⟨held, t.live⟩ : BindingTable).find? b.labels = some identity := found
  have acquired : t.acquire b.labels constants = (⟨held, t.live⟩, identity) :=
    acquire_of_find? found
  refine ⟨{ b with refs := b.refs + 1 }, b.refs, ?_⟩
  constructor
  case made =>
    rw [acquired]
    exact counted
  case bound => rfl
  case effective => exact wf.merged identity b made
  case standing => exact (wf.pos_refs_iff made).mp live
  case released =>
    rw [acquired]
    simp only [BindingTable.release, counted, listed, if_true, Nat.add_sub_cancel, Nat.ne_of_gt live,
      if_false, back, found, Option.isSome_some]
  case isLast =>
    rw [found]
    exact ⟨fun zero => absurd zero (Nat.ne_of_gt live), nofun⟩

/-- A binding made anew is entered and taken out. -/
theorem WellFormed.detour_of_find?_none (wf : t.WellFormed constants)
    (found : t.find? labels = none) : ∃ b remaining, Detour t labels constants b remaining := by
  let b : Binding := ⟨labels, labels.mergedWith constants, 1, false⟩
  have acquired : t.acquire labels constants =
      (⟨t.made ++ [b], t.live ++ [(labels, t.made.length)]⟩, t.made.length) :=
    acquire_of_find?_none found
  have last : (t.made ++ [b])[t.made.length]? = some b := List.getElem?_concat_length
  have listed : (t.acquire labels constants).1.find? labels = some t.made.length := by
    refine (wf.acquire labels).find?_eq_some_iff.mpr ?_
    rw [acquired]
    exact List.mem_append_right _ (List.mem_singleton_self _)
  have others : (t.live ++ [(labels, t.made.length)]).filter
      (fun entry => entry.2 != t.made.length) = t.live := by
    have kept : ∀ entry ∈ t.live, (entry.2 != t.made.length) = true := by
      intro entry member
      obtain ⟨c, made, _⟩ := (wf.listed entry.1 entry.2).mp member
      exact bne_iff_ne.mpr (Nat.ne_of_lt (List.getElem?_eq_some_iff.mp made).1)
    rw [List.filter_append, List.filter_eq_self.mpr kept]
    simp
  rw [acquired] at listed
  refine ⟨b, 0, ?_⟩
  constructor
  case made =>
    rw [acquired]
    exact last
  case bound => rfl
  case effective => rfl
  case standing => rfl
  case released =>
    rw [acquired]
    simp only [BindingTable.release, last, b, listed, others, found]
    rw [Place.modify_eq_set last]
    simp [retire, b]
  case isLast => exact ⟨fun _ => found, fun _ => rfl⟩

/-- **A detour cancels out.** The binding acquired stands under the labels as overridden by the
constants, and its release gives back the table, to which a binding is added only if the labels were
not bound. -/
theorem WellFormed.exists_detour (wf : t.WellFormed constants) (labels : LabelSet) :
    ∃ b remaining, Detour t labels constants b remaining := by
  cases found : t.find? labels with
  | some identity => exact wf.detour_of_find? found
  | none => exact wf.detour_of_find?_none found

/-! ## Courses -/

/-- The places that the bindings yet to be made in one table will have in another. The course tells
of each binding that the other will make whether the one makes it too; past the course both make
the same. -/
def placeIn : List Bool → Nat → Nat
  | [], k => k
  | false :: course, k => placeIn course k + 1
  | true :: _, 0 => 0
  | true :: course, k + 1 => placeIn course k + 1

/-- Bindings made earlier in the first table are made earlier in the second. -/
theorem strictMono_placeIn (course : List Bool) : StrictMono (placeIn course) := by
  refine strictMono_nat_of_lt_succ fun k => ?_
  induction course generalizing k with
  | nil => exact Nat.lt_succ_self k
  | cons both course ih =>
      cases both with
      | false => exact Nat.succ_lt_succ (ih k)
      | true =>
          cases k with
          | zero => exact Nat.succ_pos _
          | succ k => exact Nat.succ_lt_succ (ih k)

/-! ## Twin tables -/

/-- **Twin tables.** The second holds the bindings of the first, each at a place of its own, and
whatever else was made in it is released. The course tells the places of bindings yet to be made. -/
structure Twin (f : Nat ↪ Nat) (course : List Bool) (t t' : BindingTable) : Prop where
  made : ∀ k, t'.made[f k]? = t.made[k]?
  live : t'.live = t.live.map (Prod.map id f)
  spare : ∀ (n : Nat) (b : Binding), t'.made[n]? = some b → (∀ k, f k ≠ n) →
    b.refs = 0 ∧ b.released = true
  ahead : ∀ k, f (t.made.length + k) = t'.made.length + placeIn course k

/-- Two empty tables are twins. -/
theorem twin_empty (told : ∀ k, f k = placeIn course k) : Twin f course empty empty where
  made _ := rfl
  live := rfl
  spare _ _ found := by cases found
  ahead k := by
    change f (0 + k) = 0 + placeIn course k
    rw [Nat.zero_add, Nat.zero_add, told]

namespace Twin

/-- Twins have the same labels bound. -/
theorem find? (twin : Twin f course t t') (labels : LabelSet) :
    t'.find? labels = (t.find? labels).map f := by
  have general (l : List (LabelSet × Nat)) :
      (l.map (Prod.map id f)).lookup labels = (l.lookup labels).map f := by
    induction l with
    | nil => rfl
    | cons entry rest ih =>
        obtain ⟨key, k⟩ := entry
        rw [List.map_cons, Prod.map_apply, id, List.lookup_cons, List.lookup_cons, ih]
        cases labels == key <;> rfl
  rw [BindingTable.find?, twin.live, general, BindingTable.find?]

/-- The same change of one binding in both tables. -/
theorem modify (twin : Twin f course t t') (k : Nat) (change : Binding → Binding) :
    Twin f course { t with made := t.made.modify k change }
      { t' with made := t'.made.modify (f k) change } where
  made other := by
    rw [List.getElem?_modify, List.getElem?_modify, twin.made]
    simp only [f.injective.eq_iff]
  live := twin.live
  spare n b made fresh := by
    obtain ⟨c, before, rfl⟩ := Place.getElem?_modify_eq_some.mp made
    rw [if_neg (fresh k)]
    exact twin.spare n c before fresh
  ahead := by
    simp only [List.length_modify]
    exact twin.ahead

/-- Twins stay twins when both acquire the same labels. -/
theorem acquire (twin : Twin f (if (t.find? labels).isSome then course else true :: course) t t')
    (constants : LabelSet) :
    (t'.acquire labels constants).2 = f (t.acquire labels constants).2 ∧
      Twin f course (t.acquire labels constants).1 (t'.acquire labels constants).1 := by
  have found' := twin.find? labels
  cases found : t.find? labels with
  | some k =>
      rw [found, Option.isSome_some, if_pos rfl] at twin
      rw [found, Option.map_some] at found'
      rw [acquire_of_find? found, acquire_of_find? found']
      exact ⟨rfl, twin.modify k _⟩
  | none =>
      rw [found, Option.isSome_none, if_neg Bool.false_ne_true] at twin
      rw [found, Option.map_none] at found'
      rw [acquire_of_find?_none found, acquire_of_find?_none found']
      have last : f t.made.length = t'.made.length := twin.ahead 0
      refine ⟨last.symm, ?_, ?_, ?_, ?_⟩
      · intro k
        by_cases isLast : k = t.made.length
        · rw [isLast, last, List.getElem?_concat_length, List.getElem?_concat_length]
        · rw [Place.getElem?_concat_of_ne isLast, Place.getElem?_concat_of_ne, twin.made]
          rw [← last]
          exact fun same => isLast (f.injective same)
      · rw [twin.live, List.map_append, ← last]
        rfl
      · intro n b made fresh
        rcases Place.getElem?_concat_eq_some.mp made with before | ⟨isLast, _⟩
        · exact twin.spare n b before fresh
        · exact absurd (last.trans isLast.symm) (fresh t.made.length)
      · intro k
        have next := twin.ahead (k + 1)
        rw [placeIn] at next
        rw [List.length_append, List.length_append, List.length_singleton,
          show t.made.length + 1 + k = t.made.length + (k + 1) by omega, next]
        omega

/-- Twins stay twins when both release a binding, which succeeds in both or in none. -/
theorem release (twin : Twin f course t t') (k : Nat) :
    (t.release k = none ∧ t'.release (f k) = none) ∨
    ∃ u u' remaining, t.release k = some (u, remaining) ∧ t'.release (f k) = some (u', remaining) ∧
      Twin f course u u' := by
  unfold BindingTable.release
  rw [twin.made k]
  cases t.made[k]? with
  | none => exact Or.inl ⟨rfl, rfl⟩
  | some b =>
      have listed : t'.find? b.labels = some (f k) ↔ t.find? b.labels = some k := by
        rw [twin.find?, Option.map_eq_some_iff]
        exact ⟨fun ⟨_, found, same⟩ => f.injective same ▸ found, fun found => ⟨k, found, rfl⟩⟩
      simp only [listed]
      split
      · split
        · have changed := twin.modify k fun b => { b with refs := 0, released := true }
          refine Or.inr ⟨_, _, 0, rfl, rfl, changed.made, ?_, changed.spare, changed.ahead⟩
          have kept : (fun entry : LabelSet × Nat => entry.2 != f k) ∘ Prod.map id f =
              fun entry => entry.2 != k :=
            funext fun entry => by
              rw [Bool.eq_iff_iff, Function.comp_apply, bne_iff_ne, bne_iff_ne]
              exact not_congr f.injective.eq_iff
          rw [twin.live, List.filter_map, kept]
        · exact Or.inr ⟨_, _, b.refs - 1, rfl, rfl, twin.modify k _⟩
      · exact Or.inl ⟨rfl, rfl⟩

/-- A detour in the second table, told by the course, leaves the two twins. -/
theorem retire (twin : Twin f (false :: course) t t') (labels constants : LabelSet) :
    Twin f course t (t'.retire labels constants) where
  made k := by
    have other : f k ≠ t'.made.length := by
      intro same
      by_cases inside : k < t.made.length
      · have made := twin.made k
        rw [same, List.getElem?_eq_none (Nat.le_refl _), List.getElem?_eq_getElem inside] at made
        cases made
      · have told := twin.ahead (k - t.made.length)
        rw [Nat.add_sub_cancel' (Nat.le_of_not_lt inside), same, placeIn] at told
        omega
    exact (Place.getElem?_concat_of_ne other).trans (twin.made k)
  live := twin.live
  spare n b made fresh := by
    rcases Place.getElem?_concat_eq_some.mp made with before | ⟨_, rfl⟩
    · exact twin.spare n b before fresh
    · exact ⟨rfl, rfl⟩
  ahead k := by
    have told := twin.ahead k
    rw [placeIn] at told
    rw [told, BindingTable.retire, List.length_append, List.length_singleton, Nat.add_right_comm,
      Nat.add_assoc]

/-- Twin tables have the same size. -/
theorem size (twin : Twin f course t t') : t'.size = t.size := by
  rw [BindingTable.size, twin.live, List.length_map, BindingTable.size]

end Twin

end Metering.BindingTable
