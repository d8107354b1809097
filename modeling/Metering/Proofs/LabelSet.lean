import Metering.LabelSet

/-! # Looking up labels

Overriding a label set by constants is described by what a lookup finds
(`Metering.LabelSet.get?_mergedWith`): the constant where there is one, and the label that the
caller gave elsewhere.
-/

namespace Metering

/-- What is found under a key after one more entry is put in front. -/
theorem lookup_cons_eq_ite (key value other : String) (entries : List (String × String)) :
    ((key, value) :: entries).lookup other =
      if other = key then some value else entries.lookup other := by
  rw [List.lookup_cons]
  by_cases same : other = key
  · rw [if_pos same, beq_iff_eq.mpr same]
  · rw [if_neg same, beq_eq_false_iff_ne.mpr same]

private theorem lookup_insertEntry (key value other : String) (entries : List (String × String)) :
    (insertEntry key value entries).lookup other =
      if other = key then some value else entries.lookup other := by
  induction entries with
  | nil => exact lookup_cons_eq_ite key value other []
  | cons head rest ih =>
      obtain ⟨k, v⟩ := head
      rw [insertEntry]
      by_cases before : key < k
      · rw [if_pos before, lookup_cons_eq_ite]
      · rw [if_neg before]
        by_cases equal : key = k
        · subst equal
          rw [if_pos rfl, lookup_cons_eq_ite, lookup_cons_eq_ite]
          by_cases same : other = key <;> simp only [same, if_true, if_false]
        · rw [if_neg equal, lookup_cons_eq_ite, ih, lookup_cons_eq_ite]
          by_cases same : other = key
          · subst same
            rw [if_neg equal, if_pos rfl, if_pos rfl]
          · rw [if_neg same, if_neg same]

namespace LabelSet

@[simp]
theorem get?_insert (s : LabelSet) (key value other : String) :
    (s.insert key value).get? other = if other = key then some value else s.get? other :=
  lookup_insertEntry key value other s.entries

/-- When no key comes twice among the pairs, each of them decides the value of its key. -/
theorem get?_insertAll (s : LabelSet) (other : String) {pairs : List (String × String)}
    (ascending : pairs.Pairwise fun a b => a.1 < b.1) :
    (s.insertAll pairs).get? other = (pairs.lookup other).or (s.get? other) := by
  induction pairs generalizing s with
  | nil => rfl
  | cons pair rest ih =>
      obtain ⟨key, value⟩ := pair
      obtain ⟨above, tail⟩ := List.pairwise_cons.mp ascending
      have step : (s.insertAll ((key, value) :: rest)).get? other =
          (rest.lookup other).or ((s.insert key value).get? other) := ih (s.insert key value) tail
      rw [step, get?_insert, lookup_cons_eq_ite]
      by_cases same : other = key
      · subst same
        have missing : rest.lookup other = none := by
          rw [List.lookup_eq_none_iff]
          intro entry member
          have less := above entry member
          rw [bne_iff_ne]
          intro equal
          rw [← equal] at less
          exact String.lt_irrefl other less
        rw [missing, if_pos rfl, if_pos rfl, Option.none_or, Option.some_or]
      · rw [if_neg same, if_neg same]

/-- **Overriding by constants.** -/
theorem get?_mergedWith (s constants : LabelSet) (key : String) :
    (s.mergedWith constants).get? key = (constants.get? key).or (s.get? key) := by
  unfold mergedWith
  by_cases noConstants : constants.isEmpty = true
  · have none : constants.get? key = none := by
      rw [get?, List.isEmpty_iff.mp noConstants]
      rfl
    rw [if_pos noConstants, none, Option.none_or]
  · rw [if_neg noConstants]
    by_cases noLabels : s.isEmpty = true
    · have none : s.get? key = none := by
        rw [get?, List.isEmpty_iff.mp noLabels]
        rfl
      rw [if_pos noLabels, none, Option.or_none]
    · rw [if_neg noLabels]
      exact get?_insertAll s key constants.ascending

end LabelSet

end Metering
