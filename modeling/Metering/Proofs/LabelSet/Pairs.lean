import Metering.Proofs.LabelSet
import Metering.Proofs.LabelSet.ByteOrder
import Metering.Proofs.Stream.Settled
import Mathlib.Data.List.Perm.Basic

/-! # Label sets and the pairs they are built from

A label set is its mapping (`Metering.LabelSet.ext_get?`). The mapping of a set that is built from
pairs takes each key to the value of the last pair with it (`Metering.LabelSet.get?_ofList`); what
comes to the same last pairs comes to the same set.
-/

namespace Metering

variable {P Q : List (String × String)} {key value : String}

/-! ## The last pair with a key -/

/-- The pairs that come last decide first. -/
theorem last_append (P Q : List (String × String)) (key : String) :
    (P ++ Q).reverse.lookup key = (Q.reverse.lookup key).or (P.reverse.lookup key) := by
  rw [List.reverse_append, List.lookup_append]

private theorem last_eq_none_iff : P.reverse.lookup key = none ↔ key ∉ P.map Prod.fst := by
  rw [lookup_eq_none_iff_not_mem, List.map_reverse, List.mem_reverse]

/-- Without repeated keys, every pair decides the value of its key. -/
theorem last_eq_some_iff (distinct : (P.map Prod.fst).Nodup) :
    P.reverse.lookup key = some value ↔ (key, value) ∈ P := by
  refine ⟨fun found => List.mem_reverse.mp (mem_of_lookup found), fun member => ?_⟩
  refine lookup_of_mem ?_ (List.mem_reverse.mpr member)
  rw [List.map_reverse]
  exact List.nodup_reverse.mpr distinct

/-- Pairs without repeated keys decide alike in any order. -/
theorem last_of_perm (distinct : (P.map Prod.fst).Nodup) (permuted : P.Perm Q) (key : String) :
    P.reverse.lookup key = Q.reverse.lookup key := by
  refine Option.ext fun value => ?_
  rw [last_eq_some_iff distinct,
    last_eq_some_iff ((permuted.map Prod.fst).nodup_iff.mp distinct), permuted.mem_iff]

private theorem last_cons (pair : String × String) (P : List (String × String)) (key : String) :
    (pair :: P).reverse.lookup key =
      (P.reverse.lookup key).or (if key = pair.1 then some pair.2 else none) := by
  rw [← List.singleton_append, last_append, List.reverse_singleton]
  exact congrArg _ (lookup_cons_eq_ite ..)

/-- Neighbouring pairs with different keys may change places. -/
theorem last_of_swap {x y : String × String} (different : x.1 ≠ y.1)
    (before after : List (String × String)) (key : String) :
    (before ++ x :: y :: after).reverse.lookup key =
      (before ++ y :: x :: after).reverse.lookup key := by
  rw [last_append, last_append, last_cons, last_cons, last_cons, last_cons]
  by_cases isFirst : key = x.1
  · rw [if_pos isFirst, if_neg (isFirst ▸ different), Option.or_none, Option.or_none]
  · rw [if_neg isFirst, Option.or_none, Option.or_none]

/-- A pair that is overridden later decides nothing. -/
theorem last_of_overridden {pair : String × String} {before after : List (String × String)}
    (overridden : pair.1 ∈ after.map Prod.fst) (key : String) :
    (before ++ pair :: after).reverse.lookup key = (before ++ after).reverse.lookup key := by
  rw [last_append, last_append before, last_cons]
  by_cases same : key = pair.1
  · subst same
    cases found : after.reverse.lookup pair.1 with
    | some value => rfl
    | none => exact absurd overridden (last_eq_none_iff.mp found)
  · rw [if_neg same, Option.or_none]

/-! ## Sets built from pairs -/

namespace LabelSet

/-- The set of some pairs has for each key the value that comes last. -/
theorem get?_ofList (P : List (String × String)) (key : String) :
    (ofList P).get? key = P.reverse.lookup key := by
  suffices general : ∀ s : LabelSet,
      (s.insertAll P).get? key = (P.reverse.lookup key).or (s.get? key) from
    (general empty).trans (Option.or_none ..)
  induction P with
  | nil => exact fun s => rfl
  | cons pair rest ih =>
      intro s
      rw [last_cons, Option.or_assoc]
      refine (ih (s.insert pair.1 pair.2)).trans (congrArg _ ?_)
      rw [get?_insert]
      by_cases same : key = pair.1 <;> simp only [same, if_true, if_false, Option.some_or,
        Option.none_or]

variable {s t : LabelSet}

/-- Sets of the same entries are equal. -/
theorem ext_entries (equal : s.entries = t.entries) : s = t := by
  obtain ⟨_, _⟩ := s
  obtain ⟨_, _⟩ := t
  cases equal
  rfl

/-- No two entries have the same key. -/
theorem nodup_keys (s : LabelSet) : (s.entries.map Prod.fst).Nodup := by
  refine List.pairwise_map.mpr (s.ascending.imp fun less same => ?_)
  rw [same] at less
  exact String.lt_irrefl _ less

/-- A set has the values of its entries. -/
theorem get?_eq_some_iff : s.get? key = some value ↔ (key, value) ∈ s.entries :=
  ⟨mem_of_lookup, lookup_of_mem s.nodup_keys⟩

/-- Sets with the same mapping are the same set. -/
theorem ext_get? (same : ∀ key, s.get? key = t.get? key) : s = t := by
  refine ext_entries (List.Perm.eq_of_pairwise (fun a b _ _ below above => ?_)
    s.ascending t.ascending ?_)
  · exact (String.lt_irrefl _ (String.lt_trans below above)).elim
  · refine (List.perm_ext_iff_of_nodup s.nodup_keys.of_map t.nodup_keys.of_map).mpr ?_
    rintro ⟨key, value⟩
    rw [← get?_eq_some_iff, ← get?_eq_some_iff, same]

/-- A set with the values that some pairs give has as many entries as they have keys. -/
theorem size_of_get? (same : ∀ key, s.get? key = P.reverse.lookup key) :
    s.size = (P.map Prod.fst).eraseDups.length := by
  have keys : (s.entries.map Prod.fst).Perm (P.map Prod.fst).eraseDups := by
    refine (List.perm_ext_iff_of_nodup s.nodup_keys (nodup_eraseDups _)).mpr fun key => ?_
    rw [List.mem_eraseDups, ← not_iff_not, ← last_eq_none_iff (P := P), ← same]
    exact lookup_eq_none_iff_not_mem.symm
  exact (List.length_map _).symm.trans keys.length_eq

/-- The keys ascend in the order of their bytes. -/
theorem pairwise_bytes (s : LabelSet) :
    (s.entries.map Prod.fst).Pairwise fun a b => Name.bytes a < Name.bytes b :=
  List.pairwise_map.mpr (s.ascending.imp fun less => (Name.bytes_lt_iff ..).mpr less)

/-- A set that is blank is the empty one. -/
theorem eq_empty_of_isEmpty (blank : s.isEmpty = true) : s = empty := by
  refine ext_get? fun key => ?_
  rw [get?, List.isEmpty_iff.mp blank]
  rfl

/-- Overriding one set by another is building a set from the pairs of both. -/
theorem mergedWith_ofList (P Q : List (String × String)) :
    (ofList P).mergedWith (ofList Q) = ofList (P ++ Q) := by
  refine ext_get? fun key => ?_
  rw [get?_mergedWith, get?_ofList, get?_ofList, get?_ofList, last_append]

/-- Two sets built from pairs are the same exactly if the pairs assign the same values. -/
theorem ofList_eq_iff : ofList P = ofList Q ↔
    ∀ key, P.reverse.lookup key = Q.reverse.lookup key := by
  refine ⟨fun equal key => ?_, fun alike => ext_get? fun key => ?_⟩
  · rw [← get?_ofList, ← get?_ofList, equal]
  · rw [get?_ofList, get?_ofList, alike]

/-- The keys and values of pairs, one after the other. -/
def flatten (pairs : List (String × String)) : List String :=
  pairs.flatMap fun pair => [pair.1, pair.2]

/-- A list flattened is read back in pairs. -/
theorem pairsOf_flatten (pairs : List (String × String)) : pairsOf (flatten pairs) = pairs := by
  induction pairs with
  | nil => rfl
  | cons pair rest ih => exact congrArg (pair :: ·) ih

/-- A flattened list has two elements for each pair. -/
theorem length_flatten (pairs : List (String × String)) :
    (flatten pairs).length = 2 * pairs.length := by
  induction pairs with
  | nil => rfl
  | cons pair rest ih =>
      change (flatten rest).length + 2 = 2 * (rest.length + 1)
      omega

end LabelSet

end Metering
