import Mathlib.Data.List.Induction
import Mathlib.Data.List.Nodup

/-! # Values that count

Of several values put for one key the last counts, at the place where the key first came. Putting
one more value assigns it to its key (`Metering.settled_concat`).
-/

namespace Metering

/-- The last value for each key, in the order in which the keys came first. -/
def settled {α β : Type} [BEq α] (puts : List (α × β)) : List (α × β) :=
  (puts.map Prod.fst).eraseDups.filterMap fun key =>
    (puts.reverse.lookup key).map fun value => (key, value)

/-- Puts a value for a key in place of the one it had, or else at the end. -/
def assign {α β : Type} [DecidableEq α] (key : α) (value : β) : List (α × β) → List (α × β)
  | [] => [(key, value)]
  | (other, held) :: rest =>
    if other = key then (key, value) :: rest else (other, held) :: assign key value rest

section Settled

variable {α β : Type} [DecidableEq α] {puts entries : List (α × β)} {key : α} {value : β}

/-- A key repeated at the end is passed over. -/
theorem eraseDups_concat (l : List α) (a : α) :
    (l ++ [a]).eraseDups = if a ∈ l then l.eraseDups else l.eraseDups ++ [a] := by
  rw [List.eraseDups_append]
  by_cases known : a ∈ l
  · rw [if_pos known]
    simp [List.removeAll, known]
  · rw [if_neg known, List.removeAll, List.filter_cons_of_pos (by simpa using known),
      List.filter_nil]
    rfl

/-- Without repetitions each key comes once. -/
theorem nodup_eraseDups (l : List α) : l.eraseDups.Nodup := by
  induction l using List.reverseRecOn with
  | nil => exact List.nodup_nil
  | append_singleton l a ih =>
      rw [eraseDups_concat]
      by_cases known : a ∈ l
      · rw [if_pos known]
        exact ih
      · rw [if_neg known]
        refine List.nodup_append.mpr ⟨ih, List.nodup_singleton _, ?_⟩
        rintro b member _ isLast rfl
        rw [List.mem_singleton.mp isLast] at member
        exact known (List.mem_eraseDups.mp member)

/-- Keys that come once each are left as they are. -/
theorem eraseDups_of_nodup {l : List α} (distinct : l.Nodup) : l.eraseDups = l := by
  induction l using List.reverseRecOn with
  | nil => rfl
  | append_singleton l a ih =>
      obtain ⟨before, _, apart⟩ := List.nodup_append.mp distinct
      have new : a ∉ l := fun known => apart a known a (List.mem_singleton_self a) rfl
      rw [eraseDups_concat, if_neg new, ih before]

private theorem exists_last (member : key ∈ (puts.map Prod.fst).eraseDups) :
    ∃ value, puts.reverse.lookup key = some value := by
  rw [List.mem_eraseDups, List.mem_map] at member
  obtain ⟨entry, isPut, rfl⟩ := member
  exact Option.isSome_iff_exists.mp
    (List.lookup_isSome_iff.mpr ⟨entry, List.mem_reverse.mpr isPut, beq_self_eq_true _⟩)

/-- What is found under a key is an entry. -/
theorem mem_of_lookup (found : entries.lookup key = some value) : (key, value) ∈ entries := by
  obtain ⟨before, after, split, _⟩ := List.lookup_eq_some_iff.mp found
  rw [split]
  exact List.mem_append_right _ List.mem_cons_self

/-- Where no key comes twice, an entry is what is found under its key. -/
theorem lookup_of_mem (distinct : (entries.map Prod.fst).Nodup) (member : (key, value) ∈ entries) :
    entries.lookup key = some value := by
  obtain ⟨before, after, rfl⟩ := List.mem_iff_append.mp member
  rw [List.map_append] at distinct
  obtain ⟨_, _, apart⟩ := List.nodup_append.mp distinct
  refine List.lookup_eq_some_iff.mpr ⟨before, after, rfl, fun other earlier => ?_⟩
  have differs := apart other.1 (List.mem_map_of_mem earlier) key List.mem_cons_self
  simpa using Ne.symm differs

/-- Nothing is found under a key that no entry has. -/
theorem lookup_eq_none_iff_not_mem :
    entries.lookup key = none ↔ key ∉ entries.map Prod.fst := by
  rw [List.lookup_eq_none_iff, List.mem_map]
  refine ⟨fun other ⟨entry, member, same⟩ => ?_, fun unknown entry member => ?_⟩
  · simpa [same] using other entry member
  · simpa using fun same : key = entry.1 => unknown ⟨entry, member, same.symm⟩

/-- Every value that counts was put. -/
theorem mem_of_mem_settled (member : (key, value) ∈ settled puts) : (key, value) ∈ puts := by
  obtain ⟨other, _, found⟩ := List.mem_filterMap.mp member
  obtain ⟨last, isLast, same⟩ := Option.map_eq_some_iff.mp found
  cases same
  exact List.mem_reverse.mp (mem_of_lookup isLast)

/-- What is settled has the keys in the order of their first puts. -/
theorem keys_settled : (settled puts).map Prod.fst = (puts.map Prod.fst).eraseDups := by
  rw [settled, List.map_filterMap]
  refine Eq.trans (List.filterMap_congr fun key member => ?_) List.filterMap_some
  obtain ⟨value, last⟩ := exists_last member
  rw [last]
  rfl

/-- No key counts twice. -/
theorem nodup_settled (puts : List (α × β)) : ((settled puts).map Prod.fst).Nodup := by
  rw [keys_settled]
  exact nodup_eraseDups _

private theorem assign_of_not_mem (unknown : key ∉ entries.map Prod.fst) :
    assign key value entries = entries ++ [(key, value)] := by
  induction entries with
  | nil => rfl
  | cons entry rest ih =>
      obtain ⟨other, held⟩ := entry
      rw [List.map_cons, List.mem_cons, not_or] at unknown
      rw [assign, if_neg (Ne.symm unknown.1), ih unknown.2, List.cons_append]

private theorem assign_of_mem (distinct : (entries.map Prod.fst).Nodup)
    (known : key ∈ entries.map Prod.fst) : assign key value entries =
      entries.map fun entry => if entry.1 = key then (key, value) else entry := by
  induction entries with
  | nil => cases known
  | cons entry rest ih =>
      obtain ⟨other, held⟩ := entry
      obtain ⟨apart, tail⟩ := List.nodup_cons.mp distinct
      rw [assign, List.map_cons]
      by_cases same : other = key
      · subst same
        rw [if_pos rfl, if_pos rfl]
        congr 1
        have fixed : ∀ entry ∈ rest,
            (if entry.1 = other then (other, value) else entry) = entry := by
          intro entry member
          have different : entry.1 ≠ other := fun equal =>
            apart (equal ▸ List.mem_map.mpr ⟨entry, member, rfl⟩)
          exact if_neg different
        exact ((List.map_congr_left fixed).trans (List.map_id rest)).symm
      · have isLater : key ∈ rest.map Prod.fst :=
          (List.mem_cons.mp known).resolve_left (Ne.symm same)
        rw [if_neg same, if_neg same, ih tail isLater]

/-- **Putting one more value** assigns it to its key. -/
theorem settled_concat (puts : List (α × β)) (key : α) (value : β) :
    settled (puts ++ [(key, value)]) = assign key value (settled puts) := by
  have last (other : α) : (puts ++ [(key, value)]).reverse.lookup other =
      if other = key then some value else puts.reverse.lookup other := by
    rw [List.reverse_append, List.reverse_singleton, List.singleton_append, List.lookup_cons]
    by_cases same : other = key
    · rw [if_pos same, beq_iff_eq.mpr same]
    · rw [if_neg same, beq_eq_false_iff_ne.mpr same]
  have keys := eraseDups_concat (puts.map Prod.fst) key
  by_cases known : key ∈ puts.map Prod.fst
  · have isKey : key ∈ (settled puts).map Prod.fst := by
      rw [keys_settled]
      exact List.mem_eraseDups.mpr known
    rw [assign_of_mem (nodup_settled puts) isKey, settled, List.map_append, List.map_singleton,
      keys, if_pos known, settled, List.map_filterMap]
    refine List.filterMap_congr fun other member => ?_
    obtain ⟨old, isOld⟩ := exists_last member
    rw [last, isOld]
    by_cases same : other = key <;> simp [same]
  · have noKey : key ∉ (settled puts).map Prod.fst := by
      rw [keys_settled]
      exact fun member => known (List.mem_eraseDups.mp member)
    rw [assign_of_not_mem noKey, settled, List.map_append, List.map_singleton, keys, if_neg known,
      List.filterMap_append, settled]
    congr 1
    · refine List.filterMap_congr fun other member => ?_
      have different : other ≠ key := fun same => known (List.mem_eraseDups.mp (same ▸ member))
      rw [last, if_neg different]
    · simp

end Settled

end Metering
