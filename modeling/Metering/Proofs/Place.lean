import Mathlib.Data.List.Basic

/-! # Places in lists

Objects are referred to by their places in lists that grow at the end and whose members are changed
in place. These are the facts about such lists that the theory of the library rests on.
-/

namespace Metering.Place

variable {α : Type}

/-- After a list has grown by one, a place has an element exactly if it had it before or is the
place of the new one. -/
theorem getElem?_concat_eq_some {l : List α} {a b : α} {place : Nat} :
    (l ++ [a])[place]? = some b ↔ l[place]? = some b ∨ (place = l.length ∧ b = a) := by
  rcases Nat.lt_trichotomy place l.length with inside | rfl | outside
  · simp only [List.getElem?_append_left inside, Nat.ne_of_lt inside, false_and, or_false]
  · simp [eq_comm]
  · have beyond : (l ++ [a]).length ≤ place := by
      rw [List.length_append, List.length_singleton]
      exact outside
    simp only [List.getElem?_eq_none beyond, List.getElem?_eq_none (Nat.le_of_lt outside),
      reduceCtorEq, Nat.ne_of_gt outside, false_and, or_self]

/-- What is added at the end leaves the places before it. -/
theorem getElem?_concat_of_ne {l : List α} {a : α} {place : Nat} (other : place ≠ l.length) :
    (l ++ [a])[place]? = l[place]? := by
  refine Option.ext fun b => ?_
  rw [getElem?_concat_eq_some, or_iff_left fun both => other both.1]

section Told

variable {l made : List α} {f : Nat → α → α} (told : ∀ place, l[place]? = made[place]?.map (f place))

include told

/-- Lists that hold something in the same places are of one length. -/
theorem length_eq_of_told : l.length = made.length := by
  have places : l.map (fun _ => ()) = made.map fun _ => () := by
    refine List.ext_getElem? fun place => ?_
    rw [List.getElem?_map, List.getElem?_map, told, Option.map_map, Function.comp_def]
  simpa using congrArg List.length places

/-- What has become of each member of a list is told again after the list has grown by one, if
nothing was to become of a member not yet there. -/
theorem told_concat (idle : ∀ place, l[place]? = none → ∀ a, f place a = a) (a : α) (place : Nat) :
    (l ++ [a])[place]? = (made ++ [a])[place]?.map (f place) := by
  have length := length_eq_of_told told
  by_cases inside : place < made.length
  · rw [List.getElem?_append_left (length.symm ▸ inside), List.getElem?_append_left inside, told]
  · have outside := Nat.le_of_not_lt inside
    have unchanged : f place = id :=
      funext (idle place (List.getElem?_eq_none (length.symm ▸ outside)))
    rw [unchanged, List.getElem?_append_right (length.symm ▸ outside),
      List.getElem?_append_right outside, length, Option.map_id, id]

end Told

/-- What stands in a modified list stood there before, or was modified. -/
theorem getElem?_modify_eq_some {l : List α} {f : α → α} {changed place : Nat} {b : α} :
    (l.modify changed f)[place]? = some b ↔
      ∃ a, l[place]? = some a ∧ b = if changed = place then f a else a := by
  rw [List.getElem?_modify, Option.map_eq_map, Option.map_eq_some_iff]
  exact exists_congr fun a => and_congr_right fun _ => eq_comm

/-- To modify what stands at a place is to set it. -/
theorem modify_eq_set {l : List α} {f : α → α} {place : Nat} {a : α} (found : l[place]? = some a) :
    l.modify place f = l.set place (f a) := by
  obtain ⟨inside, rfl⟩ := List.getElem?_eq_some_iff.mp found
  rw [List.modify_eq_take_cons_drop inside, List.set_eq_take_append_cons_drop, if_pos inside]

/-- To set what stands at a place already changes nothing. -/
theorem set_self {l : List α} {a : α} {place : Nat} (found : l[place]? = some a) :
    l.set place a = l := by
  obtain ⟨inside, rfl⟩ := List.getElem?_eq_some_iff.mp found
  exact List.set_getElem_self inside

/-- What stands in a list after one place was set. -/
theorem getElem?_set_eq_some {l : List α} {a b : α} {changed place : Nat} {old : α}
    (found : l[changed]? = some old) :
    (l.set changed a)[place]? = some b ↔
      (place = changed ∧ b = a) ∨ (place ≠ changed ∧ l[place]? = some b) := by
  have inside := (List.getElem?_eq_some_iff.mp found).1
  rw [List.getElem?_set]
  by_cases same : changed = place
  · subst same
    simp [inside, eq_comm]
  · simp [same, Ne.symm same]

/-- A list is read off at its places in order. -/
theorem filterMap_getElem?_range (l : List α) :
    (List.range l.length).filterMap (fun place => l[place]?) = l := by
  induction l with
  | nil => rfl
  | cons a l ih =>
      rw [List.length_cons, List.range_succ_eq_map, List.filterMap_cons, List.filterMap_map]
      exact congrArg (a :: ·) ih

/-- Members of a list, in any order, are read off at some places. -/
theorem exists_filterMap_getElem? {l members : List α} (subset : members ⊆ l) :
    ∃ places : List Nat, places.filterMap (fun place => l[place]?) = members := by
  induction members with
  | nil => exact ⟨[], rfl⟩
  | cons a members ih =>
      obtain ⟨first, rest⟩ := List.cons_subset.mp subset
      obtain ⟨place, found⟩ := List.getElem?_of_mem first
      obtain ⟨places, read⟩ := ih rest
      exact ⟨place :: places, by rw [List.filterMap_cons_some found, read]⟩

/-- If every element yields something, a list yields one thing for each element, in order. -/
theorem map_some_filterMap {β : Type} {f : α → Option β} {l : List α}
    (every : ∀ a ∈ l, (f a).isSome) : (l.filterMap f).map some = l.map f := by
  induction l with
  | nil => rfl
  | cons a l ih =>
      obtain ⟨b, found⟩ := Option.isSome_iff_exists.mp (every a List.mem_cons_self)
      rw [List.filterMap_cons_some found, List.map_cons, List.map_cons, found,
        ih fun x member => every x (List.mem_cons_of_mem a member)]

/-- What the elements of a list yield, with the part of one place taken out and put back. -/
theorem exists_perm_flatMap_set {β : Type} {l : List α} {old : α} {place : Nat} (f : α → List β)
    (found : l[place]? = some old) :
    ∃ rest, (l.flatMap f).Perm (f old ++ rest) ∧
      ∀ a, ((l.set place a).flatMap f).Perm (f a ++ rest) := by
  obtain ⟨inside, rfl⟩ := List.getElem?_eq_some_iff.mp found
  refine ⟨(l.take place).flatMap f ++ (l.drop (place + 1)).flatMap f, ?_, fun a => ?_⟩
  · have split : l = l.take place ++ l[place] :: l.drop (place + 1) := by
      rw [← List.drop_eq_getElem_cons inside, List.take_append_drop]
    conv_lhs => rw [split, List.flatMap_append, List.flatMap_cons]
    exact List.perm_append_comm_assoc ..
  · rw [List.set_eq_take_append_cons_drop, if_pos inside, List.flatMap_append, List.flatMap_cons]
    exact List.perm_append_comm_assoc ..

end Metering.Place
