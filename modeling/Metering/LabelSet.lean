import Metering.Error
import Metering.Text.Quoted

/-!
# Label sets

A label set is a finite mapping from keys to values, kept as the list of its entries in ascending
order of the keys. The order is part of the type, so that two sets with the same mapping are the
same set. When a set is built from pairs, the last pair with a key decides its value; when a set is
overridden by constant labels, the constants decide.
-/

namespace Metering

/-- Puts an entry into a list that ascends by key, in place of one with the same key. -/
def insertEntry (key value : String) : List (String × String) → List (String × String)
  | [] => [(key, value)]
  | (k, v) :: rest =>
    if key < k then (key, value) :: (k, v) :: rest
    else if key = k then (key, value) :: rest
    else (k, v) :: insertEntry key value rest

private theorem mem_insertEntry {key value : String} {entry : String × String}
    {entries : List (String × String)} (member : entry ∈ insertEntry key value entries) :
    entry = (key, value) ∨ entry ∈ entries := by
  induction entries with
  | nil => simpa [insertEntry] using member
  | cons head rest ih =>
    obtain ⟨k, v⟩ := head
    rw [insertEntry] at member
    split at member
    · simpa using member
    · split at member
      · simp only [List.mem_cons] at member ⊢
        exact member.imp_right Or.inr
      · simp only [List.mem_cons] at member ⊢
        rcases member with rfl | member
        · exact Or.inr (Or.inl rfl)
        · exact (ih member).imp_right Or.inr

private theorem pairwise_insertEntry (key value : String) {entries : List (String × String)}
    (ascending : entries.Pairwise fun a b => a.1 < b.1) :
    (insertEntry key value entries).Pairwise fun a b => a.1 < b.1 := by
  induction entries with
  | nil => simp [insertEntry]
  | cons head rest ih =>
    obtain ⟨k, v⟩ := head
    have above := (List.pairwise_cons.1 ascending).1
    have tail := (List.pairwise_cons.1 ascending).2
    rw [insertEntry]
    split
    · next before =>
      refine List.pairwise_cons.2 ⟨fun entry member => ?_, ascending⟩
      rcases List.mem_cons.1 member with rfl | member
      · exact before
      · exact String.lt_trans before (above entry member)
    · next notBefore =>
      split
      · next same => subst same; exact List.pairwise_cons.2 ⟨above, tail⟩
      · next different =>
        refine List.pairwise_cons.2 ⟨fun entry member => ?_, ih tail⟩
        rcases mem_insertEntry member with rfl | member
        · grind
        · exact above entry member

/-- A finite mapping from keys to values, listed in ascending order of the keys. -/
structure LabelSet where
  entries : List (String × String)
  ascending : entries.Pairwise fun a b => a.1 < b.1
deriving DecidableEq

namespace LabelSet

/-- The set without labels. -/
def empty : LabelSet :=
  ⟨[], List.Pairwise.nil⟩

instance : Inhabited LabelSet := ⟨empty⟩

/-- The set with one label set to a value. -/
def insert (s : LabelSet) (key value : String) : LabelSet :=
  ⟨insertEntry key value s.entries, pairwise_insertEntry key value s.ascending⟩

/-- The set with the labels of a list of pairs set one after the other. -/
def insertAll (s : LabelSet) (pairs : List (String × String)) : LabelSet :=
  pairs.foldl (fun s pair => s.insert pair.1 pair.2) s

/-- The set built from pairs; the last pair with a key decides its value. -/
def ofList (pairs : List (String × String)) : LabelSet :=
  empty.insertAll pairs

/-- The pairs in a flat list of keys and values; a last key without a value is left out. -/
def pairsOf : List String → List (String × String)
  | key :: value :: rest => (key, value) :: pairsOf rest
  | _ => []

/-- The set built from a flat list of keys and values, refused when the last key has no value. -/
def ofFlat (flat : List String) : Except Error LabelSet :=
  if flat.length % 2 = 0 then .ok (ofList (pairsOf flat))
  else .error (.oddLabelSequence flat.length)

/-- The set built from a mapping that the caller may have left out, which is refused. -/
def ofMapping : Option (List (String × String)) → Except Error LabelSet
  | none => .error (.missingArgument "labels")
  | some pairs => .ok (ofList pairs)

/-- The value of a key. -/
def get? (s : LabelSet) (key : String) : Option String :=
  s.entries.lookup key

/-- The number of labels. -/
def size (s : LabelSet) : Nat :=
  s.entries.length

/-- Whether the set is without labels. -/
def isEmpty (s : LabelSet) : Bool :=
  s.entries.isEmpty

/-- The set overridden by constant labels. When one side is empty the other is the answer as it
stands. -/
def mergedWith (s constants : LabelSet) : LabelSet :=
  if constants.isEmpty then s
  else if s.isEmpty then constants
  else s.insertAll constants.entries

/-- The text of a set in messages and logs. -/
def text (s : LabelSet) : String :=
  "\x7b" ++ ", ".intercalate (s.entries.map fun e => e.1 ++ "=" ++ e.2) ++ "\x7d"

/-- The text of a set with its keys and values quoted. -/
def quoted (s : LabelSet) : String :=
  Text.quotePairs s.entries

end LabelSet

end Metering
