import Metering.Workspace.Script

/-!
# Label sets in storage

A label set is shared by reference, and keeps the digest of its entries, which is computed when the
set is made. There is one set without labels, made when it is first asked for; what has no labels is
answered by it. Two references are equal when they are the same, or else when the digests and the
entries of their sets are equal. The digest is any function of the entries.
-/

namespace Metering

/-- A label set with the digest of its entries. -/
structure StoredSet where
  set : LabelSet
  digest : UInt64
deriving DecidableEq

/-- What hashing a set does to a hasher that takes words. -/
def StoredSet.hash {σ : Type} (stored : StoredSet) (write : σ → UInt64 → σ) (hasher : σ) : σ :=
  write hasher stored.digest

/-- A reference to a label set in storage. -/
structure LabelRef where
  index : Nat
deriving DecidableEq, Inhabited

/-- The label sets made so far, and which of them is the one without labels. -/
structure Storage where
  sets : List StoredSet
  canonical : Option LabelRef

namespace Storage

/-- The storage before any set is made. -/
def bare : Storage := ⟨[], none⟩

instance : Inhabited Storage := ⟨bare⟩

/-- The set that is referred to. -/
def at? (storage : Storage) (r : LabelRef) : Option StoredSet :=
  storage.sets[r.index]?

/-- Whether two references are equal, which the digests can decide against. -/
def same (storage : Storage) (a b : LabelRef) : Bool :=
  a == b ||
    match storage.at? a, storage.at? b with
    | some left, some right => left.digest == right.digest && left.set.entries == right.set.entries
    | _, _ => false

section Making

variable (digest : List (String × String) → UInt64)

/-- Makes a set. -/
def keep (storage : Storage) (set : LabelSet) : LabelRef × Storage :=
  (⟨storage.sets.length⟩, { storage with sets := storage.sets ++ [⟨set, digest set.entries⟩] })

/-- The set without labels. -/
def blank (storage : Storage) : LabelRef × Storage :=
  match storage.canonical with
  | some r => (r, storage)
  | none =>
    let (r, storage) := storage.keep digest .empty
    (r, { storage with canonical := some r })

/-- The set built from pairs. -/
def ofList (storage : Storage) (pairs : List (String × String)) : LabelRef × Storage :=
  let set := LabelSet.ofList pairs
  if set.isEmpty then storage.blank digest else storage.keep digest set

/-- The set built from a flat list of keys and values. The length is checked first. -/
def ofFlat (storage : Storage) (flat : List String) : Except Error LabelRef × Storage :=
  if flat.length % 2 = 0 then
    let (r, storage) :=
      if flat.isEmpty then storage.blank digest
      else storage.keep digest (.ofList (LabelSet.pairsOf flat))
    (.ok r, storage)
  else (.error (.oddLabelSequence flat.length), storage)

/-- The set built from a mapping that the caller may have left out. -/
def ofMapping (storage : Storage) :
    Option (List (String × String)) → Except Error LabelRef × Storage
  | none => (.error (.missingArgument "labels"), storage)
  | some pairs =>
    let (r, storage) := storage.ofList digest pairs
    (.ok r, storage)

/-- The set of a source. A meter hands a flat list or a mapping on as it is. -/
def build (storage : Storage) : LabelsSource → Except Error LabelRef × Storage
  | .nothing =>
    let (r, storage) := storage.blank digest
    (.ok r, storage)
  | .flat _ texts => storage.ofFlat digest texts
  | .mapping _ pairs => storage.ofMapping digest pairs
  | .pairs pairs =>
    let (r, storage) := storage.ofList digest pairs
    (.ok r, storage)

/-- A set overridden by constant labels. When one side is empty the other is the answer as it
stands. -/
def merge (storage : Storage) (a b : LabelRef) : Option LabelRef × Storage :=
  match storage.at? a, storage.at? b with
  | some left, some constants =>
    if constants.set.isEmpty then (some a, storage)
    else if left.set.isEmpty then (some b, storage)
    else
      let (r, storage) := storage.keep digest (left.set.insertAll constants.set.entries)
      (some r, storage)
  | _, _ => (none, storage)

end Making

end Storage

/-- The pairs that a source gives. -/
def LabelsSource.given : LabelsSource → List (String × String)
  | .nothing => []
  | .flat _ texts => LabelSet.pairsOf texts
  | .mapping _ entries => entries.getD []
  | .pairs entries => entries

/-- The sets handed out by builds and merges one after the other, each with the pairs that it was
made from, the overriding ones last. -/
inductive Handed (digest : List (String × String) → UInt64) :
    Storage → List (LabelRef × List (String × String)) → Prop where
  | bare : Handed digest .bare []
  | build {storage storage' : Storage} {handed : List (LabelRef × List (String × String))}
      (source : LabelsSource) {r : LabelRef} : Handed digest storage handed →
    storage.build digest source = (.ok r, storage') →
    Handed digest storage' (handed ++ [(r, source.given)])
  | merge {storage storage' : Storage} {handed : List (LabelRef × List (String × String))}
      {a b r : LabelRef} {P Q : List (String × String)} : Handed digest storage handed →
    (a, P) ∈ handed → (b, Q) ∈ handed → storage.merge digest a b = (some r, storage') →
    Handed digest storage' (handed ++ [(r, P ++ Q)])

end Metering
