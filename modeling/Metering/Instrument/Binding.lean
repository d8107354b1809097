import Metering.LabelSet

/-!
# Bindings

Binding an instrument to a label set makes an entry in the instrument's table, or shares the one
already there. Each entry made has an identity of its own, numbered in order, and counts how often
it was acquired and not yet released. The release that brings the count to zero marks the entry
released for good and takes it out of the table; a later acquisition of the same labels makes a
fresh entry.
-/

namespace Metering

/-- One binding of an instrument to labels. The count of references has no bound here: one that is
kept in a word of 64 bits is described as long as fewer than `2 ^ 64` are held at a time. -/
structure Binding where
  labels : LabelSet
  effective : LabelSet
  refs : Nat
  released : Bool
deriving DecidableEq, Inhabited

/-- All bindings ever made, and which of them stand in the table under their labels. -/
structure BindingTable where
  made : List Binding
  live : List (LabelSet × Nat)
deriving DecidableEq, Inhabited

namespace BindingTable

/-- The table of an instrument never bound. -/
def empty : BindingTable := ⟨[], []⟩

/-- The number of live bindings. -/
def size (t : BindingTable) : Nat :=
  t.live.length

/-- The identity of the live binding of some labels. -/
def find? (t : BindingTable) (labels : LabelSet) : Option Nat :=
  t.live.lookup labels

/-- Shares the live binding of some labels, or makes one; the answer is its identity. -/
def acquire (t : BindingTable) (labels constants : LabelSet) : BindingTable × Nat :=
  match t.find? labels with
  | some identity =>
    ({ t with made := t.made.modify identity fun b => { b with refs := b.refs + 1 } }, identity)
  | none =>
    ({ made := t.made ++ [⟨labels, labels.mergedWith constants, 1, false⟩]
       live := t.live ++ [(labels, t.made.length)] },
      t.made.length)

/-- Releases a binding once and tells how often it is still held. A binding that does not stand in
the table cannot be released. -/
def release (t : BindingTable) (identity : Nat) : Option (BindingTable × Nat) :=
  match t.made[identity]? with
  | none => none
  | some binding =>
    if t.find? binding.labels = some identity then
      let remaining := binding.refs - 1
      if remaining = 0 then
        some
          ({ made := t.made.modify identity fun b => { b with refs := 0, released := true }
             live := t.live.filter fun entry => entry.2 != identity },
            0)
      else
        some ({ t with made := t.made.modify identity fun b => { b with refs := remaining } },
          remaining)
    else
      none

end BindingTable

end Metering
