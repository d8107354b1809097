import Metering.Identifier.Numeral
import Mathlib.Algebra.Order.Group.Nat
import Mathlib.Data.List.Basic
import Mathlib.Tactic.Ring

/-! # Digits and the numbers they stand for

Reading the digits of a number gives the number back, and writing the number that some digits stand
for gives the digits back. Of as many digits, those of the smaller number come first in
lexicographic order, in whatever letters they are written (`Metering.Identifier.map_lt_map_iff`).
-/

namespace Metering.Identifier

variable {base : Nat} {ds es : List Nat}

/-! ## Writing -/

/-- There are as many digits as asked for. -/
theorem length_digits (base width n : Nat) : (digits base width n).length = width := by
  induction width with
  | zero => rfl
  | succ width ih => rw [digits, List.length_cons, ih]

/-- Each digit is below the base. -/
theorem digits_lt (positive : 0 < base) (width n : Nat) : ∀ d ∈ digits base width n, d < base := by
  induction width with
  | zero => exact fun _ none => (List.not_mem_nil none).elim
  | succ width ih =>
      intro d member
      rcases List.mem_cons.mp member with rfl | later
      · exact Nat.mod_lt _ positive
      · exact ih d later

/-- Low digits do not depend on what is above them. -/
theorem digits_mul_pow_add (positive : 0 < base) (width n above : Nat) :
    digits base width (above * base ^ width + n) = digits base width n := by
  induction width generalizing above with
  | zero => rfl
  | succ width ih =>
      have power : 0 < base ^ width := Nat.pow_pos positive
      have shifted : above * base ^ (width + 1) + n = above * base * base ^ width + n := by
        rw [Nat.pow_succ, Nat.mul_assoc, Nat.mul_comm base]
      have head : (above * base * base ^ width + n) / base ^ width % base =
          n / base ^ width % base := by
        rw [Nat.add_comm, Nat.add_mul_div_right _ _ power, Nat.add_mul_mod_self_right]
      rw [digits, digits, shifted, ih]
      exact congrArg (· :: _) head

private theorem digits_mod (positive : 0 < base) (width n : Nat) :
    digits base width (n % base ^ width) = digits base width n := by
  have whole : n / base ^ width * base ^ width + n % base ^ width = n := Nat.div_add_mod' n _
  rw [← digits_mul_pow_add positive width (n % base ^ width) (n / base ^ width), whole]

/-- High digits, and then low ones. -/
theorem digits_add (base high low n : Nat) :
    digits base (high + low) n = digits base high (n / base ^ low) ++ digits base low n := by
  induction high with
  | zero => rw [Nat.zero_add]; rfl
  | succ high ih =>
      have head : n / base ^ (high + low) = n / base ^ low / base ^ high := by
        rw [Nat.div_div_eq_div_mul, Nat.add_comm, Nat.pow_add]
      rw [Nat.succ_add, digits, ih, digits, List.cons_append]
      exact congrArg (· % base :: _) head

/-- Each digit in the square of a base is two digits in the base. -/
theorem digits_square (positive : 0 < base) (width n : Nat) :
    digits base (2 * width) n = (digits (base ^ 2) width n).flatMap (digits base 2) := by
  induction width with
  | zero => rfl
  | succ width ih =>
      have split := digits_add base 2 (2 * width) n
      rw [Nat.pow_mul, ← digits_mod positive 2, ih] at split
      rw [Nat.mul_succ, Nat.add_comm, split]
      rfl

/-! ## Reading -/

private theorem ofDigits_cons (base d : Nat) (ds : List Nat) :
    ofDigits base (d :: ds) = d * base ^ ds.length + ofDigits base ds := by
  have general (n : Nat) : ds.foldl (fun n d => n * base + d) n =
      n * base ^ ds.length + ofDigits base ds := by
    induction ds generalizing n with
    | nil => simp [ofDigits]
    | cons e ds ih =>
        have tail : ofDigits base (e :: ds) = (0 * base + e) * base ^ ds.length +
            ofDigits base ds := ih (0 * base + e)
        rw [List.foldl_cons, ih, tail, List.length_cons]
        ring
  rw [ofDigits, List.foldl_cons, general, Nat.zero_mul, Nat.zero_add]

/-- Only zeros stand for zero. -/
theorem ofDigits_eq_zero_iff (positive : 0 < base) : ofDigits base ds = 0 ↔ ∀ d ∈ ds, d = 0 := by
  induction ds with
  | nil => exact iff_of_true rfl fun _ none => (List.not_mem_nil none).elim
  | cons d ds ih =>
      have power : base ^ ds.length ≠ 0 := Nat.pos_iff_ne_zero.mp (Nat.pow_pos positive)
      rw [ofDigits_cons, Nat.add_eq_zero_iff, Nat.mul_eq_zero, or_iff_left power, ih,
        List.forall_mem_cons]

/-- Digits below the base make a number that they can write. -/
theorem ofDigits_lt (small : ∀ d ∈ ds, d < base) : ofDigits base ds < base ^ ds.length := by
  induction ds with
  | nil => exact Nat.one_pos
  | cons d ds ih =>
      have head : d + 1 ≤ base := small d List.mem_cons_self
      have tail := ih fun e member => small e (List.mem_cons_of_mem d member)
      rw [ofDigits_cons, List.length_cons]
      calc d * base ^ ds.length + ofDigits base ds
          < d * base ^ ds.length + base ^ ds.length := Nat.add_lt_add_left tail _
        _ = (d + 1) * base ^ ds.length := (Nat.succ_mul ..).symm
        _ ≤ base * base ^ ds.length := Nat.mul_le_mul_right _ head
        _ = base ^ (ds.length + 1) := (Nat.pow_succ').symm

/-- **Reading what was written.** -/
theorem ofDigits_digits (base width n : Nat) :
    ofDigits base (digits base width n) = n % base ^ width := by
  induction width with
  | zero => exact (Nat.mod_one n).symm
  | succ width ih =>
      rw [digits, ofDigits_cons, length_digits, ih, Nat.mod_pow_succ, Nat.add_comm, Nat.mul_comm]
      rfl

/-! ## Order -/

section Order

variable {α : Type} [LT α] {letter : Nat → α}
  (ordered : ∀ d e, d < base → e < base → (letter d < letter e ↔ d < e))
  (distinct : ∀ d e, d < base → e < base → (letter d = letter e ↔ d = e))

include ordered distinct

/-- **Digits come in the order of their numbers**, in letters that keep the order of the digits. -/
theorem map_lt_map_iff (equal : ds.length = es.length) (small : ∀ d ∈ ds, d < base)
    (small' : ∀ e ∈ es, e < base) :
    ds.map letter < es.map letter ↔ ofDigits base ds < ofDigits base es := by
  induction ds generalizing es with
  | nil =>
      rw [List.length_nil, eq_comm, List.length_eq_zero_iff] at equal
      subst equal
      exact iff_of_false (List.not_lt_nil _) (Nat.lt_irrefl _)
  | cons d ds ih =>
      cases es with
      | nil => cases equal
      | cons e es =>
          have lengths : ds.length = es.length := Nat.succ.inj equal
          have tail (c : Nat) (member : c ∈ ds) : c < base :=
            small c (List.mem_cons_of_mem d member)
          have tail' (c : Nat) (member : c ∈ es) : c < base :=
            small' c (List.mem_cons_of_mem e member)
          have head := small d List.mem_cons_self
          have head' := small' e List.mem_cons_self
          have below : ofDigits base ds < base ^ es.length := lengths ▸ ofDigits_lt tail
          have below' : ofDigits base es < base ^ es.length := ofDigits_lt tail'
          have step (a b : Nat) (less : a < b) :
              a * base ^ es.length + base ^ es.length ≤ b * base ^ es.length := by
            rw [← Nat.succ_mul]
            exact Nat.mul_le_mul_right _ less
          rw [List.map_cons, List.map_cons, List.cons_lt_cons_iff, ordered d e head head',
            distinct d e head head', ih lengths tail tail', ofDigits_cons, ofDigits_cons, lengths]
          rcases Nat.lt_trichotomy d e with less | rfl | more
          · have := step d e less
            exact iff_of_true (Or.inl less) (by omega)
          · simp only [Nat.lt_irrefl, false_or, true_and, Nat.add_lt_add_iff_left]
          · have := step e d more
            refine iff_of_false ?_ (by omega)
            rintro (less | ⟨rfl, -⟩)
            · exact Nat.lt_asymm less more
            · exact Nat.lt_irrefl _ more

end Order

/-- As many digits of the same number are the same digits. -/
theorem eq_of_ofDigits_eq (equal : ds.length = es.length) (small : ∀ d ∈ ds, d < base)
    (small' : ∀ e ∈ es, e < base) (same : ofDigits base ds = ofDigits base es) : ds = es := by
  have order {ds es : List Nat} (equal : ds.length = es.length) (small : ∀ d ∈ ds, d < base)
      (small' : ∀ e ∈ es, e < base) :
      ds.map id < es.map id ↔ ofDigits base ds < ofDigits base es :=
    map_lt_map_iff (fun _ _ _ _ => Iff.rfl) (fun _ _ _ _ => Iff.rfl) equal small small'
  have before := order equal small small'
  have after := order equal.symm small' small
  rw [List.map_id, List.map_id, same, iff_false_right (Nat.lt_irrefl _)] at before
  rw [List.map_id, List.map_id, same, iff_false_right (Nat.lt_irrefl _)] at after
  exact List.le_antisymm (List.not_lt.mp after) (List.not_lt.mp before)

/-- **Writing what was read.** -/
theorem digits_ofDigits (small : ∀ d ∈ ds, d < base) :
    digits base ds.length (ofDigits base ds) = ds := by
  rcases Nat.eq_zero_or_pos base with rfl | positive
  · cases ds with
    | nil => rfl
    | cons d ds => exact absurd (small d List.mem_cons_self) (Nat.not_lt_zero d)
  · refine eq_of_ofDigits_eq (length_digits ..) (digits_lt positive _ _) small ?_
    rw [ofDigits_digits, Nat.mod_eq_of_lt (ofDigits_lt small)]

end Metering.Identifier
