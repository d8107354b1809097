import Metering.Instrument.Name
import Mathlib.Data.Char
import Mathlib.Data.String.Basic

/-! # Texts in the order of their bytes

Characters come in the order of their code points, and so do the bytes that they are written in:
one text is less than another exactly if its bytes in UTF-8 are (`Metering.Name.bytes_lt_iff`).
-/

namespace Metering

private theorem ofNat_cons_lt {a b : Nat} (isByte : a < 256) (isByte' : b < 256)
    (s t : List UInt8) :
    UInt8.ofNat a :: s < UInt8.ofNat b :: t ↔ a < b ∨ a = b ∧ s < t := by
  rw [List.cons_lt_cons_iff, UInt8.lt_iff_toNat_lt, ← UInt8.toNat_inj, UInt8.toNat_ofNat',
    UInt8.toNat_ofNat', Nat.mod_eq_of_lt isByte, Nat.mod_eq_of_lt isByte']

/-- The greater of two characters is written in greater bytes, whatever follows. -/
theorem utf8EncodeChar_lt {c d : Char} (less : c < d) (s t : List UInt8) :
    String.utf8EncodeChar c ++ s < String.utf8EncodeChar d ++ t := by
  have below : c.val.toNat < d.val.toNat := less
  have bound : d.val.toNat < 0x110000 := by
    rcases d.valid with small | ⟨_, large⟩
    · exact Nat.lt_trans small (by decide)
    · exact large
  unfold String.utf8EncodeChar
  generalize c.val.toNat = u at *
  generalize d.val.toNat = v at *
  -- Of two characters with as many bytes, the bytes are the digits to base 64 with something added;
  -- otherwise the first byte of the longer one is greater.
  dsimp only
  split_ifs <;>
    simp (disch := omega) only [List.cons_append, List.nil_append, ofNat_cons_lt,
      Nat.mod_eq_of_lt] <;>
    omega

namespace Name

/-- The bytes of characters. -/
theorem flatMap_lt {l l' : List Char} (less : l < l') :
    l.flatMap String.utf8EncodeChar < l'.flatMap String.utf8EncodeChar := by
  induction l generalizing l' with
  | nil =>
      cases l' with
      | nil => exact (List.not_lt_nil _ less).elim
      | cons d rest =>
          rw [List.flatMap_cons]
          cases written : String.utf8EncodeChar d with
          | nil => exact absurd written String.utf8EncodeChar_ne_nil
          | cons byte bytes => exact List.nil_lt_cons ..
  | cons c rest ih =>
      cases l' with
      | nil => exact (List.not_lt_nil _ less).elim
      | cons d rest' =>
          rw [List.flatMap_cons, List.flatMap_cons]
          rcases List.cons_lt_cons_iff.mp less with before | ⟨rfl, after⟩
          · exact utf8EncodeChar_lt before ..
          · exact List.append_left_lt (ih after)

/-- **Texts are ordered as their bytes are.** -/
theorem bytes_lt_iff (a b : String) : bytes a < bytes b ↔ a < b := by
  refine ⟨fun less => ?_, flatMap_lt⟩
  rcases lt_trichotomy a b with before | rfl | after
  · exact before
  · exact (List.lt_irrefl _ less).elim
  · exact (List.lt_asymm less (flatMap_lt after)).elim

end Name

end Metering
