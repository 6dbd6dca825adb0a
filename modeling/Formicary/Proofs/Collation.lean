/-
Module: Formicary.Proofs.Collation
Purpose: Texts are in the order of their bytes in UTF-8.
Main exports: Text.bytes, Text.utf8EncodeChar_append_lt, Text.bytes_lt_iff, Text.bytes_le_iff
-/
import Mathlib.Data.String.Basic
import Mathlib.Tactic.SplitIfs

namespace Formicary.Text

open String (utf8EncodeChar)

/-- The bytes of a text in UTF-8. -/
def bytes (s : String) : List UInt8 := s.toByteArray.data.toList

theorem bytes_eq_flatMap (s : String) : bytes s = s.toList.flatMap utf8EncodeChar := by
  rw [bytes, ← String.utf8Encode_toList, List.utf8Encode]
  simp

/-! ### Characters -/

section Numbers

variable {m n : Nat} (byte : m < 256) (byte' : n < 256)

include byte byte'

theorem ofNat_lt_ofNat : UInt8.ofNat m < UInt8.ofNat n ↔ m < n := by
  rw [UInt8.lt_iff_toNat_lt, UInt8.toNat_ofNat_of_lt' byte, UInt8.toNat_ofNat_of_lt' byte']

theorem ofNat_eq_ofNat : UInt8.ofNat m = UInt8.ofNat n ↔ m = n := by
  rw [← UInt8.toNat_inj, UInt8.toNat_ofNat_of_lt' byte, UInt8.toNat_ofNat_of_lt' byte']

end Numbers

/-- The codes of two characters differ at a byte that both have, and there the lesser character has
the lesser byte. So it does not matter what follows. -/
theorem utf8EncodeChar_append_lt {c d : Char} (less : c < d) (back back' : List UInt8) :
    utf8EncodeChar c ++ back < utf8EncodeChar d ++ back' := by
  have below : c.val.toNat < d.val.toNat := less
  have limit : d.val.toNat < 0x110000 := by
    rcases d.valid with low | high <;> omega
  have digits (n : Nat) : n / 4096 = n / 64 / 64 ∧ n / 262144 = n / 64 / 64 / 64 := by omega
  -- a longer code begins with a greater byte, and codes of one length are numerals to the base 64
  simp only [utf8EncodeChar]
  generalize c.val.toNat = m at *
  generalize d.val.toNat = n at *
  split_ifs <;>
    simp (disch := omega) only [List.cons_append, List.nil_append, List.cons_lt_cons_iff,
      ofNat_lt_ofNat, ofNat_eq_ofNat, digits] <;>
    omega

/-! ### Texts -/

theorem flatMap_utf8EncodeChar_lt {cs ds : List Char} (less : cs < ds) :
    cs.flatMap utf8EncodeChar < ds.flatMap utf8EncodeChar := by
  induction less with
  | @nil d ds =>
    obtain ⟨byte, back, code⟩ := List.exists_cons_of_ne_nil (String.utf8EncodeChar_ne_nil (c := d))
    rw [List.flatMap_nil, List.flatMap_cons, code]
    exact List.nil_lt_cons _ _
  | rel first =>
    rw [List.flatMap_cons, List.flatMap_cons]
    exact utf8EncodeChar_append_lt first _ _
  | cons _ later =>
    rw [List.flatMap_cons, List.flatMap_cons]
    exact List.append_left_lt later

/-- Texts go by their characters as they go by their bytes. -/
theorem bytes_lt_iff {a b : String} : bytes a < bytes b ↔ a < b := by
  have keeps {a b : String} (less : a < b) : bytes a < bytes b := by
    rw [bytes_eq_flatMap, bytes_eq_flatMap]
    exact flatMap_utf8EncodeChar_lt less
  constructor
  · intro less
    rcases lt_trichotomy a b with before | rfl | after
    · exact before
    · exact absurd less (List.lt_irrefl _)
    · exact absurd (keeps after) (List.lt_asymm less)
  · exact keeps

theorem bytes_le_iff {a b : String} : bytes a ≤ bytes b ↔ a ≤ b := not_congr bytes_lt_iff

end Formicary.Text
