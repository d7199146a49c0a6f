import Mathlib.Data.String.Basic
import MessageSync.Text.Utf8

/-!
# Texts in the order of their bytes

A database compares texts byte by byte, and this library compares them character by character. Both
give the same order: of two characters, the one with the smaller code point also has the smaller
byte at the first place where their bytes differ, and there is such a place in both.
-/

namespace MessageSync

namespace Utf8

theorem encode_eq_flatMap (text : String) :
    encode text = text.toList.flatMap String.utf8EncodeChar := by
  have bytes : text.toByteArray = text.toList.utf8Encode := by
    rw [← String.toByteArray_ofList, String.ofList_toList]
  simp [encode, bytes, List.utf8Encode]

theorem cons_lt_cons_of_nat {first second : Nat} {rest others : List UInt8} (small : second < 256)
    (order : first < second ∨ first = second ∧ rest < others) :
    UInt8.ofNat first :: rest < UInt8.ofNat second :: others := by
  rw [List.cons_lt_cons_iff]
  rcases order with lt | ⟨rfl, lt⟩
  · left
    rw [UInt8.lt_iff_toNat_lt, UInt8.toNat_ofNat', UInt8.toNat_ofNat']
    omega
  · exact Or.inr ⟨rfl, lt⟩

/-- Numbers are in the order of what is left when six bits are moved to the next byte, and if that
is the same in the order of the bytes from there on. -/
theorem continuation_lt {low high : Nat} {rest others : List UInt8}
    (order : low < high ∨ low = high ∧ rest < others) :
    low / 64 < high / 64 ∨ low / 64 = high / 64 ∧
      UInt8.ofNat (low % 64 + 128) :: rest < UInt8.ofNat (high % 64 + 128) :: others := by
  rcases order with lt | ⟨rfl, lt⟩
  · by_cases less : low / 64 < high / 64
    · exact Or.inl less
    · refine Or.inr ⟨by omega, ?_⟩
      apply cons_lt_cons_of_nat (by omega)
      exact Or.inl (by omega)
  · refine Or.inr ⟨rfl, ?_⟩
    apply cons_lt_cons_of_nat (by omega)
    exact Or.inr ⟨rfl, lt⟩

/-- What comes after two characters that differ does not matter for the order of their bytes. -/
theorem encodeChar_append_lt {first second : Char} (lt : first < second)
    (rest others : List UInt8) :
    String.utf8EncodeChar first ++ rest < String.utf8EncodeChar second ++ others := by
  have values : first.val.toNat < second.val.toNat := lt
  have bound : second.val.toNat < 0x110000 := by
    have valid := second.valid
    simp only [UInt32.isValidChar, Nat.isValidChar] at valid
    omega
  have second_byte : ∀ value : Nat, value / 4096 = value / 64 / 64 := by omega
  have third_byte : ∀ value : Nat, value / 262144 = value / 64 / 64 / 64 := by omega
  simp only [String.utf8EncodeChar]
  generalize first.val.toNat = low at values ⊢
  generalize second.val.toNat = high at values bound ⊢
  -- Of two characters that take different numbers of bytes, the first bytes differ.
  split
  · split
    · exact cons_lt_cons_of_nat (by omega) (Or.inl (by omega))
    · split
      · exact cons_lt_cons_of_nat (by omega) (Or.inl (by omega))
      · split
        · exact cons_lt_cons_of_nat (by omega) (Or.inl (by omega))
        · exact cons_lt_cons_of_nat (by omega) (Or.inl (by omega))
  · rw [if_neg (show ¬high ≤ 127 by omega)]
    split
    · split
      · apply cons_lt_cons_of_nat (by omega)
        rcases continuation_lt (Or.inl values) with lead | ⟨lead, tail⟩
        · exact Or.inl (by omega)
        · exact Or.inr ⟨by omega, tail⟩
      · split
        · exact cons_lt_cons_of_nat (by omega) (Or.inl (by omega))
        · exact cons_lt_cons_of_nat (by omega) (Or.inl (by omega))
    · rw [if_neg (show ¬high ≤ 2047 by omega)]
      split
      · split
        · simp only [second_byte]
          apply cons_lt_cons_of_nat (by omega)
          rcases continuation_lt (continuation_lt (Or.inl values)) with lead | ⟨lead, tail⟩
          · exact Or.inl (by omega)
          · exact Or.inr ⟨by omega, tail⟩
        · exact cons_lt_cons_of_nat (by omega) (Or.inl (by omega))
      · rw [if_neg (show ¬high ≤ 65535 by omega)]
        simp only [second_byte, third_byte]
        apply cons_lt_cons_of_nat (by omega)
        rcases continuation_lt (continuation_lt (continuation_lt (Or.inl values))) with
          lead | ⟨lead, tail⟩
        · exact Or.inl (by omega)
        · exact Or.inr ⟨by omega, tail⟩

theorem flatMap_encodeChar_lt {first second : List Char} (lt : first < second) :
    first.flatMap String.utf8EncodeChar < second.flatMap String.utf8EncodeChar := by
  induction first generalizing second with
  | nil =>
      cases second with
      | nil => exact absurd lt (List.lt_irrefl _)
      | cons c second =>
          simp only [List.flatMap_nil, List.flatMap_cons]
          cases bytes : String.utf8EncodeChar c with
          | nil => exact absurd bytes String.utf8EncodeChar_ne_nil
          | cons byte bytes => exact List.nil_lt_cons _ _
  | cons c first ih =>
      cases second with
      | nil => exact absurd lt (List.not_lt_nil _)
      | cons d second =>
          simp only [List.flatMap_cons]
          rcases List.cons_lt_cons_iff.mp lt with less | ⟨rfl, rest⟩
          · exact encodeChar_append_lt less _ _
          · exact List.append_left_lt (ih rest)

theorem encode_le_encode {first second : String} (le : first ≤ second) :
    encode first ≤ encode second := by
  rcases le.lt_or_eq with lt | rfl
  · rw [encode_eq_flatMap, encode_eq_flatMap]
    exact List.le_of_lt (flatMap_encodeChar_lt (String.lt_iff_toList_lt.mp lt))
  · exact List.le_refl _

end Utf8

end MessageSync
