import Mathlib.Tactic.Ring
import MessageSync.Wire.Packing

/-!
# Headers of packed items

Numbers have a fixed width, most significant byte first, and a header is a marker with the number
after it. Every header that is written is read back, whatever follows it, as long as the number it
announces has at most 32 bits; and no header that is read announces more than that.
-/

namespace MessageSync

namespace Packing

/-! ## Numbers of a fixed width -/

theorem length_bigEndian (width value : Nat) : (bigEndian width value).length = width := by
  induction width with
  | zero => rfl
  | succ width ih => simp [bigEndian, ih]

theorem foldl_bigEndian (width value start : Nat) :
    (bigEndian width value).foldl (fun value byte => value * 256 + byte.toNat) start =
      start * 256 ^ width + value % 256 ^ width := by
  induction width generalizing start with
  | zero => simp [bigEndian, Nat.mod_one]
  | succ width ih =>
      have digit : value >>> (8 * width) = value / 256 ^ width := by
        rw [Nat.shiftRight_eq_div_pow, Nat.pow_mul]
      rw [bigEndian, List.foldl_cons, ih, Nat.mod_pow_succ, UInt8.toNat_ofNat', digit]
      ring

theorem ofBigEndian_bigEndian {width value : Nat} (fits : value < 256 ^ width) :
    ofBigEndian (bigEndian width value) = value := by
  rw [ofBigEndian, foldl_bigEndian, Nat.mod_eq_of_lt fits]
  simp

theorem ofBigEndian_lt (bytes : Bytes) : ofBigEndian bytes < 256 ^ bytes.length := by
  have step (start : Nat) :
      bytes.foldl (fun value byte => value * 256 + byte.toNat) start <
        (start + 1) * 256 ^ bytes.length := by
    induction bytes generalizing start with
    | nil => simp
    | cons byte bytes ih =>
        rw [List.foldl_cons, List.length_cons, Nat.pow_succ]
        have small := byte.toNat_lt
        calc bytes.foldl (fun value byte => value * 256 + byte.toNat) (start * 256 + byte.toNat)
            < (start * 256 + byte.toNat + 1) * 256 ^ bytes.length := ih _
          _ ≤ (start + 1) * 256 * 256 ^ bytes.length := Nat.mul_le_mul_right _ (by omega)
          _ = (start + 1) * (256 ^ bytes.length * 256) := by ring
  have bound := step 0
  rw [Nat.zero_add, Nat.one_mul] at bound
  exact bound

theorem split?_append (content rest : Bytes) :
    split? content.length (content ++ rest) = some (content, rest) := by
  simp [split?]

theorem split?_eq_some {count : Nat} {bytes content rest : Bytes} :
    split? count bytes = some (content, rest) ↔
      content.length = count ∧ bytes = content ++ rest := by
  simp only [split?]
  split
  · next enough =>
      simp only [List.splitAt_eq, Option.some.injEq, Prod.mk.injEq]
      constructor
      · rintro ⟨rfl, rfl⟩
        exact ⟨by simp [enough], by simp⟩
      · rintro ⟨rfl, rfl⟩
        simp
  · next short =>
      simp only [reduceCtorEq, false_iff, not_and]
      rintro rfl rfl
      simp at short

theorem unsigned?_bigEndian {width value : Nat} (fits : value < 256 ^ width) (rest : Bytes) :
    unsigned? width (bigEndian width value ++ rest) = some (value, rest) := by
  have split := split?_append (bigEndian width value) rest
  rw [length_bigEndian] at split
  simp [unsigned?, split, ofBigEndian_bigEndian fits]

theorem unsigned?_lt {width value : Nat} {bytes rest : Bytes}
    (read : unsigned? width bytes = some (value, rest)) : value < 256 ^ width := by
  simp only [unsigned?, Option.map_eq_some_iff, Prod.exists, Prod.mk.injEq] at read
  rcases read with ⟨digits, _, split, rfl, rfl⟩
  rcases split?_eq_some.mp split with ⟨rfl, -⟩
  exact ofBigEndian_lt digits

/-- A number below zero is read back from its two's complement. -/
theorem signed?_bigEndian {width : Nat} {value : Int} (negative : value < 0)
    (fits : -(256 ^ width : Nat) ≤ 2 * value) (rest : Bytes) :
    signed? width (bigEndian width (value + (256 ^ width : Nat)).toNat ++ rest) =
      some (value, rest) := by
  have modulus : 1 <<< (8 * width) = 256 ^ width := by
    rw [Nat.shiftLeft_eq, Nat.pow_mul, Nat.one_mul]
  have complement : (value + (256 ^ width : Nat)).toNat < 256 ^ width := by omega
  have back : ((value + (256 ^ width : Nat)).toNat : Int) = value + (256 ^ width : Nat) := by omega
  simp only [signed?, unsigned?_bigEndian complement, modulus, Option.map_some, Option.some.injEq,
    Prod.mk.injEq, and_true, back, Int.add_bmod_right]
  apply Int.bmod_eq_of_le_mul_two <;> omega

/-! ## Starts of items -/

/-- A marker with a number after it opens what the number says. -/
theorem start?_marked {marker : UInt8} {width value : Nat}
    (next : Nat → Bytes → Option (Start × Bytes))
    (opens : ∀ bytes, start? (marker :: bytes) =
      (unsigned? width bytes).bind fun (value, rest) => next value rest)
    (fits : value < 256 ^ width) (rest : Bytes) :
    start? (marked marker width value ++ rest) = next value rest := by
  rw [marked, List.cons_append, opens, unsigned?_bigEndian fits]
  rfl

theorem start?_natural {value : Nat} (fits : value < 2 ^ 64) (rest : Bytes) :
    start? (natural value ++ rest) =
      some (.scalar (.position (UInt64.ofNat value)), rest) := by
  simp only [natural]
  split_ifs with fixed
  · have code : (UInt8.ofNat value).toNat = value :=
      UInt8.toNat_ofNat_of_lt' (by change _ < 256; omega)
    have position : (UInt8.ofNat value).toUInt64 = UInt64.ofNat value := by
      apply UInt64.toNat_inj.mp
      rw [UInt8.toNat_toUInt64, code, UInt64.toNat_ofNat_of_lt' fits]
    simp only [List.cons_append, List.nil_append, start?, code, if_pos fixed, position]
  all_goals
    apply start?_marked (fun value rest => some (.scalar (.position (UInt64.ofNat value)), rest))
    · intro bytes
      change unsignedStart _ bytes = _
      simp only [unsignedStart]
      cases unsigned? _ bytes <;> rfl
    · omega

/-- A marker with a two's complement after it opens that number. -/
theorem start?_signed (width : Nat) {marker : UInt8} {value : Int}
    (opens : ∀ bytes, start? (marker :: bytes) = signedStart width bytes) (negative : value < 0)
    (fits : -(256 ^ width : Nat) ≤ 2 * value) (rest : Bytes) :
    start? (marked marker width (value + (256 ^ width : Nat)).toNat ++ rest) =
      some (.scalar (.whole (.ofInt64 (Int64.ofInt value))), rest) := by
  rw [marked, List.cons_append, opens, signedStart, signed?_bigEndian negative fits]
  rfl

theorem start?_negative {value : Int} (negative : value < 0) (fits : -2 ^ 63 ≤ value)
    (rest : Bytes) :
    start? (Packing.negative value ++ rest) =
      some (.scalar (.whole (.ofInt64 (Int64.ofInt value))), rest) := by
  simp only [Packing.negative]
  split_ifs with fixed narrow short medium
  · have code : (UInt8.ofNat (value + 0x100).toNat).toNat = (value + 0x100).toNat :=
      UInt8.toNat_ofNat_of_lt' (by change _ < 256; omega)
    simp only [List.cons_append, List.nil_append, start?, code]
    rw [if_neg (by omega), if_neg (by omega), if_neg (by omega), if_neg (by omega),
      if_pos (by omega)]
    have back : (((value + 0x100).toNat : Int) - 256) = value := by omega
    rw [back]
  · exact start?_signed 1 (fun _ => rfl) negative (by omega) rest
  · exact start?_signed 2 (fun _ => rfl) negative (by omega) rest
  · exact start?_signed 4 (fun _ => rfl) negative (by omega) rest
  · exact start?_signed 8 (fun _ => rfl) negative (by omega) rest

theorem start?_textHeader {content : Bytes} (fits : content.length < 2 ^ 32) (rest : Bytes) :
    start? (textHeader content.length ++ (content ++ rest)) =
      some (.scalar (ofTextBytes content), rest) := by
  have opened : textStart content.length (content ++ rest) =
      some (.scalar (ofTextBytes content), rest) := by
    simp [textStart, split?_append]
  simp only [textHeader]
  split_ifs with fixed
  · have code : (UInt8.ofNat (0xA0 + content.length)).toNat = 0xA0 + content.length :=
      UInt8.toNat_ofNat_of_lt' (by change _ < 256; omega)
    simp only [List.cons_append, List.nil_append, start?, code]
    rw [if_neg (by omega), if_neg (by omega), if_neg (by omega), if_pos (by omega),
      Nat.add_sub_cancel_left, opened]
  all_goals
    rw [start?_marked textStart (fun _ => rfl) (by omega), opened]

theorem start?_binaryHeader {content : Bytes} (fits : content.length < 2 ^ 32) (rest : Bytes) :
    start? (binaryHeader content.length ++ (content ++ rest)) =
      some (.scalar (.bytes .binary content), rest) := by
  have opened : binaryStart content.length (content ++ rest) =
      some (.scalar (.bytes .binary content), rest) := by
    simp [binaryStart, split?_append]
  simp only [binaryHeader]
  split_ifs
  all_goals
    rw [start?_marked binaryStart (fun _ => rfl) (by omega), opened]

theorem start?_extensionHeader {tag : UInt8} {content : Bytes} (fits : content.length < 2 ^ 32)
    (rest : Bytes) :
    start? (extensionHeader content.length ++ tag :: (content ++ rest)) =
      some (.extension tag content, rest) := by
  have opened : extensionStart content.length (tag :: (content ++ rest)) =
      some (.extension tag content, rest) := by
    have tagRead : unsigned? 1 (tag :: (content ++ rest)) = some (tag.toNat, content ++ rest) := by
      simp [unsigned?, split?, ofBigEndian]
    simp [extensionStart, tagRead, split?_append]
  simp only [extensionHeader]
  split_ifs
  all_goals
    rw [start?_marked extensionStart (fun _ => rfl) (by omega), opened]

theorem start?_arrayHeader {count : Nat} (fits : count < 2 ^ 32) (rest : Bytes) :
    start? (arrayHeader count ++ rest) = some (.array count, rest) := by
  simp only [arrayHeader]
  split_ifs with fixed
  · have code : (UInt8.ofNat (0x90 + count)).toNat = 0x90 + count :=
      UInt8.toNat_ofNat_of_lt' (by change _ < 256; omega)
    simp only [List.cons_append, List.nil_append, start?, code]
    rw [if_neg (by omega), if_neg (by omega), if_pos (by omega), Nat.add_sub_cancel_left]
  all_goals
    apply start?_marked (fun count rest => some (.array count, rest))
    · intro bytes
      exact Option.map_eq_bind
    · omega

theorem start?_mapHeader {count : Nat} (fits : count < 2 ^ 32) (rest : Bytes) :
    start? (mapHeader count ++ rest) = some (.map count, rest) := by
  simp only [mapHeader]
  split_ifs with fixed
  · have code : (UInt8.ofNat (0x80 + count)).toNat = 0x80 + count :=
      UInt8.toNat_ofNat_of_lt' (by change _ < 256; omega)
    simp only [List.cons_append, List.nil_append, start?, code]
    rw [if_neg (by omega), if_pos (by omega), Nat.add_sub_cancel_left]
  all_goals
    apply start?_marked (fun count rest => some (.map count, rest))
    · intro bytes
      exact Option.map_eq_bind
    · omega

theorem start?_float (number : Binary64) (rest : Bytes) :
    start? (marked 0xCB 8 number.bits.toNat ++ rest) = some (.scalar (.float number), rest) := by
  have opened : start? (marked 0xCB 8 number.bits.toNat ++ rest) =
      some (.scalar (.float ⟨UInt64.ofNat number.bits.toNat⟩), rest) := by
    apply start?_marked (fun bits rest => some (.scalar (.float ⟨UInt64.ofNat bits⟩), rest))
    · intro bytes
      exact Option.map_eq_bind
    · exact number.bits.toNat_lt
  rw [opened, UInt64.ofNat_toNat]

end Packing

end MessageSync
