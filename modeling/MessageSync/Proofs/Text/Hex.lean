import MessageSync.Text.Hex

/-!
# Reading hexadecimal text back

The digits of a byte sequence stand for these bytes and for no others.
-/

namespace MessageSync

namespace Hex

theorem digitValue?_digit : ∀ value < 16, digitValue? (digit value) = some value := by
  decide

theorem decodeDigits_ofByte_append (byte : UInt8) (rest : List Char) :
    decodeDigits (ofByte byte ++ rest) = (decodeDigits rest).map (byte :: ·) := by
  have below : byte.toNat < 256 := byte.toNat_lt
  have high : digitValue? (digit (byte.toNat / 16)) = some (byte.toNat / 16) :=
    digitValue?_digit _ (by omega)
  have low : digitValue? (digit (byte.toNat % 16)) = some (byte.toNat % 16) :=
    digitValue?_digit _ (by omega)
  have whole : UInt8.ofNat (16 * (byte.toNat / 16) + byte.toNat % 16) = byte := by
    rw [Nat.div_add_mod]
    exact UInt8.ofNat_toNat
  simp only [ofByte, List.cons_append, List.nil_append, decodeDigits, high, low, bind, pure,
    Option.bind_some, whole]
  cases decodeDigits rest <;> rfl

theorem decodeDigits_flatMap_ofByte (bytes : List UInt8) :
    decodeDigits (bytes.flatMap ofByte) = some bytes := by
  induction bytes with
  | nil => rfl
  | cons byte bytes ih =>
      rw [List.flatMap_cons, decodeDigits_ofByte_append, ih]
      rfl

theorem decode?_encode (bytes : List UInt8) : decode? (encode bytes) = some bytes := by
  rw [decode?, encode, String.toList_ofList, decodeDigits_flatMap_ofByte]

theorem encode_inj {first second : List UInt8} : encode first = encode second ↔ first = second := by
  refine ⟨fun same => ?_, congrArg encode⟩
  apply Option.some.inj
  rw [← decode?_encode first, same, decode?_encode]

end Hex

end MessageSync
