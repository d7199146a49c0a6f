/-!
# Hexadecimal text

Bytes are shown as two lower-case hexadecimal digits each. Reading takes digits of either case.
-/

namespace MessageSync

namespace Hex

/-- The digit of a value below sixteen. -/
def digit (value : Nat) : Char :=
  if value < 10 then Char.ofNat (48 + value) else Char.ofNat (87 + value)

/-- The value of a hexadecimal digit of either case. -/
def digitValue? (c : Char) : Option Nat :=
  if '0' ≤ c ∧ c ≤ '9' then some (c.toNat - 48)
  else if 'a' ≤ c ∧ c ≤ 'f' then some (c.toNat - 87)
  else if 'A' ≤ c ∧ c ≤ 'F' then some (c.toNat - 55)
  else none

/-- The two digits of a byte. -/
def ofByte (byte : UInt8) : List Char :=
  [digit (byte.toNat / 16), digit (byte.toNat % 16)]

/-- The text of a byte sequence, two digits a byte. -/
def encode (bytes : List UInt8) : String :=
  String.ofList (bytes.flatMap ofByte)

/-- The bytes that pairs of digits stand for. -/
def decodeDigits : List Char → Option (List UInt8)
  | [] => some []
  | [_] => none
  | high :: low :: rest => do
    let high ← digitValue? high
    let low ← digitValue? low
    let bytes ← decodeDigits rest
    return UInt8.ofNat (16 * high + low) :: bytes

/-- The bytes a hexadecimal text stands for. -/
def decode? (text : String) : Option (List UInt8) :=
  decodeDigits text.toList

end Hex

end MessageSync
