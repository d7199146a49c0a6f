/-!
# Numbers on the wire

Whole numbers have 64 bits: signed below zero, unsigned from zero up. Other numbers are binary
floating point numbers, held as their bit patterns so that nothing is lost or rounded.
-/

namespace MessageSync

/-- A whole number of 64 bits: signed below zero, unsigned from zero up. -/
structure Whole where
  val : Int
  lower : -0x8000000000000000 ≤ val
  upper : val < 0x10000000000000000
deriving DecidableEq

namespace Whole

/-- The whole number of a value in range. -/
def ofInt? (value : Int) : Option Whole :=
  if bounds : -0x8000000000000000 ≤ value ∧ value < 0x10000000000000000 then
    some ⟨value, bounds.1, bounds.2⟩
  else none

/-- An unsigned number of 64 bits is whole. -/
def ofUInt64 (value : UInt64) : Whole :=
  ⟨value.toNat, by omega, by have := value.toNat_lt; omega⟩

/-- A signed number of 64 bits is whole. -/
def ofInt64 (value : Int64) : Whole :=
  ⟨value.toInt, by have := value.le_toInt; omega, by have := value.toInt_lt; omega⟩

/-- The number as a signed one of 64 bits, if it is one. -/
def toInt64? (number : Whole) : Option Int64 :=
  if number.val < 0x8000000000000000 then some (Int64.ofInt number.val) else none

/-- The number as an unsigned one of 64 bits, if it is one. -/
def toUInt64? (number : Whole) : Option UInt64 :=
  if 0 ≤ number.val then some (UInt64.ofNat number.val.toNat) else none

/-- The number as a natural number below the bound, if it is one. -/
def toNatBelow? (bound : Nat) (number : Whole) : Option Nat :=
  if 0 ≤ number.val ∧ number.val < bound then some number.val.toNat else none

instance : Inhabited Whole := ⟨ofUInt64 0⟩

end Whole

/-- The bit pattern of a double precision number. -/
structure Binary64 where
  bits : UInt64
deriving DecidableEq, Inhabited

namespace Binary64

/-- The eleven exponent bits. -/
def exponent (number : Binary64) : Nat :=
  number.bits.toNat / 0x10000000000000 % 0x800

/-- Neither an infinity nor a NaN. -/
def IsFinite (number : Binary64) : Prop :=
  number.exponent ≠ 2047

instance (number : Binary64) : Decidable number.IsFinite :=
  inferInstanceAs (Decidable (_ ≠ _))

/-- The double precision number with the given sign bit, exponent bits and fraction bits. -/
def ofParts (sign exponent fraction : Nat) : Binary64 :=
  ⟨UInt64.ofNat (sign * 0x8000000000000000 + exponent * 0x10000000000000 + fraction)⟩

/-- The double precision number equal to the single precision number of a bit pattern.

A subnormal single precision number is normal in double precision: its highest set bit becomes the
implicit one. -/
def ofBinary32 (bits : UInt32) : Binary64 :=
  let sign := bits.toNat / 0x80000000
  let exponent := bits.toNat / 0x800000 % 0x100
  let fraction := bits.toNat % 0x800000
  if exponent = 255 then ofParts sign 2047 (fraction * 0x20000000)
  else if exponent ≠ 0 then ofParts sign (exponent + 896) (fraction * 0x20000000)
  else if fraction = 0 then ofParts sign 0 0
  else
    let top := fraction.log2
    ofParts sign (top + 874) ((fraction - 1 <<< top) <<< (52 - top))

end Binary64

/-- A finite double precision number. -/
structure Finite64 where
  number : Binary64
  finite : number.IsFinite
deriving DecidableEq

namespace Finite64

/-- The finite number of a bit pattern, if it is finite. -/
def ofBinary64? (number : Binary64) : Option Finite64 :=
  if finite : number.IsFinite then some ⟨number, finite⟩ else none

end Finite64

end MessageSync
