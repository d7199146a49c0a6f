import MessageSync.Wire.Item
import MessageSync.Wire.ReadError

/-!
# Typed items

A codec says how one type is read from an item and written as one. This module has the codecs of
scalars, optional values, lists and named variants; records are in `MessageSync.Wire.Layout`.
-/

namespace MessageSync

/-- How a type is read from an item and written as one. -/
structure Codec (α : Type) where
  read : Item → Except ReadError α
  write : α → Item

namespace Codec

/-- What is written reads back. -/
def Lawful {α : Type} (codec : Codec α) : Prop :=
  ∀ x, codec.read (codec.write x) = .ok x

/-- The whole number that an item is. -/
def wholeOf? : Item → Option Whole
  | .whole number => some number
  | .position number => some (.ofUInt64 number)
  | _ => none

/-- A whole number that the given test accepts. -/
def readWhole {α : Type} (accept? : Whole → Option α) (item : Item) : Except ReadError α :=
  match (wholeOf? item).bind accept? with
  | some value => .ok value
  | none => .error .mismatch

/-- Text, also accepted as the bytes of one. -/
def text : Codec String where
  read
    | .text content => .ok content
    | .bytes _ content =>
      match Utf8.decode? content with
      | some content => .ok content
      | none => .error .mismatch
    | _ => .error .mismatch
  write := .text

/-- A truth value. -/
def bool : Codec Bool where
  read
    | .bool truth => .ok truth
    | _ => .error .mismatch
  write := .bool

/-- A signed number of 64 bits. -/
def int64 : Codec Int64 where
  read := readWhole Whole.toInt64?
  write value := .whole (.ofInt64 value)

/-- An unsigned number of 64 bits. -/
def uint64 : Codec UInt64 where
  read := readWhole Whole.toUInt64?
  write value := .whole (.ofUInt64 value)

/-- An unsigned number of 16 bits. -/
def uint16 : Codec UInt16 where
  read := readWhole fun number => (number.toNatBelow? 0x10000).map UInt16.ofNat
  write value := .whole (.ofUInt64 value.toUInt64)

/-- An unsigned number of 8 bits. -/
def uint8 : Codec UInt8 where
  read := readWhole fun number => (number.toNatBelow? 0x100).map UInt8.ofNat
  write value := .whole (.ofUInt64 value.toUInt64)

/-- A value or nil. -/
def option {α : Type} (codec : Codec α) : Codec (Option α) where
  read
    | .nil => .ok none
    | item => (codec.read item).map some
  write
    | none => .nil
    | some value => codec.write value

/-- An array of values. -/
def list {α : Type} (codec : Codec α) : Codec (List α) where
  read
    | .array items => items.mapM codec.read
    | _ => .error .mismatch
  write values := .array (values.map codec.write)

/-- A structured value. -/
def value : Codec Value where
  read item :=
    match item.toValue? with
    | some value => .ok value
    | none => .error .mismatch
  write := .ofValue

/-! ## Named variants -/

/-- The variant of a name. -/
def variantNamed {α : Type} (variants : List (String × α)) (name : String) : Except ReadError α :=
  match variants.lookup name with
  | some value => .ok value
  | none => .error (.unknownVariant name (variants.map Prod.fst))

/-- The variant that an item names: by its name, as text or binary data, or by its position. -/
def variantOf {α : Type} (variants : List (String × α)) : Item → Except ReadError α
  | .text name => variantNamed variants name
  | .bytes .binary content => variantNamed variants (Utf8.decodeLossy content)
  | .position number =>
    match variants[number.toNat]? with
    | some (_, value) => .ok value
    | none => .error .mismatch
  | _ => .error .mismatch

/-- One of the named variants. A map of one entry from a variant to nil also stands for it. -/
def variant {α : Type} (variants : List (String × α)) (name : α → String) : Codec α where
  read
    | .map 1 ((key, content) :: _) => do
      let value ← variantOf variants key
      match content with
      | .nil => return value
      | _ => throw .mismatch
    | .map _ _ => .error .mismatch
    | item => variantOf variants item
  write value := .text (name value)

end Codec

end MessageSync
