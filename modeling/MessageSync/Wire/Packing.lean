import MessageSync.Wire.Item

/-!
# Packed documents

MessagePack bytes for items, in both directions. Writing chooses the shortest form of every number
and header. Reading is total: where the bytes break off, hold the reserved marker or nest more
containers than allowed, the item read there is `Item.cut` and reading stops. Bytes after the
document are left over.
-/

namespace MessageSync

namespace Packing

/-- Bytes of a document. -/
abbrev Bytes := List UInt8

/-- How many containers may be open at once, extension values included. -/
def maxDepth : Nat := 1023

/-- The given number of bytes of a natural number, most significant first. -/
def bigEndian : Nat → Nat → Bytes
  | 0, _ => []
  | width + 1, value => UInt8.ofNat (value >>> (8 * width)) :: bigEndian width value

/-- The natural number that bytes stand for, most significant first. -/
def ofBigEndian (bytes : Bytes) : Nat :=
  bytes.foldl (fun value byte => value * 256 + byte.toNat) 0

/-! ## Writing -/

/-- A marker byte and the number after it, in the given number of bytes. -/
def marked (marker : UInt8) (width value : Nat) : Bytes :=
  marker :: bigEndian width value

/-- The shortest form of a natural number. -/
def natural (value : Nat) : Bytes :=
  if value < 128 then [UInt8.ofNat value]
  else if value < 0x100 then marked 0xCC 1 value
  else if value < 0x10000 then marked 0xCD 2 value
  else if value < 0x100000000 then marked 0xCE 4 value
  else marked 0xCF 8 value

/-- The shortest form of a negative number, by its two's complement in the chosen width. -/
def negative (value : Int) : Bytes :=
  if -32 ≤ value then [UInt8.ofNat (value + 0x100).toNat]
  else if -0x80 ≤ value then marked 0xD0 1 (value + 0x100).toNat
  else if -0x8000 ≤ value then marked 0xD1 2 (value + 0x10000).toNat
  else if -0x80000000 ≤ value then marked 0xD2 4 (value + 0x100000000).toNat
  else marked 0xD3 8 (value + 0x10000000000000000).toNat

/-- The shortest form of a whole number. -/
def whole (number : Whole) : Bytes :=
  if 0 ≤ number.val then natural number.val.toNat else negative number.val

/-- The header of a text of the given length in bytes. -/
def textHeader (length : Nat) : Bytes :=
  if length < 32 then [UInt8.ofNat (0xA0 + length)]
  else if length < 0x100 then marked 0xD9 1 length
  else if length < 0x10000 then marked 0xDA 2 length
  else marked 0xDB 4 length

/-- The header of binary data of the given length. -/
def binaryHeader (length : Nat) : Bytes :=
  if length < 0x100 then marked 0xC4 1 length
  else if length < 0x10000 then marked 0xC5 2 length
  else marked 0xC6 4 length

/-- The header of an extension value of the given length, its tag not included. -/
def extensionHeader (length : Nat) : Bytes :=
  if length < 0x100 then marked 0xC7 1 length
  else if length < 0x10000 then marked 0xC8 2 length
  else marked 0xC9 4 length

/-- The header of an array of the given length. -/
def arrayHeader (length : Nat) : Bytes :=
  if length < 16 then [UInt8.ofNat (0x90 + length)]
  else if length < 0x10000 then marked 0xDC 2 length
  else marked 0xDD 4 length

/-- The header of a map of the given number of entries. -/
def mapHeader (length : Nat) : Bytes :=
  if length < 16 then [UInt8.ofNat (0x80 + length)]
  else if length < 0x10000 then marked 0xDE 2 length
  else marked 0xDF 4 length

mutual

/-- The bytes of an item. Nothing stands for a cut. -/
def write : Item → Bytes
  | .nil => [0xC0]
  | .bool false => [0xC2]
  | .bool true => [0xC3]
  | .whole number => whole number
  | .position number => natural number.toNat
  | .float number => marked 0xCB 8 number.bits.toNat
  | .text content =>
    let bytes := Utf8.encode content
    textHeader bytes.length ++ bytes
  | .bytes .illFormedText content => textHeader content.length ++ content
  | .bytes .binary content => binaryHeader content.length ++ content
  | .extension tag content => extensionHeader content.length ++ tag :: content
  | .array items => arrayHeader items.length ++ writeItems items
  | .map announced entries => mapHeader announced ++ writeEntries entries
  | .cut => []

/-- The bytes of items, one after the other. -/
def writeItems : List Item → Bytes
  | [] => []
  | item :: items => write item ++ writeItems items

/-- The bytes of map entries, each key before its value. -/
def writeEntries : List (Item × Item) → Bytes
  | [] => []
  | (key, item) :: entries => write key ++ write item ++ writeEntries entries

end

/-! ## Reading -/

/-- The first bytes of the given number and the ones after them, if there are so many. -/
def split? (count : Nat) (bytes : Bytes) : Option (Bytes × Bytes) :=
  if count ≤ bytes.length then some (bytes.splitAt count) else none

/-- A natural number of the given width, and the bytes after it. -/
def unsigned? (width : Nat) (bytes : Bytes) : Option (Nat × Bytes) :=
  (split? width bytes).map fun (digits, rest) => (ofBigEndian digits, rest)

/-- A number in two's complement of the given width, and the bytes after it. -/
def signed? (width : Nat) (bytes : Bytes) : Option (Int × Bytes) :=
  (unsigned? width bytes).map fun (value, rest) =>
    (Int.bmod value (1 <<< (8 * width)), rest)

/-- What the start of an item announces. -/
inductive Start where
  /-- A complete item that holds no others. -/
  | scalar (item : Item)
  /-- An extension value. -/
  | extension (tag : UInt8) (content : Bytes)
  /-- An array of so many items. -/
  | array (count : Nat)
  /-- A map of so many entries. -/
  | map (count : Nat)

/-- The item of a run of bytes marked as text. -/
def ofTextBytes (content : Bytes) : Item :=
  match Utf8.decode? content with
  | some text => .text text
  | none => .bytes .illFormedText content

/-- A run of text of the given length. -/
def textStart (length : Nat) (bytes : Bytes) : Option (Start × Bytes) := do
  let (content, rest) ← split? length bytes
  return (.scalar (ofTextBytes content), rest)

/-- Binary data of the given length. -/
def binaryStart (length : Nat) (bytes : Bytes) : Option (Start × Bytes) := do
  let (content, rest) ← split? length bytes
  return (.scalar (.bytes .binary content), rest)

/-- A tag and an extension value of the given length. -/
def extensionStart (length : Nat) (bytes : Bytes) : Option (Start × Bytes) := do
  let (tag, rest) ← unsigned? 1 bytes
  let (content, rest) ← split? length rest
  return (.extension (UInt8.ofNat tag) content, rest)

/-- An unsigned number of the given width. -/
def unsignedStart (width : Nat) (bytes : Bytes) : Option (Start × Bytes) := do
  let (value, rest) ← unsigned? width bytes
  return (.scalar (.position (UInt64.ofNat value)), rest)

/-- A signed number of the given width. -/
def signedStart (width : Nat) (bytes : Bytes) : Option (Start × Bytes) := do
  let (value, rest) ← signed? width bytes
  return (.scalar (.whole (.ofInt64 (Int64.ofInt value))), rest)

/-- The start of an item: its marker, its length and, for a scalar, its content. The reserved
marker starts nothing. -/
def start? : Bytes → Option (Start × Bytes)
  | [] => none
  | marker :: rest =>
    let code := marker.toNat
    if code < 0x80 then some (.scalar (.position marker.toUInt64), rest)
    else if code < 0x90 then some (.map (code - 0x80), rest)
    else if code < 0xA0 then some (.array (code - 0x90), rest)
    else if code < 0xC0 then textStart (code - 0xA0) rest
    else if 0xE0 ≤ code then
      some (.scalar (.whole (.ofInt64 (Int64.ofInt (code - 256)))), rest)
    else
      match code with
      | 0xC0 => some (.scalar .nil, rest)
      | 0xC2 => some (.scalar (.bool false), rest)
      | 0xC3 => some (.scalar (.bool true), rest)
      | 0xC4 => (unsigned? 1 rest).bind fun (length, rest) => binaryStart length rest
      | 0xC5 => (unsigned? 2 rest).bind fun (length, rest) => binaryStart length rest
      | 0xC6 => (unsigned? 4 rest).bind fun (length, rest) => binaryStart length rest
      | 0xC7 => (unsigned? 1 rest).bind fun (length, rest) => extensionStart length rest
      | 0xC8 => (unsigned? 2 rest).bind fun (length, rest) => extensionStart length rest
      | 0xC9 => (unsigned? 4 rest).bind fun (length, rest) => extensionStart length rest
      | 0xCA => (unsigned? 4 rest).map fun (bits, rest) =>
          (.scalar (.float (.ofBinary32 (UInt32.ofNat bits))), rest)
      | 0xCB => (unsigned? 8 rest).map fun (bits, rest) =>
          (.scalar (.float ⟨UInt64.ofNat bits⟩), rest)
      | 0xCC => unsignedStart 1 rest
      | 0xCD => unsignedStart 2 rest
      | 0xCE => unsignedStart 4 rest
      | 0xCF => unsignedStart 8 rest
      | 0xD0 => signedStart 1 rest
      | 0xD1 => signedStart 2 rest
      | 0xD2 => signedStart 4 rest
      | 0xD3 => signedStart 8 rest
      | 0xD4 => extensionStart 1 rest
      | 0xD5 => extensionStart 2 rest
      | 0xD6 => extensionStart 4 rest
      | 0xD7 => extensionStart 8 rest
      | 0xD8 => extensionStart 16 rest
      | 0xD9 => (unsigned? 1 rest).bind fun (length, rest) => textStart length rest
      | 0xDA => (unsigned? 2 rest).bind fun (length, rest) => textStart length rest
      | 0xDB => (unsigned? 4 rest).bind fun (length, rest) => textStart length rest
      | 0xDC => (unsigned? 2 rest).map fun (count, rest) => (.array count, rest)
      | 0xDD => (unsigned? 4 rest).map fun (count, rest) => (.array count, rest)
      | 0xDE => (unsigned? 2 rest).map fun (count, rest) => (.map count, rest)
      | 0xDF => (unsigned? 4 rest).map fun (count, rest) => (.map count, rest)
      | _ => none

/-- One item, and the bytes after it unless the item is cut off. -/
abbrev Reader := Bytes → Item × Option Bytes

/-- The given number of items, or those up to a cut. -/
def readItems (read : Reader) : Nat → Bytes → List Item × Option Bytes
  | 0, bytes => ([], some bytes)
  | count + 1, bytes =>
    match read bytes with
    | (item, none) => ([item], none)
    | (item, some rest) =>
      let (items, rest) := readItems read count rest
      (item :: items, rest)

/-- The given number of entries, or those up to a cut. -/
def readEntries (read : Reader) : Nat → Bytes → List (Item × Item) × Option Bytes
  | 0, bytes => ([], some bytes)
  | count + 1, bytes =>
    match read bytes with
    | (key, none) => ([(key, .cut)], none)
    | (key, some rest) =>
      match read rest with
      | (item, none) => ([(key, item)], none)
      | (item, some rest) =>
        let (entries, rest) := readEntries read count rest
        ((key, item) :: entries, rest)

/-- One item in which no more than the given number of containers are open at once. -/
def readWithin : Nat → Reader
  | depth, bytes =>
    match start? bytes, depth with
    | none, _ => (.cut, none)
    | some (.scalar item, rest), _ => (item, some rest)
    | some (_, _), 0 => (.cut, none)
    | some (.extension tag content, rest), _ + 1 => (.extension tag content, some rest)
    | some (.array count, rest), depth + 1 =>
      let (items, rest) := readItems (readWithin depth) count rest
      (.array items, rest)
    | some (.map count, rest), depth + 1 =>
      let (entries, rest) := readEntries (readWithin depth) count rest
      (.map count entries, rest)

/-- The item that a document holds. Bytes after it are ignored. -/
def read (bytes : Bytes) : Item :=
  (readWithin maxDepth bytes).1

end Packing

end MessageSync
