import MessageSync.Wire.Codec

/-!
# Records

A layout lists the fields of a record in the order of its declaration. A record is written as a map
from field names and read from such a map, in any order of keys, or from an array of its fields.

While a map is read, each field has a slot. A key that names no field is skipped, a field named
twice is refused where the second key is met, and absent fields are looked for only after the last
entry.
-/

namespace MessageSync

/-- A field of a record: its name, how its value is read and written, the value that stands for an
absent one, if it may be absent, and the values that are left out when writing. -/
structure Field (ρ β : Type) where
  name : String
  codec : Codec β
  absent : Option β
  get : ρ → β
  omitted : β → Bool

namespace Field

variable {ρ β : Type}

/-- A field that must be present. -/
def required (name : String) (codec : Codec β) (get : ρ → β) : Field ρ β :=
  ⟨name, codec, none, get, fun _ => false⟩

/-- A field with a value for when it is absent. -/
def defaulted (name : String) (codec : Codec β) (get : ρ → β) (absent : β) : Field ρ β :=
  ⟨name, codec, some absent, get, fun _ => false⟩

/-- A field that is absent when it has no value. -/
def optional (name : String) (codec : Codec β) (get : ρ → Option β) : Field ρ (Option β) :=
  ⟨name, codec.option, some none, get, Option.isNone⟩

end Field

/-- The fields of a record `ρ` in order, and how their values make the result `α`. -/
inductive Layout (ρ : Type) : Type → Type 1 where
  | make {α : Type} (result : α) : Layout ρ α
  | field {α β : Type} (before : Layout ρ (β → α)) (last : Field ρ β) : Layout ρ α

/-- How a map key names a field. -/
inductive FieldKey where
  | named (name : String)
  | position (index : Nat)
  /-- Bytes that are no text name no field. -/
  | unnamed
deriving DecidableEq

namespace FieldKey

/-- The field that a map key names. -/
def ofItem : Item → Except ReadError FieldKey
  | .text name => .ok (.named name)
  | .bytes _ content =>
    match Utf8.decode? content with
    | some name => .ok (.named name)
    | none => .ok .unnamed
  | .position number => .ok (.position number.toNat)
  | _ => .error .mismatch

/-- Whether the key stands for the field of the given name and position. -/
def names (fieldName : String) (fieldIndex : Nat) : FieldKey → Bool
  | .named name => name == fieldName
  | .position index => index == fieldIndex
  | .unnamed => false

end FieldKey

namespace Layout

variable {ρ : Type}

/-- The number of fields. -/
def size {α : Type} : Layout ρ α → Nat
  | .make _ => 0
  | .field before _ => before.size + 1

/-- The field names in order. -/
def names {α : Type} : Layout ρ α → List String
  | .make _ => []
  | .field before last => before.names ++ [last.name]

/-- A place for the value of each field. -/
def Slots {α : Type} : Layout ρ α → Type
  | .make _ => Unit
  | @Layout.field _ _ β before _ => before.Slots × Option β

/-- The slots before any field was read. -/
def emptySlots {α : Type} : (layout : Layout ρ α) → layout.Slots
  | .make _ => ()
  | .field before _ => (before.emptySlots, none)

/-- Puts an item into the slot of the field that the key names. The result is `none` when the key
names no field. -/
def fill {α : Type} : (layout : Layout ρ α) → FieldKey → Item → layout.Slots →
    Except ReadError (Option layout.Slots)
  | .make _, _, _, _ => .ok none
  | .field before last, key, item, slots =>
    if key.names last.name before.size then
      match slots.2 with
      | some _ => .error (.duplicateField last.name)
      | none => do
        let value ← last.codec.read item
        return some (slots.1, some value)
    else do
      let filled ← before.fill key item slots.1
      return filled.map fun earlier => (earlier, slots.2)

/-- Puts the entries of a map into the slots, one after the other. -/
def fillAll {α : Type} (layout : Layout ρ α) :
    List (Item × Item) → layout.Slots → Except ReadError layout.Slots
  | [], slots => .ok slots
  | (key, item) :: entries, slots => do
    let key ← FieldKey.ofItem key
    match ← layout.fill key item slots with
    | some slots => layout.fillAll entries slots
    | none => if item.isWhole then layout.fillAll entries slots else throw .mismatch

/-- The result made of filled slots; the first field that is absent and has to be present is
missing. -/
def finish {α : Type} : (layout : Layout ρ α) → layout.Slots → Except ReadError α
  | .make result, _ => .ok result
  | .field before last, slots => do
    let result ← before.finish slots.1
    match slots.2.or last.absent with
    | some value => return result value
    | none => throw (.missingField last.name)

/-- The result made of the first items, one a field, and the items after them. -/
def readItems {α : Type} : Layout ρ α → List Item → Except ReadError (α × List Item)
  | .make result, items => .ok (result, items)
  | .field before last, items => do
    match ← before.readItems items with
    | (result, item :: items) => return (result (← last.codec.read item), items)
    | (result, []) =>
      match last.absent with
      | some value => return (result value, [])
      | none => throw .mismatch

/-- The record that an item stands for: a map from field names or an array of fields. -/
def read {α : Type} (layout : Layout ρ α) : Item → Except ReadError α
  | .map _ entries => do layout.finish (← layout.fillAll entries layout.emptySlots)
  | .array items => do
    match ← layout.readItems items with
    | (result, []) => return result
    | (_, _ :: _) => throw .mismatch
  | _ => .error .mismatch

/-- The fields of a record that are written, with their items, in order. -/
def fields {α : Type} : Layout ρ α → ρ → List (String × Item)
  | .make _, _ => []
  | .field before last, record =>
    let value := last.get record
    before.fields record ++
      (if last.omitted value then [] else [(last.name, last.codec.write value)])

/-- The map that a record is written as. -/
def write {α : Type} (layout : Layout ρ α) (record : ρ) : Item :=
  .ofFields (layout.fields record)

/-- A record as a typed item. -/
def codec (layout : Layout ρ ρ) : Codec ρ :=
  ⟨layout.read, layout.write⟩

/-- The layout with one more field that must be present. -/
def required {α β : Type} (before : Layout ρ (β → α)) (name : String) (codec : Codec β)
    (get : ρ → β) : Layout ρ α :=
  .field before (.required name codec get)

/-- The layout with one more field that has a value for when it is absent. -/
def defaulted {α β : Type} (before : Layout ρ (β → α)) (name : String) (codec : Codec β)
    (get : ρ → β) (absent : β) : Layout ρ α :=
  .field before (.defaulted name codec get absent)

/-- The layout with one more field that is absent when it has no value. -/
def optional {α β : Type} (before : Layout ρ (Option β → α)) (name : String) (codec : Codec β)
    (get : ρ → Option β) : Layout ρ α :=
  .field before (.optional name codec get)

end Layout

end MessageSync
