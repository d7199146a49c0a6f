import MessageSync.Text.Utf8
import MessageSync.Wire.Value

/-!
# Packed items

An item is one element of a packed document: a scalar, a run of bytes, or a container of items.
Items say more than values do. They tell bytes from text, and a number written with an unsigned
marker, which may also stand for a position, from any other whole number. A document that breaks off
or is malformed still has the items before that point, followed by `cut`.

Main statements: a value becomes an item that reads back as the value.
-/

namespace MessageSync

/-- How a run of bytes was marked: as text that is not well-formed, or as binary data. -/
inductive BytesForm where
  | illFormedText
  | binary
deriving DecidableEq, Inhabited

/-- An element of a packed document. -/
inductive Item where
  | nil
  | bool (truth : Bool)
  /-- A whole number that stands for itself only. -/
  | whole (number : Whole)
  /-- A whole number with an unsigned marker, which may also name a field or variant by position. -/
  | position (number : UInt64)
  | float (number : Binary64)
  | text (content : String)
  | bytes (form : BytesForm) (content : List UInt8)
  | extension (tag : UInt8) (content : List UInt8)
  | array (items : List Item)
  /-- A map with the number of entries that its header announces. -/
  | map (announced : Nat) (entries : List (Item × Item))
  /-- Where a document breaks off or is malformed. -/
  | cut
deriving BEq, Inhabited

namespace Item

mutual

/-- The item of a value. -/
def ofValue : Value → Item
  | .null => .nil
  | .bool truth => .bool truth
  | .whole number => .whole number
  | .float number => .float number.number
  | .text content => .text content
  | .array items => .array (ofItems items)
  | .object entries => .map entries.length (ofEntries entries)

/-- The items of the values of an array. -/
def ofItems : List Value → List Item
  | [] => []
  | item :: items => ofValue item :: ofItems items

/-- The map entries of the entries of an object. -/
def ofEntries : List (String × Value) → List (Item × Item)
  | [] => []
  | (key, value) :: entries => (.text key, ofValue value) :: ofEntries entries

end

/-- The key of an object's first entry, which must be a text. -/
def firstKey? : Item → Option String
  | .text content => some content
  | _ => none

/-- The key of a later entry, which may also be the bytes of a text. -/
def laterKey? : Item → Option String
  | .text content => some content
  | .bytes .binary content => Utf8.decode? content
  | _ => none

mutual

/-- The value that the item stands for, if it can be one. Numbers that are not finite are null. -/
def toValue? : Item → Option Value
  | .nil => some .null
  | .bool truth => some (.bool truth)
  | .whole number => some (.whole number)
  | .position number => some (.whole (.ofUInt64 number))
  | .float number =>
    match Finite64.ofBinary64? number with
    | some finite => some (.float finite)
    | none => some .null
  | .text content => some (.text content)
  | .array items => (toValues? items).map .array
  | .map _ entries => (toEntries? firstKey? entries).map .ofEntries
  | .bytes .. | .extension .. | .cut => none

/-- The values of the items of an array. -/
def toValues? : List Item → Option (List Value)
  | [] => some []
  | item :: items => do
    let value ← toValue? item
    return value :: (← toValues? items)

/-- The entries of a map, whose next key is read as given. -/
def toEntries? (key? : Item → Option String) :
    List (Item × Item) → Option (List (String × Value))
  | [] => some []
  | (key, item) :: entries => do
    let name ← key? key
    let value ← toValue? item
    return (name, value) :: (← toEntries? laterKey? entries)

end

mutual

/-- No part of the item is cut off. -/
def isWhole : Item → Bool
  | .cut => false
  | .array items => areWhole items
  | .map _ entries => entriesWhole entries
  | _ => true

/-- No part of any of the items is cut off. -/
def areWhole : List Item → Bool
  | [] => true
  | item :: items => item.isWhole && areWhole items

/-- No part of any of the entries is cut off. -/
def entriesWhole : List (Item × Item) → Bool
  | [] => true
  | (key, item) :: entries => key.isWhole && item.isWhole && entriesWhole entries

end

/-- A text-keyed map of items. -/
def ofFields (fields : List (String × Item)) : Item :=
  .map fields.length (fields.map fun (name, item) => (.text name, item))

end Item

end MessageSync
