import MessageSync.Keyed
import MessageSync.Wire.Number

/-!
# Structured values

A structured body is a tree of nulls, truth values, numbers, texts, arrays and objects. An object
holds its entries in ascending order of their keys, each key once.
-/

namespace MessageSync

/-- A structured value. -/
inductive Value where
  | null
  | bool (truth : Bool)
  | whole (number : Whole)
  | float (number : Finite64)
  | text (content : String)
  | array (items : List Value)
  | object (entries : List (String × Value))
deriving BEq, Inhabited

namespace Value

/-- The object with the given entries; of a repeated key the last value counts. -/
def ofEntries (entries : List (String × Value)) : Value :=
  .object (entries.foldl (fun sorted (key, value) => Keyed.setEntry key value sorted) [])

/-- The value of an entry of an object. -/
def get? (value : Value) (key : String) : Option Value :=
  match value with
  | .object entries => entries.lookup key
  | _ => none

/-- The content of a text. -/
def text? : Value → Option String
  | .text content => some content
  | _ => none

/-- Whether the value is a text. -/
def isText : Value → Bool
  | .text _ => true
  | _ => false

/-- Whether the value is a truth value. -/
def isBool : Value → Bool
  | .bool _ => true
  | _ => false

/-- Whether the value is a number. -/
def isNumber : Value → Bool
  | .whole _ | .float _ => true
  | _ => false

/-- Whether the value is an array. -/
def isArray : Value → Bool
  | .array _ => true
  | _ => false

/-- The name of the kind of value, as error texts give it. -/
def kindName : Value → String
  | .null => "nil"
  | .bool _ => "bool"
  | .whole _ | .float _ => "number"
  | .text _ => "string"
  | .array _ => "array"
  | .object _ => "map"

mutual

/-- Every object inside the value has its keys in strictly ascending order. -/
def Sorted : Value → Prop
  | .array items => SortedItems items
  | .object entries => (entries.map Prod.fst).Pairwise (· < ·) ∧ SortedEntries entries
  | _ => True

/-- Every item is sorted. -/
def SortedItems : List Value → Prop
  | [] => True
  | item :: items => item.Sorted ∧ SortedItems items

/-- Every entry's value is sorted. -/
def SortedEntries : List (String × Value) → Prop
  | [] => True
  | (_, value) :: entries => value.Sorted ∧ SortedEntries entries

end

end Value

end MessageSync
