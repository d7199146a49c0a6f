import MessageSync.Wire.Item

/-!
# Settings documents

A settings document is a tree of tables. A table is made by its header, by a longer header that
passes through it, by a dotted key, or as an inline value, and what may be added to it later depends
on which of these it was.
-/

namespace MessageSync.Toml

/-- How a table was made. -/
inductive TableForm where
  /-- By its own header. -/
  | header
  /-- By a header of a table inside it. -/
  | implied
  /-- By a dotted key. -/
  | dotted
  /-- As a value. Nothing can be added to it. -/
  | inline
deriving DecidableEq, Inhabited

/-- A node of the tree. No setting is a fraction or a moment, so these are kept without their
values. -/
inductive Node where
  | text (content : String)
  | integer (value : Int)
  | bool (truth : Bool)
  | fraction
  | moment
  | array (items : List Node)
  | table (form : TableForm) (entries : List (String × Node))
  /-- Tables under one header that is repeated. -/
  | tables (elements : List Node)
deriving Inhabited

/-- The entries of a table, in ascending order of their keys. -/
abbrev Entries := List (String × Node)

/-- A path of keys. -/
abbrev Path := List String

namespace Node

mutual

/-- The item that a node stands for. Numbers beyond 64 bits are no whole numbers, and a moment is a
record of its own. -/
def item : Node → Item
  | .text content => .text content
  | .integer value =>
    match Whole.ofInt? value with
    | some number => .whole number
    | none => .extension 0 []
  | .bool truth => .bool truth
  | .fraction => .float ⟨0⟩
  | .moment => .map 1 [(.text "moment", .nil)]
  | .array nodes | .tables nodes => .array (items nodes)
  | .table _ entries => .map entries.length (entryItems entries)

/-- The items of nodes. -/
def items : List Node → List Item
  | [] => []
  | node :: nodes => node.item :: items nodes

/-- The map entries of the entries of a table. -/
def entryItems : List (String × Node) → List (Item × Item)
  | [] => []
  | (key, node) :: entries => (.text key, node.item) :: entryItems entries

end

end Node

namespace Entries

/-- Changes the table under a key, or the last of the tables there. A table that is not there yet
is implied. -/
def within (entries : Entries) (key : String) (change : Entries → Option Entries) :
    Option Entries :=
  match entries.lookup key with
  | none => do return Keyed.setEntry key (.table .implied (← change [])) entries
  | some (.table .inline _) => none
  | some (.table form inner) => do return Keyed.setEntry key (.table form (← change inner)) entries
  | some (.tables elements) =>
    match elements.getLast? with
    | some (.table form inner) => do
      let last := Node.table form (← change inner)
      return Keyed.setEntry key (.tables (elements.dropLast ++ [last])) entries
    | _ => none
  | some _ => none

/-- Changes the table at a path. -/
def atPath (change : Entries → Option Entries) : Path → Entries → Option Entries
  | [], entries => change entries
  | key :: path, entries => entries.within key (atPath change path)

/-- Makes the table of a header. A table that was only implied so far becomes that table; any other
is not to be defined again. -/
def define (key : String) (entries : Entries) : Option Entries :=
  match entries.lookup key with
  | none => some (Keyed.setEntry key (.table .header []) entries)
  | some (.table .implied inner) => some (Keyed.setEntry key (.table .header inner) entries)
  | some _ => none

/-- Makes one more table of a repeated header. -/
def append (key : String) (entries : Entries) : Option Entries :=
  match entries.lookup key with
  | none => some (Keyed.setEntry key (.tables [.table .header []]) entries)
  | some (.tables elements) =>
    some (Keyed.setEntry key (.tables (elements ++ [.table .header []])) entries)
  | some _ => none

/-- Adds a value under a dotted key. The tables on the way must not have headers of their own, and
the table that takes the value must be made by dotted keys alone. -/
def insert (value : Node) : Path → Entries → Option Entries
  | [], _ => none
  | [key], entries =>
    match entries.lookup key with
    | none => some (Keyed.setEntry key value entries)
    | some _ => none
  | key :: rest, entries =>
    match entries.lookup key with
    | none => do return Keyed.setEntry key (.table .dotted (← insert value rest [])) entries
    | some (.table .dotted inner) => do
      return Keyed.setEntry key (.table .dotted (← insert value rest inner)) entries
    | some (.table .implied inner) =>
      if rest.length = 1 then none
      else do return Keyed.setEntry key (.table .implied (← insert value rest inner)) entries
    | some _ => none

end Entries

end MessageSync.Toml
