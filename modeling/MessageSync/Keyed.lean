/-!
# Text-keyed maps

A map from texts to values, as a list of entries in ascending order of their keys. Main statements:
what a look-up finds after an entry was set or erased.
-/

namespace MessageSync

/-- A map from texts to values. -/
structure Keyed (α : Type) where
  entries : List (String × α)
deriving DecidableEq, BEq, Inhabited

namespace Keyed

variable {α : Type}

/-- The map without entries. -/
def empty : Keyed α := ⟨[]⟩

/-- The value of a key. -/
def get? (map : Keyed α) (key : String) : Option α :=
  map.entries.lookup key

/-- Whether the key has a value. -/
def contains (map : Keyed α) (key : String) : Bool :=
  (map.get? key).isSome

/-- The keys in ascending order. -/
def keys (map : Keyed α) : List String :=
  map.entries.map Prod.fst

/-- The values in the order of their keys. -/
def values (map : Keyed α) : List α :=
  map.entries.map Prod.snd

/-- The entries with one set. -/
def setEntry (key : String) (value : α) : List (String × α) → List (String × α)
  | [] => [(key, value)]
  | (other, held) :: rest =>
    if key < other then (key, value) :: (other, held) :: rest
    else if key = other then (key, value) :: rest
    else (other, held) :: setEntry key value rest

/-- The map in which the key has the value. -/
def set (map : Keyed α) (key : String) (value : α) : Keyed α :=
  ⟨setEntry key value map.entries⟩

/-- The map in which the key has no value. -/
def erase (map : Keyed α) (key : String) : Keyed α :=
  ⟨map.entries.filter fun entry => entry.1 != key⟩

/-- The map in which the value of a key, if there is one, is changed. -/
def change (map : Keyed α) (key : String) (f : α → α) : Keyed α :=
  match map.get? key with
  | some value => map.set key (f value)
  | none => map

/-- The map with every value changed. -/
def mapValues (map : Keyed α) (f : α → α) : Keyed α :=
  ⟨map.entries.map fun (key, value) => (key, f value)⟩

/-- The map with the entries whose values the test accepts. -/
def keep (map : Keyed α) (test : α → Bool) : Keyed α :=
  ⟨map.entries.filter fun entry => test entry.2⟩

/-- The keys whose values the test accepts, in ascending order. -/
def keysThat (map : Keyed α) (test : α → Bool) : List String :=
  (map.entries.filter fun entry => test entry.2).map Prod.fst

theorem lookup_cons_eq (entry : String × α) (rest : List (String × α)) (key : String) :
    (entry :: rest).lookup key = if key = entry.1 then some entry.2 else rest.lookup key := by
  have step : (entry :: rest).lookup key =
      match key == entry.1 with
      | true => some entry.2
      | false => rest.lookup key := rfl
  rw [step]
  by_cases here : key = entry.1
  · simp [here]
  · have : (key == entry.1) = false := by simpa using here
    simp [this, here]

theorem lookup_setEntry (key other : String) (value : α) (entries : List (String × α)) :
    (setEntry key value entries).lookup other =
      if other = key then some value else entries.lookup other := by
  induction entries with
  | nil => simp [setEntry, lookup_cons_eq]
  | cons entry rest ih =>
    obtain ⟨head, held⟩ := entry
    simp only [setEntry]
    split
    · simp [lookup_cons_eq]
    · split
      · next equal =>
        subst equal
        by_cases same : other = key <;> simp [lookup_cons_eq, same]
      · next different =>
        by_cases here : other = head
        · subst here
          simp [Ne.symm different]
        · simp [lookup_cons_eq, here, ih]

/-- Setting a key changes what is found for it, and for no other. -/
@[simp]
theorem get?_set (map : Keyed α) (key other : String) (value : α) :
    (map.set key value).get? other = if other = key then some value else map.get? other :=
  lookup_setEntry key other value map.entries

/-- Erasing a key leaves nothing to be found for it, and changes nothing else. -/
@[simp]
theorem get?_erase (map : Keyed α) (key other : String) :
    (map.erase key).get? other = if other = key then none else map.get? other := by
  obtain ⟨entries⟩ := map
  simp only [get?, erase]
  induction entries with
  | nil => simp
  | cons entry rest ih =>
    rw [List.filter_cons, lookup_cons_eq]
    by_cases equal : entry.1 = key
    · simp only [equal, bne_self_eq_false, Bool.false_eq_true, if_false, ih]
      split <;> rfl
    · simp only [bne_iff_ne, ne_eq, equal, not_false_eq_true, if_true, lookup_cons_eq, ih]
      split
      · next here => simp [here, equal]
      · rfl

end Keyed

/-- A set of texts. -/
abbrev TextSet := Keyed Unit

namespace TextSet

/-- The set with a text added. -/
def insert (texts : TextSet) (text : String) : TextSet :=
  texts.set text ()

/-- The texts of either set, in ascending order. -/
def union (first second : TextSet) : TextSet :=
  second.keys.foldl insert first

end TextSet

end MessageSync
