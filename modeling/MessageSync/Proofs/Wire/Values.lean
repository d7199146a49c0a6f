import MessageSync.Proofs.Keyed
import MessageSync.Proofs.Wire.Packing

/-!
# Values inside documents

A sorted value is the value of its item, and of the item that is read where that was written. In
turn, every value that an item stands for is sorted, and fits where the item does.
-/

namespace MessageSync

namespace Value

mutual

/-- The value nests no more than the given number of arrays and objects, and no length in it is too
large for a header. -/
def Fits : Nat → Value → Prop
  | _, .text content => (Utf8.encode content).length < Packing.lengthLimit
  | 0, .array _ => False
  | depth + 1, .array items => items.length < Packing.lengthLimit ∧ AllFit depth items
  | 0, .object _ => False
  | depth + 1, .object entries =>
    entries.length < Packing.lengthLimit ∧ EntriesFit depth entries
  | _, _ => True

/-- Every item fits. -/
def AllFit : Nat → List Value → Prop
  | _, [] => True
  | depth, item :: items => item.Fits depth ∧ AllFit depth items

/-- The key and the value of every entry fit. -/
def EntriesFit : Nat → List (String × Value) → Prop
  | _, [] => True
  | depth, (key, value) :: entries =>
    (Utf8.encode key).length < Packing.lengthLimit ∧ value.Fits depth ∧ EntriesFit depth entries

end

theorem entriesFit_iff {depth : Nat} {entries : List (String × Value)} :
    EntriesFit depth entries ↔ ∀ entry ∈ entries,
      (Utf8.encode entry.1).length < Packing.lengthLimit ∧ entry.2.Fits depth := by
  induction entries with
  | nil => simp [EntriesFit]
  | cons entry entries ih =>
      rcases entry with ⟨key, value⟩
      simp [EntriesFit, ih, and_assoc]

theorem sortedEntries_iff {entries : List (String × Value)} :
    SortedEntries entries ↔ ∀ entry ∈ entries, entry.2.Sorted := by
  induction entries with
  | nil => simp [SortedEntries]
  | cons entry entries ih =>
      rcases entry with ⟨key, value⟩
      simp [SortedEntries, ih]

theorem sortedItems_iff {items : List Value} : SortedItems items ↔ ∀ item ∈ items, item.Sorted := by
  induction items with
  | nil => simp [SortedItems]
  | cons item items ih => simp [SortedItems, ih]

/-- The object of sorted entries has these entries. -/
theorem ofEntries_sorted {entries : List (String × Value)}
    (sorted : (entries.map Prod.fst).Pairwise (· < ·)) : ofEntries entries = .object entries := by
  rw [List.pairwise_map] at sorted
  rw [ofEntries, Keyed.foldl_setEntry_sorted [] (by simpa using sorted), List.nil_append]

/-- Whatever the order and the repetitions of its entries, an object is sorted. -/
theorem sorted_ofEntries {entries : List (String × Value)}
    (sorted : ∀ entry ∈ entries, entry.2.Sorted) : (ofEntries entries).Sorted := by
  rcases Keyed.foldl_setEntry entries [] List.Pairwise.nil with
    ⟨ascending, -, members⟩
  rw [ofEntries, Sorted, List.pairwise_map, sortedEntries_iff]
  refine ⟨ascending, ?_⟩
  intro entry mem
  rcases members entry mem with impossible | old
  · cases impossible
  · exact sorted entry old

/-- The object of entries with different keys has these entries, in the order of their keys. -/
theorem exists_ofEntries {entries : List (String × Value)}
    (distinct : (entries.map Prod.fst).Nodup) :
    ∃ sorted : List (String × Value), ofEntries entries = .object sorted ∧
      (sorted.map Prod.fst).Nodup ∧ ∀ name, sorted.lookup name = entries.lookup name := by
  rcases Keyed.foldl_setEntry entries [] List.Pairwise.nil with ⟨ascending, -, -⟩
  refine ⟨_, rfl, Keyed.nodup_keys ascending, ?_⟩
  intro name
  rw [Keyed.lookup_foldl_setEntry distinct, List.lookup_nil, Option.or_none]

theorem fits_ofEntries {depth : Nat} {entries : List (String × Value)}
    (few : entries.length < Packing.lengthLimit) (fits : EntriesFit depth entries) :
    (ofEntries entries).Fits (depth + 1) := by
  rcases Keyed.foldl_setEntry entries [] List.Pairwise.nil with
    ⟨-, fewer, members⟩
  rw [entriesFit_iff] at fits
  rw [ofEntries, Fits, entriesFit_iff]
  constructor
  · rw [List.length_nil, Nat.zero_add] at fewer
    exact fewer.trans_lt few
  · intro entry mem
    rcases members entry mem with impossible | old
    · cases impossible
    · exact fits entry old

end Value

namespace Item

/-! ## From a value to its item and back -/

theorem length_ofItems (items : List Value) : (ofItems items).length = items.length := by
  induction items with
  | nil => rfl
  | cons item items ih => simp [ofItems, ih]

theorem length_ofEntries (entries : List (String × Value)) :
    (ofEntries entries).length = entries.length := by
  induction entries with
  | nil => rfl
  | cons entry entries ih =>
      rcases entry with ⟨key, value⟩
      simp [ofEntries, ih]

mutual

theorem ofValue_complete : ∀ value : Value, (ofValue value).Complete
  | .null | .bool _ | .whole _ | .float _ | .text _ => trivial
  | .array items => ofItems_complete items
  | .object entries => ⟨(length_ofEntries entries).symm, ofEntries_complete entries⟩

theorem ofItems_complete : ∀ items : List Value, AllComplete (ofItems items)
  | [] => trivial
  | item :: items => ⟨ofValue_complete item, ofItems_complete items⟩

theorem ofEntries_complete : ∀ entries : List (String × Value), EntriesComplete (ofEntries entries)
  | [] => trivial
  | (_, value) :: entries => ⟨trivial, ofValue_complete value, ofEntries_complete entries⟩

end

mutual

theorem ofValue_fits : ∀ (value : Value) (depth : Nat), value.Fits depth →
    (ofValue value).Fits depth
  | .null, _, _ | .bool _, _, _ | .whole _, _, _ | .float _, _, _ => trivial
  | .text content, depth, fits => by simpa [ofValue, Fits, Value.Fits] using fits
  | .array items, depth + 1, fits =>
    ⟨by rw [length_ofItems]; exact fits.1, ofItems_fit items depth fits.2⟩
  | .object entries, depth + 1, fits =>
    ⟨fits.1, (length_ofEntries entries).le, ofEntries_fit entries depth fits.2⟩

theorem ofItems_fit : ∀ (items : List Value) (depth : Nat), Value.AllFit depth items →
    AllFit depth (ofItems items)
  | [], _, _ => trivial
  | item :: items, depth, fits => ⟨ofValue_fits item depth fits.1, ofItems_fit items depth fits.2⟩

theorem ofEntries_fit : ∀ (entries : List (String × Value)) (depth : Nat),
    Value.EntriesFit depth entries → EntriesFit depth (ofEntries entries)
  | [], _, _ => trivial
  | (key, value) :: entries, depth, fits =>
    ⟨by simpa [Fits] using fits.1, ofValue_fits value depth fits.2.1,
      ofEntries_fit entries depth fits.2.2⟩

end

theorem toValue?_received_whole (number : Whole) :
    toValue? (Item.whole number).received = some (.whole number) := by
  simp only [received]
  split_ifs with unsigned
  · have upper := number.upper
    have back : Whole.ofUInt64 (UInt64.ofNat number.val.toNat) = number := by
      have exact : (UInt64.ofNat number.val.toNat).toNat = number.val.toNat :=
        UInt64.toNat_ofNat_of_lt' (by change _ < 2 ^ 64; omega)
      have same : ((UInt64.ofNat number.val.toNat).toNat : Int) = number.val := by omega
      cases number
      simpa only [Whole.ofUInt64, Whole.mk.injEq] using same
    rw [toValue?, back]
  · rfl

theorem firstKey?_received (key : Item) : firstKey? key.received = firstKey? key := by
  cases key with
  | whole number =>
      simp only [received]
      split_ifs <;> rfl
  | _ => rfl

theorem laterKey?_received (key : Item) : laterKey? key.received = laterKey? key := by
  cases key with
  | whole number =>
      simp only [received]
      split_ifs <;> rfl
  | _ => rfl

mutual

/-- The item that is read where one was written stands for the same value. -/
theorem toValue?_of_received : ∀ item : Item, toValue? item.received = toValue? item
  | .nil | .bool _ | .position _ | .float _ | .text _ | .bytes .. | .extension .. | .cut => rfl
  | .whole number => toValue?_received_whole number
  | .array items => by simp only [received, toValue?, toValues?_of_received items]
  | .map _ entries => by
      simp only [received, toValue?, toEntries?_of_received entries firstKey? firstKey?_received]

theorem toValues?_of_received : ∀ items : List Item, toValues? (allReceived items) = toValues? items
  | [] => rfl
  | item :: items => by
      simp only [allReceived, toValues?, toValue?_of_received item, toValues?_of_received items]

-- Later keys are read in more forms than the first one, so this is for all ways to read keys.
theorem toEntries?_of_received : ∀ (entries : List (Item × Item)) (key? : Item → Option String),
    (∀ key, key? key.received = key? key) →
    toEntries? key? (entriesReceived entries) = toEntries? key? entries
  | [], _, _ => rfl
  | (key, item) :: entries, key?, same => by
      simp only [entriesReceived, toEntries?, same, toValue?_of_received item,
        toEntries?_of_received entries laterKey? laterKey?_received]

end

/-- Named items stand for the values of the items under the same names. -/
theorem exists_toEntries? {fields : List (String × Item)} {key? : Item → Option String}
    (readsText : ∀ name, key? (.text name) = some name)
    (valued : ∀ field ∈ fields, ∃ value, field.2.toValue? = some value) :
    ∃ entries, toEntries? key? (fields.map fun (name, item) => (.text name, item)) =
        some entries ∧ entries.map Prod.fst = fields.map Prod.fst ∧
      ∀ name, entries.lookup name = (fields.lookup name).bind toValue? := by
  induction fields generalizing key? with
  | nil => exact ⟨[], rfl, rfl, fun _ => rfl⟩
  | cons field fields ih =>
      rcases field with ⟨name, item⟩
      rcases valued (name, item) (by simp) with ⟨value, valueEq⟩
      have laterText : ∀ name, laterKey? (.text name) = some name := fun _ => rfl
      rcases ih laterText fun field mem => valued field (List.mem_cons_of_mem _ mem) with
        ⟨entries, entriesEq, sameKeys, lookups⟩
      refine ⟨(name, value) :: entries, ?_, ?_, ?_⟩
      · simp [toEntries?, readsText, valueEq, entriesEq]
      · simp [sameKeys]
      · intro other
        rw [Keyed.lookup_cons_eq, Keyed.lookup_cons_eq]
        by_cases here : other = name
        · simp [here, valueEq]
        · simp [here, lookups]

theorem ofValue_array (items : List Value) : ofValue (.array items) = .array (items.map ofValue) := by
  have same : ofItems items = items.map ofValue := by
    induction items with
    | nil => rfl
    | cons item items ih => simp [ofItems, ih]
  rw [ofValue, same]

/-- The entries of an object as named items. -/
def fieldsOf (entries : List (String × Value)) : List (String × Item) :=
  entries.map fun (name, value) => (name, ofValue value)

theorem keys_fieldsOf (entries : List (String × Value)) :
    (fieldsOf entries).map Prod.fst = entries.map Prod.fst := by
  rw [fieldsOf, List.map_map]
  rfl

theorem lookup_fieldsOf (entries : List (String × Value)) (name : String) :
    (fieldsOf entries).lookup name = (entries.lookup name).map ofValue :=
  Keyed.lookup_map entries name ofValue

theorem exists_of_mem_fieldsOf {entries : List (String × Value)} {field : String × Item}
    (mem : field ∈ fieldsOf entries) : ∃ entry ∈ entries, field = (entry.1, ofValue entry.2) := by
  rcases List.mem_map.mp mem with ⟨entry, entryMem, rfl⟩
  exact ⟨entry, entryMem, rfl⟩

theorem ofValue_object (entries : List (String × Value)) :
    ofValue (.object entries) = .ofFields (fieldsOf entries) := by
  have same : ofEntries entries = (fieldsOf entries).map fun (name, item) => (.text name, item) := by
    induction entries with
    | nil => rfl
    | cons entry entries ih =>
        rw [ofEntries, ih]
        rfl
  rw [ofValue, same, ofFields, fieldsOf, List.length_map]

mutual

/-- A sorted value is the value of its item. -/
theorem toValue?_ofValue : ∀ value : Value, value.Sorted → toValue? (ofValue value) = some value
  | .null, _ | .bool _, _ | .whole _, _ | .text _, _ => rfl
  | .float number, _ => by simp [ofValue, toValue?, Finite64.ofBinary64?, number.finite]
  | .array items, sorted => by simp [ofValue, toValue?, toValues?_ofItems items sorted]
  | .object entries, sorted => by
      simp [ofValue, toValue?, toEntries?_ofEntries entries firstKey? (fun _ => rfl) sorted.2,
        Value.ofEntries_sorted sorted.1]

theorem toValues?_ofItems : ∀ items : List Value, Value.SortedItems items →
    toValues? (ofItems items) = some items
  | [], _ => rfl
  | item :: items, sorted => by
      simp [ofItems, toValues?, toValue?_ofValue item sorted.1, toValues?_ofItems items sorted.2]

theorem toEntries?_ofEntries : ∀ (entries : List (String × Value)) (key? : Item → Option String),
    (∀ name, key? (.text name) = some name) → Value.SortedEntries entries →
    toEntries? key? (ofEntries entries) = some entries
  | [], _, _, _ => rfl
  | (key, value) :: entries, key?, readsText, sorted => by
      simp [ofEntries, toEntries?, readsText, toValue?_ofValue value sorted.1,
        toEntries?_ofEntries entries laterKey? (fun _ => rfl) sorted.2]

end

/-- A sorted value is read where its item was written. -/
theorem toValue?_received (value : Value) (sorted : value.Sorted) :
    toValue? (ofValue value).received = some value :=
  (toValue?_of_received _).trans (toValue?_ofValue value sorted)

mutual

theorem isWhole_received : ∀ item : Item, item.received.isWhole = item.isWhole
  | .nil | .bool _ | .position _ | .float _ | .text _ | .bytes .. | .extension .. | .cut => rfl
  | .whole number => by
      simp only [received]
      split_ifs <;> rfl
  | .array items => areWhole_received items
  | .map _ entries => entriesWhole_received entries

theorem areWhole_received : ∀ items : List Item, areWhole (allReceived items) = areWhole items
  | [] => rfl
  | item :: items => by
      simp only [allReceived, areWhole, isWhole_received item, areWhole_received items]

theorem entriesWhole_received : ∀ entries : List (Item × Item),
    entriesWhole (entriesReceived entries) = entriesWhole entries
  | [] => rfl
  | (key, item) :: entries => by
      simp only [entriesReceived, entriesWhole, isWhole_received key, isWhole_received item,
        entriesWhole_received entries]

end

mutual

theorem isWhole_ofValue : ∀ value : Value, (ofValue value).isWhole = true
  | .null | .bool _ | .whole _ | .float _ | .text _ => rfl
  | .array items => areWhole_ofItems items
  | .object entries => entriesWhole_ofEntries entries

theorem areWhole_ofItems : ∀ items : List Value, areWhole (ofItems items) = true
  | [] => rfl
  | item :: items => by
      simp [ofItems, areWhole, isWhole_ofValue item, areWhole_ofItems items]

theorem entriesWhole_ofEntries : ∀ entries : List (String × Value),
    entriesWhole (ofEntries entries) = true
  | [] => rfl
  | (_, value) :: entries => by
      simp [ofEntries, entriesWhole, isWhole_ofValue value, entriesWhole_ofEntries entries, isWhole]

end

/-! ## From an item to a value -/

theorem firstKey?_fits {item : Item} {depth : Nat} {name : String} (fits : item.Fits depth)
    (named : firstKey? item = some name) :
    (Utf8.encode name).length < Packing.lengthLimit := by
  cases item with
  | text content =>
      cases named
      simpa [Fits] using fits
  | _ => cases named

theorem laterKey?_fits {item : Item} {depth : Nat} {name : String} (fits : item.Fits depth)
    (named : laterKey? item = some name) :
    (Utf8.encode name).length < Packing.lengthLimit := by
  cases item with
  | text content =>
      cases named
      simpa [Fits] using fits
  | bytes form content =>
      cases form with
      | illFormedText => cases named
      | binary =>
          rw [Utf8.encode_of_decode? named]
          simpa [Fits] using fits
  | _ => cases named

mutual

/-- Every value that an item stands for is sorted, and fits where the item does. -/
theorem toValue?_fits : ∀ (item : Item) (depth : Nat) (value : Value), item.Fits depth →
    item.toValue? = some value → value.Sorted ∧ value.Fits depth
  | .nil, _, _, _, read | .bool _, _, _, _, read | .whole _, _, _, _, read
  | .position _, _, _, _, read => by
      cases read
      exact ⟨trivial, trivial⟩
  | .float number, _, _, _, read => by
      simp only [toValue?] at read
      split at read <;>
        · cases read
          exact ⟨trivial, trivial⟩
  | .text content, _, _, fits, read => by
      cases read
      exact ⟨trivial, by simpa [Fits, Value.Fits] using fits⟩
  | .array items, depth + 1, _, fits, read => by
      rw [toValue?, Option.map_eq_some_iff] at read
      rcases read with ⟨values, valuesRead, rfl⟩
      rcases toValues?_fit items depth values fits.2 valuesRead with ⟨same, sorted, fit⟩
      exact ⟨sorted, by rw [same]; exact fits.1, fit⟩
  | .map announced entries, depth + 1, _, fits, read => by
      rw [toValue?, Option.map_eq_some_iff] at read
      rcases read with ⟨named, entriesRead, rfl⟩
      rcases toEntries?_fit entries depth firstKey? named fits.2.2 (fun _ _ => firstKey?_fits)
        entriesRead with ⟨same, sorted, fit⟩
      rw [Value.sortedEntries_iff] at sorted
      refine ⟨Value.sorted_ofEntries sorted, Value.fits_ofEntries ?_ fit⟩
      rw [same]
      exact fits.2.1.trans_lt fits.1

theorem toValues?_fit : ∀ (items : List Item) (depth : Nat) (values : List Value),
    AllFit depth items → toValues? items = some values →
    values.length = items.length ∧ Value.SortedItems values ∧ Value.AllFit depth values
  | [], _, _, _, read => by
      cases read
      exact ⟨rfl, trivial, trivial⟩
  | item :: items, depth, _, fits, read => by
      simp only [toValues?, Option.bind_eq_bind, Option.bind_eq_some_iff, Option.pure_def,
        Option.some.injEq] at read
      rcases read with ⟨value, valueRead, values, valuesRead, rfl⟩
      rcases toValue?_fits item depth value fits.1 valueRead with ⟨sorted, fit⟩
      rcases toValues?_fit items depth values fits.2 valuesRead with ⟨same, restSorted, restFit⟩
      exact ⟨by simp [same], ⟨sorted, restSorted⟩, fit, restFit⟩

theorem toEntries?_fit : ∀ (entries : List (Item × Item)) (depth : Nat)
    (key? : Item → Option String) (named : List (String × Value)), EntriesFit depth entries →
    (∀ item name, item.Fits depth → key? item = some name →
      (Utf8.encode name).length < Packing.lengthLimit) →
    toEntries? key? entries = some named →
    named.length = entries.length ∧ Value.SortedEntries named ∧ Value.EntriesFit depth named
  | [], _, _, _, _, _, read => by
      cases read
      exact ⟨rfl, trivial, trivial⟩
  | (key, item) :: entries, depth, key?, _, fits, keyFits, read => by
      simp only [toEntries?, Option.bind_eq_bind, Option.bind_eq_some_iff, Option.pure_def,
        Option.some.injEq] at read
      rcases read with ⟨name, keyRead, value, valueRead, named, entriesRead, rfl⟩
      rcases toValue?_fits item depth value fits.2.1 valueRead with ⟨sorted, fit⟩
      rcases toEntries?_fit entries depth laterKey? named fits.2.2 (fun _ _ => laterKey?_fits)
        entriesRead with ⟨same, restSorted, restFit⟩
      exact ⟨by simp [same], ⟨sorted, restSorted⟩, keyFits key name fits.1 keyRead, fit, restFit⟩

end

end Item

end MessageSync
