import MessageSync.Proofs.Wire.Codecs
import MessageSync.Wire.Bodies

/-!
# Records as structured values

A record whose fields are written as values is itself written as one: an object with an entry for
each field that is written. The object has its entries in the order of their keys and not in that of
the fields, but a record is read from named items in any order, so it is read from its value. A codec
that does this for a value is said to carry it, and all codecs of typed bodies carry all values.
-/

namespace MessageSync

/-- The item of the value that the item stands for. -/
def Item.restated (item : Item) : Item :=
  (item.toValue?.map ofValue).getD .cut

namespace Layout

variable {ρ α : Type} {layout : Layout ρ α} {record : ρ}

/-- A record is read from an object of which every field is read. -/
theorem read_object {entries : List (String × Value)} (distinct : layout.names.Nodup)
    (keys : (entries.map Prod.fst).Nodup) (found : layout.Found (Item.fieldsOf entries) record) :
    layout.read (.ofValue (.object entries)) = .ok (layout.rebuild record) := by
  rw [Item.ofValue_object]
  apply layout.read_ofFields distinct _ _ found
  · rwa [Item.keys_fieldsOf]
  · intro field mem _
    rcases Item.exists_of_mem_fieldsOf mem with ⟨entry, -, rfl⟩
    exact Item.isWhole_ofValue entry.2

theorem Suits.carries {depth : Nat} (holds : layout.Suits (Codec.Holds depth) record) :
    layout.Suits Codec.Carries record :=
  holds.imp fun _ _ here => here.toCarries

namespace Suits

variable (carries : layout.Suits Codec.Carries record)

include carries

theorem readsBack : layout.Suits (Codec.ReadsBack Item.restated) record := by
  apply carries.imp
  intro β codec x here
  rcases here.read with ⟨value, written, read⟩
  simpa [Codec.ReadsBack, Item.restated, written] using read

theorem complete : (layout.write record).Complete := by
  apply Item.ofFields_complete
  intro field mem
  rcases carries.of_mem_fields mem with ⟨_, codec, x, here, itemEq⟩
  rw [itemEq]
  exact here.complete

theorem exists_toValue? {field : String × Item} (mem : field ∈ layout.fields record) :
    ∃ value, field.2.toValue? = some value := by
  rcases carries.of_mem_fields mem with ⟨_, codec, x, here, itemEq⟩
  rcases here.read with ⟨value, written, -⟩
  exact ⟨value, itemEq ▸ written⟩

variable (distinct : layout.names.Nodup)

include distinct

/-- The entries of the object that the record is written as. -/
theorem exists_entries :
    ∃ entries : List (String × Value),
      (layout.write record).toValue? = some (.object entries) ∧
        (entries.map Prod.fst).Nodup ∧
          ∀ name, entries.lookup name = (layout.item? record name).bind Item.toValue? := by
  have firstText : ∀ name, Item.firstKey? (.text name) = some name := fun _ => rfl
  rcases Item.exists_toEntries? firstText fun field mem => carries.exists_toValue? mem with
    ⟨entries, written, sameKeys, lookups⟩
  have keys : (entries.map Prod.fst).Nodup :=
    sameKeys ▸ distinct.sublist (layout.keys_fields_sublist record)
  rcases Value.exists_ofEntries keys with ⟨sorted, object, sortedKeys, sortedLookups⟩
  refine ⟨sorted, ?_, sortedKeys, ?_⟩
  · simp only [write, Item.ofFields, Item.toValue?, written, Option.map_some, object]
  · intro name
    rw [sortedLookups, lookups, lookup_fields layout distinct]

theorem toValue?_write : (layout.write record).toValue? = some (layout.value record) := by
  rcases carries.exists_entries distinct with ⟨entries, written, -⟩
  rw [value, written, Option.getD_some]

theorem exists_value : ∃ entries, layout.value record = .object entries := by
  rcases carries.exists_entries distinct with ⟨entries, written, -⟩
  exact ⟨entries, by rw [value, written, Option.getD_some]⟩

/-- The entries of the object are the items of the fields that are written, as values. -/
theorem get?_value (name : String) :
    (layout.value record).get? name = (layout.item? record name).bind Item.toValue? := by
  rcases carries.exists_entries distinct with ⟨entries, written, -, lookups⟩
  rw [value, written, Option.getD_some, Value.get?, lookups]

/-- A record is read from the value that it is written as. -/
theorem read_value : layout.read (.ofValue (layout.value record)) = .ok (layout.rebuild record) := by
  rcases carries.exists_entries distinct with ⟨entries, written, keys, lookups⟩
  rw [value, written, Option.getD_some]
  apply layout.read_object distinct keys
  apply found_of_readsBack carries.readsBack distinct
  intro name _
  rw [Item.lookup_fieldsOf, lookups, ← lookup_fields layout distinct]
  cases held : (layout.fields record).lookup name with
  | none => rfl
  | some item =>
      have mem := Keyed.mem_of_lookup held
      rcases carries.exists_toValue? mem with ⟨value, valueEq⟩
      simp only at valueEq
      simp [Item.restated, valueEq]

end Suits

/-- A codec of records carries those whose fields are carried. -/
theorem codec_carries {layout : Layout ρ ρ} (distinct : layout.names.Nodup)
    (rebuilds : layout.rebuild record = record) (carries : layout.Suits Codec.Carries record) :
    layout.codec.Carries record := by
  have received := layout.read_write distinct (carries.imp fun _ _ here => here.received)
  refine ⟨carries.complete, received.trans (congrArg Except.ok rebuilds), layout.value record,
    carries.toValue?_write distinct, ?_⟩
  exact (carries.read_value distinct).trans (congrArg Except.ok rebuilds)

/-- What a record is written as fits if its value does. -/
theorem write_fits {depth bound : Nat} (distinct : layout.names.Nodup)
    (few : layout.size < Packing.lengthLimit) (holds : layout.Suits (Codec.Holds depth) record)
    (fits : (layout.value record).Fits bound) : (layout.write record).Fits (depth + 1) := by
  rcases holds.carries.exists_entries distinct with ⟨entries, written, -, lookups⟩
  rw [value, written, Option.getD_some] at fits
  cases bound with
  | zero => exact fits.elim
  | succ bound =>
      have entriesFit := Value.entriesFit_iff.mp fits.2
      apply Item.ofFields_fits ((layout.length_fields_le record).trans_lt few)
      rintro ⟨name, item⟩ mem
      have keys := distinct.sublist (layout.keys_fields_sublist record)
      have held : layout.item? record name = some item := by
        rw [← lookup_fields layout distinct]
        exact Keyed.lookup_of_mem keys mem
      rcases holds.of_mem_fields mem with ⟨_, codec, x, here, rfl⟩
      rcases here.read with ⟨value, itemWritten, -⟩
      have entry := lookups name
      rw [held, Option.bind_some, itemWritten] at entry
      have valueFits := entriesFit (name, value) (Keyed.mem_of_lookup entry)
      exact ⟨valueFits.1, here.fits value bound itemWritten valueFits.2⟩

/-- A codec of records holds those whose fields are held one deeper. -/
theorem codec_holds {layout : Layout ρ ρ} {depth : Nat} (distinct : layout.names.Nodup)
    (few : layout.size < Packing.lengthLimit) (rebuilds : layout.rebuild record = record)
    (holds : layout.Suits (Codec.Holds depth) record) :
    layout.codec.Holds (depth + 1) record := by
  refine ⟨codec_carries distinct rebuilds holds.carries, ?_⟩
  intro value bound written fits
  have same := (holds.carries.toValue?_write distinct).symm.trans written
  cases same
  exact write_fits distinct few holds fits

end Layout

end MessageSync
