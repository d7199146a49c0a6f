import MessageSync.Proofs.Except
import MessageSync.Proofs.Keyed
import MessageSync.Proofs.Wire.Values
import MessageSync.Wire.Layout

/-!
# Records read back

A record is read from items that bear the names of its fields, in any order, if each field is: from
the item of its name, or from nothing if it may be absent. So a record whose fields have different
names is read where it was written, if each of its fields is: the value of a field that is left out
is the one that stands for an absent field, and any other value is read where its item was written.
Where no field makes a difference between an item and what is received for it, neither does the
record.

In turn, each field of a record that is read is either absent or read from a part of the item, and
no field is missing that must be there.
-/

namespace MessageSync

/-- The value of the field in the record is the one for an absent field if it is left out, and one
that its codec suits otherwise. -/
def Field.Suits {ρ β : Type} (suits : ∀ {β : Type}, Codec β → β → Prop) (field : Field ρ β)
    (record : ρ) : Prop :=
  if field.omitted (field.get record) then field.absent = some (field.get record)
  else suits field.codec (field.get record)

theorem Field.optional_suits {ρ β : Type} {suits : ∀ {β : Type}, Codec β → β → Prop} {name : String}
    {codec : Codec β} {get : ρ → Option β} {record : ρ}
    (present : ∀ value ∈ get record, suits codec.option (some value)) :
    (Field.optional name codec get).Suits suits record := by
  unfold Suits optional
  cases held : get record with
  | none => simp [held]
  | some value =>
      simp only [held, Option.isNone_some, Bool.false_eq_true, if_false]
      exact present value held

/-- The value is read from what its item becomes. -/
def Codec.ReadsBack {α : Type} (become : Item → Item) (codec : Codec α) (x : α) : Prop :=
  codec.read (become (codec.write x)) = .ok x

/-- The items of an array or the values of the entries of a map. -/
def Item.parts : Item → List Item
  | .array items => items
  | .map _ entries => entries.map Prod.snd
  | _ => []

/-- The parts of a value that a record reads as the field of a name and position: the entries of that
name of an object, or the item at that position of an array. -/
def Value.partsFor (name : String) (position : Nat) : Value → List Value
  | .object entries => (entries.filter fun entry => entry.1 == name).map Prod.snd
  | .array items => items[position]?.toList
  | _ => []

/-- The value is read where it was written as it is read itself. -/
def Codec.ReadsAlike {α : Type} (codec : Codec α) (value : Value) : Prop :=
  codec.read (Item.ofValue value).received = codec.read (.ofValue value)

/-- The codec takes a number with an unsigned marker for the same as one without. -/
def Codec.Unmarked {α : Type} (codec : Codec α) : Prop :=
  ∀ item : Item, codec.read item.received = codec.read item

theorem Item.allReceived_eq_map (items : List Item) : allReceived items = items.map received := by
  induction items with
  | nil => rfl
  | cons item items ih => rw [allReceived, ih, List.map_cons]

theorem Value.mem_partsFor_object {entries : List (String × Value)} {name : String} {value : Value}
    {position : Nat} (mem : (name, value) ∈ entries) :
    value ∈ (object entries).partsFor name position :=
  List.mem_map_of_mem (List.mem_filter.mpr ⟨mem, beq_self_eq_true name⟩)

namespace Item

theorem parts_ofFields (fields : List (String × Item)) :
    (ofFields fields).parts = fields.map Prod.snd := by
  rw [ofFields, parts, List.map_map]
  rfl

theorem ofFields_complete {fields : List (String × Item)}
    (complete : ∀ field ∈ fields, field.2.Complete) : (ofFields fields).Complete := by
  refine ⟨(List.length_map _).symm, ?_⟩
  induction fields with
  | nil => trivial
  | cons field fields ih =>
      exact ⟨trivial, complete field (by simp),
        ih fun field mem => complete field (List.mem_cons_of_mem _ mem)⟩

theorem ofFields_fits {fields : List (String × Item)} {depth : Nat}
    (few : fields.length < Packing.lengthLimit)
    (fits : ∀ field ∈ fields, (Utf8.encode field.1).length < Packing.lengthLimit ∧
      field.2.Fits depth) : (ofFields fields).Fits (depth + 1) := by
  refine ⟨few, (List.length_map _).le, ?_⟩
  induction fields with
  | nil => trivial
  | cons field fields ih =>
      rcases fits field (by simp) with ⟨nameFits, itemFits⟩
      have rest : fields.length < Packing.lengthLimit :=
        (Nat.lt_succ_self _).trans (by simpa using few)
      exact ⟨by simpa [Item.Fits] using nameFits, itemFits,
        ih rest fun field mem => fits field (List.mem_cons_of_mem _ mem)⟩

end Item

namespace Layout

variable {ρ α β : Type}

/-! ## Reading from named items -/

/-- What the values of the fields of a record make. -/
def rebuild {α : Type} : Layout ρ α → ρ → α
  | .make result, _ => result
  | .field before last, record => before.rebuild record (last.get record)

/-- The named items as the entries of a map. -/
def entriesOf (fields : List (String × Item)) : List (Item × Item) :=
  fields.map fun (name, item) => (.text name, item)

/-- Every field is read as it is in the record: from the item of its name, or where there is none as
the value that stands for an absent one. -/
def Found {α : Type} : Layout ρ α → List (String × Item) → ρ → Prop
  | .make _, _, _ => True
  | .field before last, fields, record =>
    before.Found fields record ∧
      match fields.lookup last.name with
      | some item => last.codec.read item = .ok (last.get record)
      | none => last.absent = some (last.get record)

/-- What is found depends on the items of the field names only. -/
theorem Found.congr {layout : Layout ρ α} {fields others : List (String × Item)} {record : ρ}
    (found : layout.Found fields record)
    (same : ∀ name ∈ layout.names, others.lookup name = fields.lookup name) :
    layout.Found others record := by
  induction layout with
  | make result => trivial
  | field before last ih =>
      simp only [names, List.mem_append, List.mem_singleton] at same
      refine ⟨ih found.1 fun name mem => same name (Or.inl mem), ?_⟩
      rw [same last.name (Or.inr rfl)]
      exact found.2

theorem fillAll_text (layout : Layout ρ α) {name : String} {item : Item}
    {entries : List (Item × Item)} {slots result : layout.Slots} :
    layout.fillAll ((.text name, item) :: entries) slots = .ok result ↔
      ∃ placed, layout.fill (.named name) item slots = .ok placed ∧
        (match placed with
        | some slots => layout.fillAll entries slots
        | none => if item.isWhole then layout.fillAll entries slots else throw ReadError.mismatch) =
          .ok result := by
  change (layout.fill (.named name) item slots >>= _) = _ ↔ _
  exact except_bind_eq_ok

/-- The entry of the last field fills its slot, and the others the slots before it. -/
theorem fillAll_field (before : Layout ρ (β → α)) (last : Field ρ β)
    {fields : List (String × Item)} (keys : (fields.map Prod.fst).Nodup)
    {slots filled : before.Slots} {held content : Option β}
    (fills : before.fillAll (entriesOf (fields.filter fun field => field.1 != last.name)) slots =
      .ok filled)
    (here : match fields.lookup last.name with
      | some item => held = none ∧ ∃ value, last.codec.read item = .ok value ∧ content = some value
      | none => content = held) :
    (Layout.field before last).fillAll (entriesOf fields) (slots, held) = .ok (filled, content) := by
  induction fields generalizing slots held with
  | nil =>
      cases fills
      cases here
      rfl
  | cons field fields ih =>
      rcases field with ⟨name, item⟩
      rw [List.map_cons, List.nodup_cons] at keys
      rw [Keyed.lookup_cons_eq] at here
      -- The entry of the last field fills its slot; any other is for the fields before, if for any.
      by_cases same : last.name = name
      · subst same
        rw [if_pos rfl] at here
        rcases here with ⟨rfl, value, read, rfl⟩
        have dropped : ((last.name, item) :: fields).filter (fun field => field.1 != last.name) =
            fields.filter fun field => field.1 != last.name := by simp
        have noOther := Keyed.lookup_eq_none_of_not_mem keys.1
        have named : (FieldKey.named last.name).names last.name before.size = true := by
          simp [FieldKey.names]
        rw [dropped] at fills
        refine (fillAll_text (before.field last)).mpr ⟨some (slots, some value), ?_, ?_⟩
        · simp [Layout.fill, named, read, bind, Except.bind, pure, Except.pure]
        · refine ih keys.2 fills ?_
          rw [noOther]
      · rw [if_neg same] at here
        have kept : ((name, item) :: fields).filter (fun field => field.1 != last.name) =
            (name, item) :: fields.filter fun field => field.1 != last.name := by
          simp [Ne.symm same]
        have notLast : (FieldKey.named name).names last.name before.size = false := by
          simpa [FieldKey.names] using Ne.symm same
        rw [kept] at fills
        rcases (fillAll_text before).mp fills with ⟨placed, fill, rest⟩
        refine (fillAll_text (before.field last)).mpr
          ⟨placed.map fun earlier => (earlier, held), ?_, ?_⟩
        · simp [Layout.fill, notLast, fill, bind, Except.bind, pure, Except.pure]
        · cases placed with
          | some slots => exact ih keys.2 rest here
          | none =>
              simp only at rest ⊢
              split at rest
              · next isWhole =>
                  rw [if_pos isWhole]
                  exact ih keys.2 rest here
              · cases rest

/-- Entries that name no field leave the slots as they are. -/
theorem fillAll_make (result : α) {fields : List (String × Item)}
    (whole : ∀ field ∈ fields, field.2.isWhole = true) :
    (Layout.make result : Layout ρ α).fillAll (entriesOf fields) () = .ok () := by
  induction fields with
  | nil => rfl
  | cons field fields ih =>
      have first := whole field (by simp)
      refine (fillAll_text _).mpr ⟨none, rfl, ?_⟩
      simp only [first, if_true]
      exact ih fun other mem => whole other (List.mem_cons_of_mem _ mem)

theorem exists_filled (layout : Layout ρ α) {record : ρ} (distinct : layout.names.Nodup)
    {fields : List (String × Item)} (keys : (fields.map Prod.fst).Nodup)
    (whole : ∀ field ∈ fields, field.1 ∉ layout.names → field.2.isWhole = true)
    (found : layout.Found fields record) :
    ∃ slots, layout.fillAll (entriesOf fields) layout.emptySlots = .ok slots ∧
      layout.finish slots = .ok (layout.rebuild record) := by
  induction layout generalizing fields with
  | make result =>
      exact ⟨(), fillAll_make result fun field mem => whole field mem (by simp [names]), rfl⟩
  | field before last ih =>
      rw [names, List.nodup_append] at distinct
      simp only [names, List.mem_append, List.mem_singleton, not_or] at whole
      have others : ∀ name ∈ before.names,
          (fields.filter fun field => field.1 != last.name).lookup name = fields.lookup name := by
        intro name mem
        have different : name ≠ last.name := distinct.2.2 name mem last.name (by simp)
        have erased := Keyed.get?_erase ⟨fields⟩ last.name name
        rwa [if_neg different] at erased
      have filteredWhole : ∀ field ∈ fields.filter (fun field => field.1 != last.name),
          field.1 ∉ before.names → field.2.isWhole = true := by
        intro field mem unknown
        rw [List.mem_filter, bne_iff_ne] at mem
        exact whole field mem.1 ⟨unknown, mem.2⟩
      have filteredKeys : ((fields.filter fun field => field.1 != last.name).map Prod.fst).Nodup :=
        keys.sublist (List.filter_sublist.map _)
      rcases ih distinct.1 filteredKeys filteredWhole (found.1.congr others) with
        ⟨slots, filled, finished⟩
      have here := found.2
      cases held : fields.lookup last.name with
      | some item =>
          rw [held] at here
          refine ⟨(slots, some (last.get record)), fillAll_field before last keys filled ?_, ?_⟩
          · rw [held]
            exact ⟨rfl, last.get record, here, rfl⟩
          · simp [finish, finished, rebuild, bind, Except.bind, pure, Except.pure]
      | none =>
          rw [held] at here
          refine ⟨(slots, none), fillAll_field before last keys filled ?_, ?_⟩
          · rw [held]
          · simp only at here
            simp [finish, finished, rebuild, here, bind, Except.bind, pure, Except.pure]

/-- A record is read from named items in any order, among which there may be others. -/
theorem read_ofFields (layout : Layout ρ α) {record : ρ} (distinct : layout.names.Nodup)
    {fields : List (String × Item)} (keys : (fields.map Prod.fst).Nodup)
    (whole : ∀ field ∈ fields, field.1 ∉ layout.names → field.2.isWhole = true)
    (found : layout.Found fields record) :
    layout.read (.ofFields fields) = .ok (layout.rebuild record) := by
  rcases layout.exists_filled distinct keys whole found with ⟨slots, filled, finished⟩
  change (layout.fillAll (entriesOf fields) layout.emptySlots >>= layout.finish) = _
  rw [filled]
  exact finished

/-! ## Reading what was written -/

/-- The item that is written for the field of a name. -/
def item? {α : Type} : Layout ρ α → ρ → String → Option Item
  | .make _, _, _ => none
  | .field before last, record, name =>
    if name = last.name then
      if last.omitted (last.get record) then none else some (last.codec.write (last.get record))
    else before.item? record name

section

variable {β : Type} {codec : Codec β} {record : ρ} {key name : String}

@[simp] theorem item?_make (result : α) : (make result : Layout ρ α).item? record key = none :=
  rfl

@[simp] theorem item?_required (before : Layout ρ (β → α)) (get : ρ → β) :
    (before.required name codec get).item? record key =
      if key = name then some (codec.write (get record)) else before.item? record key := by
  simp [required, Field.required, item?]

@[simp] theorem item?_defaulted (before : Layout ρ (β → α)) (get : ρ → β) (absent : β) :
    (before.defaulted name codec get absent).item? record key =
      if key = name then some (codec.write (get record)) else before.item? record key := by
  simp [defaulted, Field.defaulted, item?]

@[simp] theorem item?_optional (before : Layout ρ (Option β → α)) (get : ρ → Option β) :
    (before.optional name codec get).item? record key =
      if key = name then (get record).map codec.write else before.item? record key := by
  simp only [optional, Field.optional, item?]
  cases get record <;> rfl

end

theorem keys_fields_sublist (layout : Layout ρ α) (record : ρ) :
    ((layout.fields record).map Prod.fst).Sublist layout.names := by
  induction layout with
  | make result => exact List.Sublist.refl _
  | field before last ih =>
      rw [fields, names, List.map_append]
      refine ih.append ?_
      split
      · exact List.nil_sublist _
      · exact List.Sublist.refl _

theorem names_of_mem_fields (layout : Layout ρ α) {record : ρ} {field : String × Item}
    (mem : field ∈ layout.fields record) : field.1 ∈ layout.names :=
  (layout.keys_fields_sublist record).subset (List.mem_map_of_mem mem)

theorem item?_of_not_mem {layout : Layout ρ α} {record : ρ} {name : String}
    (unknown : name ∉ layout.names) : layout.item? record name = none := by
  induction layout with
  | make result => rfl
  | field before last ih =>
      rw [names, List.mem_append, List.mem_singleton, not_or] at unknown
      rw [item?, if_neg unknown.2, ih unknown.1]

theorem length_names (layout : Layout ρ α) : layout.names.length = layout.size := by
  induction layout with
  | make result => rfl
  | field before last ih => simp [names, size, ih]

theorem length_fields_le (layout : Layout ρ α) (record : ρ) :
    (layout.fields record).length ≤ layout.size := by
  rw [← layout.length_names, ← List.length_map Prod.fst]
  exact (layout.keys_fields_sublist record).length_le

theorem lookup_fields (layout : Layout ρ α) (distinct : layout.names.Nodup) (record : ρ)
    (name : String) : (layout.fields record).lookup name = layout.item? record name := by
  induction layout with
  | make result => rfl
  | field before last ih =>
      rw [names, List.nodup_append] at distinct
      rw [fields, List.lookup_append, ih distinct.1, item?]
      by_cases here : name = last.name
      · have absent : before.item? record name = none := by
          rw [← ih distinct.1]
          apply Keyed.lookup_eq_none_of_not_mem
          intro mem
          exact distinct.2.2 _ ((before.keys_fields_sublist record).subset mem) last.name (by simp) here
        rw [absent, Option.none_or, if_pos here]
        split
        · rfl
        · rw [Keyed.lookup_cons_eq, if_pos here]
      · rw [if_neg here]
        split
        · rw [List.lookup_nil, Option.or_none]
        · rw [Keyed.lookup_cons_eq, if_neg here, List.lookup_nil, Option.or_none]

/-- The codec of every field suits the value of the field in the record. -/
def Suits {α : Type} (suits : ∀ {β : Type}, Codec β → β → Prop) : Layout ρ α → ρ → Prop
  | .make _, _ => True
  | .field before last, record => before.Suits suits record ∧ last.Suits suits record

theorem Suits.imp {suits suitsToo : ∀ {β : Type}, Codec β → β → Prop} {layout : Layout ρ α}
    {record : ρ} (all : layout.Suits suits record)
    (implies : ∀ {β : Type} (codec : Codec β) (x : β), suits codec x → suitsToo codec x) :
    layout.Suits suitsToo record := by
  induction layout with
  | make result => trivial
  | field before last ih =>
      have here := all.2
      refine ⟨ih all.1, ?_⟩
      unfold Field.Suits at here ⊢
      split_ifs at here ⊢ with omitted
      · exact here
      · exact implies last.codec (last.get record) here

/-- An item that is written is what a codec wrote for a value that it suits. -/
theorem Suits.of_mem_fields {suits : ∀ {β : Type}, Codec β → β → Prop} {layout : Layout ρ α}
    {record : ρ} (all : layout.Suits suits record) {field : String × Item}
    (mem : field ∈ layout.fields record) :
    ∃ (β : Type) (codec : Codec β) (x : β), suits codec x ∧ field.2 = codec.write x := by
  induction layout with
  | make result => cases mem
  | field before last ih =>
      have here := all.2
      simp only [fields, List.mem_append] at mem
      rcases mem with earlier | mem
      · exact ih all.1 earlier
      · unfold Field.Suits at here
        split_ifs at here mem with omitted
        · cases mem
        · rw [List.mem_singleton] at mem
          subst mem
          exact ⟨_, last.codec, last.get record, here, rfl⟩

/-- Items that are what the written ones become are found. -/
theorem found_of_readsBack {layout : Layout ρ α} {record : ρ} {become : Item → Item}
    (reads : layout.Suits (Codec.ReadsBack become) record) (distinct : layout.names.Nodup)
    {fields : List (String × Item)}
    (same : ∀ name ∈ layout.names, fields.lookup name = (layout.item? record name).map become) :
    layout.Found fields record := by
  induction layout with
  | make result => trivial
  | field before last ih =>
      rw [names, List.nodup_append] at distinct
      simp only [names, List.mem_append, List.mem_singleton, item?] at same
      refine ⟨ih reads.1 distinct.1 ?_, ?_⟩
      · intro name mem
        have different : name ≠ last.name := distinct.2.2 name mem last.name (by simp)
        rw [same name (Or.inl mem), if_neg different]
      · have here := reads.2
        rw [same last.name (Or.inr rfl), if_pos rfl]
        unfold Field.Suits at here
        split_ifs at here ⊢ with omitted
        · exact here
        · exact here

theorem received_ofFields (fields : List (String × Item)) :
    (Item.ofFields fields).received =
      .ofFields (fields.map fun (name, item) => (name, item.received)) := by
  have entries : Item.entriesReceived (fields.map fun (name, item) => (.text name, item)) =
      (fields.map fun (name, item) => (name, item.received)).map
        fun (name, item) => (.text name, item) := by
    induction fields with
    | nil => rfl
    | cons field fields ih =>
        rcases field with ⟨name, item⟩
        simp only [List.map_cons, Item.entriesReceived, Item.received]
        rw [ih]
  rw [Item.ofFields, Item.received, entries, Item.ofFields, List.length_map]

/-- A record is read where it was written. -/
theorem read_write (layout : Layout ρ α) {record : ρ} (distinct : layout.names.Nodup)
    (reads : layout.Suits (Codec.ReadsBack Item.received) record) :
    layout.read (layout.write record).received = .ok (layout.rebuild record) := by
  have sameKeys : ((layout.fields record).map fun (name, item) => (name, item.received)).map
      Prod.fst = (layout.fields record).map Prod.fst := by
    rw [List.map_map]
    rfl
  rw [write, received_ofFields]
  apply layout.read_ofFields distinct
  · rw [sameKeys]
    exact distinct.sublist (layout.keys_fields_sublist record)
  · intro field mem unknown
    have known : field.1 ∈ (layout.fields record).map Prod.fst :=
      sameKeys ▸ List.mem_map_of_mem mem
    exact absurd ((layout.keys_fields_sublist record).subset known) unknown
  · apply found_of_readsBack reads distinct
    intro name _
    rw [Keyed.lookup_map, lookup_fields layout distinct]

/-! ## Where a value was written -/

/-- Every field reads its parts of the value where they were written as it reads the parts
themselves. -/
def ReadsAlike {α : Type} : Layout ρ α → Value → Prop
  | .make _, _ => True
  | .field before last, value =>
    before.ReadsAlike value ∧
      ∀ part ∈ value.partsFor last.name before.size, last.codec.ReadsAlike part

/-- Every field reads every value alike. -/
def Unmarked {α : Type} : Layout ρ α → Prop
  | .make _ => True
  | .field before last => before.Unmarked ∧ last.codec.Unmarked

theorem Unmarked.readsAlike {layout : Layout ρ α} (unmarked : layout.Unmarked) (value : Value) :
    layout.ReadsAlike value := by
  induction layout with
  | make result => trivial
  | field before last ih => exact ⟨ih unmarked.1, fun part _ => unmarked.2 (.ofValue part)⟩

theorem fill_received {layout : Layout ρ α} {entries : List (String × Value)}
    (alike : layout.ReadsAlike (.object entries)) {name : String} {value : Value}
    (mem : (name, value) ∈ entries) (slots : layout.Slots) :
    layout.fill (.named name) (Item.ofValue value).received slots =
      layout.fill (.named name) (.ofValue value) slots := by
  induction layout with
  | make result => rfl
  | field before last ih =>
      rw [fill, fill, ih alike.1]
      by_cases here : (FieldKey.named name).names last.name before.size = true
      · have same : name = last.name := by simpa [FieldKey.names] using here
        have part : value ∈ (Value.object entries).partsFor last.name before.size :=
          Value.mem_partsFor_object (same ▸ mem)
        rw [alike.2 value part]
      · rw [if_neg here, if_neg here]

theorem fillAll_received {layout : Layout ρ α} {entries chosen : List (String × Value)}
    (alike : layout.ReadsAlike (.object entries)) (among : ∀ entry ∈ chosen, entry ∈ entries)
    (slots : layout.Slots) :
    layout.fillAll
        (entriesOf ((Item.fieldsOf chosen).map fun (name, item) => (name, item.received))) slots =
      layout.fillAll (entriesOf (Item.fieldsOf chosen)) slots := by
  induction chosen generalizing slots with
  | nil => rfl
  | cons entry others ih =>
      rcases entry with ⟨name, value⟩
      have filled := fill_received alike (among (name, value) (by simp))
      have rest := ih fun entry mem => among entry (by simp [mem])
      simp only [entriesOf, Item.fieldsOf, List.map_cons, fillAll, FieldKey.ofItem, bind,
        Except.bind, filled, Item.isWhole_received] at rest ⊢
      simp only [rest]

/-- What is left over are the items after those of the fields. -/
theorem eq_drop_of_readItems {layout : Layout ρ α} {items rest : List Item} {made : α}
    (read : layout.readItems items = .ok (made, rest)) : rest = items.drop layout.size := by
  induction layout generalizing rest with
  | make result =>
      cases read
      rfl
  | field before last ih =>
      simp only [readItems, except_bind_eq_ok] at read
      rcases read with ⟨⟨earlier, remaining⟩, earlierRead, read⟩
      have left := ih earlierRead
      rw [size, ← List.drop_drop, ← left]
      cases remaining with
      | cons item items =>
          simp only [except_bind_eq_ok] at read
          rcases read with ⟨value, -, done⟩
          cases done
          rfl
      | nil =>
          simp only at read
          split at read
          · cases read
            rfl
          · cases read

/-- Every field reads its item alike, and the items that are left over are those received. -/
theorem readItems_received {layout : Layout ρ α} {items : List Value}
    (alike : layout.ReadsAlike (.array items)) :
    layout.readItems ((items.map Item.ofValue).map Item.received) =
      (layout.readItems (items.map Item.ofValue)).map
        fun (made, rest) => (made, rest.map Item.received) := by
  induction layout with
  | make result => rfl
  | field before last ih =>
      rw [readItems, readItems, ih alike.1]
      cases read : before.readItems (items.map Item.ofValue) with
      | error reason => rfl
      | ok earlier =>
          rcases earlier with ⟨make, rest⟩
          have restEq := eq_drop_of_readItems read
          rw [← List.map_drop] at restEq
          cases behind : items.drop before.size with
          | nil =>
              rw [behind, List.map_nil] at restEq
              subst restEq
              simp only [Except.map, List.map_nil, bind, Except.bind]
              cases last.absent <;> rfl
          | cons value others =>
              have here : items[before.size]? = some value := by
                rw [← List.head?_drop, behind, List.head?_cons]
              have part : value ∈ (Value.array items).partsFor last.name before.size := by
                simp [Value.partsFor, here]
              rw [behind, List.map_cons] at restEq
              subst restEq
              simp only [Except.map, List.map_cons, bind, Except.bind]
              rw [alike.2 value part]
              cases last.codec.read (.ofValue value) <;> rfl

/-- A record is read where a value was written as it is read from the value. -/
theorem read_received {layout : Layout ρ α} {value : Value} (alike : layout.ReadsAlike value) :
    layout.read (Item.ofValue value).received = layout.read (.ofValue value) := by
  cases value with
  | object entries =>
      have filled := fillAll_received alike (fun _ mem => mem) layout.emptySlots
      rw [Item.ofValue_object, received_ofFields]
      change (layout.fillAll (entriesOf _) _ >>= layout.finish) =
        (layout.fillAll (entriesOf (Item.fieldsOf entries)) _ >>= layout.finish)
      rw [filled]
  | array items =>
      have itemsRead := readItems_received alike
      simp only [Item.ofValue_array, Item.received, Item.allReceived_eq_map, read, itemsRead]
      cases layout.readItems (items.map Item.ofValue) with
      | error reason => rfl
      | ok made =>
          rcases made with ⟨result, rest⟩
          cases rest <;> rfl
  | whole number =>
      simp only [Item.ofValue, Item.received]
      split_ifs <;> rfl
  | _ => rfl

/-! ## Fields that must be there -/

/-- The names of the fields that must be present. -/
def mandatory {α : Type} : Layout ρ α → List String
  | .make _ => []
  | .field before last => before.mandatory ++ if last.absent.isNone then [last.name] else []

/-- The slot of the field of a name is empty. -/
def Unfilled {α : Type} (name : String) : (layout : Layout ρ α) → layout.Slots → Prop
  | .make _, _ => True
  | .field before last, slots => before.Unfilled name slots.1 ∧ (last.name = name → slots.2 = none)

theorem unfilled_empty (layout : Layout ρ α) (name : String) :
    layout.Unfilled name layout.emptySlots := by
  induction layout with
  | make result => trivial
  | field before last ih => exact ⟨ih, fun _ => rfl⟩

theorem Unfilled.fill {layout : Layout ρ α} {name other : String} (different : other ≠ name)
    {item : Item} {slots filled : layout.Slots} (unfilled : layout.Unfilled name slots)
    (fill : layout.fill (.named other) item slots = .ok (some filled)) :
    layout.Unfilled name filled := by
  induction layout with
  | make result => cases fill
  | field before last ih =>
      rcases slots with ⟨earlier, content⟩
      simp only [Layout.fill, FieldKey.names, beq_iff_eq] at fill
      split at fill
      · next here =>
          cases content with
          | some value => cases fill
          | none =>
              rw [except_bind_eq_ok] at fill
              rcases fill with ⟨value, -, done⟩
              cases done
              exact ⟨unfilled.1, fun same => absurd (here.trans same) different⟩
      · rw [except_bind_eq_ok] at fill
        rcases fill with ⟨placed, filledEarlier, done⟩
        cases placed with
        | none => cases done
        | some placed =>
            cases done
            exact ⟨ih unfilled.1 filledEarlier, unfilled.2⟩

theorem Unfilled.fillAll {layout : Layout ρ α} {name : String} {fields : List (String × Item)}
    (unnamed : name ∉ fields.map Prod.fst) {slots filled : layout.Slots}
    (unfilled : layout.Unfilled name slots)
    (fills : layout.fillAll (entriesOf fields) slots = .ok filled) :
    layout.Unfilled name filled := by
  induction fields generalizing slots with
  | nil =>
      cases fills
      exact unfilled
  | cons field fields ih =>
      rcases field with ⟨other, item⟩
      rw [List.map_cons, List.mem_cons, not_or] at unnamed
      rcases (fillAll_text layout).mp fills with ⟨placed, fill, rest⟩
      cases placed with
      | some placed => exact ih unnamed.2 (unfilled.fill (Ne.symm unnamed.1) fill) rest
      | none =>
          simp only at rest
          split at rest
          · exact ih unnamed.2 unfilled rest
          · cases rest

theorem Unfilled.not_finish {layout : Layout ρ α} {name : String} {slots : layout.Slots}
    (unfilled : layout.Unfilled name slots) (needed : name ∈ layout.mandatory) (result : α) :
    layout.finish slots ≠ .ok result := by
  intro finished
  induction layout with
  | make result => cases needed
  | field before last ih =>
      rcases slots with ⟨earlier, content⟩
      simp only [finish, except_bind_eq_ok] at finished
      rcases finished with ⟨made, earlierFinished, rest⟩
      rw [mandatory, List.mem_append] at needed
      rcases needed with early | here
      · exact ih unfilled.1 early made earlierFinished
      · split at here
        · next required =>
            have empty : content = none := unfilled.2 (List.mem_singleton.mp here).symm
            rw [Option.isNone_iff_eq_none] at required
            rw [empty, required] at rest
            cases rest
        · cases here

/-- A record is not read from named items among which a field is missing that must be there. -/
theorem mem_of_read {layout : Layout ρ α} {name : String} (needed : name ∈ layout.mandatory)
    {fields : List (String × Item)} {result : α}
    (read : layout.read (.ofFields fields) = .ok result) : name ∈ fields.map Prod.fst := by
  by_contra unnamed
  change (layout.fillAll (entriesOf fields) layout.emptySlots >>= layout.finish) = _ at read
  rw [except_bind_eq_ok] at read
  rcases read with ⟨slots, filled, finished⟩
  exact ((layout.unfilled_empty name).fillAll unnamed filled).not_finish needed result finished

/-! ## Where the fields that are read come from -/

variable {source : Item → Prop}

/-- Every field value that the result is made of is the one for an absent field, or is read from an
item of the given kind. -/
def Made {α : Type} (source : Item → Prop) : Layout ρ α → α → Prop
  | .make result, value => value = result
  | @Layout.field _ _ β before last, value =>
    ∃ (earlier : β → α) (fieldValue : β), before.Made source earlier ∧
      (last.absent = some fieldValue ∨
        ∃ item, source item ∧ last.codec.read item = .ok fieldValue) ∧
      value = earlier fieldValue

/-- Every slot that is filled holds what is read from an item of the given kind. -/
def SlotsFrom {α : Type} (source : Item → Prop) : (layout : Layout ρ α) → layout.Slots → Prop
  | .make _, _ => True
  | .field before last, slots =>
    before.SlotsFrom source slots.1 ∧
      ∀ value, slots.2 = some value → ∃ item, source item ∧ last.codec.read item = .ok value

theorem slotsFrom_empty (layout : Layout ρ α) : layout.SlotsFrom source layout.emptySlots := by
  induction layout with
  | make result => trivial
  | field before last ih =>
      refine ⟨ih, ?_⟩
      intro value impossible
      cases impossible

theorem slotsFrom_fill (layout : Layout ρ α) {key : FieldKey} {item : Item} (kind : source item)
    {slots filled : layout.Slots} (held : layout.SlotsFrom source slots)
    (fill : layout.fill key item slots = .ok (some filled)) : layout.SlotsFrom source filled := by
  induction layout with
  | make result => cases fill
  | field before last ih =>
      rcases slots with ⟨earlier, content⟩
      simp only [Layout.fill] at fill
      split at fill
      · cases content with
        | some value => cases fill
        | none =>
            simp only [except_bind_eq_ok] at fill
            rcases fill with ⟨value, read, done⟩
            cases done
            refine ⟨held.1, ?_⟩
            rintro _ ⟨⟩
            exact ⟨item, kind, read⟩
      · rw [except_bind_eq_ok] at fill
        rcases fill with ⟨placed, filledEarlier, done⟩
        cases placed with
        | none => cases done
        | some placed =>
            cases done
            exact ⟨ih held.1 filledEarlier, held.2⟩

theorem slotsFrom_fillAll (layout : Layout ρ α) {entries : List (Item × Item)}
    (kind : ∀ entry ∈ entries, source entry.2) {slots filled : layout.Slots}
    (held : layout.SlotsFrom source slots) (fills : layout.fillAll entries slots = .ok filled) :
    layout.SlotsFrom source filled := by
  induction entries generalizing slots with
  | nil =>
      cases fills
      exact held
  | cons entry entries ih =>
      rcases entry with ⟨key, item⟩
      have entriesKind : ∀ entry ∈ entries, source entry.2 :=
        fun entry mem => kind entry (List.mem_cons_of_mem _ mem)
      simp only [fillAll, except_bind_eq_ok] at fills
      rcases fills with ⟨fieldKey, -, placed, fill, rest⟩
      cases placed with
      | some placed =>
          exact ih entriesKind (slotsFrom_fill layout (kind (key, item) (by simp)) held fill) rest
      | none =>
          simp only at rest
          split at rest
          · exact ih entriesKind held rest
          · cases rest

theorem made_of_finish (layout : Layout ρ α) {slots : layout.Slots} {value : α}
    (held : layout.SlotsFrom source slots) (finish : layout.finish slots = .ok value) :
    layout.Made source value := by
  induction layout with
  | make result =>
      cases finish
      rfl
  | field before last ih =>
      rcases slots with ⟨earlierSlots, content⟩
      simp only [Layout.finish, except_bind_eq_ok] at finish
      rcases finish with ⟨earlier, earlierMade, rest⟩
      split at rest
      · next fieldValue chosen =>
          cases rest
          refine ⟨earlier, fieldValue, ih held.1 earlierMade, ?_, rfl⟩
          cases content with
          | some _ =>
              cases chosen
              exact Or.inr (held.2 fieldValue rfl)
          | none => exact Or.inl chosen
      · cases rest

theorem made_of_readItems (layout : Layout ρ α) {items rest : List Item} {value : α}
    (kind : ∀ item ∈ items, source item) (read : layout.readItems items = .ok (value, rest)) :
    layout.Made source value ∧ ∀ item ∈ rest, source item := by
  induction layout generalizing rest with
  | make result =>
      cases read
      exact ⟨rfl, kind⟩
  | field before last ih =>
      simp only [Layout.readItems, except_bind_eq_ok] at read
      rcases read with ⟨⟨earlier, remaining⟩, earlierRead, read⟩
      rcases ih earlierRead with ⟨made, remainingKind⟩
      cases remaining with
      | cons item items =>
          simp only [except_bind_eq_ok] at read
          rcases read with ⟨fieldValue, fieldRead, done⟩
          cases done
          refine ⟨⟨earlier, fieldValue, made, Or.inr ⟨item, remainingKind item (by simp),
            fieldRead⟩, rfl⟩, ?_⟩
          exact fun item mem => remainingKind item (List.mem_cons_of_mem _ mem)
      | nil =>
          simp only at read
          split at read
          · next fieldValue absent =>
              cases read
              exact ⟨⟨earlier, fieldValue, made, Or.inl absent, rfl⟩, by simp⟩
          · cases read

/-- A record that is read from an item is made of the parts of the item. -/
theorem made_of_read (layout : Layout ρ α) {item : Item} {value : α}
    (parts : ∀ part, part ∈ item.parts → source part) (read : layout.read item = .ok value) :
    layout.Made source value := by
  cases item with
  | map announced entries =>
      rw [Layout.read, except_bind_eq_ok] at read
      rcases read with ⟨slots, fills, finish⟩
      have kind : ∀ entry ∈ entries, source entry.2 :=
        fun entry mem => parts entry.2 (List.mem_map_of_mem mem)
      exact made_of_finish layout
        (slotsFrom_fillAll layout kind (slotsFrom_empty layout) fills) finish
  | array items =>
      rw [Layout.read, except_bind_eq_ok] at read
      rcases read with ⟨⟨made, rest⟩, itemsRead, done⟩
      cases rest with
      | nil =>
          cases done
          exact (made_of_readItems layout parts itemsRead).1
      | cons _ _ => cases done
  | _ => cases read

end Layout

end MessageSync
