import MessageSync.Proofs.Wire.Headers

/-!
# Packed items read back

What is written for an item is read back as that item, whatever bytes follow, if the item has no
cut, nests no deeper than reading goes and has no length of more than 32 bits. The one difference is
that a whole number from zero up comes back with an unsigned marker. In turn, whatever is read nests
no deeper and has no longer lengths.
-/

namespace MessageSync

/-- Bytes that are a text are the bytes of that text. -/
theorem Utf8.encode_of_decode? {bytes : List UInt8} {text : String}
    (decoded : decode? bytes = some text) : encode text = bytes := by
  simp only [decode?, String.fromUTF8?, Option.dite_none_right_eq_some,
    Option.some.injEq] at decoded
  rcases decoded with ⟨valid, rfl⟩
  simp [encode, String.fromUTF8]

/-- The lengths that a header can announce are below this. -/
def Packing.lengthLimit : Nat := 2 ^ 32

namespace Item

mutual

/-- The item nests no more than the given number of containers, and no length in it is too large
for a header. -/
def Fits : Nat → Item → Prop
  | _, .text content => (Utf8.encode content).length < Packing.lengthLimit
  | _, .bytes _ content => content.length < Packing.lengthLimit
  | 0, .extension _ _ => False
  | _ + 1, .extension _ content => content.length < Packing.lengthLimit
  | 0, .array _ => False
  | depth + 1, .array items => items.length < Packing.lengthLimit ∧ AllFit depth items
  | 0, .map _ _ => False
  | depth + 1, .map announced entries =>
    announced < Packing.lengthLimit ∧ entries.length ≤ announced ∧ EntriesFit depth entries
  | _, _ => True

/-- Every item fits. -/
def AllFit : Nat → List Item → Prop
  | _, [] => True
  | depth, item :: items => item.Fits depth ∧ AllFit depth items

/-- Every entry fits. -/
def EntriesFit : Nat → List (Item × Item) → Prop
  | _, [] => True
  | depth, (key, item) :: entries => key.Fits depth ∧ item.Fits depth ∧ EntriesFit depth entries

end

mutual

/-- Nothing is cut off, maps announce the entries that they have, and ill-formed text is ill-formed,
so that what is written for the item stands for it. -/
def Complete : Item → Prop
  | .bytes .illFormedText content => Utf8.decode? content = none
  | .array items => AllComplete items
  | .map announced entries => announced = entries.length ∧ EntriesComplete entries
  | .cut => False
  | _ => True

/-- Every item is complete. -/
def AllComplete : List Item → Prop
  | [] => True
  | item :: items => item.Complete ∧ AllComplete items

/-- Every entry is complete. -/
def EntriesComplete : List (Item × Item) → Prop
  | [] => True
  | (key, item) :: entries => key.Complete ∧ item.Complete ∧ EntriesComplete entries

end

mutual

/-- The item that is read where this one was written. -/
def received : Item → Item
  | .whole number =>
    if 0 ≤ number.val then .position (UInt64.ofNat number.val.toNat) else .whole number
  | .array items => .array (allReceived items)
  | .map announced entries => .map announced (entriesReceived entries)
  | item => item

/-- The items that are read where these were written. -/
def allReceived : List Item → List Item
  | [] => []
  | item :: items => item.received :: allReceived items

/-- The entries that are read where these were written. -/
def entriesReceived : List (Item × Item) → List (Item × Item)
  | [] => []
  | (key, item) :: entries => (key.received, item.received) :: entriesReceived entries

end

end Item

namespace Packing

variable {depth : Nat} {bytes rest : Bytes}

/-! ## Reading on from a start -/

theorem readWithin_scalar {item : Item} (start : start? bytes = some (.scalar item, rest)) :
    readWithin depth bytes = (item, some rest) := by
  unfold readWithin
  rw [start]

theorem readWithin_extension {tag : UInt8} {content : Bytes}
    (start : start? bytes = some (.extension tag content, rest)) :
    readWithin (depth + 1) bytes = (.extension tag content, some rest) := by
  unfold readWithin
  rw [start]

theorem readWithin_array {count : Nat} (start : start? bytes = some (.array count, rest)) :
    readWithin (depth + 1) bytes =
      (.array (readItems (readWithin depth) count rest).1,
        (readItems (readWithin depth) count rest).2) := by
  unfold readWithin
  rw [start]

theorem readWithin_map {count : Nat} (start : start? bytes = some (.map count, rest)) :
    readWithin (depth + 1) bytes =
      (.map count (readEntries (readWithin depth) count rest).1,
        (readEntries (readWithin depth) count rest).2) := by
  unfold readWithin
  rw [start]

/-! ## What is written reads back -/

theorem whole_received (number : Whole) (rest : Bytes) :
    start? (whole number ++ rest) = some (.scalar (Item.whole number).received, rest) := by
  have lower := number.lower
  have upper := number.upper
  simp only [whole, Item.received]
  split_ifs with unsigned
  · exact start?_natural (by omega) rest
  · have back : Whole.ofInt64 (Int64.ofInt number.val) = number := by
      have exact := Int64.toInt_ofInt_of_le (n := number.val) (by omega) (by omega)
      cases number
      simpa only [Whole.ofInt64, Whole.mk.injEq] using exact
    rw [start?_negative (by omega) (by omega), back]

mutual

/-- What is written for an item reads back, whatever follows it. -/
theorem readWithin_write : ∀ (item : Item) (depth : Nat) (rest : Bytes), item.Complete →
    item.Fits depth → readWithin depth (write item ++ rest) = (item.received, some rest)
  | .nil, depth, rest, _, _ => readWithin_scalar rfl
  | .bool false, depth, rest, _, _ => readWithin_scalar rfl
  | .bool true, depth, rest, _, _ => readWithin_scalar rfl
  | .whole number, depth, rest, _, _ => readWithin_scalar (whole_received number rest)
  | .position number, depth, rest, _, _ => by
      have start := start?_natural number.toNat_lt rest
      rw [UInt64.ofNat_toNat] at start
      exact readWithin_scalar start
  | .float number, depth, rest, _, _ => readWithin_scalar (start?_float number rest)
  | .text content, depth, rest, _, fits => by
      rw [write, List.append_assoc]
      have start := start?_textHeader (by simpa [Item.Fits, lengthLimit] using fits) rest
      rw [ofTextBytes, Utf8.decode?_encode] at start
      exact readWithin_scalar start
  | .bytes .illFormedText content, depth, rest, complete, fits => by
      rw [write, List.append_assoc]
      have start := start?_textHeader (by simpa [Item.Fits, lengthLimit] using fits) rest
      rw [ofTextBytes, complete] at start
      exact readWithin_scalar start
  | .bytes .binary content, depth, rest, _, fits => by
      rw [write, List.append_assoc]
      exact readWithin_scalar
        (start?_binaryHeader (by simpa [Item.Fits, lengthLimit] using fits) rest)
  | .extension tag content, depth + 1, rest, _, fits => by
      rw [write, List.append_assoc, List.cons_append]
      exact readWithin_extension (start?_extensionHeader fits rest)
  -- A container takes one from the depth, and what is in it gets the rest.
  | .array items, depth + 1, rest, complete, fits => by
      rw [write, List.append_assoc]
      have start := start?_arrayHeader fits.1 (writeItems items ++ rest)
      rw [readWithin_array start, readItems_write items depth rest complete fits.2]
      rfl
  | .map announced entries, depth + 1, rest, complete, fits => by
      rw [write, List.append_assoc]
      have start := start?_mapHeader fits.1 (writeEntries entries ++ rest)
      rw [readWithin_map start, complete.1,
        readEntries_write entries depth rest complete.2 fits.2.2]
      rfl

theorem readItems_write : ∀ (items : List Item) (depth : Nat) (rest : Bytes),
    Item.AllComplete items → Item.AllFit depth items →
    readItems (readWithin depth) items.length (writeItems items ++ rest) =
      (Item.allReceived items, some rest)
  | [], _, _, _, _ => rfl
  | item :: items, depth, rest, complete, fits => by
      rw [writeItems, List.append_assoc, List.length_cons, readItems,
        readWithin_write item depth _ complete.1 fits.1]
      simp only [readItems_write items depth rest complete.2 fits.2]
      rfl

theorem readEntries_write : ∀ (entries : List (Item × Item)) (depth : Nat) (rest : Bytes),
    Item.EntriesComplete entries → Item.EntriesFit depth entries →
    readEntries (readWithin depth) entries.length (writeEntries entries ++ rest) =
      (Item.entriesReceived entries, some rest)
  | [], _, _, _, _ => rfl
  | (key, item) :: entries, depth, rest, complete, fits => by
      rw [writeEntries, List.append_assoc, List.append_assoc, List.length_cons, readEntries,
        readWithin_write key depth _ complete.1 fits.1]
      simp only [readWithin_write item depth _ complete.2.1 fits.2.1,
        readEntries_write entries depth rest complete.2.2 fits.2.2]
      rfl

end

/-- A document is read as the item that is received for the written one. -/
theorem read_write {item : Item} (complete : item.Complete) (fits : item.Fits maxDepth) :
    read (write item) = item.received := by
  have written := readWithin_write item maxDepth [] complete fits
  rw [List.append_nil] at written
  rw [read, written]

/-! ## What is read fits -/

/-- No length that the start announces is too large for a header. -/
def Start.Small : Start → Prop
  | .scalar item => ∀ depth, item.Fits depth
  | .extension _ content => content.length < lengthLimit
  | .array count => count < lengthLimit
  | .map count => count < lengthLimit

variable {start : Start} {length width : Nat}

theorem textStart_small (fits : length < lengthLimit)
    (read : textStart length bytes = some (start, rest)) : start.Small := by
  simp only [textStart, Option.bind_eq_bind, Option.bind_eq_some_iff, Prod.exists, Option.pure_def,
    Option.some.injEq, Prod.mk.injEq] at read
  rcases read with ⟨content, _, split, rfl, -⟩
  rcases split?_eq_some.mp split with ⟨rfl, -⟩
  intro depth
  simp only [ofTextBytes]
  split
  · next text decoded =>
      have content := Utf8.encode_of_decode? decoded
      simpa [Item.Fits, content] using fits
  · simpa [Item.Fits] using fits

theorem binaryStart_small (fits : length < lengthLimit)
    (read : binaryStart length bytes = some (start, rest)) : start.Small := by
  simp only [binaryStart, Option.bind_eq_bind, Option.bind_eq_some_iff, Prod.exists,
    Option.pure_def, Option.some.injEq, Prod.mk.injEq] at read
  rcases read with ⟨content, _, split, rfl, -⟩
  rcases split?_eq_some.mp split with ⟨rfl, -⟩
  intro depth
  simpa [Item.Fits] using fits

theorem extensionStart_small (fits : length < lengthLimit)
    (read : extensionStart length bytes = some (start, rest)) : start.Small := by
  simp only [extensionStart, Option.bind_eq_bind, Option.bind_eq_some_iff, Prod.exists,
    Option.pure_def, Option.some.injEq, Prod.mk.injEq] at read
  rcases read with ⟨tag, _, -, content, _, split, rfl, -⟩
  rcases split?_eq_some.mp split with ⟨rfl, -⟩
  exact fits

theorem unsignedStart_small (read : unsignedStart width bytes = some (start, rest)) :
    start.Small := by
  simp only [unsignedStart, Option.bind_eq_bind, Option.bind_eq_some_iff, Prod.exists,
    Option.pure_def, Option.some.injEq, Prod.mk.injEq] at read
  rcases read with ⟨value, _, -, rfl, -⟩
  exact fun _ => trivial

theorem signedStart_small (read : signedStart width bytes = some (start, rest)) :
    start.Small := by
  simp only [signedStart, Option.bind_eq_bind, Option.bind_eq_some_iff, Prod.exists,
    Option.pure_def, Option.some.injEq, Prod.mk.injEq] at read
  rcases read with ⟨value, _, -, rfl, -⟩
  exact fun _ => trivial

/-- What a length after a marker opens is small, if what opens for a small length is. -/
theorem small_of_length {next : Nat × Bytes → Option (Start × Bytes)}
    (small : ∀ length behind, length < lengthLimit → next (length, behind) = some (start, rest) →
      start.Small)
    (narrow : 256 ^ width ≤ lengthLimit)
    (read : (unsigned? width bytes).bind next = some (start, rest)) : start.Small := by
  rw [Option.bind_eq_some_iff] at read
  rcases read with ⟨⟨length, behind⟩, opened, read⟩
  exact small length behind ((unsigned?_lt opened).trans_le narrow) read

theorem small_of_number {opens : Nat × Bytes → Start × Bytes}
    (small : ∀ value behind, value < 256 ^ width → (opens (value, behind)).1.Small)
    (read : (unsigned? width bytes).map opens = some (start, rest)) : start.Small := by
  rw [Option.map_eq_some_iff] at read
  rcases read with ⟨⟨value, behind⟩, opened, startEq⟩
  have smallStart := small value behind (unsigned?_lt opened)
  rw [startEq] at smallStart
  exact smallStart

theorem start?_small (read : start? bytes = some (start, rest)) : start.Small := by
  cases bytes with
  | nil => cases read
  | cons marker behind =>
      have code := marker.toNat_lt
      simp only [start?] at read
      split_ifs at read
      · cases read
        exact fun _ => trivial
      · cases read
        change _ < 2 ^ 32
        omega
      · cases read
        change _ < 2 ^ 32
        omega
      · exact textStart_small (by change _ < 2 ^ 32; omega) read
      · cases read
        exact fun _ => trivial
      · split at read
        all_goals first
          | cases read; exact fun _ => trivial
          | exact extensionStart_small (by decide) read
          | exact unsignedStart_small read
          | exact signedStart_small read
          | exact small_of_length (fun _ _ fits => textStart_small fits) (by decide) read
          | exact small_of_length (fun _ _ fits => binaryStart_small fits) (by decide) read
          | exact small_of_length (fun _ _ fits => extensionStart_small fits) (by decide) read
          | refine small_of_number (fun _ _ _ => ?_) read; exact fun _ => trivial
          | exact small_of_number (fun _ _ fits => fits.trans_le (by decide)) read
          | cases read

theorem readItems_fits {read : Reader} (every : ∀ bytes, (read bytes).1.Fits depth) (count : Nat)
    (bytes : Bytes) :
    (readItems read count bytes).1.length ≤ count ∧
      Item.AllFit depth (readItems read count bytes).1 := by
  induction count generalizing bytes with
  | zero => exact ⟨Nat.le_refl 0, trivial⟩
  | succ count ih =>
      have first := every bytes
      simp only [readItems]
      split
      · next item done =>
          rw [done] at first
          exact ⟨by simp, first, trivial⟩
      · next item rest done =>
          rw [done] at first
          exact ⟨by simpa using (ih rest).1, first, (ih rest).2⟩

theorem readEntries_fits {read : Reader} (every : ∀ bytes, (read bytes).1.Fits depth) (count : Nat)
    (bytes : Bytes) :
    (readEntries read count bytes).1.length ≤ count ∧
      Item.EntriesFit depth (readEntries read count bytes).1 := by
  induction count generalizing bytes with
  | zero => exact ⟨Nat.le_refl 0, trivial⟩
  | succ count ih =>
      have keyFits := every bytes
      simp only [readEntries]
      split
      · next key keyDone =>
          rw [keyDone] at keyFits
          exact ⟨by simp, keyFits, by simp [Item.Fits], trivial⟩
      · next key rest keyDone =>
          rw [keyDone] at keyFits
          have itemFits := every rest
          split
          · next item done =>
              rw [done] at itemFits
              exact ⟨by simp, keyFits, itemFits, trivial⟩
          · next item behind done =>
              rw [done] at itemFits
              exact ⟨by simpa using (ih behind).1, keyFits, itemFits, (ih behind).2⟩

/-- Whatever is read nests no deeper than allowed and has no length too large for a header. -/
theorem readWithin_fits (depth : Nat) (bytes : Bytes) : (readWithin depth bytes).1.Fits depth := by
  induction depth generalizing bytes with
  | zero =>
      unfold readWithin
      split
      · trivial
      · next start => exact start?_small start 0
      all_goals trivial
  | succ depth ih =>
      cases opened : start? bytes with
      | none =>
          unfold readWithin
          rw [opened]
          trivial
      | some opening =>
          rcases opening with ⟨start, rest⟩
          have small := start?_small opened
          cases start with
          | scalar item =>
              rw [readWithin_scalar opened]
              exact small (depth + 1)
          | extension tag content =>
              rw [readWithin_extension opened]
              exact small
          | array count =>
              rw [readWithin_array opened]
              rcases readItems_fits ih count rest with ⟨few, fit⟩
              exact ⟨few.trans_lt small, fit⟩
          | map count =>
              rw [readWithin_map opened]
              rcases readEntries_fits ih count rest with ⟨few, fit⟩
              exact ⟨small, few, fit⟩

end Packing

end MessageSync
