import MessageSync.Proofs.Except
import MessageSync.Proofs.Time.WireText
import MessageSync.Proofs.Wire.Records
import MessageSync.Proofs.Wire.Values
import MessageSync.Time.Codec
import MessageSync.Wire.MessageType

/-!
# Typed items read back

What a codec writes is read back where it was written. It also stands for a structured value, and is
read back from that: a codec for which both hold is said to carry the value. It holds the value
within a depth if, moreover, the item fits in that depth as soon as the value that it stands for
fits anywhere, so that a length that is too large for a header cannot be hidden by the item.
-/

namespace MessageSync

/-! ## Where an item was written -/

theorem Whole.toInt64?_ofInt64 (number : Int64) : (ofInt64 number).toInt64? = some number := by
  have small := number.toInt_lt
  have below : (ofInt64 number).val < 0x8000000000000000 := by simpa [ofInt64] using small
  rw [toInt64?, if_pos below]
  exact congrArg some (Int64.ofInt_toInt number)

theorem Whole.toUInt64?_ofUInt64 (number : UInt64) : (ofUInt64 number).toUInt64? = some number := by
  have natural : 0 ≤ (ofUInt64 number).val := by simp [ofUInt64]
  have same : (ofUInt64 number).val.toNat = number.toNat := by simp [ofUInt64]
  rw [toUInt64?, if_pos natural, same, UInt64.ofNat_toNat]

theorem Whole.toNatBelow?_ofUInt64 {number : UInt64} {bound : Nat}
    (below : number.toNat < bound) :
    (ofUInt64 number).toNatBelow? bound = some number.toNat := by
  have within : 0 ≤ (ofUInt64 number).val ∧ (ofUInt64 number).val < bound := by
    simp only [ofUInt64]
    omega
  rw [toNatBelow?, if_pos within]
  rfl

theorem Item.received_eq_nil {item : Item} : item.received = .nil ↔ item = .nil := by
  cases item with
  | whole number =>
      simp only [received]
      split_ifs <;> simp
  | _ => simp [received]

namespace Codec

theorem wholeOf?_received (number : Whole) :
    wholeOf? (Item.whole number).received = some number := by
  have read := Item.toValue?_received_whole number
  simp only [Item.received] at read ⊢
  split_ifs at read ⊢
  · simpa [Item.toValue?, wholeOf?] using read
  · rfl

/-- A codec takes all numbers alike if it tells none from another, and nor arrays nor maps. -/
theorem unmarked_of {α : Type} {codec : Codec α}
    (numbers : ∀ whole position, codec.read (.position position) = codec.read (.whole whole))
    (arrays : ∀ items others, codec.read (.array items) = codec.read (.array others))
    (maps : ∀ count entries others,
      codec.read (.map count entries) = codec.read (.map count others)) : codec.Unmarked := by
  intro item
  cases item with
  | whole number =>
      simp only [Item.received]
      split_ifs
      · exact numbers number _
      · rfl
  | array items => exact arrays _ items
  | map count entries => exact maps count _ entries
  | _ => rfl

theorem text_unmarked : text.Unmarked :=
  unmarked_of (fun _ _ => rfl) (fun _ _ => rfl) fun _ _ _ => rfl

theorem bool_unmarked : bool.Unmarked :=
  unmarked_of (fun _ _ => rfl) (fun _ _ => rfl) fun _ _ _ => rfl

theorem moment_unmarked : Codec.moment.Unmarked :=
  unmarked_of (fun _ _ => rfl) (fun _ _ => rfl) fun _ _ _ => rfl

theorem readWhole_unmarked {α : Type} (accept? : Whole → Option α) (item : Item) :
    readWhole accept? item.received = readWhole accept? item := by
  cases item with
  | whole number =>
      rw [readWhole, wholeOf?_received]
      rfl
  | _ => rfl

theorem int64_unmarked : int64.Unmarked :=
  readWhole_unmarked _

theorem uint64_unmarked : uint64.Unmarked :=
  readWhole_unmarked _

theorem uint8_unmarked : uint8.Unmarked :=
  readWhole_unmarked _

theorem uint16_unmarked : uint16.Unmarked :=
  readWhole_unmarked _

theorem option_read {α : Type} {codec : Codec α} {item : Item} (notNil : item ≠ .nil) :
    codec.option.read item = (codec.read item).map some := by
  cases item with
  | nil => exact absurd rfl notNil
  | _ => rfl

theorem option_unmarked {α : Type} {codec : Codec α} (unmarked : codec.Unmarked) :
    codec.option.Unmarked := by
  intro item
  by_cases isNil : item = .nil
  · rw [isNil]
    rfl
  · -- Only nil itself is received as nil, so both are read as the value that is there.
    have receivedNotNil : item.received ≠ .nil := mt Item.received_eq_nil.mp isNil
    rw [option_read isNil, option_read receivedNotNil, unmarked item]

theorem text_received (content : String) :
    text.read (text.write content).received = .ok content := rfl

-- A number is read from any item that is that number, with an unsigned marker or without, so the
-- same lemma serves for what is received and for what is restated as a value.
theorem int64_read {item : Item} {number : Int64}
    (held : wholeOf? item = some (.ofInt64 number)) : int64.read item = .ok number := by
  rw [int64]
  dsimp only
  rw [readWhole, held, Option.bind_some, Whole.toInt64?_ofInt64]

theorem uint64_read {item : Item} {number : UInt64}
    (held : wholeOf? item = some (.ofUInt64 number)) : uint64.read item = .ok number := by
  rw [uint64]
  dsimp only
  rw [readWhole, held, Option.bind_some, Whole.toUInt64?_ofUInt64]

/-- An unsigned number below a bound is read, however narrow. -/
theorem readWhole_narrow {α : Type} {item : Item} {number : UInt64} {bound : Nat}
    (held : wholeOf? item = some (.ofUInt64 number)) (below : number.toNat < bound)
    (narrow : Nat → α) :
    readWhole (fun whole => (whole.toNatBelow? bound).map narrow) item =
      .ok (narrow number.toNat) := by
  rw [readWhole, held, Option.bind_some, Whole.toNatBelow?_ofUInt64 below, Option.map_some]

theorem uint16_read {item : Item} {number : UInt16}
    (held : wholeOf? item = some (.ofUInt64 number.toUInt64)) : uint16.read item = .ok number := by
  have small : number.toUInt64.toNat < 0x10000 := by
    rw [UInt16.toNat_toUInt64]
    exact number.toNat_lt
  rw [uint16]
  dsimp only
  rw [readWhole_narrow held small, UInt16.toNat_toUInt64, UInt16.ofNat_toNat]

theorem uint8_read {item : Item} {number : UInt8}
    (held : wholeOf? item = some (.ofUInt64 number.toUInt64)) : uint8.read item = .ok number := by
  have small : number.toUInt64.toNat < 0x100 := by
    rw [UInt8.toNat_toUInt64]
    exact number.toNat_lt
  rw [uint8]
  dsimp only
  rw [readWhole_narrow held small, UInt8.toNat_toUInt64, UInt8.ofNat_toNat]

theorem int64_received (number : Int64) :
    int64.read (int64.write number).received = .ok number :=
  int64_read (wholeOf?_received _)

theorem uint8_received (number : UInt8) :
    uint8.read (uint8.write number).received = .ok number :=
  uint8_read (wholeOf?_received _)

theorem fits_of_text {item : Item} {depth : Nat} {content : String} (fits : item.Fits depth)
    (read : text.read item = .ok content) :
    (Utf8.encode content).length < Packing.lengthLimit := by
  cases item with
  | text held =>
      cases read
      simpa [Item.Fits] using fits
  | bytes form held =>
      simp only [text] at read
      split at read
      · next decoded =>
          cases read
          rw [Utf8.encode_of_decode? decoded]
          simpa [Item.Fits] using fits
      · cases read
  | _ => cases read

/-- A text that is there fits where its item does. -/
theorem fits_of_optionText {depth : Nat} {value? : Option String}
    (origin : some none = some value? ∨
      ∃ item : Item, item.Fits depth ∧ text.option.read item = .ok value?) :
    ∀ content ∈ value?, (Utf8.encode content).length < Packing.lengthLimit := by
  rintro content rfl
  rcases origin with absent | ⟨item, fits, read⟩
  · cases absent
  · simp only [option] at read
    split at read
    · cases read
    · rcases except_map_eq_ok.mp read with ⟨held, heldRead, same⟩
      cases same
      exact fits_of_text fits heldRead

/-- An optional value is read back if the value itself is, and it is not written as nil. -/
theorem option_received {α : Type} {codec : Codec α} {value : α}
    (notNil : codec.write value ≠ .nil)
    (read : codec.read (codec.write value).received = .ok value) :
    codec.option.read (codec.option.write (some value)).received = .ok (some value) := by
  have receivedNotNil : (codec.write value).received ≠ .nil := mt Item.received_eq_nil.mp notNil
  exact (option_read receivedNotNil).trans (congrArg (Except.map some) read)

end Codec

/-- A type in normal form is read from an item that is its code. -/
theorem MessageType.codec_read {type : MessageType} {item : Item} (normal : type.IsNormal)
    (held : Codec.wholeOf? item = some (.ofUInt64 type.code.toUInt64)) :
    codec.read item = .ok type := by
  rw [codec]
  dsimp only
  rw [Codec.uint16_read held, Except.map, normal]

theorem MessageType.codec_received {type : MessageType} (normal : type.IsNormal) :
    codec.read (codec.write type).received = .ok type :=
  codec_read normal (Codec.wholeOf?_received _)

theorem MessageType.codec_unmarked : codec.Unmarked :=
  fun item => congrArg (Except.map ofCode) (Codec.uint16_unmarked item)

/-- What a code stands for has that code. -/
theorem MessageType.code_ofCode (code : UInt16) : (ofCode code).code = code := by
  simp only [ofCode]
  cases found : all.find? fun known => known.code == code with
  | none => rfl
  | some known => simpa using List.find?_some found

theorem MessageType.isNormal_ofCode (code : UInt16) : (ofCode code).IsNormal := by
  rw [IsNormal, code_ofCode]

/-! ## Through structured values -/

/-- What `x` is written as is complete, `x` is read where it was written, and the item stands for a
structured value from which `x` is read. -/
structure Codec.Carries {α : Type} (codec : Codec α) (x : α) : Prop where
  complete : (codec.write x).Complete
  received : codec.read (codec.write x).received = .ok x
  read : ∃ value, (codec.write x).toValue? = some value ∧ codec.read (.ofValue value) = .ok x

/-- The codec carries `x`, and what `x` is written as nests no more than the given number of
containers and has no length that the value does not have. -/
structure Codec.Holds {α : Type} (depth : Nat) (codec : Codec α) (x : α) : Prop
    extends codec.Carries x where
  fits : ∀ value bound, (codec.write x).toValue? = some value → value.Fits bound →
    (codec.write x).Fits depth

namespace Codec

variable {α : Type} {codec : Codec α} {depth : Nat}

@[simp] theorem toValue?_text (content : String) :
    (text.write content).toValue? = some (.text content) :=
  rfl

@[simp] theorem toValue?_bool (truth : Bool) : (bool.write truth).toValue? = some (.bool truth) :=
  rfl

@[simp] theorem toValue?_int64 (number : Int64) :
    (int64.write number).toValue? = some (.whole (.ofInt64 number)) :=
  rfl

@[simp] theorem toValue?_uint64 (number : UInt64) :
    (uint64.write number).toValue? = some (.whole (.ofUInt64 number)) :=
  rfl

@[simp] theorem toValue?_moment (moment : Moment) :
    (Codec.moment.write moment).toValue? = some (.text (Timestamp.wireText moment)) :=
  rfl

/-- What is written as a text is held if it is read from that. -/
theorem Holds.of_text {x : α} {content : String} (isText : codec.write x = .text content)
    (read : codec.read (.text content) = .ok x) : codec.Holds depth x where
  complete := isText ▸ trivial
  received := by
    rw [isText]
    exact read
  read := ⟨.text content, by rw [isText, Item.toValue?], read⟩
  fits := by
    intro value bound written fits
    rw [isText, Item.toValue?] at written
    cases written
    rw [isText]
    simpa [Item.Fits, Value.Fits] using fits

/-- What is written as a whole number is held if it is read from any item that is that number. -/
theorem Holds.of_whole {x : α} {number : Whole} (isWhole : codec.write x = .whole number)
    (read : ∀ item, wholeOf? item = some number → codec.read item = .ok x) :
    codec.Holds depth x where
  complete := isWhole ▸ trivial
  received := by
    rw [isWhole]
    exact read _ (wholeOf?_received number)
  read := ⟨.whole number, by rw [isWhole, Item.toValue?], read _ rfl⟩
  fits := by
    intro _ _ _ _
    rw [isWhole]
    exact trivial

theorem text_holds (depth : Nat) (content : String) : text.Holds depth content :=
  .of_text rfl rfl

theorem bool_holds (depth : Nat) (truth : Bool) : bool.Holds depth truth where
  complete := trivial
  received := rfl
  read := ⟨.bool truth, rfl, rfl⟩
  fits := fun _ _ _ _ => trivial

theorem int64_holds (depth : Nat) (number : Int64) : int64.Holds depth number :=
  .of_whole rfl fun _ held => int64_read held

theorem uint64_holds (depth : Nat) (number : UInt64) : uint64.Holds depth number :=
  .of_whole rfl fun _ held => uint64_read held

theorem uint8_holds (depth : Nat) (number : UInt8) : uint8.Holds depth number :=
  .of_whole rfl fun _ held => uint8_read held

theorem moment_holds (depth : Nat) (moment : Moment) : Codec.moment.Holds depth moment :=
  .of_text rfl (by simp only [Codec.moment, Timestamp.readLenient_wireText])

/-- A variant is held if its name is listed for it. -/
theorem variant_holds {variants : List (String × α)} {name : α → String} {x : α}
    (named : variants.lookup (name x) = some x) : (variant variants name).Holds depth x :=
  .of_text rfl (by simp only [variant, variantOf, variantNamed, named])

theorem Carries.option {x : α} (carries : codec.Carries x)
    (notNull : (codec.write x).toValue? ≠ some .null) : codec.option.Carries (some x) where
  complete := carries.complete
  received := by
    apply option_received _ carries.received
    intro isNil
    exact notNull (congrArg Item.toValue? isNil)
  read := by
    rcases carries.read with ⟨value, written, read⟩
    refine ⟨value, written, ?_⟩
    cases value with
    | null => exact absurd written notNull
    | _ => exact congrArg (Except.map some) read

theorem Holds.option {x : α} (holds : codec.Holds depth x)
    (notNull : (codec.write x).toValue? ≠ some .null) : codec.option.Holds depth (some x) where
  toCarries := holds.toCarries.option notNull
  fits := holds.fits

theorem complete_map_write {xs : List α} (holds : ∀ x ∈ xs, codec.Holds depth x) :
    Item.AllComplete (xs.map codec.write) := by
  induction xs with
  | nil => trivial
  | cons x xs ih =>
      exact ⟨(holds x (by simp)).complete, ih fun other mem => holds other (by simp [mem])⟩

theorem received_map_write {xs : List α} (holds : ∀ x ∈ xs, codec.Holds depth x) :
    (Item.allReceived (xs.map codec.write)).mapM codec.read = .ok xs := by
  induction xs with
  | nil => rfl
  | cons x xs ih =>
      have others := ih fun other mem => holds other (by simp [mem])
      exact mapM_cons_eq_ok.mpr ⟨x, xs, (holds x (by simp)).received, others, rfl⟩

theorem read_map_write {xs : List α} (holds : ∀ x ∈ xs, codec.Holds depth x) :
    ∃ values, Item.toValues? (xs.map codec.write) = some values ∧
      (Item.ofItems values).mapM codec.read = .ok xs := by
  induction xs with
  | nil => exact ⟨[], rfl, rfl⟩
  | cons x xs ih =>
      rcases (holds x (by simp)).read with ⟨value, written, read⟩
      rcases ih fun other mem => holds other (by simp [mem]) with ⟨values, othersWritten, othersRead⟩
      refine ⟨value :: values, ?_, ?_⟩
      · simp [Item.toValues?, written, othersWritten]
      · exact mapM_cons_eq_ok.mpr ⟨x, xs, read, othersRead, rfl⟩

theorem fit_map_write {xs : List α} (holds : ∀ x ∈ xs, codec.Holds depth x) {values : List Value}
    {bound : Nat} (written : Item.toValues? (xs.map codec.write) = some values)
    (fit : Value.AllFit bound values) :
    values.length = xs.length ∧ Item.AllFit depth (xs.map codec.write) := by
  induction xs generalizing values with
  | nil =>
      cases written
      exact ⟨rfl, trivial⟩
  | cons x xs ih =>
      simp only [List.map_cons, Item.toValues?, Option.bind_eq_bind, Option.bind_eq_some_iff,
        Option.pure_def, Option.some.injEq] at written
      rcases written with ⟨value, valueWritten, others, othersWritten, rfl⟩
      rcases ih (fun other mem => holds other (by simp [mem])) othersWritten fit.2 with
        ⟨sameLength, othersFit⟩
      exact ⟨by simp [sameLength], (holds x (by simp)).fits value bound valueWritten fit.1,
        othersFit⟩

theorem list_holds {xs : List α} (holds : ∀ x ∈ xs, codec.Holds depth x) :
    (list codec).Holds (depth + 1) xs where
  complete := complete_map_write holds
  received := received_map_write holds
  read := by
    rcases read_map_write holds with ⟨values, written, read⟩
    exact ⟨.array values, by simp [list, Item.toValue?, written], read⟩
  fits := by
    intro value bound written fits
    simp only [list, Item.toValue?, Option.map_eq_some_iff] at written
    rcases written with ⟨values, valuesWritten, rfl⟩
    cases bound with
    | zero => exact fits.elim
    | succ bound =>
        rcases fit_map_write holds valuesWritten fits.2 with ⟨sameLength, fit⟩
        refine ⟨?_, fit⟩
        rw [List.length_map, ← sameLength]
        exact fits.1

/-- A list is written as an array. -/
theorem isArray_list {xs : List α} (holds : ∀ x ∈ xs, codec.Holds depth x) :
    ((list codec).write xs).toValue?.any Value.isArray = true := by
  rcases read_map_write holds with ⟨values, written, -⟩
  simp [list, Item.toValue?, written, Value.isArray]

end Codec

@[simp] theorem MessageType.toValue?_codec (type : MessageType) :
    (codec.write type).toValue? = some (.whole (.ofUInt64 type.code.toUInt64)) :=
  rfl

theorem MessageType.codec_holds {type : MessageType} (depth : Nat) (normal : type.IsNormal) :
    codec.Holds depth type :=
  .of_whole rfl fun _ held => codec_read normal held

end MessageSync
