import MessageSync.Proofs.Wire.Codecs
import MessageSync.Wire.Classify

/-!
# Envelopes from peer to peer

The frame of an envelope decodes to that envelope exactly if the format can carry it: its type is
not an unknown one with the code of a known one, its body is sorted and nests within what is read,
and no length in it needs more than 32 bits. Every envelope that any frame decodes to is of that
kind, whatever form the frame had, so that it is the same after it was sent on.
-/

namespace MessageSync

namespace Body

/-- The keys of every object in the body are in ascending order. -/
def Sorted : Body → Prop
  | .structured value => value.Sorted
  | .binary _ => True

/-- The body nests no more than the given number of arrays and objects, and no length in it is too
large for a header. -/
def Fits (depth : Nat) : Body → Prop
  | .structured value => value.Fits depth
  | .binary content => content.length < Packing.lengthLimit

theorem fits_binary {depth : Nat} {content : Packing.Bytes} :
    (Body.binary content).Fits depth ↔ content.length < Packing.lengthLimit :=
  Iff.rfl

/-- A sorted body is read back, and as the kind that it is. -/
theorem codec_received {body : Body} (sorted : body.Sorted) :
    codec.read (codec.write body).received = .ok body := by
  cases body with
  | structured value => simp only [codec, Item.toValue?_received value sorted]
  | binary content => rfl

theorem codec_unmarked : codec.Unmarked := by
  intro item
  have same := Item.toValue?_of_received item
  cases item with
  | whole number =>
      simp only [Item.received] at same ⊢
      split_ifs at same ⊢
      · simp only [codec, same]
        rfl
      · rfl
  | array items =>
      simp only [Item.received] at same ⊢
      simp only [codec, same]
      cases (Item.array items).toValue? <;> rfl
  | map announced entries =>
      simp only [Item.received] at same ⊢
      simp only [codec, same]
      cases (Item.map announced entries).toValue? <;> rfl
  | _ => rfl

theorem write_complete (body : Body) : (codec.write body).Complete := by
  cases body with
  | structured value => exact Item.ofValue_complete value
  | binary content => trivial

theorem write_fits {body : Body} {depth : Nat} (fits : body.Fits depth) :
    (codec.write body).Fits depth := by
  cases body with
  | structured value => exact Item.ofValue_fits value depth fits
  | binary content => simpa [codec, Item.Fits, fits_binary] using fits

/-- Every body that is read is sorted, and fits where its item does. -/
theorem of_read {item : Item} {depth : Nat} {body : Body} (fits : item.Fits depth)
    (read : codec.read item = .ok body) : body.Sorted ∧ body.Fits depth := by
  simp only [codec] at read
  split at read
  · next value valueRead =>
      cases read
      exact Item.toValue?_fits _ depth value fits valueRead
  · next content _ =>
      cases read
      exact ⟨trivial, by simpa [Item.Fits, fits_binary] using fits⟩
  · cases read

end Body

/-! ## Written records -/

/-- An optional field is written if it has a value. -/
theorem Field.mem_optional {β : Type} {name : String} {codec : Codec β} {value? : Option β}
    {field : String × Item}
    (mem : field ∈ if value?.isNone then [] else [(name, codec.option.write value?)]) :
    ∃ value ∈ value?, field = (name, codec.write value) := by
  cases value? with
  | none => cases mem
  | some value => exact ⟨value, rfl, List.mem_singleton.mp mem⟩

theorem Item.allFit_iff {depth : Nat} {items : List Item} :
    AllFit depth items ↔ ∀ item ∈ items, item.Fits depth := by
  induction items with
  | nil => simp [AllFit]
  | cons item items ih => simp [AllFit, ih]

/-- The parts of an item that fits nest one less. -/
theorem Item.parts_fit {depth : Nat} {item part : Item} (fits : item.Fits (depth + 1))
    (mem : part ∈ item.parts) : part.Fits depth := by
  cases item with
  | array items => exact allFit_iff.mp fits.2 part mem
  | map announced entries =>
      have all := fits.2.2
      clear fits
      induction entries with
      | nil => cases mem
      | cons entry entries ih =>
          rcases entry with ⟨key, item⟩
          rcases List.mem_cons.mp mem with rfl | behind
          · exact all.2.1
          · exact ih behind all.2.2
  | _ => cases mem

namespace Envelope

variable {envelope : Envelope} {bytes : Packing.Bytes}

/-- The format can carry the envelope: its type is in normal form, the keys in its body are in the
order in which maps keep them, the body nests within what is read, and no length in it takes more
than the 32 bits of a header. -/
structure Portable (envelope : Envelope) : Prop where
  normal : envelope.messageType.IsNormal
  sorted : envelope.body.Sorted
  body : envelope.body.Fits (Packing.maxDepth - 1)
  conversationId : (Utf8.encode envelope.conversationId).length < Packing.lengthLimit
  traceId : ∀ id ∈ envelope.traceId, (Utf8.encode id).length < Packing.lengthLimit
  spanId : ∀ id ∈ envelope.spanId, (Utf8.encode id).length < Packing.lengthLimit

theorem names_nodup : layout.names.Nodup := by decide +kernel

/-- Every field of an envelope is read where the envelope was written. -/
theorem layout_readsBack (normal : envelope.messageType.IsNormal)
    (sorted : envelope.body.Sorted) :
    layout.Suits (Codec.ReadsBack Item.received) envelope := by
  have textNotNil : ∀ content, Codec.text.write content ≠ .nil := fun _ => Item.noConfusion
  have flagsNotNil : ∀ flags, Codec.uint8.write flags ≠ .nil := fun _ => Item.noConfusion
  refine ⟨⟨⟨⟨⟨⟨⟨trivial, ?_⟩, ?_⟩, ?_⟩, ?_⟩, ?_⟩, ?_⟩, ?_⟩
  · exact Codec.int64_received envelope.stanzaId
  · exact Codec.text_received envelope.conversationId
  · exact MessageType.codec_received normal
  · exact Body.codec_received sorted
  · exact Field.optional_suits fun id _ =>
      Codec.option_received (textNotNil id) (Codec.text_received id)
  · exact Field.optional_suits fun id _ =>
      Codec.option_received (textNotNil id) (Codec.text_received id)
  · exact Field.optional_suits fun flags _ =>
      Codec.option_received (flagsNotNil flags) (Codec.uint8_received flags)

/-- The fields that an envelope is written as. -/
theorem mem_fields {field : String × Item} (mem : field ∈ layout.fields envelope) :
    field = ("stanzaId", Codec.int64.write envelope.stanzaId) ∨
    field = ("conversationId", .text envelope.conversationId) ∨
    field = ("type", MessageType.codec.write envelope.messageType) ∨
    field = ("body", Body.codec.write envelope.body) ∨
    (∃ id ∈ envelope.traceId, field = ("trace_id", .text id)) ∨
    (∃ id ∈ envelope.spanId, field = ("span_id", .text id)) ∨
    ∃ flags ∈ envelope.traceFlags, field = ("trace_flags", Codec.uint8.write flags) := by
  simp only [layout, Layout.defaulted, Layout.required, Layout.optional, Layout.fields,
    Field.defaulted, Field.required, Field.optional, List.mem_append, List.mem_singleton,
    Bool.false_eq_true, if_false, List.not_mem_nil, false_or, or_assoc] at mem
  rcases mem with here | here | here | here | here | here | here
  · exact Or.inl here
  · exact Or.inr (Or.inl here)
  · exact Or.inr (Or.inr (Or.inl here))
  · exact Or.inr (Or.inr (Or.inr (Or.inl here)))
  · exact Or.inr (Or.inr (Or.inr (Or.inr (Or.inl (Field.mem_optional here)))))
  · exact Or.inr (Or.inr (Or.inr (Or.inr (Or.inr (Or.inl (Field.mem_optional here))))))
  · exact Or.inr (Or.inr (Or.inr (Or.inr (Or.inr (Or.inr (Field.mem_optional here))))))

theorem write_complete : (layout.write envelope).Complete := by
  apply Item.ofFields_complete
  intro field mem
  rcases mem_fields mem with rfl | rfl | rfl | rfl | ⟨id, -, rfl⟩ | ⟨id, -, rfl⟩ | ⟨flags, -, rfl⟩
  · trivial
  · trivial
  · trivial
  · exact Body.write_complete envelope.body
  all_goals trivial

theorem write_fits (portable : envelope.Portable) :
    (layout.write envelope).Fits Packing.maxDepth := by
  have names : ∀ name ∈ layout.names, (Utf8.encode name).length < Packing.lengthLimit := by
    decide +kernel
  apply Item.ofFields_fits
  · exact (layout.length_fields_le envelope).trans_lt (by decide)
  · intro field mem
    refine ⟨names field.1 (layout.names_of_mem_fields mem), ?_⟩
    rcases mem_fields mem with
      rfl | rfl | rfl | rfl | ⟨id, present, rfl⟩ | ⟨id, present, rfl⟩ | ⟨flags, -, rfl⟩
    · trivial
    · simpa [Item.Fits] using portable.conversationId
    · trivial
    · exact Body.write_fits portable.body
    · simpa [Item.Fits] using portable.traceId id present
    · simpa [Item.Fits] using portable.spanId id present
    · trivial

/-! ## From envelope to frame and back -/

/-- The frame of an envelope that the format can carry decodes to the envelope. -/
theorem decode_frame (portable : envelope.Portable) : decode envelope.frame = .ok envelope := by
  have complete : (layout.write envelope).Complete := write_complete
  have received := Packing.read_write complete (write_fits portable)
  have fieldsRead := layout.read_write names_nodup (layout_readsBack portable.normal portable.sorted)
  rw [decode, frame, received, fieldsRead]
  rfl

/-- Where the parts of an envelope that was read come from: its type is that of a code, and its body
and its texts are absent or read from items of the given kind. -/
theorem of_made {source : Item → Prop} (made : layout.Made source envelope) :
    envelope.messageType.IsNormal ∧
      (envelope.body = .structured .null ∨
        ∃ item, source item ∧ Body.codec.read item = .ok envelope.body) ∧
      (envelope.conversationId = "" ∨
        ∃ item, source item ∧ Codec.text.read item = .ok envelope.conversationId) ∧
      (some none = some envelope.traceId ∨
        ∃ item, source item ∧ Codec.text.option.read item = .ok envelope.traceId) ∧
      (some none = some envelope.spanId ∨
        ∃ item, source item ∧ Codec.text.option.read item = .ok envelope.spanId) := by
  rcases made with
    ⟨_, flags, ⟨_, spanId, ⟨_, traceId, ⟨_, body, ⟨_, type, ⟨_, conversationId,
      ⟨_, stanzaId, rfl, -, rfl⟩, conversationRead, rfl⟩, typeRead, rfl⟩, bodyRead, rfl⟩,
      traceRead, rfl⟩, spanRead, rfl⟩, -, rfl⟩
  refine ⟨?_, ?_, ?_, traceRead, spanRead⟩
  · rcases typeRead with absent | ⟨item, -, itemRead⟩
    · cases absent
    · rcases except_map_eq_ok.mp itemRead with ⟨code, -, rfl⟩
      exact MessageType.isNormal_ofCode code
  · exact bodyRead.imp (fun absent => (Option.some.inj absent).symm) id
  · exact conversationRead.imp (fun absent => (Option.some.inj absent).symm) id

/-- An envelope that is read from an item that fits can be carried. -/
theorem portable_of_read {item : Item} (fits : item.Fits Packing.maxDepth)
    (read : layout.read item = .ok envelope) : envelope.Portable := by
  have parts : ∀ part ∈ item.parts, part.Fits (Packing.maxDepth - 1) :=
    fun part mem => Item.parts_fit fits mem
  rcases of_made (layout.made_of_read parts read) with
    ⟨normal, bodyRead, conversationRead, traceRead, spanRead⟩
  have bodyKept : envelope.body.Sorted ∧ envelope.body.Fits (Packing.maxDepth - 1) := by
    rcases bodyRead with absent | ⟨item, itemFits, itemRead⟩
    · rw [absent]
      exact ⟨trivial, trivial⟩
    · exact Body.of_read itemFits itemRead
  refine ⟨normal, bodyKept.1, bodyKept.2, ?_, ?_, ?_⟩
  · rcases conversationRead with absent | ⟨item, itemFits, itemRead⟩
    · rw [absent]
      decide +kernel
    · exact Codec.fits_of_text itemFits itemRead
  · exact Codec.fits_of_optionText traceRead
  · exact Codec.fits_of_optionText spanRead

/-- Whatever a frame decodes to is an envelope that the format can carry. -/
theorem portable_of_decode (decoded : decode bytes = .ok envelope) : envelope.Portable := by
  have read : layout.read (Packing.read bytes) = .ok envelope := except_mapError_eq_ok.mp decoded
  exact portable_of_read (Packing.readWithin_fits Packing.maxDepth bytes) read

/-- The frame of an envelope decodes to that envelope exactly if the format can carry it, and then
also as a received frame, whatever the conversation to fall back to. In particular, every envelope
that some frame decodes to is decoded again from its own frame. -/
theorem decode_encode (encoded : envelope.encode = .ok bytes) :
    (decode bytes = .ok envelope ↔ envelope.Portable) ∧
      (envelope.Portable → ∀ fallback, decodeFrame bytes fallback = .ok envelope) ∧
      ∀ received, decode received = .ok envelope → decode bytes = .ok envelope := by
  have frameEq : bytes = envelope.frame := by
    rw [encode, except_bind_eq_ok] at encoded
    rcases encoded with ⟨-, -, done⟩
    exact (Except.ok.inj done).symm
  subst frameEq
  refine ⟨⟨portable_of_decode, decode_frame⟩, ?_, ?_⟩
  · intro portable fallback
    rw [decodeFrame, decode_frame portable]
  · intro received decoded
    exact decode_frame (portable_of_decode decoded)

/-- An envelope with a nested body and a part of a trace context. -/
def nested : Envelope :=
  { Envelope.of "c1" .userMessage (.structured (.object [
      ("content", .text "Hi"),
      ("tags", .array [.whole (.ofUInt64 300), .whole (.ofInt64 (-33)), .null])])) with
    stanzaId := -3
    traceId := some "4bf9"
    traceFlags := some 1 }

theorem nested_portable : nested.Portable := by
  have texts : ∀ text ∈ ["Hi", "content", "tags", "c1", "4bf9"],
      (Utf8.encode text).length < Packing.lengthLimit := by decide +kernel
  constructor
  · decide
  · refine ⟨?_, trivial, ⟨trivial, trivial, trivial, trivial⟩, trivial⟩
    decide +kernel
  · refine ⟨by decide, texts _ (by simp), texts "Hi" (by simp), texts _ (by simp), ?_, trivial⟩
    exact ⟨by decide, trivial, trivial, trivial, trivial⟩
  · exact texts "c1" (by simp)
  · intro id present
    cases present
    exact texts _ (by simp)
  · intro id present
    cases present

theorem decode_encode_nested :
    decode nested.frame = .ok nested ∧
      ∀ fallback, decodeFrame nested.frame fallback = .ok nested := by
  have encoded : nested.encode = .ok nested.frame := rfl
  rcases decode_encode encoded with ⟨carried, received, -⟩
  exact ⟨carried.mpr nested_portable, received nested_portable⟩

end Envelope

end MessageSync
