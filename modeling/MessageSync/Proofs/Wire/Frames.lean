import MessageSync.Proofs.Wire.Classification

/-!
# Frames of values

A peer that does not tag its frames sends the document of a value. Whether that is read as an
envelope from the document or from the value makes no difference: numbers from zero up have an
unsigned marker in the document only, but no field of an envelope is named by a number. So the frame
of an object decodes to the envelope of the object. And whatever bytes a frame has, the envelope that
it decodes to has no body with a length that is too large for a header.
-/

namespace MessageSync

namespace Envelope

variable {entries : List (String × Value)} {fallback : String} {bytes : Packing.Bytes}
  {envelope : Envelope}

/-! ## What a frame decodes to fits -/

theorem fits_classify {value : Value} (fits : value.Fits Packing.maxDepth) :
    ∃ depth, (classify value fallback).body.Fits depth := by
  by_cases accepted : Accepts value
  · rcases accepted with ⟨shaped, envelope, read⟩
    rw [classify_of_accepts read shaped]
    exact ⟨_, (portable_of_read (Item.ofValue_fits value _ fits) read).body⟩
  · rw [classify_of_not_accepts accepted, ofShape]
    split
    · exact ⟨_, fits⟩
    · have texts : ∀ text ∈ ["code", "message", "payload", "unclassified",
          "payload did not match any known shape"],
          (Utf8.encode text).length < Packing.lengthLimit := by decide +kernel
      have few : 3 < Packing.lengthLimit := by decide
      refine ⟨Packing.maxDepth + 1, Value.fits_ofEntries few ?_⟩
      exact ⟨texts _ (by simp), texts "unclassified" (by simp), texts _ (by simp),
        texts "payload did not match any known shape" (by simp), texts _ (by simp), fits, trivial⟩

/-- No length in the body of a decoded frame is too large for a header. -/
theorem fits_of_decodeFrame (decoded : decodeFrame bytes fallback = .ok envelope) :
    ∃ depth, envelope.body.Fits depth := by
  rw [decodeFrame] at decoded
  split at decoded
  · next strict =>
      cases decoded
      exact ⟨_, (portable_of_decode strict).body⟩
  · split at decoded
    · cases decoded
    · next entries held =>
        cases decoded
        have fits := Packing.readWithin_fits Packing.maxDepth bytes
        exact fits_classify (Item.toValue?_fits _ _ _ fits held).2
    · cases decoded

/-! ## Frames of objects -/

theorem layout_unmarked : layout.Unmarked := by
  have textUnmarked := Codec.option_unmarked Codec.text_unmarked
  exact ⟨⟨⟨⟨⟨⟨⟨trivial, Codec.int64_unmarked⟩, Codec.text_unmarked⟩, MessageType.codec_unmarked⟩,
    Body.codec_unmarked⟩, textUnmarked⟩, textUnmarked⟩,
    Codec.option_unmarked Codec.uint8_unmarked⟩

/-- An object is read as an envelope from its document as it is from itself. -/
theorem decode_write (fits : (Value.object entries).Fits Packing.maxDepth) :
    decode (Packing.write (.ofValue (.object entries))) =
      (layout.read (.ofValue (.object entries))).mapError .frame := by
  have received := Packing.read_write (Item.ofValue_complete _) (Item.ofValue_fits _ _ fits)
  rw [decode, received, Layout.read_received (layout_unmarked.readsAlike _)]

/-- What is read as an envelope has a type. -/
theorem typed_of_read {fields : List (String × Item)}
    (read : layout.read (.ofFields fields) = .ok envelope) : "type" ∈ fields.map Prod.fst := by
  have needed : "type" ∈ layout.mandatory := by decide +kernel
  exact Layout.mem_of_read needed read

theorem not_read_of_untyped (untyped : (Value.object entries).get? "type" = none)
    (envelope : Envelope) : layout.read (.ofValue (.object entries)) ≠ .ok envelope := by
  intro read
  rw [Item.ofValue_object] at read
  have typed := typed_of_read read
  rw [Item.keys_fieldsOf] at typed
  rcases List.mem_map.mp typed with ⟨entry, mem, name⟩
  have absent := List.lookup_eq_none_iff.mp untyped entry mem
  rw [bne_iff_ne] at absent
  exact absent name.symm

/-- The frame of an object of the shape of an envelope, or without a type, decodes to the envelope
of the object, and holds an envelope exactly if the object is one. -/
theorem decodeFrame_write (sorted : (Value.object entries).Sorted)
    (fits : (Value.object entries).Fits Packing.maxDepth)
    (shaped : ShapeRule.isEnvelope (.object entries) = true ∨
      (Value.object entries).get? "type" = none) (fallback : String) :
    decodeFrame (Packing.write (.ofValue (.object entries))) fallback =
        .ok (classify (.object entries) fallback) ∧
      decode (Packing.write (.ofValue (.object entries))) =
        (layout.read (.ofValue (.object entries))).mapError .frame := by
  have strict := decode_write fits
  refine ⟨?_, strict⟩
  cases read : layout.read (.ofValue (.object entries)) with
  | ok envelope =>
      -- Classifying tests the shape before it reads, so the shape is needed here and only here.
      have isEnvelope : ShapeRule.isEnvelope (.object entries) = true :=
        shaped.resolve_right fun untyped => not_read_of_untyped untyped envelope read
      rw [read] at strict
      rw [decodeFrame, strict, classify_of_accepts read isEnvelope]
      rfl
  | error reason =>
      have received := Packing.read_write (Item.ofValue_complete _) (Item.ofValue_fits _ _ fits)
      rw [read] at strict
      rw [decodeFrame, strict, received, Item.toValue?_received _ sorted]
      rfl

/-- An object of the shape of an envelope with a type that is out of range. -/
def mistyped : Value :=
  .object [("body", .null), ("conversationId", .text "c1"), ("stanzaId", .whole (.ofUInt64 0)),
    ("title", .text "Plans"), ("type", .whole (.ofUInt64 70000))]

theorem mistyped_sorted : mistyped.Sorted := by
  refine ⟨?_, trivial, trivial, trivial, trivial, trivial, trivial⟩
  decide +kernel

theorem mistyped_fits : mistyped.Fits Packing.maxDepth := by
  have texts : ∀ text ∈ ["body", "conversationId", "stanzaId", "title", "type", "c1", "Plans"],
      (Utf8.encode text).length < Packing.lengthLimit := by decide +kernel
  refine ⟨by decide, texts _ (by simp), trivial, texts _ (by simp), texts "c1" (by simp),
    texts _ (by simp), trivial, texts _ (by simp), texts "Plans" (by simp), texts _ (by simp),
    trivial, trivial⟩

theorem decodeFrame_write_mistyped :
    ShapeRule.isEnvelope mistyped = true ∧
      decodeFrame (Packing.write (.ofValue mistyped)) "c0" = .ok (classify mistyped "c0") ∧
        classify mistyped "c0" = .of "c1" .titleUpdate (.structured mistyped) := by
  have shaped : ShapeRule.isEnvelope mistyped = true := by decide +kernel
  have agree := decodeFrame_write mistyped_sorted mistyped_fits (Or.inl shaped) "c0"
  exact ⟨shaped, agree.1, rfl⟩

end Envelope

end MessageSync
