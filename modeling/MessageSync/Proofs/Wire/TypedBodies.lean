import MessageSync.Proofs.Wire.Bodies
import MessageSync.Proofs.Wire.Envelopes

/-!
# Typed bodies from peer to peer

A typed body travels as the structured body of an envelope or as a packed document of its own. It is
read back from either, exactly if no length in it takes more than the 32 bits of a header. One
direction is that what was written is read. The other is that nothing else is: what is read from an
item that fits is written as one that fits, for each codec and so for each record, because a record
that is read is made of values that its codecs read.
-/

namespace MessageSync

/-! ## What is read from an item that fits -/

/-- What is read from an item that fits is written as one that fits. -/
def Codec.KeepsFit {α : Type} (codec : Codec α) : Prop :=
  ∀ ⦃depth : Nat⦄ ⦃item : Item⦄ ⦃x : α⦄, item.Fits depth → codec.read item = .ok x →
    (codec.write x).Fits depth

theorem Utf8.length_encode_le (text : String) : (encode text).length ≤ 4 * text.toList.length := by
  have bytes : ∀ chars : List Char, String.utf8Len chars ≤ 4 * chars.length := by
    intro chars
    induction chars with
    | nil => exact Nat.zero_le _
    | cons c chars ih =>
        have one := c.utf8Size_le_four
        rw [String.utf8Len_cons, List.length_cons]
        omega
  have size : (encode text).length = String.utf8Len text.toList := by
    rw [← String.utf8ByteSize_ofList, String.ofList_toList]
    simp [encode]
  exact size ▸ bytes text.toList

namespace Codec

variable {α : Type} {codec : Codec α}

theorem text_keepsFit : text.KeepsFit := by
  intro depth item content fits read
  simpa [text, Item.Fits] using fits_of_text fits read

theorem bool_keepsFit : bool.KeepsFit :=
  fun _ _ _ _ _ => trivial

theorem int64_keepsFit : int64.KeepsFit :=
  fun _ _ _ _ _ => trivial

theorem uint64_keepsFit : uint64.KeepsFit :=
  fun _ _ _ _ _ => trivial

/-- The text of a moment is short, whatever text it was read from. -/
theorem moment_keepsFit : Codec.moment.KeepsFit := by
  intro depth item moment _ _
  have characters := Timestamp.length_wireText_le moment
  have bytes := Utf8.length_encode_le (Timestamp.wireText moment)
  have limit : 132 < Packing.lengthLimit := by decide
  simp only [Codec.moment, Item.Fits]
  omega

theorem variant_keepsFit {variants : List (String × α)} {name : α → String}
    (short : ∀ x, (Utf8.encode (name x)).length < Packing.lengthLimit) :
    (variant variants name).KeepsFit := by
  intro depth item x _ _
  simpa [variant, Item.Fits] using short x

theorem option_keepsFit (keeps : codec.KeepsFit) : codec.option.KeepsFit := by
  intro depth item value? fits read
  cases value? with
  | none => trivial
  | some value =>
      have notNil : item ≠ .nil := by
        rintro rfl
        cases read
      rw [option_read notNil, except_map_eq_ok] at read
      rcases read with ⟨held, heldRead, same⟩
      cases same
      exact keeps fits heldRead

theorem list_keepsFit (keeps : codec.KeepsFit) : (list codec).KeepsFit := by
  intro depth item values fits read
  cases item with
  | array items =>
      cases depth with
      | zero => exact fits.elim
      | succ depth =>
          refine ⟨?_, ?_⟩
          · rw [List.length_map, length_of_mapM_eq_ok read]
            exact fits.1
          · rw [Item.allFit_iff]
            intro written mem
            rcases List.mem_map.mp mem with ⟨value, valueMem, rfl⟩
            rcases mem_of_mapM_eq_ok read valueMem with ⟨part, partMem, partRead⟩
            exact keeps (Item.allFit_iff.mp fits.2 part partMem) partRead
  | _ => cases read

end Codec

namespace Layout

variable {ρ α : Type} {depth : Nat}

/-- Every codec keeps what fits, and the values that stand for absent fields fit. -/
def KeepFit {α : Type} : Layout ρ α → Prop
  | .make _ => True
  | .field before last =>
    before.KeepFit ∧ last.codec.KeepsFit ∧
      ∀ value depth, last.absent = some value → (last.codec.write value).Fits depth

/-- The result has the given property if the value of every field is written as an item that
fits. -/
def Yields {α : Type} (depth : Nat) : Layout ρ α → (α → Prop) → Prop
  | .make result, property => property result
  | .field before last, property =>
    before.Yields depth fun make =>
      ∀ value, (last.codec.write value).Fits depth → property (make value)

/-- The value of every field of the record is written as an item that fits. -/
def FieldsFit {α : Type} (depth : Nat) : Layout ρ α → ρ → Prop
  | .make _, _ => True
  | .field before last, record =>
    before.FieldsFit depth record ∧ (last.codec.write (last.get record)).Fits depth

section

variable {β : Type} {name : String} {codec : Codec β}

theorem KeepFit.required {before : Layout ρ (β → α)} {get : ρ → β} (keep : before.KeepFit)
    (keeps : codec.KeepsFit) : (before.required name codec get).KeepFit :=
  ⟨keep, keeps, nofun⟩

theorem KeepFit.defaulted {before : Layout ρ (β → α)} {get : ρ → β} {absent : β}
    (keep : before.KeepFit) (keeps : codec.KeepsFit)
    (fits : ∀ depth, (codec.write absent).Fits depth) :
    (before.defaulted name codec get absent).KeepFit := by
  refine ⟨keep, keeps, ?_⟩
  rintro value depth ⟨⟩
  exact fits depth

theorem KeepFit.optional {before : Layout ρ (Option β → α)} {get : ρ → Option β}
    (keep : before.KeepFit) (keeps : codec.KeepsFit) :
    (before.optional name codec get).KeepFit := by
  refine ⟨keep, Codec.option_keepsFit keeps, ?_⟩
  rintro value? depth ⟨⟩
  exact trivial

end

theorem Made.of_yields {layout : Layout ρ α} (keep : layout.KeepFit) {result : α}
    (made : layout.Made (fun item => item.Fits depth) result) {property : α → Prop}
    (yields : layout.Yields depth property) : property result := by
  induction layout with
  | make _ =>
      cases made
      exact yields
  | field before last ih =>
      rcases made with ⟨make, value, earlierMade, origin, rfl⟩
      refine ih keep.1 earlierMade yields value ?_
      rcases origin with absent | ⟨item, fits, read⟩
      · exact keep.2.2 value depth absent
      · exact keep.2.1 fits read

theorem FieldsFit.of_mem_fields {layout : Layout ρ α} {record : ρ}
    (fit : layout.FieldsFit depth record) {field : String × Item}
    (mem : field ∈ layout.fields record) : field.2.Fits depth := by
  induction layout with
  | make result => cases mem
  | field before last ih =>
      simp only [fields, List.mem_append] at mem
      rcases mem with earlier | here
      · exact ih fit.1 earlier
      · split at here
        · cases here
        · rw [List.mem_singleton.mp here]
          exact fit.2

/-- A codec of records keeps what fits if those of the fields do. -/
theorem codec_keepsFit {layout : Layout ρ ρ} (few : layout.size < Packing.lengthLimit)
    (short : ∀ name ∈ layout.names, (Utf8.encode name).length < Packing.lengthLimit)
    (keep : layout.KeepFit) (yields : ∀ depth, layout.Yields depth (layout.FieldsFit depth)) :
    layout.codec.KeepsFit := by
  intro depth item record fits read
  have made {source : Item → Prop} (parts : ∀ part ∈ item.parts, source part) :
      layout.Made source record := layout.made_of_read parts read
  cases depth with
  | zero =>
      -- A record is read from an array or a map, and neither fits where nothing may nest.
      cases item with
      | array items => exact fits.elim
      | map announced entries => exact fits.elim
      | _ => cases read
  | succ depth =>
      have fieldsFit : layout.FieldsFit depth record :=
        (made fun part mem => Item.parts_fit fits mem).of_yields keep (yields depth)
      apply Item.ofFields_fits ((layout.length_fields_le record).trans_lt few)
      intro field mem
      exact ⟨short field.1 (layout.names_of_mem_fields mem), fieldsFit.of_mem_fields mem⟩

end Layout

/-! ## Typed bodies -/

theorem Role.codec_keepsFit : codec.KeepsFit :=
  Codec.variant_keepsFit fun role => by cases role <;> decide

theorem Disposition.codec_keepsFit : codec.KeepsFit :=
  Codec.variant_keepsFit fun status => by cases status <;> decide

theorem Resolution.codec_keepsFit : codec.KeepsFit :=
  Codec.variant_keepsFit fun resolution => by cases resolution; decide

theorem PendingMessage.codec_keepsFit : layout.codec.KeepsFit := by
  apply Layout.codec_keepsFit (by decide) (by decide)
  · exact .optional (.required (.required (.required (.required (.required trivial
      Codec.text_keepsFit) Role.codec_keepsFit) Codec.text_keepsFit) Codec.moment_keepsFit)
      Codec.moment_keepsFit) Codec.text_keepsFit
  · intro depth _ localId _ role _ contents _ createdAt _ updatedAt _ previousId
    exact ⟨⟨⟨⟨⟨⟨trivial, localId⟩, role⟩, contents⟩, createdAt⟩, updatedAt⟩, previousId⟩

theorem CanonicalMessage.codec_keepsFit : layout.codec.KeepsFit := by
  apply Layout.codec_keepsFit (by decide) (by decide)
  · exact .optional (.required (.required (.required (.required (.required (.required (.required
      trivial Codec.text_keepsFit) Codec.text_keepsFit) Codec.int64_keepsFit) Role.codec_keepsFit)
      Codec.text_keepsFit) Codec.moment_keepsFit) Codec.moment_keepsFit) Codec.text_keepsFit
  · intro depth _ id _ conversationId _ sequenceNumber _ role _ contents _ createdAt _ updatedAt
      _ previousId
    exact ⟨⟨⟨⟨⟨⟨⟨⟨trivial, id⟩, conversationId⟩, sequenceNumber⟩, role⟩, contents⟩, createdAt⟩,
      updatedAt⟩, previousId⟩

theorem SyncResult.codec_keepsFit : layout.codec.KeepsFit := by
  apply Layout.codec_keepsFit (by decide) (by decide)
  · exact .optional (.required (.required (.required trivial Codec.text_keepsFit)
      Disposition.codec_keepsFit) CanonicalMessage.codec_keepsFit) Resolution.codec_keepsFit
  · intro depth _ localId _ status _ message _ resolution
    exact ⟨⟨⟨⟨trivial, localId⟩, status⟩, message⟩, resolution⟩

namespace TypedBody

variable {ρ : Type} {layout : Layout ρ ρ}

theorem keepFit (typed : TypedBody layout) : layout.KeepFit := by
  have empty : ∀ depth, (Codec.text.write "").Fits depth := by
    intro depth
    rw [Codec.text, Item.Fits]
    decide
  have text := Codec.text_keepsFit
  cases typed with
  | subscribe => exact .required trivial text
  | subscribeAck =>
      exact .optional (.optional (.required (.defaulted trivial text empty) Codec.bool_keepsFit)
        text) Codec.uint64_keepsFit
  | unsubscribe => exact .required trivial text
  | unsubscribeAck => exact .required (.defaulted trivial text empty) Codec.bool_keepsFit
  | configuration =>
      exact .defaulted (.required (.required trivial (Codec.list_keepsFit text))
        Codec.int64_keepsFit) text empty
  | chatMessage =>
      exact .optional (.optional (.optional (.optional (.optional (.optional (.required (.defaulted
        (.required trivial text) text empty) text) Role.codec_keepsFit) text) Codec.int64_keepsFit)
        text) Codec.moment_keepsFit) Codec.moment_keepsFit
  | syncRequest =>
      exact .required (.required trivial text) (Codec.list_keepsFit PendingMessage.codec_keepsFit)
  | syncResponse =>
      exact .optional (.required (.required trivial text)
        (Codec.list_keepsFit SyncResult.codec_keepsFit)) Codec.moment_keepsFit
  | syncAvailable => exact .required (.required trivial text) Codec.int64_keepsFit
  | errorBody => exact .optional (.optional (.required (.required trivial text) text) text) text
  | titleUpdate => exact .required (.required trivial text) text
  | generationComplete =>
      exact .optional (.required (.required (.required trivial text) text) Codec.bool_keepsFit) text

theorem yields (typed : TypedBody layout) (depth : Nat) :
    layout.Yields depth (layout.FieldsFit depth) := by
  cases typed with
  | subscribe => exact fun _ conversationId => ⟨trivial, conversationId⟩
  | subscribeAck =>
      exact fun _ conversationId _ success _ error _ missed =>
        ⟨⟨⟨⟨trivial, conversationId⟩, success⟩, error⟩, missed⟩
  | unsubscribe => exact fun _ conversationId => ⟨trivial, conversationId⟩
  | unsubscribeAck =>
      exact fun _ conversationId _ success => ⟨⟨trivial, conversationId⟩, success⟩
  | configuration =>
      exact fun _ features _ lastSeen _ version => ⟨⟨⟨trivial, features⟩, lastSeen⟩, version⟩
  | chatMessage =>
      exact fun _ id _ conversationId _ content _ role _ localId _ sequenceNumber _ previousId
          _ createdAt _ updatedAt =>
        ⟨⟨⟨⟨⟨⟨⟨⟨⟨trivial, id⟩, conversationId⟩, content⟩, role⟩, localId⟩, sequenceNumber⟩,
          previousId⟩, createdAt⟩, updatedAt⟩
  | syncRequest => exact fun _ conversationId _ messages => ⟨⟨trivial, conversationId⟩, messages⟩
  | syncResponse =>
      exact fun _ conversationId _ results _ syncedAt =>
        ⟨⟨⟨trivial, conversationId⟩, results⟩, syncedAt⟩
  | syncAvailable => exact fun _ conversationId _ latest => ⟨⟨trivial, conversationId⟩, latest⟩
  | errorBody =>
      exact fun _ code _ message _ messageId _ conversationId =>
        ⟨⟨⟨⟨trivial, code⟩, message⟩, messageId⟩, conversationId⟩
  | titleUpdate => exact fun _ conversationId _ title => ⟨⟨trivial, conversationId⟩, title⟩
  | generationComplete =>
      exact fun _ messageId _ conversationId _ success _ error =>
        ⟨⟨⟨⟨trivial, messageId⟩, conversationId⟩, success⟩, error⟩

theorem codec_keepsFit (typed : TypedBody layout) : layout.codec.KeepsFit := by
  have short : ∀ name ∈ layout.names, (Utf8.encode name).length < Packing.lengthLimit := by
    cases typed <;> decide
  exact Layout.codec_keepsFit typed.few short typed.keepFit typed.yields

theorem carries (typed : TypedBody layout) (body : ρ) : layout.Suits Codec.Carries body :=
  (typed.holds 0 body).carries

theorem toValue?_write (typed : TypedBody layout) (body : ρ) :
    (layout.write body).toValue? = some (layout.value body) :=
  (typed.carries body).toValue?_write typed.names_nodup

/-- A body that fits a document also fits into an envelope, since no body nests deeply. -/
theorem fits_value_iff (typed : TypedBody layout) (body : ρ) :
    (layout.value body).Fits (Packing.maxDepth - 1) ↔ (layout.write body).Fits Packing.maxDepth := by
  have value := typed.toValue?_write body
  constructor
  · exact Layout.write_fits typed.names_nodup typed.few (typed.holds 1019 body)
  · intro fits
    have valueFits := (Item.toValue?_fits _ _ _ fits value).2
    have shallow : (layout.write body).Fits (Packing.maxDepth - 1) :=
      Layout.write_fits typed.names_nodup typed.few (typed.holds 1018 body) valueFits
    exact (Item.toValue?_fits _ _ _ shallow value).2

end TypedBody

/-! ## Bodies in envelopes -/

namespace Envelope

variable {ρ : Type} {layout : Layout ρ ρ} {conversationId : String}

/-- The envelope of a typed body can be carried if it is named by a code and fits. -/
theorem portable_ofRecord (typed : TypedBody layout) (body : ρ) (code : UInt16) :
    (ofRecord layout conversationId (.ofCode code) body).Portable ↔
      (Utf8.encode conversationId).length < Packing.lengthLimit ∧
        (layout.write body).Fits Packing.maxDepth := by
  rw [← typed.fits_value_iff]
  constructor
  · intro portable
    exact ⟨portable.conversationId, portable.body⟩
  · rintro ⟨conversation, fits⟩
    have written := (typed.fits_value_iff body).mp fits
    have sorted := (Item.toValue?_fits _ _ _ written (typed.toValue?_write body)).1
    exact ⟨MessageType.isNormal_ofCode code, sorted, fits, conversation, nofun, nofun⟩

/-- A frame tells the code of the type only. -/
theorem frame_ofCode (type : MessageType) (body : ρ) :
    (ofRecord layout conversationId (.ofCode type.code) body).frame =
      (ofRecord layout conversationId type body).frame := by
  have sameItem : MessageType.codec.write (.ofCode type.code) = MessageType.codec.write type :=
    congrArg Codec.uint16.write (MessageType.code_ofCode type.code)
  rw [frame, frame]
  simp only [ofRecord, Envelope.of, Envelope.layout, Layout.write, Layout.defaulted,
    Layout.required, Layout.optional, Layout.fields, Field.defaulted, Field.required,
    Field.optional, sameItem]

/-- A typed body in an envelope that names a conversation is encoded, whatever type the envelope has.
It is decoded, under the type that its code stands for, exactly if no length in it is too large for
a header, and read back as it was. So it is from a binary body that is its document. -/
theorem decode_ofRecord (typed : TypedBody layout) (body : ρ) (type : MessageType)
    (named : conversationId ≠ "") :
    (∃ frame, (ofRecord layout conversationId type body).encode = .ok frame ∧
      (decode frame = .ok (ofRecord layout conversationId (.ofCode type.code) body) ↔
        (Utf8.encode conversationId).length < Packing.lengthLimit ∧
          (layout.write body).Fits Packing.maxDepth)) ∧
    (∀ type, (ofRecord layout conversationId type body).bodyAs layout.codec = .ok body) ∧
    ∀ envelope : Envelope, envelope.body = .binary (Packing.write (layout.write body)) →
      (envelope.bodyAs layout.codec = .ok body ↔ (layout.write body).Fits Packing.maxDepth) := by
  have read : layout.read (.ofValue (layout.value body)) = .ok body := by
    rw [(typed.carries body).read_value typed.names_nodup, typed.rebuild]
  refine ⟨⟨(ofRecord layout conversationId type body).frame, ?_, ?_⟩, ?_, ?_⟩
  · have valid : (ofRecord layout conversationId type body).validate = .ok () := by
      simp [validate, ofRecord, Envelope.of, named]
    rw [encode, valid]
    rfl
  · rw [← portable_ofRecord typed body type.code, ← frame_ofCode]
    exact ⟨portable_of_decode, decode_frame⟩
  · intro type
    simp only [bodyAs, ofRecord, Envelope.of, Layout.codec, read]
    rfl
  · intro envelope packed
    have unpacked : envelope.bodyAs layout.codec = .ok body ↔
        layout.read (Packing.read (Packing.write (layout.write body))) = .ok body := by
      rw [bodyAs, packed]
      exact except_mapError_eq_ok
    rw [unpacked]
    constructor
    · -- Only lengths that a header can announce are read, so the body that is read has no others.
      exact typed.codec_keepsFit (Packing.readWithin_fits Packing.maxDepth _)
    · intro fits
      have carried := Layout.codec_carries typed.names_nodup (typed.rebuild body) (typed.carries body)
      have complete : (layout.write body).Complete := carried.complete
      rw [Packing.read_write complete fits]
      exact carried.received

/-- A greeting with one feature and a stanza number from the server. -/
def greeting : Configuration :=
  ⟨["sync"], -3, "1.0"⟩

theorem greeting_fits : (Configuration.layout.write greeting).Fits Packing.maxDepth := by
  have texts : ∀ text ∈ ["supportedFeatures", "lastSeenStanzaId", "clientVersion", "sync", "1.0"],
      (Utf8.encode text).length < Packing.lengthLimit := by decide
  refine ⟨by decide, by decide, ?_, ⟨by decide, ?_, trivial⟩, ?_, trivial, ?_, ?_, trivial⟩
  · exact texts "supportedFeatures" (by simp)
  · exact texts "sync" (by simp)
  · exact texts "lastSeenStanzaId" (by simp)
  · exact texts "clientVersion" (by simp)
  · exact texts "1.0" (by simp)

theorem decode_ofRecord_greeting :
    decode (ofRecord Configuration.layout "c1" (.unknown 12) greeting).frame =
        .ok (ofRecord Configuration.layout "c1" .configuration greeting) ∧
      (ofRecord Configuration.layout "c1" .configuration greeting).bodyAs
          Configuration.layout.codec = .ok greeting ∧
        (Envelope.of "c1" .configuration
          (.binary (Packing.write (Configuration.layout.write greeting)))).bodyAs
            Configuration.layout.codec = .ok greeting := by
  rcases decode_ofRecord .configuration greeting (.unknown 12) (by decide : "c1" ≠ "") with
    ⟨⟨frame, encoded, decoded⟩, structured, binary⟩
  have frameEq : frame = (ofRecord Configuration.layout "c1" (.unknown 12) greeting).frame :=
    Except.ok.inj encoded.symm
  have conversationFits : (Utf8.encode "c1").length < Packing.lengthLimit := by decide
  subst frameEq
  exact ⟨decoded.mpr ⟨conversationFits, greeting_fits⟩, structured .configuration,
    (binary _ rfl).mpr greeting_fits⟩

end Envelope

end MessageSync
