import MessageSync.Proofs.Wire.RecordValues
import MessageSync.Wire.Bodies

/-!
# Typed bodies as values

Every field of a typed body is held by its codec, so that each such body is read from the structured
value that it is written as.
-/

namespace MessageSync

variable {depth : Nat}

theorem Role.codec_holds (depth : Nat) (role : Role) : codec.Holds depth role :=
  Codec.variant_holds (by cases role <;> decide)

@[simp] theorem Role.toValue?_codec (role : Role) :
    (codec.write role).toValue? = some (.text role.name) :=
  rfl

theorem Disposition.codec_holds (depth : Nat) (status : Disposition) : codec.Holds depth status :=
  Codec.variant_holds (by cases status <;> decide)

theorem Resolution.codec_holds (depth : Nat) (resolution : Resolution) :
    codec.Holds depth resolution :=
  Codec.variant_holds (by cases resolution; decide)

namespace Field

variable {ρ : Type} {record : ρ} {name : String}

theorem optionalText_holds {get : ρ → Option String} :
    (Field.optional name Codec.text get).Suits (Codec.Holds depth) record :=
  optional_suits fun content _ => (Codec.text_holds depth content).option nofun

theorem optionalMoment_holds {get : ρ → Option Moment} :
    (Field.optional name Codec.moment get).Suits (Codec.Holds depth) record :=
  optional_suits fun moment _ => (Codec.moment_holds depth moment).option nofun

end Field

/-! ## The fields of each body -/

theorem Subscribe.layout_holds (depth : Nat) (body : Subscribe) :
    layout.Suits (Codec.Holds depth) body :=
  ⟨trivial, Codec.text_holds depth body.conversationId⟩

theorem Unsubscribe.layout_holds (depth : Nat) (body : Unsubscribe) :
    layout.Suits (Codec.Holds depth) body :=
  ⟨trivial, Codec.text_holds depth body.conversationId⟩

theorem ErrorBody.layout_holds (depth : Nat) (body : ErrorBody) :
    layout.Suits (Codec.Holds depth) body :=
  ⟨⟨⟨⟨trivial, Codec.text_holds depth body.code⟩, Codec.text_holds depth body.message⟩,
    Field.optionalText_holds⟩, Field.optionalText_holds⟩

theorem GenerationComplete.layout_holds (depth : Nat) (body : GenerationComplete) :
    layout.Suits (Codec.Holds depth) body :=
  ⟨⟨⟨⟨trivial, Codec.text_holds depth body.messageId⟩,
    Codec.text_holds depth body.conversationId⟩, Codec.bool_holds depth body.success⟩,
    Field.optionalText_holds⟩

theorem SubscribeAck.layout_holds (depth : Nat) (body : SubscribeAck) :
    layout.Suits (Codec.Holds depth) body :=
  ⟨⟨⟨⟨trivial, Codec.text_holds depth body.conversationId⟩, Codec.bool_holds depth body.success⟩,
    Field.optionalText_holds⟩,
    Field.optional_suits fun number _ => (Codec.uint64_holds depth number).option nofun⟩

theorem UnsubscribeAck.layout_holds (depth : Nat) (body : UnsubscribeAck) :
    layout.Suits (Codec.Holds depth) body :=
  ⟨⟨trivial, Codec.text_holds depth body.conversationId⟩, Codec.bool_holds depth body.success⟩

theorem TitleUpdate.layout_holds (depth : Nat) (body : TitleUpdate) :
    layout.Suits (Codec.Holds depth) body :=
  ⟨⟨trivial, Codec.text_holds depth body.conversationId⟩, Codec.text_holds depth body.title⟩

theorem SyncAvailable.layout_holds (depth : Nat) (body : SyncAvailable) :
    layout.Suits (Codec.Holds depth) body :=
  ⟨⟨trivial, Codec.text_holds depth body.conversationId⟩,
    Codec.int64_holds depth body.latestSequence⟩

theorem Configuration.layout_holds (depth : Nat) (body : Configuration) :
    layout.Suits (Codec.Holds (depth + 1)) body :=
  ⟨⟨⟨trivial, Codec.list_holds fun feature _ => Codec.text_holds depth feature⟩,
    Codec.int64_holds (depth + 1) body.lastSeenStanzaId⟩,
    Codec.text_holds (depth + 1) body.clientVersion⟩

theorem ChatMessage.layout_holds (depth : Nat) (body : ChatMessage) :
    layout.Suits (Codec.Holds depth) body := by
  refine ⟨⟨⟨⟨⟨⟨⟨⟨⟨trivial, ?_⟩, ?_⟩, ?_⟩, ?_⟩, Field.optionalText_holds⟩, ?_⟩,
    Field.optionalText_holds⟩, Field.optionalMoment_holds⟩, Field.optionalMoment_holds⟩
  · exact Codec.text_holds depth body.id
  · exact Codec.text_holds depth body.conversationId
  · exact Codec.text_holds depth body.content
  · exact Field.optional_suits fun role _ => (Role.codec_holds depth role).option nofun
  · exact Field.optional_suits fun number _ => (Codec.int64_holds depth number).option nofun

theorem PendingMessage.layout_holds (depth : Nat) (message : PendingMessage) :
    layout.Suits (Codec.Holds depth) message :=
  ⟨⟨⟨⟨⟨⟨trivial, Codec.text_holds depth message.localId⟩, Role.codec_holds depth message.role⟩,
    Codec.text_holds depth message.contents⟩, Codec.moment_holds depth message.createdAt⟩,
    Codec.moment_holds depth message.updatedAt⟩, Field.optionalText_holds⟩

theorem PendingMessage.codec_holds (depth : Nat) (message : PendingMessage) :
    layout.codec.Holds (depth + 1) message :=
  layout.codec_holds (by decide) (by decide) rfl (layout_holds depth message)

theorem SyncRequest.layout_holds (depth : Nat) (body : SyncRequest) :
    layout.Suits (Codec.Holds (depth + 2)) body :=
  ⟨⟨trivial, Codec.text_holds (depth + 2) body.conversationId⟩,
    Codec.list_holds fun message _ => PendingMessage.codec_holds depth message⟩

theorem CanonicalMessage.layout_holds (depth : Nat) (message : CanonicalMessage) :
    layout.Suits (Codec.Holds depth) message :=
  ⟨⟨⟨⟨⟨⟨⟨⟨trivial, Codec.text_holds depth message.id⟩,
    Codec.text_holds depth message.conversationId⟩,
    Codec.int64_holds depth message.sequenceNumber⟩, Role.codec_holds depth message.role⟩,
    Codec.text_holds depth message.contents⟩, Codec.moment_holds depth message.createdAt⟩,
    Codec.moment_holds depth message.updatedAt⟩, Field.optionalText_holds⟩

theorem CanonicalMessage.codec_holds (depth : Nat) (message : CanonicalMessage) :
    layout.codec.Holds (depth + 1) message :=
  layout.codec_holds (by decide) (by decide) rfl (layout_holds depth message)

theorem SyncResult.layout_holds (depth : Nat) (result : SyncResult) :
    layout.Suits (Codec.Holds (depth + 1)) result :=
  ⟨⟨⟨⟨trivial, Codec.text_holds (depth + 1) result.localId⟩,
    Disposition.codec_holds (depth + 1) result.status⟩,
    CanonicalMessage.codec_holds depth result.message⟩,
    Field.optional_suits fun resolution _ =>
      (Resolution.codec_holds (depth + 1) resolution).option nofun⟩

theorem SyncResult.codec_holds (depth : Nat) (result : SyncResult) :
    layout.codec.Holds (depth + 2) result :=
  layout.codec_holds (by decide) (by decide) rfl (layout_holds depth result)

theorem SyncResponse.layout_holds (depth : Nat) (body : SyncResponse) :
    layout.Suits (Codec.Holds (depth + 3)) body :=
  ⟨⟨⟨trivial, Codec.text_holds (depth + 3) body.conversationId⟩,
    Codec.list_holds fun result _ => SyncResult.codec_holds depth result⟩,
    Field.optionalMoment_holds⟩

/-! ## All typed bodies -/

/-- The layouts of the bodies that travel in envelopes. -/
inductive TypedBody : {ρ : Type} → Layout ρ ρ → Prop where
  | subscribe : TypedBody Subscribe.layout
  | subscribeAck : TypedBody SubscribeAck.layout
  | unsubscribe : TypedBody Unsubscribe.layout
  | unsubscribeAck : TypedBody UnsubscribeAck.layout
  | configuration : TypedBody Configuration.layout
  | chatMessage : TypedBody ChatMessage.layout
  | syncRequest : TypedBody SyncRequest.layout
  | syncResponse : TypedBody SyncResponse.layout
  | syncAvailable : TypedBody SyncAvailable.layout
  | errorBody : TypedBody ErrorBody.layout
  | titleUpdate : TypedBody TitleUpdate.layout
  | generationComplete : TypedBody GenerationComplete.layout

namespace TypedBody

variable {ρ : Type} {layout : Layout ρ ρ}

theorem names_nodup (typed : TypedBody layout) : layout.names.Nodup := by
  cases typed <;> decide

theorem few (typed : TypedBody layout) : layout.size < Packing.lengthLimit := by
  cases typed <;> decide

theorem rebuild (typed : TypedBody layout) (body : ρ) : layout.rebuild body = body := by
  cases typed <;> rfl

/-- The deepest body is the answer to a sync request, with records in a list of records. -/
theorem holds (typed : TypedBody layout) (depth : Nat) (body : ρ) :
    layout.Suits (Codec.Holds (depth + 3)) body := by
  cases typed with
  | subscribe => exact Subscribe.layout_holds _ _
  | subscribeAck => exact SubscribeAck.layout_holds _ _
  | unsubscribe => exact Unsubscribe.layout_holds _ _
  | unsubscribeAck => exact UnsubscribeAck.layout_holds _ _
  | configuration => exact Configuration.layout_holds (depth + 2) _
  | chatMessage => exact ChatMessage.layout_holds _ _
  | syncRequest => exact SyncRequest.layout_holds (depth + 1) _
  | syncResponse => exact SyncResponse.layout_holds depth _
  | syncAvailable => exact SyncAvailable.layout_holds _ _
  | errorBody => exact ErrorBody.layout_holds _ _
  | titleUpdate => exact TitleUpdate.layout_holds _ _
  | generationComplete => exact GenerationComplete.layout_holds _ _

end TypedBody

end MessageSync
