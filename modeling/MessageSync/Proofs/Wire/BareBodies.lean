import MessageSync.Proofs.Wire.Bodies
import MessageSync.Proofs.Wire.Frames

/-!
# Bare bodies recovered

The document of a typed body that the server pushes, without an envelope, decodes to the envelope
that the body belongs to. It is not read as an envelope itself, because it has no type; its shape
fits the rule for its type, and none of the rules before that, whichever of its optional fields it
has.
-/

namespace MessageSync

/-- A body that the server pushes, with its layout, the type of envelope that it belongs to and the
conversation that it names. -/
inductive Pushed : {ρ : Type} → Layout ρ ρ → ρ → MessageType → Option String → Prop where
  | error (body : ErrorBody) : Pushed ErrorBody.layout body .error body.conversationId
  | syncResponse (body : SyncResponse) :
      Pushed SyncResponse.layout body .syncResponse (some body.conversationId)
  | generationComplete (body : GenerationComplete) :
      Pushed GenerationComplete.layout body .generationComplete (some body.conversationId)
  | subscribeAck (body : SubscribeAck)
      (telling : body.error.isSome = true ∨ body.missedMessages.isSome = true) :
      Pushed SubscribeAck.layout body .subscribeAck (some body.conversationId)
  /-- Nothing tells this body from the answer to an unsubscribe. -/
  | plainSubscribeAck (body : SubscribeAck) (noError : body.error = none)
      (noCount : body.missedMessages = none) :
      Pushed SubscribeAck.layout body .unsubscribeAck (some body.conversationId)
  | unsubscribeAck (body : UnsubscribeAck) :
      Pushed UnsubscribeAck.layout body .unsubscribeAck (some body.conversationId)
  | titleUpdate (body : TitleUpdate) :
      Pushed TitleUpdate.layout body .titleUpdate (some body.conversationId)
  | syncAvailable (body : SyncAvailable) :
      Pushed SyncAvailable.layout body .syncAvailable (some body.conversationId)
  | configuration (body : Configuration) : Pushed Configuration.layout body .configuration none
  | assistantMessage (body : ChatMessage) (byAssistant : body.role = some .assistant) :
      Pushed ChatMessage.layout body .assistantMessage (some body.conversationId)
  | userMessage (body : ChatMessage) (byOther : body.role ≠ some .assistant) :
      Pushed ChatMessage.layout body .userMessage (some body.conversationId)

namespace Pushed

variable {ρ : Type} {layout : Layout ρ ρ} {body : ρ} {type : MessageType} {named? : Option String}

theorem typed (pushed : Pushed layout body type named?) : TypedBody layout := by
  cases pushed <;> constructor

theorem holds (pushed : Pushed layout body type named?) :
    layout.Suits (Codec.Holds (Packing.maxDepth - 1)) body :=
  pushed.typed.holds 1019 body

theorem names_nodup (pushed : Pushed layout body type named?) : layout.names.Nodup :=
  pushed.typed.names_nodup

theorem untyped (pushed : Pushed layout body type named?) : "type" ∉ layout.names := by
  cases pushed <;> decide +kernel

theorem get?_value (pushed : Pushed layout body type named?) (key : String) :
    (layout.value body).get? key = (layout.item? body key).bind Item.toValue? :=
  pushed.holds.carries.get?_value pushed.names_nodup key

/-- A pushed body names its conversation in the value that it is written as. -/
theorem get?_conversation (pushed : Pushed layout body type named?) :
    (layout.value body).get? "conversationId" = named?.map .text := by
  rw [pushed.get?_value]
  cases pushed with
  | error body =>
      simp only [ErrorBody.layout, Layout.item?_optional]
      cases body.conversationId <;> simp
  | syncResponse => simp [SyncResponse.layout]
  | generationComplete => simp [GenerationComplete.layout]
  | subscribeAck => simp [SubscribeAck.layout]
  | plainSubscribeAck => simp [SubscribeAck.layout]
  | unsubscribeAck => simp [UnsubscribeAck.layout]
  | titleUpdate => simp [TitleUpdate.layout]
  | syncAvailable => simp [SyncAvailable.layout]
  | configuration => simp [Configuration.layout]
  | assistantMessage => simp [ChatMessage.layout]
  | userMessage => simp [ChatMessage.layout]

/-- The rule that decides on a pushed body is the one for its type. -/
theorem matching?_value (pushed : Pushed layout body type named?) :
    (ShapeRule.matching? (layout.value body)).map ShapeRule.messageType = some type := by
  have get? := pushed.get?_value
  -- A rule asks for single entries, and these are known from the fields that are written, so each
  -- rule before the one that decides is seen to fail on an entry that the body never has.
  simp only [ShapeRule.matching?, ShapeRule.all, List.find?_cons, ShapeRule.hasText,
    ShapeRule.hasBool, ShapeRule.hasNumber, ShapeRule.hasArray, ShapeRule.hasThat, ShapeRule.has,
    get?]
  cases pushed with
  | error => simp [ErrorBody.layout, Value.isText]
  | syncResponse body =>
      have results := Codec.isArray_list fun result (_ : result ∈ body.results) =>
        SyncResult.codec_holds 0 result
      simp [SyncResponse.layout, results]
  | generationComplete => simp [GenerationComplete.layout, Value.isText, Value.isBool]
  | subscribeAck body telling =>
      rw [Option.isSome_iff_exists, Option.isSome_iff_exists] at telling
      rcases telling with ⟨error, told⟩ | ⟨missed, told⟩
      · simp [SubscribeAck.layout, Value.isBool, told]
      · simp [SubscribeAck.layout, Value.isBool, told]
  | plainSubscribeAck body noError noCount =>
      simp [SubscribeAck.layout, Value.isBool, noError, noCount]
  | unsubscribeAck => simp [UnsubscribeAck.layout, Value.isBool]
  | titleUpdate => simp [TitleUpdate.layout, Value.isText]
  | syncAvailable => simp [SyncAvailable.layout, Value.isNumber]
  | configuration body =>
      have features := Codec.isArray_list fun feature (_ : feature ∈ body.supportedFeatures) =>
        Codec.text_holds 0 feature
      simp [Configuration.layout, features]
  | assistantMessage body byAssistant =>
      simp [ChatMessage.layout, Value.isText, byAssistant, Value.text?, Role.name]
  | userMessage body byOther =>
      have notAssistant : ((((body.role.map Role.codec.write).bind Item.toValue?).bind
          fun name => name.text?) == some "assistant") = false := by
        cases held : body.role with
        | none => simp
        | some role =>
            cases role with
            | assistant => exact absurd held byOther
            | user => simp [Value.text?, Role.name]
            | system => simp [Value.text?, Role.name]
      simp [ChatMessage.layout, Value.isText, notAssistant]

end Pushed

namespace Envelope

variable {ρ : Type} {layout : Layout ρ ρ} {body : ρ} {type : MessageType} {named? : Option String}
  {fallback : String}

theorem decode_untyped (untyped : "type" ∉ layout.names) (complete : (layout.write body).Complete)
    (fits : (layout.write body).Fits Packing.maxDepth) :
    ∃ reason, decode (Packing.write (layout.write body)) = .error reason := by
  have refused : ∀ envelope, Envelope.layout.read (layout.write body).received ≠ .ok envelope := by
    intro envelope read
    rw [Layout.write, Layout.received_ofFields] at read
    have typed := typed_of_read read
    rw [List.map_map] at typed
    exact untyped ((layout.keys_fields_sublist body).subset typed)
  rw [decode, Packing.read_write complete fits]
  cases read : Envelope.layout.read (layout.write body).received with
  | ok envelope => exact absurd read (refused envelope)
  | error reason => exact ⟨.frame reason, rfl⟩

/-- The frame of a record without a type decodes to the envelope of its value. -/
theorem decodeFrame_untyped (carries : layout.Suits Codec.Carries body)
    (distinct : layout.names.Nodup) (untyped : "type" ∉ layout.names)
    (fits : (layout.write body).Fits Packing.maxDepth) :
    decodeFrame (Packing.write (layout.write body)) fallback =
      .ok (ofShape (layout.value body) fallback) := by
  have complete := carries.complete
  rcases decode_untyped untyped complete fits with ⟨reason, strict⟩
  rcases carries.exists_value distinct with ⟨entries, value⟩
  have received : (Packing.read (Packing.write (layout.write body))).toValue? =
      some (.object entries) := by
    rw [Packing.read_write complete fits, Item.toValue?_of_received,
      carries.toValue?_write distinct, value]
  have unshaped : ShapeRule.isEnvelope (layout.value body) = false := by
    have noType : (layout.value body).get? "type" = none := by
      rw [carries.get?_value distinct, Layout.item?_of_not_mem untyped]
      rfl
    simp [ShapeRule.isEnvelope, ShapeRule.hasNumber, ShapeRule.hasThat, noType]
  simp only [decodeFrame, strict, received]
  rw [← value, classify, unshaped, if_neg Bool.false_ne_true]

/-- The document of a pushed body decodes, without an envelope, to the envelope that the body
belongs to, exactly if it fits what can be written and read; and the body is read from that. -/
theorem decodeFrame_pushed (pushed : Pushed layout body type named?) (fallback : String) :
    (decodeFrame (Packing.write (layout.write body)) fallback =
        .ok (.ofRecord layout ((named?.filter (· ≠ "")).getD fallback) type body) ↔
      (layout.write body).Fits Packing.maxDepth) ∧
    (ofRecord layout ((named?.filter (· ≠ "")).getD fallback) type body).bodyAs layout.codec =
      .ok body := by
  have carries := pushed.holds.carries
  refine ⟨⟨?_, ?_⟩, ?_⟩
  · -- The value of the body was decoded, so its lengths fit, and it has all lengths of the document.
    intro decoded
    rcases fits_of_decodeFrame decoded with ⟨bound, fits⟩
    exact Layout.write_fits pushed.names_nodup pushed.typed.few pushed.holds fits
  · intro fits
    rcases Option.map_eq_some_iff.mp pushed.matching?_value with ⟨rule, decides, typeEq⟩
    rw [decodeFrame_untyped carries pushed.names_nodup pushed.untyped fits, ofShape]
    simp only [decides, typeEq, conversationOf_eq pushed.get?_conversation]
    rfl
  · have read := carries.read_value pushed.names_nodup
    rw [pushed.typed.rebuild] at read
    simp only [bodyAs, ofRecord, Envelope.of, Layout.codec, read]
    rfl

/-- The answer to a subscribe that names no conversation, but tells a count. -/
def counted : SubscribeAck :=
  ⟨"", true, none, some 3⟩

theorem decodeFrame_pushed_counted :
    decodeFrame (Packing.write (SubscribeAck.layout.write counted)) "c0" =
        .ok (.ofRecord SubscribeAck.layout "c0" .subscribeAck counted) ∧
      (ofRecord SubscribeAck.layout "c0" .subscribeAck counted).bodyAs SubscribeAck.layout.codec =
        .ok counted := by
  have texts : ∀ text ∈ ["conversationId", "success", "missedMessages", ""],
      (Utf8.encode text).length < Packing.lengthLimit := by decide +kernel
  have fits : (SubscribeAck.layout.write counted).Fits Packing.maxDepth := by
    refine ⟨by decide, by decide, ?_, ?_, ?_, trivial, ?_, trivial, trivial⟩
    · exact texts "conversationId" (by simp)
    · exact texts "" (by simp)
    · exact texts "success" (by simp)
    · exact texts "missedMessages" (by simp)
  have pushed := Pushed.subscribeAck counted (Or.inr rfl)
  rcases decodeFrame_pushed pushed "c0" with ⟨decoded, read⟩
  exact ⟨decoded.mpr fits, read⟩

end Envelope

end MessageSync
