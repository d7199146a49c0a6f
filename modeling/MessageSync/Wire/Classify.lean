import MessageSync.Wire.Envelope

/-!
# Bodies without an envelope

Some peers send a bare body. Its shape tells which type of envelope it belongs to: the first rule
that it fits decides, so rules for special shapes come before the general ones that they overlap.
A body that no rule fits becomes the payload of an error envelope, so every value has an envelope.
-/

namespace MessageSync

/-- A shape of object and the message type that it belongs to. -/
structure ShapeRule where
  name : String
  fits : Value → Bool
  messageType : MessageType

namespace ShapeRule

/-- The object has an entry for the key. -/
def has (value : Value) (key : String) : Bool :=
  (value.get? key).isSome

/-- The object has an entry for the key that the test accepts. -/
def hasThat (test : Value → Bool) (value : Value) (key : String) : Bool :=
  (value.get? key).any test

/-- The object has a text for the key. -/
def hasText : Value → String → Bool := hasThat Value.isText

/-- The object has a truth value for the key. -/
def hasBool : Value → String → Bool := hasThat Value.isBool

/-- The object has a number for the key. -/
def hasNumber : Value → String → Bool := hasThat Value.isNumber

/-- The object has an array for the key. -/
def hasArray : Value → String → Bool := hasThat Value.isArray

/-- The rules in order. -/
def all : List ShapeRule := [
  ⟨"error", fun v => hasText v "code" && hasText v "message", .error⟩,
  ⟨"sync_response", fun v => hasArray v "results", .syncResponse⟩,
  ⟨"tool_use_result", fun v => hasText v "requestId" && hasBool v "success", .toolUseResult⟩,
  ⟨"generation_complete", fun v => hasText v "messageId" && hasBool v "success",
    .generationComplete⟩,
  ⟨"subscribe_ack", fun v => hasBool v "success" && has v "conversationId" &&
    (has v "error" || has v "missedMessages"), .subscribeAck⟩,
  ⟨"unsubscribe_ack", fun v => hasBool v "success" && has v "conversationId", .unsubscribeAck⟩,
  ⟨"assistant_sentence", fun v => has v "messageId" && hasNumber v "sequence" && hasText v "text",
    .assistantSentence⟩,
  ⟨"reasoning_step", fun v => has v "messageId" && hasNumber v "sequence" && hasText v "content",
    .reasoningStep⟩,
  ⟨"tool_use_request", fun v => hasText v "toolName", .toolUseRequest⟩,
  ⟨"memory_trace", fun v => hasText v "memoryId", .memoryTrace⟩,
  ⟨"thinking_summary", fun v => has v "messageId" && hasText v "content", .thinkingSummary⟩,
  ⟨"start_answer", fun v => hasText v "messageId", .startAnswer⟩,
  ⟨"branch_update", fun v => has v "parentMessageId" && has v "newSibling", .branchUpdate⟩,
  ⟨"title_update", fun v => hasText v "title" && has v "conversationId", .titleUpdate⟩,
  ⟨"sync_available", fun v => hasNumber v "latestSequence" && has v "conversationId",
    .syncAvailable⟩,
  ⟨"configuration", fun v => hasArray v "supportedFeatures", .configuration⟩,
  ⟨"assistant_message", fun v => hasText v "id" && hasText v "content" &&
    ((v.get? "role").bind Value.text? == some "assistant" || has v "reasoning"),
    .assistantMessage⟩,
  ⟨"user_message", fun v => hasText v "id" && hasText v "content", .userMessage⟩]

/-- The first rule that the value fits. Only objects fit any. -/
def matching? (value : Value) : Option ShapeRule :=
  all.find? fun rule => rule.fits value

/-- Whether a value has the shape of an envelope, whatever its type. -/
def isEnvelope (value : Value) : Bool :=
  hasNumber value "stanzaId" && hasNumber value "type" && has value "body" &&
    hasText value "conversationId"

end ShapeRule

namespace Envelope

/-- The conversation that an object names, else the given one. -/
def conversationOf (value : Value) (fallback : String) : String :=
  match value.get? "conversationId" with
  | some (.text id) => if id ≠ "" then id else fallback
  | _ => fallback

/-- The error envelope of a value that no rule fits. -/
def unclassified (value : Value) (fallback : String) : Envelope :=
  .of (conversationOf value fallback) .error (.structured (.ofEntries [
    ("code", .text "unclassified"),
    ("message", .text "payload did not match any known shape"),
    ("payload", value)]))

/-- The envelope of a value by its shape alone. -/
def ofShape (value : Value) (fallback : String) : Envelope :=
  match ShapeRule.matching? value with
  | some rule => .of (conversationOf value fallback) rule.messageType (.structured value)
  | none => unclassified value fallback

/-- The envelope of a value: the one that it is, else the one that its shape belongs to. -/
def classify (value : Value) (fallback : String) : Envelope :=
  if ShapeRule.isEnvelope value then
    match layout.read (.ofValue value) with
    | .ok envelope => envelope
    | .error _ => ofShape value fallback
  else ofShape value fallback

/-- The envelope of a received frame: the one that it holds, else the one that its body belongs to.
A frame that is neither is refused; one that is no value at all, for not being an envelope. -/
def decodeFrame (bytes : Packing.Bytes) (fallback : String) : Except CodecError Envelope :=
  match decode bytes with
  | .ok envelope => .ok envelope
  | .error strict =>
    match (Packing.read bytes).toValue? with
    | none => .error strict
    | some (.object entries) => .ok (classify (.object entries) fallback)
    | some other => .error (.notAMap other.kindName)

end Envelope

end MessageSync
