import MessageSync.Text.Hex
import MessageSync.Wire.Layout
import MessageSync.Wire.MessageType
import MessageSync.Wire.Packing

/-!
# Envelopes

Every frame is an envelope: a message type, the conversation it belongs to, a stanza number and a
body. A body is structured, so that it can be routed before its type is known, or binary, when it
is a packed document of its own.

The sign of a stanza number says who assigned it: negative ones are the server's.
-/

namespace MessageSync

/-- The body of an envelope. -/
inductive Body where
  | structured (value : Value)
  | binary (content : Packing.Bytes)
deriving BEq, Inhabited

namespace Body

/-- An entry of a structured body. -/
def get? (body : Body) (key : String) : Option Value :=
  match body with
  | .structured value => value.get? key
  | .binary _ => none

/-- An item is a structured body when it is a value, and a binary one when it is a run of bytes. -/
def codec : Codec Body where
  read item :=
    match item.toValue?, item with
    | some value, _ => .ok (.structured value)
    | none, .bytes _ content => .ok (.binary content)
    | none, _ => .error .mismatch
  write
    | .structured value => .ofValue value
    | .binary content => .bytes .binary content

end Body

/-- The side of a connection that assigned a stanza number. -/
inductive Origin where
  | client
  | server
deriving DecidableEq

/-- A tagged frame. The trace fields carry a trace context from peer to peer. -/
structure Envelope where
  stanzaId : Int64
  conversationId : String
  messageType : MessageType
  body : Body
  traceId : Option String
  spanId : Option String
  traceFlags : Option UInt8
deriving BEq, Inhabited

/-- Why a frame cannot be written or read. -/
inductive CodecError where
  /-- The bytes are not an envelope. -/
  | frame (reason : ReadError)
  /-- A structured body does not fit the type it is read as. -/
  | body (messageType : MessageType) (reason : ReadError)
  /-- A binary body does not fit the type it is read as. -/
  | packedBody (messageType : MessageType) (reason : ReadError)
  /-- An envelope of this type has to name a conversation. -/
  | missingConversation (messageType : MessageType)
  /-- The frame holds a value of this kind instead of a map. -/
  | notAMap (kind : String)
deriving DecidableEq, Inhabited

/-- The text of the error. -/
def CodecError.message : CodecError → String
  | .frame reason => reason.describe "failed to decode frame"
  | .body type reason => reason.describe ("invalid " ++ type.display ++ " body")
  | .packedBody type reason => reason.describe ("invalid " ++ type.display ++ " binary body")
  | .missingConversation type => type.display ++ " envelope requires a conversation id"
  | .notAMap kind => "frame is not a map (got " ++ kind ++ ")"

namespace Envelope

/-- An envelope without stanza number and trace context. -/
def of (conversationId : String) (messageType : MessageType) (body : Body) : Envelope :=
  ⟨0, conversationId, messageType, body, none, none, none⟩

/-- The fields of an envelope on the wire. -/
def layout : Layout Envelope Envelope :=
  (Layout.make Envelope.mk)
    |>.defaulted "stanzaId" .int64 stanzaId 0
    |>.defaulted "conversationId" .text conversationId ""
    |>.required "type" MessageType.codec messageType
    |>.defaulted "body" Body.codec body (.structured .null)
    |>.optional "trace_id" .text traceId
    |>.optional "span_id" .text spanId
    |>.optional "trace_flags" .uint8 traceFlags

/-- Who assigned the stanza number. -/
def origin (envelope : Envelope) : Origin :=
  if envelope.stanzaId < 0 then .server else .client

/-- The conversation that the envelope refers to: the one it names, else the one that its body
names. -/
def conversation? (envelope : Envelope) : Option String :=
  if envelope.conversationId ≠ "" then some envelope.conversationId
  else
    match envelope.body.get? "conversationId" with
    | some (.text id) => if id ≠ "" then some id else none
    | _ => none

/-- The value of a `traceparent` header, when the trace context is present. -/
def traceparent? (envelope : Envelope) : Option String :=
  match envelope.traceId, envelope.spanId with
  | some trace, some span =>
    if trace ≠ "" ∧ span ≠ "" then
      some ("00-" ++ trace ++ "-" ++ span ++ "-" ++ Hex.encode [envelope.traceFlags.getD 0])
    else none
  | _, _ => none

/-- Refuses an envelope that has to name a conversation and does not. -/
def validate (envelope : Envelope) : Except CodecError Unit :=
  if envelope.messageType.isConversationScoped && envelope.conversationId == "" then
    .error (.missingConversation envelope.messageType)
  else .ok ()

/-- The frame of an envelope, whether or not it is valid. -/
def frame (envelope : Envelope) : Packing.Bytes :=
  Packing.write (layout.write envelope)

/-- The frame of a valid envelope. -/
def encode (envelope : Envelope) : Except CodecError Packing.Bytes := do
  envelope.validate
  return envelope.frame

/-- The envelope that a frame holds. -/
def decode (bytes : Packing.Bytes) : Except CodecError Envelope :=
  (layout.read (Packing.read bytes)).mapError .frame

/-- The body read as a type: a structured one from its value, a binary one from the document it
holds. -/
def bodyAs {α : Type} (envelope : Envelope) (codec : Codec α) : Except CodecError α :=
  match envelope.body with
  | .structured value =>
    (codec.read (.ofValue value)).mapError (.body envelope.messageType)
  | .binary content =>
    (codec.read (Packing.read content)).mapError (.packedBody envelope.messageType)

end Envelope

end MessageSync
