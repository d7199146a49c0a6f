import MessageSync.Wire.Codec

/-!
# Message types

Every envelope says what its body is by a numeric code. Codes outside the table are kept as they
are, so that envelopes of newer peers still pass through.
-/

namespace MessageSync

/-- What an envelope's body is. -/
inductive MessageType where
  | error
  | userMessage
  | assistantMessage
  | audioChunk
  | reasoningStep
  | toolUseRequest
  | toolUseResult
  | ack
  | transcription
  | controlStop
  | controlVariation
  | configuration
  | startAnswer
  | memoryTrace
  | commentary
  | assistantSentence
  | syncRequest
  | syncResponse
  | syncAvailable
  | generationRequest
  | thinkingSummary
  | titleUpdate
  | subscribe
  | unsubscribe
  | subscribeAck
  | unsubscribeAck
  | branchUpdate
  | voiceJoinRequest
  | voiceJoinAck
  | voiceLeaveRequest
  | voiceLeaveAck
  | voiceStatus
  | voiceSpeaking
  | preferencesUpdate
  | assistantToolsRegister
  | assistantToolsAck
  | assistantHeartbeat
  | generationComplete
  /-- A code outside the table. -/
  | unknown (code : UInt16)
deriving DecidableEq, Inhabited

namespace MessageType

/-- Every known type, in the order of the codes. -/
def all : List MessageType := [
  .error, .userMessage, .assistantMessage, .audioChunk, .reasoningStep, .toolUseRequest,
  .toolUseResult, .ack, .transcription, .controlStop, .controlVariation, .configuration,
  .startAnswer, .memoryTrace, .commentary, .assistantSentence, .syncRequest, .syncResponse,
  .syncAvailable, .generationRequest, .thinkingSummary, .titleUpdate, .subscribe, .unsubscribe,
  .subscribeAck, .unsubscribeAck, .branchUpdate, .voiceJoinRequest, .voiceJoinAck,
  .voiceLeaveRequest, .voiceLeaveAck, .voiceStatus, .voiceSpeaking, .preferencesUpdate,
  .assistantToolsRegister, .assistantToolsAck, .assistantHeartbeat, .generationComplete]

/-- The code of a type. -/
def code : MessageType → UInt16
  | .error => 1
  | .userMessage => 2
  | .assistantMessage => 3
  | .audioChunk => 4
  | .reasoningStep => 5
  | .toolUseRequest => 6
  | .toolUseResult => 7
  | .ack => 8
  | .transcription => 9
  | .controlStop => 10
  | .controlVariation => 11
  | .configuration => 12
  | .startAnswer => 13
  | .memoryTrace => 14
  | .commentary => 15
  | .assistantSentence => 16
  | .syncRequest => 17
  | .syncResponse => 18
  | .syncAvailable => 19
  | .generationRequest => 33
  | .thinkingSummary => 34
  | .titleUpdate => 35
  | .subscribe => 40
  | .unsubscribe => 41
  | .subscribeAck => 42
  | .unsubscribeAck => 43
  | .branchUpdate => 50
  | .voiceJoinRequest => 51
  | .voiceJoinAck => 52
  | .voiceLeaveRequest => 53
  | .voiceLeaveAck => 54
  | .voiceStatus => 55
  | .voiceSpeaking => 56
  | .preferencesUpdate => 60
  | .assistantToolsRegister => 70
  | .assistantToolsAck => 71
  | .assistantHeartbeat => 72
  | .generationComplete => 80
  | .unknown code => code

/-- The type of a code. -/
def ofCode (code : UInt16) : MessageType :=
  (all.find? fun known => known.code == code).getD (.unknown code)

/-- The name of a type, the same for all unknown ones. -/
def name : MessageType → String
  | .error => "error"
  | .userMessage => "user_message"
  | .assistantMessage => "assistant_message"
  | .audioChunk => "audio_chunk"
  | .reasoningStep => "reasoning_step"
  | .toolUseRequest => "tool_use_request"
  | .toolUseResult => "tool_use_result"
  | .ack => "ack"
  | .transcription => "transcription"
  | .controlStop => "control_stop"
  | .controlVariation => "control_variation"
  | .configuration => "configuration"
  | .startAnswer => "start_answer"
  | .memoryTrace => "memory_trace"
  | .commentary => "commentary"
  | .assistantSentence => "assistant_sentence"
  | .syncRequest => "sync_request"
  | .syncResponse => "sync_response"
  | .syncAvailable => "sync_available"
  | .generationRequest => "generation_request"
  | .thinkingSummary => "thinking_summary"
  | .titleUpdate => "title_update"
  | .subscribe => "subscribe"
  | .unsubscribe => "unsubscribe"
  | .subscribeAck => "subscribe_ack"
  | .unsubscribeAck => "unsubscribe_ack"
  | .branchUpdate => "branch_update"
  | .voiceJoinRequest => "voice_join_request"
  | .voiceJoinAck => "voice_join_ack"
  | .voiceLeaveRequest => "voice_leave_request"
  | .voiceLeaveAck => "voice_leave_ack"
  | .voiceStatus => "voice_status"
  | .voiceSpeaking => "voice_speaking"
  | .preferencesUpdate => "preferences_update"
  | .assistantToolsRegister => "assistant_tools_register"
  | .assistantToolsAck => "assistant_tools_ack"
  | .assistantHeartbeat => "assistant_heartbeat"
  | .generationComplete => "generation_complete"
  | .unknown _ => "unknown"

/-- The text of a type: its name, with the code if it is unknown. -/
def display : MessageType → String
  | .unknown code => "unknown(" ++ toString code.toNat ++ ")"
  | known => known.name

/-- Whether an envelope of this type has to name a conversation. -/
def isConversationScoped : MessageType → Bool
  | .userMessage | .assistantMessage | .reasoningStep | .toolUseRequest | .toolUseResult
  | .startAnswer | .memoryTrace | .assistantSentence | .syncRequest | .syncResponse
  | .syncAvailable | .generationRequest | .thinkingSummary | .titleUpdate | .subscribe
  | .unsubscribe | .subscribeAck | .unsubscribeAck | .branchUpdate | .generationComplete => true
  | _ => false

/-- Not an unknown type with the code of a known one. -/
def IsNormal (type : MessageType) : Prop :=
  ofCode type.code = type

instance (type : MessageType) : Decidable type.IsNormal :=
  inferInstanceAs (Decidable (_ = _))

/-- A type on the wire is its code. -/
def codec : Codec MessageType where
  read item := (Codec.uint16.read item).map ofCode
  write type := Codec.uint16.write type.code

end MessageType

end MessageSync
