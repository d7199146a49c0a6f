import MessageSync.Engine.Connection
import MessageSync.Wire.Classify

/-!
# What the engine receives

Messages from the server are merged into the log, and listeners are told of every record that
changed. Frames that cannot be read are dropped.
-/

namespace MessageSync

namespace Engine

variable {σ τ : Type} [MessageLog σ]

/-- Tells listeners of the record with an id, as it is stored. -/
def tellStored (id : String) : EngineM σ τ Unit := do
  match ← onLog (.query (MessageLog.findById · id)) with
  | .ok (some message) => tell (.message message)
  | _ => return

/-- Merges a record into the log, and tells listeners if that changed anything. -/
def ingest (record : Message) : EngineM σ τ (Except LogError Unit) := do
  let window := (← get).window
  match ← onLog (MessageLog.reconcile record window) with
  | .error error => return .error error
  | .ok outcome =>
    if outcome.changed then tellStored outcome.id
    return .ok ()

/-- Takes the acknowledgement of a subscribe. -/
def takeAck (envelope : Envelope) (ack : SubscribeAck) : EngineM σ τ Unit := do
  let ack :=
    if ack.conversationId = "" then { ack with conversationId := envelope.conversationId } else ack
  let instant ← now
  match ← onRegistry (·.acknowledge ack instant) with
  | .rejected reason | .revoked reason =>
    tell (.update (.subscriptionLost ack.conversationId reason))
  | .activated | .confirmed | .ignored => return

/-- Takes a message. One that belongs to no conversation is dropped. -/
def takeChat (envelope : Envelope) (role : Role) (chat : ChatMessage) : EngineM σ τ Unit := do
  let chat :=
    if chat.conversationId = "" then
      { chat with conversationId := envelope.conversation?.getD "" }
    else chat
  if chat.conversationId = "" then return
  let clock := (← get).clock
  let record := chat.toMessage role clock.calendar
  onCoordinator (·.noteActivity record.conversationId clock.now)
  let _ ← ingest record

/-- Merges the results of a sync request into the log, one after the other. Results for records that
were not submitted, or that already had one, are only counted. The error is that of the first record
that could not be merged. -/
def takeResults (submitted : List String) :
    List SyncResult → List String → SyncSummary → EngineM σ τ (Except LogError SyncSummary)
  | [], _, summary => return .ok summary
  | result :: results, applied, summary => do
    if !submitted.contains result.localId || applied.contains result.localId then
      takeResults submitted results applied { summary with ignored := summary.ignored + 1 }
    else
      let applied := result.localId :: applied
      let status : SyncStatus :=
        match result.status with
        | .synced => .synced
        | .conflict => .conflict
      match ← ingest (result.message.toMessage result.localId status) with
      | .error error => return .error error
      | .ok () =>
        match result.status with
        | .synced =>
          takeResults submitted results applied { summary with synced := summary.synced + 1 }
        | .conflict =>
          takeResults submitted results applied { summary with conflicts := summary.conflicts + 1 }

/-- Takes the answer to a sync request. An answer that nobody waits for is ignored. -/
def takeSyncResponse (response : SyncResponse) : EngineM σ τ Unit := do
  let instant ← now
  let conversationId := response.conversationId
  let (submitted, coordinator) := (← get).coordinator.takeInFlight conversationId
  modify ({ · with coordinator })
  match submitted with
  | none => return
  | some submitted =>
    match ← takeResults submitted response.results [] { conversationId } with
    | .error error => failSync conversationId (.store error.message) instant
    | .ok summary => completeSync summary instant

/-- The code of error envelopes that stand for values of no known shape. -/
def unclassifiedCode : String := "unclassified"

/-- Takes an error of the server. It fails the sync request that waits in the conversation. -/
def takeError (envelope : Envelope) (error : ErrorBody) : EngineM σ τ Unit := do
  if error.code = unclassifiedCode then return
  setLastError (some (error.code ++ ": " ++ error.message))
  match error.conversationId.or envelope.conversation? with
  | none => return
  | some conversationId =>
    if (← get).coordinator.isInFlight conversationId then
      failSync conversationId (.server error.message) (← now)

/-- Takes the typed body of an envelope. A body that does not fit the type is dropped. -/
def withBody {ρ : Type} (envelope : Envelope) (layout : Layout ρ ρ) (take : ρ → EngineM σ τ Unit) :
    EngineM σ τ Unit :=
  match envelope.bodyAs layout.codec with
  | .ok body => take body
  | .error _ => return

/-- Takes an envelope. -/
def route (envelope : Envelope) : EngineM σ τ Unit :=
  match envelope.messageType with
  | .subscribeAck => withBody envelope SubscribeAck.layout (takeAck envelope)
  | .userMessage => withBody envelope ChatMessage.layout (takeChat envelope .user)
  | .assistantMessage => withBody envelope ChatMessage.layout (takeChat envelope .assistant)
  | .syncResponse => withBody envelope SyncResponse.layout takeSyncResponse
  | .syncAvailable => withBody envelope SyncAvailable.layout fun available => do
    if (← get).coordinator.isTracked available.conversationId then
      let instant ← now
      onCoordinator (·.trigger available.conversationId instant)
  | .titleUpdate => withBody envelope TitleUpdate.layout fun update =>
    tell (.update (.title update.conversationId update.title))
  | .generationComplete => withBody envelope GenerationComplete.layout fun done =>
    tell (.update (.generationComplete done.conversationId done.messageId done.success done.error))
  | .error => withBody envelope ErrorBody.layout (takeError envelope)
  | _ => return

/-- Takes a frame. -/
def takeFrame (frame : Packing.Bytes) : EngineM σ τ Unit := do
  match Envelope.decodeFrame frame (← get).fallbackConversation with
  | .error _ => return
  | .ok envelope =>
    modify fun engine => { engine with stanzas := engine.stanzas.observe envelope.stanzaId }
    route envelope

end Engine

end MessageSync
