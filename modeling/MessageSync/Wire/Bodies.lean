import MessageSync.Record.Message
import MessageSync.Wire.Envelope

/-!
# Typed bodies

The bodies that this client reads and writes. Each is a record; `MessageSync.Envelope.bodyAs` reads
one from an envelope and `Envelope.ofRecord` makes the envelope of one.
-/

namespace MessageSync

/-- The structured value that a record is written as. -/
def Layout.value {ρ α : Type} (layout : Layout ρ α) (record : ρ) : Value :=
  ((layout.write record).toValue?).getD .null

/-- The envelope of a typed body, without stanza number. -/
def Envelope.ofRecord {ρ : Type} (layout : Layout ρ ρ) (conversationId : String)
    (messageType : MessageType) (record : ρ) : Envelope :=
  .of conversationId messageType (.structured (layout.value record))

/-- Asks for the messages of a conversation. -/
structure Subscribe where
  conversationId : String
deriving DecidableEq, Inhabited

def Subscribe.layout : Layout Subscribe Subscribe :=
  (Layout.make Subscribe.mk)
    |>.required "conversationId" .text conversationId

/-- Answers a subscribe. -/
structure SubscribeAck where
  conversationId : String
  success : Bool
  error : Option String
  missedMessages : Option UInt64
deriving DecidableEq, Inhabited

def SubscribeAck.layout : Layout SubscribeAck SubscribeAck :=
  (Layout.make SubscribeAck.mk)
    |>.defaulted "conversationId" .text conversationId ""
    |>.required "success" .bool success
    |>.optional "error" .text error
    |>.optional "missedMessages" .uint64 missedMessages

/-- Ends a subscription. -/
structure Unsubscribe where
  conversationId : String
deriving DecidableEq, Inhabited

def Unsubscribe.layout : Layout Unsubscribe Unsubscribe :=
  (Layout.make Unsubscribe.mk)
    |>.required "conversationId" .text conversationId

/-- Answers an unsubscribe. -/
structure UnsubscribeAck where
  conversationId : String
  success : Bool
deriving DecidableEq, Inhabited

def UnsubscribeAck.layout : Layout UnsubscribeAck UnsubscribeAck :=
  (Layout.make UnsubscribeAck.mk)
    |>.defaulted "conversationId" .text conversationId ""
    |>.required "success" .bool success

/-- The greeting sent on every opened connection, with the highest server stanza seen. -/
structure Configuration where
  supportedFeatures : List String
  lastSeenStanzaId : Int64
  clientVersion : String
deriving DecidableEq, Inhabited

def Configuration.layout : Layout Configuration Configuration :=
  (Layout.make Configuration.mk)
    |>.required "supportedFeatures" (.list .text) supportedFeatures
    |>.required "lastSeenStanzaId" .int64 lastSeenStanzaId
    |>.defaulted "clientVersion" .text clientVersion ""

/-- A message of a user or an assistant. -/
structure ChatMessage where
  id : String
  conversationId : String
  content : String
  role : Option Role
  localId : Option String
  sequenceNumber : Option Int64
  previousId : Option String
  createdAt : Option Moment
  updatedAt : Option Moment
deriving DecidableEq, Inhabited

def ChatMessage.layout : Layout ChatMessage ChatMessage :=
  (Layout.make ChatMessage.mk)
    |>.required "id" .text id
    |>.defaulted "conversationId" .text conversationId ""
    |>.required "content" .text content
    |>.optional "role" Role.codec role
    |>.optional "localId" .text localId
    |>.optional "sequenceNumber" .int64 sequenceNumber
    |>.optional "previousId" .text previousId
    |>.optional "createdAt" .moment createdAt
    |>.optional "updatedAt" .moment updatedAt

/-- The form in which a record is sent. A record without sequence number sends none. -/
def ChatMessage.ofMessage (message : Message) : ChatMessage :=
  { id := message.id
    conversationId := message.conversationId
    content := message.contents
    role := some message.role
    localId := message.localId
    sequenceNumber :=
      if message.sequenceNumber = unsequenced then none else some message.sequenceNumber
    previousId := message.previousId
    createdAt := some message.createdAt
    updatedAt := some message.updatedAt }

/-- The record of a message that the server sent. The envelope's type decides the role of one
without role, and the time of receipt stands in for missing times. -/
def ChatMessage.toMessage (chat : ChatMessage) (defaultRole : Role) (receivedAt : Moment) :
    Message :=
  let createdAt := chat.createdAt.getD receivedAt
  { id := chat.id
    conversationId := chat.conversationId
    sequenceNumber := chat.sequenceNumber.getD unsequenced
    role := chat.role.getD defaultRole
    contents := chat.content
    createdAt
    updatedAt := chat.updatedAt.getD createdAt
    localId := chat.localId
    serverId := some chat.id
    syncStatus := .synced
    previousId := chat.previousId }

/-- A pending record submitted in a sync request. -/
structure PendingMessage where
  localId : String
  role : Role
  contents : String
  createdAt : Moment
  updatedAt : Moment
  previousId : Option String
deriving DecidableEq, Inhabited

def PendingMessage.layout : Layout PendingMessage PendingMessage :=
  (Layout.make PendingMessage.mk)
    |>.required "localId" .text localId
    |>.required "role" Role.codec role
    |>.required "contents" .text contents
    |>.required "createdAt" .moment createdAt
    |>.required "updatedAt" .moment updatedAt
    |>.optional "previousId" .text previousId

/-- The form in which a record is submitted. A record without local id is named by its id. -/
def PendingMessage.ofMessage (message : Message) : PendingMessage :=
  { localId := message.localId.getD message.id
    role := message.role
    contents := message.contents
    createdAt := message.createdAt
    updatedAt := message.updatedAt
    previousId := message.previousId }

/-- Submits the pending records of a conversation. -/
structure SyncRequest where
  conversationId : String
  messages : List PendingMessage
deriving DecidableEq, Inhabited

def SyncRequest.layout : Layout SyncRequest SyncRequest :=
  (Layout.make SyncRequest.mk)
    |>.required "conversationId" .text conversationId
    |>.required "messages" (.list PendingMessage.layout.codec) messages

/-- The request that submits the given records. -/
def SyncRequest.ofPending (conversationId : String) (pending : List Message) : SyncRequest :=
  ⟨conversationId, pending.map PendingMessage.ofMessage⟩

/-- The local ids of the submitted records. -/
def SyncRequest.localIds (request : SyncRequest) : List String :=
  request.messages.map PendingMessage.localId

/-- What the server did with a submitted record. -/
inductive Disposition where
  | synced
  | conflict
deriving DecidableEq, Inhabited

def Disposition.name : Disposition → String
  | .synced => "synced"
  | .conflict => "conflict"

def Disposition.codec : Codec Disposition :=
  .variant [("synced", .synced), ("conflict", .conflict)] name

/-- How the server resolved a conflict. -/
inductive Resolution where
  | serverWins
deriving DecidableEq, Inhabited

def Resolution.codec : Codec Resolution :=
  .variant [("server_wins", .serverWins)] fun _ => "server_wins"

/-- The server's record of a submitted message. -/
structure CanonicalMessage where
  id : String
  conversationId : String
  sequenceNumber : Int64
  role : Role
  contents : String
  createdAt : Moment
  updatedAt : Moment
  previousId : Option String
deriving DecidableEq, Inhabited

def CanonicalMessage.layout : Layout CanonicalMessage CanonicalMessage :=
  (Layout.make CanonicalMessage.mk)
    |>.required "id" .text id
    |>.required "conversationId" .text conversationId
    |>.required "sequenceNumber" .int64 sequenceNumber
    |>.required "role" Role.codec role
    |>.required "contents" .text contents
    |>.required "createdAt" .moment createdAt
    |>.required "updatedAt" .moment updatedAt
    |>.optional "previousId" .text previousId

/-- The record to store for the server's record of a submitted message. -/
def CanonicalMessage.toMessage (canonical : CanonicalMessage) (localId : String)
    (syncStatus : SyncStatus) : Message :=
  { id := canonical.id
    conversationId := canonical.conversationId
    sequenceNumber := canonical.sequenceNumber
    role := canonical.role
    contents := canonical.contents
    createdAt := canonical.createdAt
    updatedAt := canonical.updatedAt
    localId := some localId
    serverId := some canonical.id
    syncStatus
    previousId := canonical.previousId }

/-- The server's answer for one submitted record. -/
structure SyncResult where
  localId : String
  status : Disposition
  message : CanonicalMessage
  resolution : Option Resolution
deriving DecidableEq, Inhabited

def SyncResult.layout : Layout SyncResult SyncResult :=
  (Layout.make SyncResult.mk)
    |>.required "localId" .text localId
    |>.required "status" Disposition.codec status
    |>.required "message" CanonicalMessage.layout.codec message
    |>.optional "resolution" Resolution.codec resolution

/-- Answers a sync request. -/
structure SyncResponse where
  conversationId : String
  results : List SyncResult
  syncedAt : Option Moment
deriving DecidableEq, Inhabited

def SyncResponse.layout : Layout SyncResponse SyncResponse :=
  (Layout.make SyncResponse.mk)
    |>.required "conversationId" .text conversationId
    |>.required "results" (.list SyncResult.layout.codec) results
    |>.optional "syncedAt" .moment syncedAt

/-- Says that the server holds newer messages. -/
structure SyncAvailable where
  conversationId : String
  latestSequence : Int64
deriving DecidableEq, Inhabited

def SyncAvailable.layout : Layout SyncAvailable SyncAvailable :=
  (Layout.make SyncAvailable.mk)
    |>.required "conversationId" .text conversationId
    |>.required "latestSequence" .int64 latestSequence

/-- Reports an error. -/
structure ErrorBody where
  code : String
  message : String
  messageId : Option String
  conversationId : Option String
deriving DecidableEq, Inhabited

def ErrorBody.layout : Layout ErrorBody ErrorBody :=
  (Layout.make ErrorBody.mk)
    |>.required "code" .text code
    |>.required "message" .text message
    |>.optional "messageId" .text messageId
    |>.optional "conversationId" .text conversationId

/-- Gives a conversation a new title. -/
structure TitleUpdate where
  conversationId : String
  title : String
deriving DecidableEq, Inhabited

def TitleUpdate.layout : Layout TitleUpdate TitleUpdate :=
  (Layout.make TitleUpdate.mk)
    |>.required "conversationId" .text conversationId
    |>.required "title" .text title

/-- Says that an answer is complete, or failed. -/
structure GenerationComplete where
  messageId : String
  conversationId : String
  success : Bool
  error : Option String
deriving DecidableEq, Inhabited

def GenerationComplete.layout : Layout GenerationComplete GenerationComplete :=
  (Layout.make GenerationComplete.mk)
    |>.required "messageId" .text messageId
    |>.required "conversationId" .text conversationId
    |>.required "success" .bool success
    |>.optional "error" .text error

end MessageSync
