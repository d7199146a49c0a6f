import MessageSync.Record.LocalId
import MessageSync.Time.Codec
import MessageSync.Wire.Layout

/-!
# Messages

A record of one message in a conversation's log. A record written here has its local id as its id,
no sequence number, and is pending. Once the server acknowledges it, the record takes the server's
id and sequence number and keeps its local id as a second name.
-/

namespace MessageSync

/-- The sequence number of records that the server has not ordered. -/
def unsequenced : Int64 := -1

/-- A message in a conversation's log. -/
structure Message where
  id : String
  conversationId : String
  sequenceNumber : Int64
  role : Role
  contents : String
  createdAt : Moment
  updatedAt : Moment
  localId : Option String
  serverId : Option String
  syncStatus : SyncStatus
  previousId : Option String
deriving DecidableEq, Inhabited

namespace Message

/-- The record of a message just written here, with the local id for the given counter. -/
def newLocal (conversationId : String) (role : Role) (contents : String) (createdAt : Moment)
    (counter : Nat) : Message :=
  let localId := LocalId.generate conversationId contents createdAt counter
  { id := localId
    conversationId
    sequenceNumber := unsequenced
    role
    contents
    createdAt
    updatedAt := createdAt
    localId := some localId
    serverId := none
    syncStatus := .pending
    previousId := none }

/-- The record of a message that the server has ordered. -/
def canonical (id conversationId : String) (sequenceNumber : Int64) (role : Role)
    (contents : String) (createdAt : Moment) : Message :=
  { id
    conversationId
    sequenceNumber
    role
    contents
    createdAt
    updatedAt := createdAt
    localId := none
    serverId := some id
    syncStatus := .synced
    previousId := none }

/-- Whether the server has not acknowledged the record. -/
def isPending (message : Message) : Bool :=
  message.syncStatus == .pending

/-- The id by which the server knows the record. -/
def serverKey (message : Message) : String :=
  message.serverId.getD message.id

/-- The hash of the record's role and contents. -/
def fingerprint (message : Message) : String :=
  Fingerprint.of message.role message.contents

/-- The fields of a record. -/
def layout : Layout Message Message :=
  (Layout.make Message.mk)
    |>.required "id" .text id
    |>.required "conversation_id" .text conversationId
    |>.required "sequence_number" .int64 sequenceNumber
    |>.required "role" Role.codec role
    |>.required "contents" .text contents
    |>.required "created_at" .moment createdAt
    |>.required "updated_at" .moment updatedAt
    |>.optional "local_id" .text localId
    |>.optional "server_id" .text serverId
    |>.required "sync_status" SyncStatus.codec syncStatus
    |>.optional "previous_id" .text previousId

end Message

end MessageSync
