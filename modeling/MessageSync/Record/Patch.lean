import MessageSync.Record.Message

/-!
# Patches

A patch is a partial change of a record. Fields that it does not set stay as they are.
-/

namespace MessageSync

/-- A partial change of a record. -/
structure MessagePatch where
  sequenceNumber : Option Int64 := none
  role : Option Role := none
  contents : Option String := none
  updatedAt : Option Moment := none
  localId : Option String := none
  serverId : Option String := none
  syncStatus : Option SyncStatus := none
  previousId : Option String := none
deriving DecidableEq, Inhabited

namespace MessagePatch

/-- The patch that makes a record the same as the server's version of it. -/
def adopt (canonical : Message) : MessagePatch :=
  { sequenceNumber := some canonical.sequenceNumber
    role := some canonical.role
    contents := some canonical.contents
    updatedAt := some canonical.updatedAt
    localId := canonical.localId
    serverId := some canonical.serverKey
    syncStatus := some canonical.syncStatus
    previousId := canonical.previousId }

/-- The patch that sets the sync state only. -/
def status (syncStatus : SyncStatus) : MessagePatch :=
  { syncStatus := some syncStatus }

/-- Whether the patch changes nothing. -/
def isEmpty (patch : MessagePatch) : Bool :=
  patch == {}

/-- The record with the fields that the patch sets. -/
def apply (patch : MessagePatch) (message : Message) : Message :=
  { message with
    sequenceNumber := patch.sequenceNumber.getD message.sequenceNumber
    role := patch.role.getD message.role
    contents := patch.contents.getD message.contents
    updatedAt := patch.updatedAt.getD message.updatedAt
    localId := patch.localId.or message.localId
    serverId := patch.serverId.or message.serverId
    syncStatus := patch.syncStatus.getD message.syncStatus
    previousId := patch.previousId.or message.previousId }

/-- The fields of a patch. -/
def layout : Layout MessagePatch MessagePatch :=
  (Layout.make MessagePatch.mk)
    |>.optional "sequence_number" .int64 sequenceNumber
    |>.optional "role" Role.codec role
    |>.optional "contents" .text contents
    |>.optional "updated_at" .moment updatedAt
    |>.optional "local_id" .text localId
    |>.optional "server_id" .text serverId
    |>.optional "sync_status" SyncStatus.codec syncStatus
    |>.optional "previous_id" .text previousId

end MessagePatch

end MessageSync
