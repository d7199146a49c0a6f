import MessageSync.Record.LogError
import MessageSync.Record.Message

/-!
# Stored rows

A row holds a record as a database does: role, sync state and times are texts, which are read back
when the row is. The fingerprint is stored beside the columns that it is computed from.
-/

namespace MessageSync

/-- A record as stored. -/
structure Row where
  id : String
  conversationId : String
  sequenceNumber : Int64
  role : String
  contents : String
  fingerprint : String
  createdAt : String
  updatedAt : String
  localId : Option String
  serverId : Option String
  syncStatus : String
  previousId : Option String
deriving DecidableEq, Inhabited

namespace Row

/-- The row of a record. -/
def ofMessage (message : Message) : Row :=
  { id := message.id
    conversationId := message.conversationId
    sequenceNumber := message.sequenceNumber
    role := message.role.name
    contents := message.contents
    fingerprint := message.fingerprint
    createdAt := Timestamp.storedText message.createdAt
    updatedAt := Timestamp.storedText message.updatedAt
    localId := message.localId
    serverId := message.serverId
    syncStatus := message.syncStatus.name
    previousId := message.previousId }

/-- The value of a column, or the complaint that it cannot be read. -/
def readColumn {α : Type} (value? : Option α) (cause : Unreadable) : Except LogError α :=
  match value? with
  | some value => .ok value
  | none => .error (.unreadable cause)

/-- The record of a row. The first column that cannot be read decides the error. -/
def toMessage (row : Row) : Except LogError Message := do
  let role ← readColumn (Role.ofName? row.role) (.name "role" row.role)
  let createdAt ← readColumn (Timestamp.readStrict row.createdAt)
    (.timestamp "created_at" row.createdAt)
  let updatedAt ← readColumn (Timestamp.readStrict row.updatedAt)
    (.timestamp "updated_at" row.updatedAt)
  let syncStatus ← readColumn (SyncStatus.ofName? row.syncStatus)
    (.name "sync_status" row.syncStatus)
  return {
    id := row.id
    conversationId := row.conversationId
    sequenceNumber := row.sequenceNumber
    role
    contents := row.contents
    createdAt
    updatedAt
    localId := row.localId
    serverId := row.serverId
    syncStatus
    previousId := row.previousId }

/-- Two rows may not be stored together: they have the same id, the same server id, or the same
local id in one conversation. -/
def Clashes (first second : Row) : Prop :=
  first.id = second.id ∨
  (first.serverId.isSome ∧ first.serverId = second.serverId) ∨
  (first.conversationId = second.conversationId ∧ first.localId.isSome ∧
    first.localId = second.localId)

instance (first second : Row) : Decidable (first.Clashes second) :=
  inferInstanceAs (Decidable (_ ∨ _ ∨ _))

/-- The order of a conversation: rows that the server has ordered by sequence number, then the
others; rows with the same number by the text of their creation time, then by id. -/
def inConversationOrder (first second : Row) : Bool :=
  let unordered (row : Row) : Bool := row.sequenceNumber < 0
  if unordered first != unordered second then unordered second
  else if first.sequenceNumber ≠ second.sequenceNumber then
    first.sequenceNumber < second.sequenceNumber
  else if first.createdAt ≠ second.createdAt then first.createdAt < second.createdAt
  else first.id ≤ second.id

/-- The order of pending rows: by the text of their creation time, then by id. -/
def inCreationOrder (first second : Row) : Bool :=
  if first.createdAt ≠ second.createdAt then first.createdAt < second.createdAt
  else first.id ≤ second.id

/-- The row with a reference to the old id as its predecessor moved to the new one. -/
def renamePrevious (oldId newId : String) (row : Row) : Row :=
  if row.previousId = some oldId then { row with previousId := some newId } else row

/-- A column that holds the text of something. -/
inductive TextColumn where
  | role
  | syncStatus
  | createdAt
  | updatedAt
deriving DecidableEq

/-- The row with other text in a column, whatever it says. -/
def setText (column : TextColumn) (text : String) (row : Row) : Row :=
  match column with
  | .role => { row with role := text }
  | .syncStatus => { row with syncStatus := text }
  | .createdAt => { row with createdAt := text }
  | .updatedAt => { row with updatedAt := text }

end Row

end MessageSync
