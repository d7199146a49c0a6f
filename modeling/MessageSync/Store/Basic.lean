import MessageSync.Record.Patch
import MessageSync.Store.Row

/-!
# The store

A store holds the rows of all conversations under three keys: the id, the server id, and the local
id within a conversation. Every change happens as a whole or not at all.
-/

namespace MessageSync

/-- The rows of all conversations, and the version of the schema that they are stored in. -/
structure Store where
  rows : List Row
  version : Int
deriving DecidableEq, Inhabited

namespace Store

/-- The version of the schema that this library writes. -/
def schemaVersion : Int := 1

/-- A new store. -/
def empty : Store :=
  ⟨[], schemaVersion⟩

/-- No two rows share a key. -/
def UniqueKeys (store : Store) : Prop :=
  store.rows.Pairwise fun first second => ¬first.Clashes second

/-- Brings the schema up to date. A store of a newer version is refused. -/
def migrate (store : Store) : Except LogError Store :=
  if store.version > schemaVersion then
    .error (.corrupted ("database schema version " ++ toString store.version ++
      " is newer than supported version " ++ toString schemaVersion))
  else .ok { store with version := schemaVersion }

/-! ## Queries -/

/-- The record of the first row that the test accepts. -/
def find? (store : Store) (test : Row → Bool) : Except LogError (Option Message) :=
  match store.rows.find? test with
  | some row => row.toMessage.map some
  | none => .ok none

/-- The record with an id. -/
def findById (store : Store) (id : String) : Except LogError (Option Message) :=
  store.find? fun row => row.id == id

/-- The record with a local id in a conversation. -/
def findByLocalId (store : Store) (conversationId localId : String) :
    Except LogError (Option Message) :=
  store.find? fun row => row.conversationId == conversationId && row.localId == some localId

/-- The record with a server id. -/
def findByServerId (store : Store) (serverId : String) : Except LogError (Option Message) :=
  store.find? fun row => row.serverId == some serverId

/-- The records of a conversation, in its order. -/
def findByConversation (store : Store) (conversationId : String) :
    Except LogError (List Message) :=
  ((store.rows.filter fun row => row.conversationId == conversationId).mergeSort
    Row.inConversationOrder).mapM Row.toMessage

/-- The pending records of a conversation, oldest first. -/
def pending (store : Store) (conversationId : String) : Except LogError (List Message) :=
  ((store.rows.filter fun row =>
    row.conversationId == conversationId && row.syncStatus == SyncStatus.pending.name).mergeSort
      Row.inCreationOrder).mapM Row.toMessage

/-- The number of records of a conversation. -/
def count (store : Store) (conversationId : String) : Nat :=
  store.rows.countP fun row => row.conversationId == conversationId

/-- All rows, in the order of their ids. -/
def dump (store : Store) : List Row :=
  store.rows.mergeSort fun first second => first.id ≤ second.id

/-! ## Changes -/

/-- The record with an id, which there must be. -/
def load (store : Store) (id : String) : Except LogError Message := do
  match ← store.findById id with
  | some message => return message
  | none => throw (.notFound id)

/-- Adds a record none of whose keys is taken. -/
def insert (store : Store) (message : Message) : Except LogError Store :=
  let row := Row.ofMessage message
  if store.rows.any fun other => row.Clashes other then .error (.duplicate message.id)
  else .ok { store with rows := store.rows ++ [row] }

/-- Puts a record in the place of the row with the given id, unless another row has one of its
keys. -/
def overwrite (store : Store) (id : String) (message : Message) (blamed : String) :
    Except LogError Store :=
  let row := Row.ofMessage message
  if store.rows.any fun other => other.id ≠ id ∧ row.Clashes other then
    .error (.duplicate blamed)
  else .ok { store with rows := store.rows.map fun other => if other.id = id then row else other }

/-- Adds a record, or puts it in the place of the one with the same id. -/
def upsert (store : Store) (message : Message) : Except LogError Store :=
  if store.rows.any fun row => row.id == message.id then
    store.overwrite message.id message message.id
  else store.insert message

/-- Changes a record. -/
def update (store : Store) (id : String) (patch : MessagePatch) :
    Except LogError (Message × Store) := do
  let message := patch.apply (← store.load id)
  return (message, ← store.overwrite id message id)

/-- Moves references to the old id to the new one. -/
def renamePrevious (store : Store) (oldId newId : String) : Store :=
  { store with rows := store.rows.map (Row.renamePrevious oldId newId) }

/-- Changes a record and gives it a new id. References to the old id follow. -/
def replaceId (store : Store) (oldId newId : String) (patch : MessagePatch) :
    Except LogError (Message × Store) := do
  let message ← store.load oldId
  if newId ≠ oldId ∧ store.rows.any fun row => row.id == newId then
    throw (.duplicate newId)
  let message := { patch.apply message with id := newId }
  let store ← store.overwrite oldId message newId
  return (message, store.renamePrevious oldId newId)

/-- Merges a record into another: the first is removed, its local id goes to the other if that has
none and is in the same conversation, and references to the first follow. -/
def absorb (store : Store) (duplicateId canonicalId : String) :
    Except LogError (Message × Store) := do
  if duplicateId = canonicalId then
    throw (.invalidInput ("cannot absorb message " ++ duplicateId ++ " into itself"))
  let duplicate ← store.load duplicateId
  let canonical ← store.load canonicalId
  let store := { store with rows := store.rows.filter fun row => row.id ≠ duplicateId }
  if canonical.localId.isNone ∧ duplicate.conversationId = canonical.conversationId then
    let canonical := { canonical with localId := duplicate.localId }
    let store ← store.overwrite canonicalId canonical canonicalId
    return (canonical, store.renamePrevious duplicateId canonicalId)
  else
    return (canonical, store.renamePrevious duplicateId canonicalId)

/-- Overwrites a text column of the row with an id. The result also counts the rows touched. -/
def setText (store : Store) (id : String) (column : Row.TextColumn) (text : String) :
    Nat × Store :=
  (store.rows.countP fun row => row.id == id,
    { store with rows := store.rows.map fun row =>
        if row.id = id then row.setText column text else row })

/-- Overwrites the schema version. Versions that do not fit 32 bits become zero. -/
def setVersion (store : Store) (version : Int) : Store :=
  { store with version := if -0x80000000 ≤ version ∧ version < 0x80000000 then version else 0 }

end Store

end MessageSync
