import MessageSync.Store.Basic

/-!
# Message logs

The operations that the rest of the library needs of a log of messages, so that other logs can stand
in for the store. A change that fails leaves the log as it was.

A sequence of operations is a computation that keeps what was done before the operation that failed.
-/

namespace MessageSync

/-- A log of messages. -/
class MessageLog (σ : Type) where
  insert : σ → Message → Except LogError σ
  update : σ → String → MessagePatch → Except LogError (Message × σ)
  upsert : σ → Message → Except LogError σ
  findById : σ → String → Except LogError (Option Message)
  findByLocalId : σ → String → String → Except LogError (Option Message)
  findByServerId : σ → String → Except LogError (Option Message)
  findByConversation : σ → String → Except LogError (List Message)
  replaceId : σ → String → String → MessagePatch → Except LogError (Message × σ)
  pending : σ → String → Except LogError (List Message)
  absorb : σ → String → String → Except LogError (Message × σ)
  count : σ → String → Except LogError Nat

instance : MessageLog Store where
  insert := Store.insert
  update := Store.update
  upsert := Store.upsert
  findById := Store.findById
  findByLocalId := Store.findByLocalId
  findByServerId := Store.findByServerId
  findByConversation := Store.findByConversation
  replaceId := Store.replaceId
  pending := Store.pending
  absorb := Store.absorb
  count store conversationId := .ok (store.count conversationId)

/-- A computation on a log that may fail, and then keeps the log as it is at that point. -/
abbrev LogM (σ α : Type) := ExceptT LogError (StateM σ) α

namespace LogM

variable {σ α : Type}

/-- Asks the log. -/
def query (question : σ → Except LogError α) : LogM σ α :=
  fun log => (question log, log)

/-- Changes the log, with a result. -/
def change (operation : σ → Except LogError (α × σ)) : LogM σ α :=
  fun log =>
    match operation log with
    | .ok (result, log) => (.ok result, log)
    | .error error => (.error error, log)

/-- Changes the log. -/
def modify (operation : σ → Except LogError σ) : LogM σ Unit :=
  change fun log => (operation log).map fun log => ((), log)

end LogM

end MessageSync
