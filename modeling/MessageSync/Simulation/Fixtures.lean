import MessageSync.Link.Transport
import MessageSync.Store.MessageLog

/-!
# A scripted transport and log

A transport in memory, whose attempts to connect and sends can be made to fail, and a store whose
operations can be.
-/

namespace MessageSync

/-- A transport in memory. -/
structure ScriptedTransport where
  connected : Bool := false
  /-- The attempts to connect so far. -/
  attempts : Nat := 0
  /-- Whether every attempt fails. -/
  unreachable : Bool := false
  /-- How many of the next attempts fail. -/
  failingConnects : Nat := 0
  /-- How many of the next attempts get no answer. -/
  unansweredConnects : Nat := 0
  /-- Whether sends fail, and break the connection. -/
  sendsFail : Bool := false
  /-- The frames sent so far. -/
  sent : List Packing.Bytes := []
deriving DecidableEq, Inhabited

namespace ScriptedTransport

/-- How an attempt fails. -/
def refused : ConnectOutcome := .failed (.connectionFailed "connection refused")

/-- One attempt to connect. -/
def connect (transport : ScriptedTransport) : ConnectOutcome × ScriptedTransport :=
  let transport := { transport with attempts := transport.attempts + 1 }
  if transport.unreachable then (refused, transport)
  else if transport.unansweredConnects ≠ 0 then
    (.unanswered, { transport with unansweredConnects := transport.unansweredConnects - 1 })
  else if transport.failingConnects ≠ 0 then
    (refused, { transport with failingConnects := transport.failingConnects - 1 })
  else (.opened, { transport with connected := true })

/-- Sends a frame. -/
def send (transport : ScriptedTransport) (frame : Packing.Bytes) :
    Except TransportError Unit × ScriptedTransport :=
  if !transport.connected then (.error .connectionClosed, transport)
  else if transport.sendsFail then
    (.error (.sendFailed "broken pipe"), { transport with connected := false })
  else (.ok (), { transport with sent := transport.sent ++ [frame] })

/-- Closes the connection. -/
def disconnect (transport : ScriptedTransport) : ScriptedTransport :=
  { transport with connected := false }

end ScriptedTransport

instance : Transport ScriptedTransport where
  isConnected := ScriptedTransport.connected
  connect transport _ := transport.connect
  send := ScriptedTransport.send
  disconnect := ScriptedTransport.disconnect

/-- A store some of whose operations fail. -/
structure FaultyStore where
  store : Store
  /-- The names of the operations that fail. -/
  failing : List String := []
deriving DecidableEq, Inhabited

namespace FaultyStore

/-- Fails if the named operation is to fail. -/
def guarded {α : Type} (log : FaultyStore) (name : String) (run : Except LogError α) :
    Except LogError α :=
  if log.failing.contains name then .error (.invalidInput ("injected " ++ name ++ " failure"))
  else run

/-- The log with the store after a change. -/
def after (log : FaultyStore) (store : Store) : FaultyStore :=
  { log with store }

/-- The result of a change, with the log after it. -/
def afterwards {α : Type} (log : FaultyStore) (done : α × Store) : α × FaultyStore :=
  (done.1, log.after done.2)

end FaultyStore

instance : MessageLog FaultyStore where
  insert log message := log.guarded "insert" ((log.store.insert message).map log.after)
  update log recordId patch :=
    log.guarded "update" ((log.store.update recordId patch).map log.afterwards)
  upsert log message := log.guarded "upsert" ((log.store.upsert message).map log.after)
  findById log recordId := log.guarded "find_by_id" (log.store.findById recordId)
  findByLocalId log conversationId localId :=
    log.guarded "find_by_local_id" (log.store.findByLocalId conversationId localId)
  findByServerId log serverId :=
    log.guarded "find_by_server_id" (log.store.findByServerId serverId)
  findByConversation log conversationId :=
    log.guarded "find_by_conversation" (log.store.findByConversation conversationId)
  replaceId log oldId newId patch :=
    log.guarded "replace_id" ((log.store.replaceId oldId newId patch).map log.afterwards)
  pending log conversationId := log.guarded "get_pending" (log.store.pending conversationId)
  absorb log duplicateId canonicalId :=
    log.guarded "absorb" ((log.store.absorb duplicateId canonicalId).map log.afterwards)
  count log conversationId := log.guarded "count" (.ok (log.store.count conversationId))

end MessageSync
