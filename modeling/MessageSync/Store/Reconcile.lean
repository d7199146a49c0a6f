import MessageSync.Store.MessageLog

/-!
# Reconciling canonical records

A record from the server is merged into the log by the first rule that applies.

* A stored record has its server id, as its server id or as its id: nothing is stored. If another
  record has the local id that the server's record names, that one is merged into the first.
* A stored record of the conversation has the local id that it names: that record takes the server
  id and the server's version of its fields.
* It is from a user, and a pending record of the conversation has the same role and contents and was
  written at nearly the same time: that one is taken to be the same message.
* Otherwise it is inserted.
-/

namespace MessageSync

/-- How far apart in time a record and its echo may be, in nanoseconds. Its milliseconds fit 64 bits
with a sign. -/
structure MatchWindow where
  nanos : Int
  holdable : nanos.natAbs ≤ 9223372036854775807 * 1000000
deriving DecidableEq

namespace MatchWindow

/-- The window of a number of seconds, if it can be held. -/
def ofSeconds? (seconds : Int) : Option MatchWindow :=
  if holdable : seconds.natAbs ≤ 9223372036854775 then some ⟨seconds * 1000000000, by omega⟩
  else none

/-- The whole seconds of the window. -/
def seconds (window : MatchWindow) : Int :=
  window.nanos.tdiv 1000000000

theorem seconds_of_ofSeconds? {count : Int} {window : MatchWindow}
    (held : ofSeconds? count = some window) : window.seconds = count := by
  rw [ofSeconds?, Option.dite_none_right_eq_some] at held
  rcases held with ⟨_, held⟩
  cases held
  exact Int.mul_tdiv_cancel _ (by decide)

/-- The window of one minute, which is used unless another is given. -/
def standard : MatchWindow := ⟨60000000000, by decide⟩

instance : Inhabited MatchWindow := ⟨standard⟩

/-- Whether two moments are no further apart than the window. -/
def admits (window : MatchWindow) (first second : Moment) : Bool :=
  first.distance second ≤ window.nanos

end MatchWindow

/-- What reconciling a record did. -/
inductive Outcome where
  /-- Its server id was already stored; a separate local record may have been merged. -/
  | duplicate (id : String) (absorbed : Option String)
  /-- The record with its local id took the server id. -/
  | adoptedLocal (previousId id : String)
  /-- A pending record with the same content took the server id. -/
  | matchedEcho (previousId id : String)
  | inserted (id : String)
deriving DecidableEq, Inhabited

namespace Outcome

/-- The id of the stored record. -/
def id : Outcome → String
  | .duplicate id _ | .adoptedLocal _ id | .matchedEcho _ id | .inserted id => id

/-- Whether what is stored changed. -/
def changed : Outcome → Bool
  | .duplicate _ none => false
  | _ => true

end Outcome

namespace MessageLog

variable {σ : Type} [MessageLog σ]

/-- The record that already has a server id, as its server id or as its id. -/
def findKnown (serverId : String) : LogM σ (Option Message) := do
  match ← LogM.query (findByServerId · serverId) with
  | some found => return some found
  | none => LogM.query (findById · serverId)

/-- The record that has the local id which an incoming record names. -/
def findNamed (incoming : Message) : LogM σ (Option Message) :=
  match incoming.localId with
  | some localId => LogM.query (findByLocalId · incoming.conversationId localId)
  | none => return none

/-- The oldest pending record with the incoming record's role and contents within the window. -/
def findEcho (incoming : Message) (window : MatchWindow) : LogM σ (Option Message) := do
  if incoming.role ≠ .user then return none
  let pending ← LogM.query (MessageLog.pending · incoming.conversationId)
  return pending.find? fun candidate =>
    candidate.role == incoming.role && candidate.contents == incoming.contents &&
      window.admits candidate.createdAt incoming.createdAt

/-- Merges the record that an incoming record names into the stored one that it duplicates. -/
def absorbNamed (incoming existing : Message) (status : SyncStatus) :
    LogM σ (Option String) := do
  match ← findNamed incoming with
  | none => return none
  | some named =>
    if named.id = existing.id then return none
    let _ ← LogM.change (absorb · named.id existing.id)
    if existing.syncStatus ≠ status then
      let _ ← LogM.change (update · existing.id (.status status))
    return some named.id

/-- Merges a record from the server into the log. -/
def reconcile (incoming : Message) (window : MatchWindow) : LogM σ Outcome := do
  let serverId := incoming.serverKey
  let status := if incoming.syncStatus = .pending then .synced else incoming.syncStatus
  let patch := { MessagePatch.adopt incoming with syncStatus := some status }
  match ← findKnown serverId with
  | some existing =>
    return .duplicate existing.id (← absorbNamed incoming existing status)
  | none =>
  match ← findNamed incoming with
  | some named =>
    let _ ← LogM.change (replaceId · named.id serverId patch)
    return .adoptedLocal named.id serverId
  | none =>
  match ← findEcho incoming window with
  | some echo =>
    let patch := { patch with localId := echo.localId }
    let _ ← LogM.change (replaceId · echo.id serverId patch)
    return .matchedEcho echo.id serverId
  | none =>
    let message := { incoming with id := serverId, serverId := some serverId, syncStatus := status }
    LogM.modify (insert · message)
    return .inserted serverId

end MessageLog

end MessageSync
