import MessageSync.Record.Message
import MessageSync.Schedule.Coordinator

/-!
# Listeners

Listeners are told of messages and finished sync runs of one conversation, or of changes of any
conversation that are not messages. They are called in the order of their registration.
-/

namespace MessageSync

/-- A change of a conversation that is not a message. -/
inductive ConversationUpdate where
  | title (conversationId title : String)
  | generationComplete (conversationId messageId : String) (success : Bool) (error : Option String)
  /-- The server refused or ended a subscription. -/
  | subscriptionLost (conversationId reason : String)
deriving DecidableEq, Inhabited

/-- What a listener is told. -/
inductive Event where
  | message (message : Message)
  | syncComplete (summary : SyncSummary)
  | update (update : ConversationUpdate)
deriving DecidableEq, Inhabited

/-- What a listener wants to be told. -/
inductive Interest where
  | messages (conversationId : String)
  | syncRuns (conversationId : String)
  | updates
deriving DecidableEq, Inhabited

/-- The number by which a listener is known. It fits into 64 bits for the first `2 ^ 64` listeners. -/
abbrev ListenerId := Nat

/-- The listeners, and the next number. Those of messages and of sync runs are kept by conversation,
those of updates in one list. Every list is in the order of registration. -/
structure Listeners where
  messages : Keyed (List ListenerId)
  syncRuns : Keyed (List ListenerId)
  updates : List ListenerId
  next : ListenerId
deriving DecidableEq, Inhabited

namespace Listeners

/-- No listener, and no number given out. -/
def empty : Listeners := ⟨.empty, .empty, [], 0⟩

/-- Puts a listener at the end of the list of its conversation. -/
def addUnder (conversationId : String) (id : ListenerId) (lists : Keyed (List ListenerId)) :
    Keyed (List ListenerId) :=
  lists.set conversationId ((lists.get? conversationId).getD [] ++ [id])

/-- Registers a listener under a new number. -/
def register (listeners : Listeners) (interest : Interest) : ListenerId × Listeners :=
  let id := listeners.next
  let listeners := { listeners with next := id + 1 }
  match interest with
  | .messages conversationId =>
    (id, { listeners with messages := addUnder conversationId id listeners.messages })
  | .syncRuns conversationId =>
    (id, { listeners with syncRuns := addUnder conversationId id listeners.syncRuns })
  | .updates => (id, { listeners with updates := listeners.updates ++ [id] })

/-- Takes a listener out of a list. The result says whether the list got shorter. -/
def strike (id : ListenerId) (ids : List ListenerId) : Bool × List ListenerId :=
  let kept := ids.filter (· != id)
  (kept.length != ids.length, kept)

/-- Takes a listener out of the lists of all conversations. The result says whether one of them got
shorter. -/
def strikeAll (id : ListenerId) (lists : Keyed (List ListenerId)) :
    Bool × Keyed (List ListenerId) :=
  (lists.values.any fun ids => (strike id ids).1, lists.mapValues fun ids => (strike id ids).2)

/-- Drops the conversations that have no listeners left. -/
def prune (lists : Keyed (List ListenerId)) : Keyed (List ListenerId) :=
  lists.keep fun ids => !ids.isEmpty

/-- Removes a listener. The result says whether it was registered. -/
def remove (listeners : Listeners) (id : ListenerId) : Bool × Listeners :=
  let (ofMessages, messages) := strikeAll id listeners.messages
  let (ofSyncRuns, syncRuns) := strikeAll id listeners.syncRuns
  let (ofUpdates, updates) := strike id listeners.updates
  (ofMessages || ofSyncRuns || ofUpdates,
    { listeners with messages := prune messages, syncRuns := prune syncRuns, updates })

/-- Removes all listeners. Their numbers are not given out again. -/
def clear (listeners : Listeners) : Listeners :=
  { empty with next := listeners.next }

/-- The listeners to be told of an event, in order. -/
def called (listeners : Listeners) : Event → List ListenerId
  | .message message => (listeners.messages.get? message.conversationId).getD []
  | .syncComplete summary => (listeners.syncRuns.get? summary.conversationId).getD []
  | .update _ => listeners.updates

end Listeners

end MessageSync
