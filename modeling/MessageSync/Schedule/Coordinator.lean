import MessageSync.Keyed
import MessageSync.Schedule.Policy

/-!
# The sync coordinator

The coordinator knows when each tracked conversation is to sync next, and lets at most one request
of a conversation wait for its answer. Building, sending and applying requests is not its work.
-/

namespace MessageSync

/-- Why a sync run fails. -/
inductive SyncError where
  | notConnected
  | send (text : String)
  | timeout (limit : Span)
  | server (text : String)
  | store (text : String)
  | cancelled
  | engineStopped
deriving DecidableEq, Inhabited

/-- The text of the error. -/
def SyncError.message : SyncError → String
  | .notConnected => "not connected"
  | .send text => "failed to send sync request: " ++ text
  | .timeout limit => "no sync response within " ++ limit.text
  | .server text => "server error: " ++ text
  | .store text => "store error: " ++ text
  | .cancelled => "conversation is no longer synced"
  | .engineStopped => "sync engine has stopped"

/-- The result of a sync run: how many items were stored as the server's acknowledgement, how many
as its own version, and how many were not part of the request. -/
structure SyncSummary where
  conversationId : String
  synced : Nat := 0
  conflicts : Nat := 0
  ignored : Nat := 0
deriving DecidableEq, Inhabited

/-- The answer to a caller that waits for a sync run. -/
structure SyncAnswer where
  waiter : Nat
  result : Except SyncError SyncSummary

/-- A request that waits for its answer. -/
structure InFlight where
  deadline : Instant
  localIds : List String
deriving DecidableEq, Inhabited

/-- The schedule of a conversation. -/
structure ConversationSync where
  nextDue : Instant
  lastActivity : Instant
  lastCount : Option Nat
  errorBackoff : Millis
  lastError : Option SyncError
  inFlight : Option InFlight
  waiters : List Nat
deriving DecidableEq, Inhabited

/-- The schedules of all tracked conversations. -/
structure SyncCoordinator where
  policy : SyncPolicy
  conversations : Keyed ConversationSync
deriving DecidableEq, Inhabited

namespace ConversationSync

/-- The schedule of a conversation that was just taken up. -/
def start (policy : SyncPolicy) (now : Instant) : ConversationSync :=
  { nextDue := now + policy.baseInterval
    lastActivity := now
    lastCount := none
    errorBackoff := policy.errorBackoffBase
    lastError := none
    inFlight := none
    waiters := [] }

/-- The same answer to every waiting caller. -/
def answers (conversation : ConversationSync) (result : Except SyncError SyncSummary) :
    List SyncAnswer :=
  conversation.waiters.map fun waiter => ⟨waiter, result⟩

/-- The schedule after a run failed: the next one comes after the present delay, which doubles. -/
def failed (conversation : ConversationSync) (policy : SyncPolicy) (error : SyncError)
    (now : Instant) : ConversationSync :=
  { conversation with
    inFlight := none
    nextDue := now + conversation.errorBackoff
    errorBackoff := min (conversation.errorBackoff * 2) policy.errorBackoffMax
    lastError := some error
    waiters := [] }

/-- The schedule after a run succeeded. -/
def succeeded (conversation : ConversationSync) (policy : SyncPolicy) (now : Instant)
    (pushLive : Bool) : ConversationSync :=
  { conversation with
    inFlight := none
    nextDue := now + policy.interval (now - conversation.lastActivity) pushLive
    errorBackoff := policy.errorBackoffBase
    lastError := none
    waiters := [] }

/-- Whether the conversation is to sync now. -/
def isDue (conversation : ConversationSync) (now : Instant) : Bool :=
  conversation.inFlight.isNone && conversation.nextDue ≤ now

/-- Whether a request has waited too long. -/
def hasTimedOut (conversation : ConversationSync) (now : Instant) : Bool :=
  conversation.inFlight.any fun flight => flight.deadline ≤ now

/-- When something is to happen next. -/
def wakeup (conversation : ConversationSync) : Instant :=
  match conversation.inFlight with
  | some flight => flight.deadline
  | none => conversation.nextDue

end ConversationSync

namespace SyncCoordinator

/-- The coordinator without conversations. -/
def empty (policy : SyncPolicy) : SyncCoordinator :=
  ⟨policy, .empty⟩

/-- The schedule of a conversation. -/
def get? (coordinator : SyncCoordinator) (conversationId : String) : Option ConversationSync :=
  coordinator.conversations.get? conversationId

/-- The coordinator with the schedule of a tracked conversation changed. -/
def change (coordinator : SyncCoordinator) (conversationId : String)
    (f : ConversationSync → ConversationSync) : SyncCoordinator :=
  { coordinator with conversations := coordinator.conversations.change conversationId f }

/-- Takes up a conversation, unless it is tracked. -/
def track (coordinator : SyncCoordinator) (conversationId : String) (now : Instant) :
    SyncCoordinator :=
  match coordinator.get? conversationId with
  | some _ => coordinator
  | none => { coordinator with
      conversations := coordinator.conversations.set conversationId
        (.start coordinator.policy now) }

/-- Drops a conversation. Its callers are told. -/
def untrack (coordinator : SyncCoordinator) (conversationId : String) :
    List SyncAnswer × SyncCoordinator :=
  match coordinator.get? conversationId with
  | some conversation =>
    (conversation.answers (.error .cancelled),
      { coordinator with conversations := coordinator.conversations.erase conversationId })
  | none => ([], coordinator)

/-- Whether a conversation is tracked. -/
def isTracked (coordinator : SyncCoordinator) (conversationId : String) : Bool :=
  coordinator.conversations.contains conversationId

/-- Makes a conversation due at once. -/
def trigger (coordinator : SyncCoordinator) (conversationId : String) (now : Instant) :
    SyncCoordinator :=
  (coordinator.track conversationId now).change conversationId ({ · with nextDue := now })

/-- Makes every tracked conversation due at once. -/
def triggerAll (coordinator : SyncCoordinator) (now : Instant) : SyncCoordinator :=
  { coordinator with
    conversations := coordinator.conversations.mapValues ({ · with nextDue := now }) }

/-- Notes a caller that waits for the next run to finish. -/
def addWaiter (coordinator : SyncCoordinator) (conversationId : String) (waiter : Nat) :
    List SyncAnswer × SyncCoordinator :=
  if coordinator.isTracked conversationId then
    ([], coordinator.change conversationId fun conversation =>
      { conversation with waiters := conversation.waiters ++ [waiter] })
  else ([⟨waiter, .error .notConnected⟩], coordinator)

/-- Notes activity in a conversation. -/
def noteActivity (coordinator : SyncCoordinator) (conversationId : String) (now : Instant) :
    SyncCoordinator :=
  coordinator.change conversationId ({ · with lastActivity := now })

/-- Notes the number of messages of a conversation. A different number is activity. -/
def noteCount (coordinator : SyncCoordinator) (conversationId : String) (count : Nat)
    (now : Instant) : SyncCoordinator :=
  coordinator.change conversationId fun conversation =>
    let differs := conversation.lastCount.any (· ≠ count)
    { conversation with
      lastActivity := if differs then now else conversation.lastActivity
      lastCount := some count }

/-- The conversations that are to sync now, in order. -/
def due (coordinator : SyncCoordinator) (now : Instant) : List String :=
  coordinator.conversations.keysThat fun conversation => conversation.isDue now

/-- When something is to happen next. -/
def nextWakeup (coordinator : SyncCoordinator) : Option Instant :=
  (coordinator.conversations.values.map ConversationSync.wakeup).min?

/-- Whether a request of a conversation waits for its answer. -/
def isInFlight (coordinator : SyncCoordinator) (conversationId : String) : Bool :=
  (coordinator.get? conversationId).any fun conversation => conversation.inFlight.isSome

/-- Notes that a request is sent. The result is false if one already waits, or the conversation is
not tracked. -/
def begin (coordinator : SyncCoordinator) (conversationId : String) (localIds : List String)
    (now : Instant) : Bool × SyncCoordinator :=
  match coordinator.get? conversationId with
  | none => (false, coordinator)
  | some conversation =>
    if conversation.inFlight.isSome then (false, coordinator)
    else
      let flight := ⟨now + coordinator.policy.responseTimeout, localIds.eraseDups⟩
      (true, coordinator.change conversationId ({ · with inFlight := some flight }))

/-- Takes the request that waits for an answer, and gives the local ids that it submitted. -/
def takeInFlight (coordinator : SyncCoordinator) (conversationId : String) :
    Option (List String) × SyncCoordinator :=
  (((coordinator.get? conversationId).bind ConversationSync.inFlight).map InFlight.localIds,
    coordinator.change conversationId ({ · with inFlight := none }))

/-- Puts off a run that cannot take place. -/
def skip (coordinator : SyncCoordinator) (conversationId : String) (now : Instant)
    (pushLive : Bool) : SyncCoordinator :=
  coordinator.change conversationId fun conversation =>
    { conversation with
      nextDue := now + coordinator.policy.interval (now - conversation.lastActivity) pushLive }

/-- Finishes a run that succeeded. -/
def succeed (coordinator : SyncCoordinator) (summary : SyncSummary) (now : Instant)
    (pushLive : Bool) : List SyncAnswer × SyncCoordinator :=
  match coordinator.get? summary.conversationId with
  | some conversation =>
    (conversation.answers (.ok summary),
      coordinator.change summary.conversationId
        (·.succeeded coordinator.policy now pushLive))
  | none => ([], coordinator)

/-- Finishes a run that failed. -/
def fail (coordinator : SyncCoordinator) (conversationId : String) (error : SyncError)
    (now : Instant) : List SyncAnswer × SyncCoordinator :=
  match coordinator.get? conversationId with
  | some conversation =>
    (conversation.answers (.error error),
      coordinator.change conversationId (·.failed coordinator.policy error now))
  | none => ([], coordinator)

/-- The conversations whose requests have waited too long, in order. -/
def timedOut (coordinator : SyncCoordinator) (now : Instant) : List String :=
  coordinator.conversations.keysThat fun conversation => conversation.hasTimedOut now

/-- Finishes, as failed, the runs of the given conversations. -/
def failAll (coordinator : SyncCoordinator) (conversationIds : List String) (error : SyncError)
    (now : Instant) : List SyncAnswer × SyncCoordinator :=
  conversationIds.foldl
    (fun (answers, coordinator) conversationId =>
      let (more, coordinator) := coordinator.fail conversationId error now
      (answers ++ more, coordinator))
    ([], coordinator)

/-- Finishes, as failed, every run whose request waits for its answer. The result also lists their
conversations. -/
def abandonInFlight (coordinator : SyncCoordinator) (error : SyncError) (now : Instant) :
    List String × List SyncAnswer × SyncCoordinator :=
  let abandoned := coordinator.conversations.keysThat fun conversation =>
    conversation.inFlight.isSome
  (abandoned, coordinator.failAll abandoned error now)

/-- Answers every waiting caller and leaves the schedules as they are. -/
def rejectWaiters (coordinator : SyncCoordinator) (error : SyncError) :
    List SyncAnswer × SyncCoordinator :=
  (coordinator.conversations.values.flatMap fun conversation => conversation.answers (.error error),
    { coordinator with
      conversations := coordinator.conversations.mapValues ({ · with waiters := [] }) })

/-- The error of the last run of a conversation, if it failed. -/
def lastError? (coordinator : SyncCoordinator) (conversationId : String) : Option SyncError :=
  (coordinator.get? conversationId).bind ConversationSync.lastError

end SyncCoordinator

end MessageSync
