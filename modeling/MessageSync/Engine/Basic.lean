import MessageSync.Engine.Error
import MessageSync.Events.Listeners
import MessageSync.Link.Machine
import MessageSync.Link.Stanzas
import MessageSync.Settings.Basic
import MessageSync.Subscription.Registry

/-!
# The engine

The engine owns the transport, the log and all state of a session. It takes one input at a time: a
command, something received, a timer, or the end of an attempt to connect that nobody answered. Each
input changes the state and may produce output: answers to requests and calls of listeners.

This module has the state and the parts that all inputs use.
-/

namespace MessageSync

/-- A request to the engine. The waiter is told when it is done. -/
inductive Command where
  | connect
  | disconnect (waiter : Waiter)
  | subscribe (conversationId : String) (waiter : Waiter)
  | unsubscribe (conversationId : String) (waiter : Waiter)
  | isSubscribed (conversationId : String) (waiter : Waiter)
  | send (envelope : Envelope) (waiter : Waiter)
  | sendMessage (conversationId contents : String) (waiter : Waiter)
  | syncNow (conversationId : String) (waiter : Waiter)
  | messages (conversationId : String) (waiter : Waiter)
  | networkOnline

/-- The answer to a request. -/
inductive Reply where
  | disconnected (result : Except EngineError Unit)
  | subscribed (result : Except SubscribeError SubscribeAck)
  | flag (result : Except EngineError Bool)
  | sent (result : Except EngineError Int64)
  | written (result : Except EngineError Message)
  | synced (result : Except SyncError SyncSummary)
  | listed (result : Except EngineError (List Message))

/-- The answer to a request that the engine stops before taking, for the one who waits for it. -/
def Command.stopped : Command → Option (Waiter × Reply)
  | .connect | .networkOnline => none
  | .disconnect waiter => some (waiter, .disconnected (.error .stopped))
  | .subscribe _ waiter => some (waiter, .subscribed (.error .engineStopped))
  | .unsubscribe _ waiter | .isSubscribed _ waiter => some (waiter, .flag (.error .stopped))
  | .send _ waiter => some (waiter, .sent (.error .stopped))
  | .sendMessage _ _ waiter => some (waiter, .written (.error .stopped))
  | .syncNow _ waiter => some (waiter, .synced (.error .engineStopped))
  | .messages _ waiter => some (waiter, .listed (.error .stopped))

/-- What the engine puts out. -/
inductive Output where
  | reply (waiter : Waiter) (reply : Reply)
  | told (listener : ListenerId) (event : Event)

/-- What can be seen of the engine at any time. -/
structure EngineStatus where
  state : ConnectionState
  epoch : Nat
  lastError : Option String
  /-- The error of the last sync run of each conversation whose last run failed. -/
  syncErrors : Keyed String
deriving DecidableEq, Inhabited

/-- The readings of the two clocks: the one that timers go by, and the calendar. -/
structure Clock where
  now : Instant
  calendar : Moment
deriving DecidableEq, Inhabited

/-- An attempt to connect that has no answer yet. -/
structure Opening where
  deadline : Instant
  /-- When the timer fired that led to the attempt, if one did. What else is to be done about that
  timer waits for the end of the attempt. -/
  timerAt : Option Instant
deriving DecidableEq, Inhabited

/-- The state of the engine. -/
structure Engine (σ τ : Type) where
  url : String
  features : List String
  fallbackConversation : String
  connectTimeout : Millis
  window : MatchWindow
  transport : τ
  log : σ
  machine : ConnectionMachine
  stanzas : StanzaTracker
  registry : SubscriptionRegistry
  coordinator : SyncCoordinator
  retryAt : Option Instant
  opening : Option Opening
  status : EngineStatus
  listeners : Listeners
  /-- The local ids given out so far, in order. -/
  localIds : List String
  clock : Clock
  /-- What was put out so far, in order. -/
  outputs : List Output

/-- The version that the greeting names. -/
def clientVersion : String := "0.1.0"

/-- Why an engine cannot start. -/
inductive StartError where
  | invalid (error : EngineError)
  /-- The echo window does not fit its type. -/
  | unholdableWindow
deriving DecidableEq

/-- A computation of the engine. -/
abbrev EngineM (σ τ α : Type) := StateM (Engine σ τ) α

namespace Engine

variable {σ τ α : Type}

/-- The engine of valid settings before its first input. -/
def start (settings : Settings) (transport : τ) (log : σ) (clock : Clock) :
    Except StartError (Engine σ τ) := do
  if let .error error := settings.validate then
    throw (.invalid (.config ("config error: " ++ error.message)))
  let some window := settings.sync.window? | throw .unholdableWindow
  return {
    url := settings.connection.url
    features := settings.connection.features
    fallbackConversation := settings.connection.defaultConversation.getD ""
    connectTimeout := settings.connection.connectTimeout
    window
    transport
    log
    machine := .start settings.connection.backoff
    stanzas := .start
    registry := .empty settings.connection.subscribeTimeout
    coordinator := .empty settings.sync.policy
    retryAt := none
    opening := none
    status := ⟨.disconnected, 0, none, .empty⟩
    listeners := .empty
    localIds := []
    clock
    outputs := [] }

/-! ## Output -/

/-- Puts something out. -/
def put (output : Output) : EngineM σ τ Unit :=
  modify fun engine => { engine with outputs := engine.outputs ++ [output] }

/-- Answers a request. -/
def reply (waiter : Waiter) (reply : Reply) : EngineM σ τ Unit :=
  put (.reply waiter reply)

/-- Answers callers that wait for a subscribe. -/
def answerSubscribes (answers : List SubscribeAnswer) : EngineM σ τ Unit :=
  answers.forM fun answer => reply answer.waiter (.subscribed answer.result)

/-- Answers callers that wait for a sync run. -/
def answerSyncs (answers : List SyncAnswer) : EngineM σ τ Unit :=
  answers.forM fun answer => reply answer.waiter (.synced answer.result)

/-- Tells the listeners of an event. -/
def tell (event : Event) : EngineM σ τ Unit := do
  ((← get).listeners.called event).forM fun listener => put (.told listener event)

/-! ## State -/

/-- The present instant. -/
def now : EngineM σ τ Instant :=
  return (← get).clock.now

/-- Whether the connection is open, as far as the connection machine knows. -/
def isConnected : EngineM σ τ Bool :=
  return (← get).machine.isConnected

/-- Runs a computation on the log. -/
def onLog (run : LogM σ α) : EngineM σ τ (Except LogError α) := do
  let (result, log) := run (← get).log
  modify ({ · with log })
  return result

/-- Changes the registry, and answers the callers that this concerns. -/
def onRegistry (change : SubscriptionRegistry → α × List SubscribeAnswer × SubscriptionRegistry) :
    EngineM σ τ α := do
  let (result, answers, registry) := change (← get).registry
  modify ({ · with registry })
  answerSubscribes answers
  return result

/-- Changes the coordinator. -/
def onCoordinator (change : SyncCoordinator → SyncCoordinator) : EngineM σ τ Unit :=
  modify fun engine => { engine with coordinator := change engine.coordinator }

/-- Changes the coordinator, and answers the callers that this concerns. -/
def finishSyncs (change : SyncCoordinator → List SyncAnswer × SyncCoordinator) :
    EngineM σ τ Unit := do
  let (answers, coordinator) := change (← get).coordinator
  modify ({ · with coordinator })
  answerSyncs answers

/-- Sets or removes the error text of the last run of a conversation. -/
def setSyncError (conversationId : String) (error : Option String) : EngineM σ τ Unit :=
  modify fun engine =>
    let errors := engine.status.syncErrors
    let syncErrors :=
      match error with
      | some text => errors.set conversationId text
      | none => errors.erase conversationId
    { engine with status := { engine.status with syncErrors } }

/-- Publishes the error of the last run of a conversation. -/
def publishSyncError (conversationId : String) : EngineM σ τ Unit := do
  let error := (← get).coordinator.lastError? conversationId
  setSyncError conversationId (error.map SyncError.message)

/-- Publishes the last error of the connection. -/
def setLastError (error : Option String) : EngineM σ τ Unit :=
  modify fun engine => { engine with status := { engine.status with lastError := error } }

/-- Publishes the state of the connection. -/
def publishState : EngineM σ τ Unit :=
  modify fun engine =>
    { engine with status := { engine.status with
        state := engine.machine.state
        epoch := engine.machine.epoch } }

/-- Finishes a sync run that failed. -/
def failSync (conversationId : String) (error : SyncError) (instant : Instant) :
    EngineM σ τ Unit := do
  finishSyncs (·.fail conversationId error instant)
  publishSyncError conversationId

/-- Whether the server pushes messages of a conversation. -/
def pushLive (conversationId : String) : EngineM σ τ Bool := do
  let engine ← get
  return engine.machine.isConnected && engine.registry.isSubscribed conversationId

/-- Finishes a sync run that succeeded. -/
def completeSync (summary : SyncSummary) (instant : Instant) : EngineM σ τ Unit := do
  let live ← pushLive summary.conversationId
  tell (.syncComplete summary)
  finishSyncs (·.succeed summary instant live)
  publishSyncError summary.conversationId

end Engine

end MessageSync
