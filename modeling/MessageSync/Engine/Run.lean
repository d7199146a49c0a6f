import MessageSync.Engine.Receive
import MessageSync.Engine.Requests

/-!
# Running the engine

The engine takes its inputs one after the other. A timer is due at the earliest of the scheduled
retry, the deadlines of pending subscribes and the times of the sync coordinator.
-/

namespace MessageSync

/-- An input of the engine. -/
inductive Input where
  | command (command : Command)
  | frame (content : Packing.Bytes)
  /-- The server closed the connection. -/
  | closed
  /-- Receiving failed. -/
  | receiveFailed (error : TransportError)
  | timer
  /-- The attempt to connect that has no answer is over. -/
  | openingOver

namespace Engine

variable {σ τ : Type} [MessageLog σ] [Transport τ]

/-- Starts a sync run: sends the pending records, if there are any. -/
def startSync (conversationId : String) (instant : Instant) :
    EngineM σ τ (Except SyncError Unit) := do
  match ← onLog (.query (MessageLog.count · conversationId)) with
  | .error error => return .error (.store error.message)
  | .ok count =>
    onCoordinator (·.noteCount conversationId count instant)
    match ← onLog (.query (MessageLog.pending · conversationId)) with
    | .error error => return .error (.store error.message)
    | .ok [] =>
      completeSync { conversationId } instant
      return .ok ()
    | .ok pending =>
      let request := SyncRequest.ofPending conversationId pending
      let (begun, coordinator) := (← get).coordinator.begin conversationId request.localIds instant
      modify ({ · with coordinator })
      if !begun then return .ok ()
      match ← dispatch (.ofRecord SyncRequest.layout conversationId .syncRequest request) with
      | .error error => return .error (.send error.message)
      | .ok _ => return .ok ()

/-- Runs the sync of a conversation that is due, or puts it off while there is no connection. -/
def runSync (instant : Instant) (conversationId : String) : EngineM σ τ Unit := do
  if ← isConnected then
    match ← startSync conversationId instant with
    | .error error => failSync conversationId error instant
    | .ok () => return
  else
    let live ← pushLive conversationId
    onCoordinator (·.skip conversationId instant live)

/-- Runs the syncs that are due. -/
def runDue : EngineM σ τ Unit := do
  let instant ← now
  ((← get).coordinator.due instant).forM (runSync instant)

/-- What a timer that fired at the given instant ends: subscribes and sync requests that have waited
too long. After that the syncs that are due are run. -/
def finishTimer (firedAt : Instant) : EngineM σ τ Unit := do
  let _ ← onRegistry (·.expire firedAt)
  let coordinator := (← get).coordinator
  let error := SyncError.timeout (.ofMillis coordinator.policy.responseTimeout)
  (coordinator.timedOut firedAt).forM fun conversationId => failSync conversationId error firedAt
  runDue

/-- Takes a timer. -/
def onTimer : EngineM σ τ Unit := do
  let instant ← now
  if (← get).retryAt.any (· ≤ instant) then
    modify ({ · with retryAt := none })
    apply .retryDue
  match (← get).opening with
  | some opening => modify ({ · with opening := some { opening with timerAt := some instant } })
  | none => finishTimer instant

/-- Takes the end of an attempt to connect that got no answer, and goes on with the timer that led
to it. -/
def onOpeningOver : EngineM σ τ Unit := do
  match (← get).opening with
  | none => return
  | some opening =>
    match ← abandonOpening opening with
    | some firedAt => finishTimer firedAt
    | none => return

/-- Takes an input. -/
def take : Input → EngineM σ τ Unit
  | .command command => handleCommand command
  | .frame content => takeFrame content
  | .closed => apply .closed
  | .receiveFailed error => do
    setLastError (some error.message)
    apply .closed
  | .timer => onTimer
  | .openingOver => onOpeningOver

/-- One step of the engine. While an attempt to connect has no answer, the step is not over. -/
def step (input : Input) : EngineM σ τ Unit := do
  take input
  if (← get).opening.isNone then noticeBrokenLink

/-- When the next timer is due. -/
def nextWake (engine : Engine σ τ) : Option Instant :=
  [engine.retryAt, engine.registry.nextDeadline, engine.coordinator.nextWakeup].reduceOption.min?

/-- Stops the engine. Whoever waits is told. -/
def teardown : EngineM σ τ Unit := do
  onRegistry fun registry => ((), registry.abandonPending .engineStopped)
  finishSyncs (·.rejectWaiters .engineStopped)
  modify fun engine => { engine with listeners := engine.listeners.clear }
  disconnectTransport
  modify fun engine => { engine with status := { engine.status with
    state := .disconnected
    epoch := engine.machine.epoch } }

end Engine

end MessageSync
