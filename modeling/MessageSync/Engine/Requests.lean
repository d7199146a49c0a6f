import MessageSync.Engine.Connection

/-!
# The engine's requests

What the engine does about each command. A message is stored before it is sent, so that it is never
lost: if it cannot be sent, it stays pending and goes out with a later sync run.
-/

namespace MessageSync

namespace Engine

variable {σ τ : Type} [MessageLog σ] [Transport τ]

/-- Subscribes to a conversation, for a caller that waits for the acknowledgement. -/
def subscribe (conversationId : String) (waiter : Waiter) : EngineM σ τ Unit := do
  if conversationId = "" then
    reply waiter (.subscribed (.error (.rejected "conversation id is empty")))
  else if !(← isConnected) then
    reply waiter (.subscribed (.error .notConnected))
  else
    let instant ← now
    onCoordinator (·.track conversationId instant)
    let isNew ← onRegistry fun registry =>
      let (isNew, registry) := registry.begin conversationId waiter instant
      (isNew, [], registry)
    if isNew then sendSubscribe conversationId

/-- Stops the sync runs of a conversation without subscription, once nothing of it waits to be
sent. -/
def release (conversationId : String) : EngineM σ τ Unit := do
  if (← get).coordinator.isInFlight conversationId then return
  match ← onLog (.query (MessageLog.pending · conversationId)) with
  | .ok [] =>
    finishSyncs (·.untrack conversationId)
    setSyncError conversationId none
  | _ => return

/-- Ends the subscription of a conversation. The result says whether there was one. -/
def unsubscribe (conversationId : String) : EngineM σ τ Bool := do
  let changed ← onRegistry (·.unsubscribe conversationId)
  if changed then
    if ← isConnected then
      sendRecord Unsubscribe.layout conversationId .unsubscribe ⟨conversationId⟩
    release conversationId
  return changed

/-- A record of a message by the user, under a new local id. -/
def mint (conversationId contents : String) : EngineM σ τ Message := do
  let engine ← get
  let message := Message.newLocal conversationId .user contents engine.clock.calendar
    engine.localIds.length
  set { engine with localIds := engine.localIds ++ [message.id] }
  return message

/-- Stores a message by the user, and sends it if there is a connection. -/
def sendMessage (conversationId contents : String) : EngineM σ τ (Except EngineError Message) := do
  if conversationId = "" then return .error (.invalidInput "conversation id is empty")
  let instant ← now
  let message ← mint conversationId contents
  match ← onLog (.modify (MessageLog.insert · message)) with
  | .error error => return .error (.log error)
  | .ok () =>
    onCoordinator fun coordinator =>
      (coordinator.track conversationId instant).noteActivity conversationId instant
    tell (.message message)
    if ← isConnected then
      sendRecord ChatMessage.layout conversationId .userMessage (.ofMessage message)
    return .ok message

/-- Makes a conversation sync now, for a caller that waits for the end of the run. -/
def syncNow (conversationId : String) (waiter : Waiter) : EngineM σ τ Unit := do
  let instant ← now
  onCoordinator (·.track conversationId instant)
  if !(← isConnected) then
    failSync conversationId .notConnected instant
    reply waiter (.synced (.error .notConnected))
  else
    finishSyncs (·.addWaiter conversationId waiter)
    if !(← get).coordinator.isInFlight conversationId then
      onCoordinator (·.trigger conversationId instant)

/-- Takes a command. -/
def handleCommand : Command → EngineM σ τ Unit
  | .connect => apply .connectRequested
  | .disconnect waiter => do
    apply .disconnectRequested
    reply waiter (.disconnected (.ok ()))
  | .networkOnline => apply .networkOnline
  | .subscribe conversationId waiter => subscribe conversationId waiter
  | .unsubscribe conversationId waiter => do
    reply waiter (.flag (.ok (← unsubscribe conversationId)))
  | .isSubscribed conversationId waiter => do
    reply waiter (.flag (.ok ((← get).registry.isSubscribed conversationId)))
  | .send envelope waiter => do
    reply waiter (.sent (← dispatch envelope))
  | .sendMessage conversationId contents waiter => do
    reply waiter (.written (← sendMessage conversationId contents))
  | .syncNow conversationId waiter => syncNow conversationId waiter
  | .messages conversationId waiter => do
    let result ← onLog (.query (MessageLog.findByConversation · conversationId))
    reply waiter (.listed (result.mapError .log))

end Engine

end MessageSync
