import MessageSync.Engine.Basic

/-!
# The engine's connection

What the engine does about the inputs of the connection machine, and how it sends envelopes.

An attempt to connect may get no answer. The engine then waits and takes no other input, until the
attempt's deadline ends it.
-/

namespace MessageSync

namespace Engine

variable {σ τ : Type} [Transport τ]

/-- Whether the transport has an open connection. -/
def linkUp : EngineM σ τ Bool :=
  return Transport.isConnected (← get).transport

/-- Closes the transport. -/
def disconnectTransport : EngineM σ τ Unit :=
  modify fun engine => { engine with transport := Transport.disconnect engine.transport }

/-- Sends an envelope under the next stanza number, which is the result. -/
def dispatch (envelope : Envelope) : EngineM σ τ (Except EngineError Int64) := do
  if !((← isConnected) && (← linkUp)) then return .error .notConnected
  match envelope.validate with
  | .error error => return .error (.codec error)
  | .ok () =>
    let engine ← get
    let (stanza, stanzas) := engine.stanzas.take
    let frame := { envelope with stanzaId := stanza }.frame
    let (sent, transport) := Transport.send engine.transport frame
    set { engine with stanzas, transport }
    match sent with
    | .error error => return .error (.transport error)
    | .ok () => return .ok stanza

/-- Sends a typed body, whether or not that succeeds. -/
def sendRecord {ρ : Type} (layout : Layout ρ ρ) (conversationId : String)
    (messageType : MessageType) (record : ρ) : EngineM σ τ Unit := do
  let _ ← dispatch (.ofRecord layout conversationId messageType record)

/-- Greets the server. -/
def sendHandshake : EngineM σ τ Unit := do
  let engine ← get
  sendRecord Configuration.layout "" .configuration
    ⟨engine.features, engine.stanzas.lastServer, clientVersion⟩

/-- Subscribes to a conversation. -/
def sendSubscribe (conversationId : String) : EngineM σ τ Unit :=
  sendRecord Subscribe.layout conversationId .subscribe ⟨conversationId⟩

/-- Carries out an effect of the connection machine other than opening the transport. -/
def perform : ConnectionEffect → EngineM σ τ Unit
  | .openTransport => return
  | .closeTransport => do
    disconnectTransport
    modify ({ · with stanzas := .start })
  | .scheduleRetry delay => do
    let instant ← now
    modify ({ · with retryAt := some (instant + delay) })
  | .cancelRetry => modify ({ · with retryAt := none })
  | .handshake => sendHandshake
  | .resubscribe => do (← get).registry.retained.forM sendSubscribe
  | .abandonPending => do
    onRegistry fun registry => ((), registry.abandonPending .connectionLost)
    let (abandoned, answers, coordinator) :=
      (← get).coordinator.abandonInFlight .notConnected (← now)
    modify ({ · with coordinator })
    answerSyncs answers
    abandoned.forM publishSyncError
  | .syncAll => do
    let instant ← now
    onCoordinator (·.triggerAll instant)

/-- Takes an input of the connection machine and carries out its effects. The result says whether
the transport is to be opened. -/
def handle (input : ConnectionInput) : EngineM σ τ Bool := do
  let (machine, effects) := (← get).machine.handle input
  modify ({ · with machine })
  publishState
  effects.forM perform
  return effects.contains .openTransport

/-- Takes the outcome of an attempt to connect that failed. -/
def openFailed (reason : String) : EngineM σ τ Unit := do
  setLastError (some reason)
  let _ ← handle .openFailed

/-- Opens the transport. -/
def openTransport : EngineM σ τ Unit := do
  let engine ← get
  let (outcome, transport) := Transport.connect engine.transport engine.url
  set { engine with transport }
  match outcome with
  | .opened =>
    setLastError none
    let _ ← handle .opened
  | .failed error => openFailed error.message
  | .unanswered =>
    let deadline := engine.clock.now + engine.connectTimeout
    modify ({ · with opening := some ⟨deadline, none⟩ })

/-- Takes an input of the connection machine, carries out its effects and opens the transport if it
is to be opened. -/
def apply (input : ConnectionInput) : EngineM σ τ Unit := do
  if ← handle input then openTransport

/-- Ends an attempt to connect that got no answer. The result is the instant of the timer that led
to it, if one did. -/
def abandonOpening (opening : Opening) : EngineM σ τ (Option Instant) := do
  modify ({ · with opening := none })
  disconnectTransport
  let limit := Span.ofMillis (← get).connectTimeout
  openFailed ("connect timed out after " ++ limit.text)
  return opening.timerAt

/-- A failed send breaks the connection without notice, so the machine is told after every input. -/
def noticeBrokenLink : EngineM σ τ Unit := do
  if (← isConnected) && !(← linkUp) then apply .closed

end Engine

end MessageSync
