import MessageSync.Link.Backoff

/-!
# The connection machine

The state of the connection and what happens to it, as a function from a state and an input to a
state and a list of effects. Who runs the machine carries out the effects against a transport.
-/

namespace MessageSync

/-- The state of the connection. -/
inductive ConnectionState where
  | disconnected
  | connecting
  | connected
  /-- Waiting for a further attempt, or making it. -/
  | reconnecting (attempt : Nat)
deriving DecidableEq, Inhabited

namespace ConnectionState

/-- The name of a state. -/
def name : ConnectionState → String
  | .disconnected => "disconnected"
  | .connecting => "connecting"
  | .connected => "connected"
  | .reconnecting _ => "reconnecting"

/-- The text of a state. -/
def display : ConnectionState → String
  | .reconnecting attempt => "reconnecting (attempt " ++ toString attempt ++ ")"
  | state => state.name

end ConnectionState

/-- What happens to the connection. -/
inductive ConnectionInput where
  | connectRequested
  | disconnectRequested
  /-- The transport is open. -/
  | opened
  /-- An attempt to open it failed. -/
  | openFailed
  /-- An open transport closed. -/
  | closed
  /-- The delay before the next attempt is over. -/
  | retryDue
  /-- The network is back. -/
  | networkOnline
deriving DecidableEq, Inhabited

/-- What is to be done about the connection. -/
inductive ConnectionEffect where
  | openTransport
  /-- Close the transport and forget the stanza counters. -/
  | closeTransport
  | scheduleRetry (delay : Millis)
  | cancelRetry
  /-- Greet the server. -/
  | handshake
  /-- Subscribe again to what was subscribed. -/
  | resubscribe
  /-- Give up on subscribes and syncs that wait for an answer. -/
  | abandonPending
  /-- Sync every tracked conversation. -/
  | syncAll
deriving DecidableEq, Inhabited

/-- The connection: its state, the number of the next attempt, how often it was opened, and whether
a further attempt is scheduled. -/
structure ConnectionMachine where
  state : ConnectionState
  attempt : Nat
  /-- It fits into 64 bits for fewer than `2 ^ 64` connections. -/
  epoch : Nat
  retryScheduled : Bool
  backoff : Backoff
deriving DecidableEq, Inhabited

namespace ConnectionMachine

/-- The machine before the first input. -/
def start (backoff : Backoff) : ConnectionMachine :=
  ⟨.disconnected, 0, 0, false, backoff⟩

/-- Whether the connection is open. -/
def isConnected (machine : ConnectionMachine) : Bool :=
  machine.state == .connected

/-- Schedules the next attempt after the delay for it. The count of attempts stays in 32 bits. -/
def scheduleRetry (machine : ConnectionMachine) : ConnectionMachine × ConnectionEffect :=
  let attempt := min (machine.attempt + 1) 0xFFFFFFFF
  ({ machine with attempt, state := .reconnecting attempt, retryScheduled := true },
    .scheduleRetry (machine.backoff.delay machine.attempt))

/-- What an input does. Inputs that do not concern the present state do nothing. -/
def handle (machine : ConnectionMachine) (input : ConnectionInput) :
    ConnectionMachine × List ConnectionEffect :=
  match input, machine.state with
  | .connectRequested, .disconnected => ({ machine with state := .connecting }, [.openTransport])
  | .connectRequested, _ => (machine, [])
  | .disconnectRequested, .disconnected => (machine, [])
  | .disconnectRequested, _ =>
    ({ machine with state := .disconnected, attempt := 0, retryScheduled := false },
      [.cancelRetry, .abandonPending, .closeTransport])
  | .opened, .disconnected => (machine, [.closeTransport])
  | .opened, .connected => (machine, [])
  | .opened, _ =>
    ({ machine with
        state := .connected, attempt := 0, retryScheduled := false, epoch := machine.epoch + 1 },
      [.handshake, .resubscribe, .syncAll])
  | .closed, .connected =>
    let (machine, retry) := machine.scheduleRetry
    (machine, [.abandonPending, retry])
  | .closed, .disconnected | .openFailed, .disconnected | .openFailed, .connected => (machine, [])
  | .closed, _ | .openFailed, _ =>
    if machine.retryScheduled then (machine, [])
    else
      let (machine, retry) := machine.scheduleRetry
      (machine, [retry])
  | .retryDue, .reconnecting _ =>
    if machine.retryScheduled then ({ machine with retryScheduled := false }, [.openTransport])
    else (machine, [])
  | .retryDue, _ => (machine, [])
  | .networkOnline, .reconnecting _ =>
    if machine.retryScheduled then
      ({ machine with attempt := 0, retryScheduled := false, state := .reconnecting 0 },
        [.cancelRetry, .openTransport])
    else (machine, [])
  | .networkOnline, _ => (machine, [])

end ConnectionMachine

end MessageSync
