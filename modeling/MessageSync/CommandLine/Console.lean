import MessageSync.CommandLine.Error
import MessageSync.Simulation.Course

/-!
# Consoles

A command runs beside the engine. It makes requests, each of which it waits for, and prints lines.
-/

namespace MessageSync

/-- A line that a command prints. -/
inductive Line where
  | out (text : String)
  /-- A line of the error stream. -/
  | err (text : String)
deriving DecidableEq, Inhabited

/-- The line of a message. -/
def Message.line (message : Message) : Line :=
  .out ("[" ++ message.conversationId ++ "] #" ++ toString message.sequenceNumber.toInt ++ " " ++
    message.id ++ " " ++ message.role.name ++ " (" ++ message.syncStatus.name ++ "): " ++
    message.contents)

/-- The line of an update. -/
def ConversationUpdate.line : ConversationUpdate → Line
  | .title conversationId text => .out ("[" ++ conversationId ++ "] title: " ++ text)
  | .generationComplete conversationId messageId success error =>
    let subject := "[" ++ conversationId ++ "] " ++ messageId
    match success, error with
    | true, _ => .out (subject ++ " complete")
    | false, some error => .out (subject ++ " failed: " ++ error)
    | false, none => .out (subject ++ " failed")
  | .subscriptionLost conversationId reason =>
    .err ("[" ++ conversationId ++ "] subscription lost: " ++ reason)

/-- The line of an event that a listener is told of. Finished sync runs are not printed. -/
def Event.line? : Event → Option Line
  | .message record => some record.line
  | .syncComplete _ => none
  | .update change => some change.line

/-- The line of what the engine puts out, if a listener is told of it. -/
def Output.line? : Output → Option Line
  | .told _ event => event.line?
  | .reply _ _ => none

/-- A command that runs. -/
structure Console (σ τ : Type) where
  course : Course σ τ
  /-- What was printed, in order. -/
  printed : List Line
  /-- How many requests were made. -/
  requests : Nat

/-- What a command does. It ends with its first error. -/
abbrev ConsoleM (σ τ α : Type) := ExceptT ClientError (StateM (Console σ τ)) α

/-- How it ends, and what it leaves. -/
def ConsoleM.runOn {σ τ α : Type} (action : ConsoleM σ τ α) (console : Console σ τ) :
    Except ClientError α × Console σ τ :=
  action console

/-- The answer to a request to write a message. -/
def Reply.written? : Reply → Option (Except EngineError Message)
  | .written result => some result
  | _ => none

/-- The answer to a request for the messages of a conversation. -/
def Reply.listed? : Reply → Option (Except EngineError (List Message))
  | .listed result => some result
  | _ => none

/-- The answer to a request to sync. -/
def Reply.synced? : Reply → Option (Except SyncError SyncSummary)
  | .synced result => some result
  | _ => none

/-- The answer to a request to subscribe. -/
def Reply.subscribed? : Reply → Option (Except SubscribeError SubscribeAck)
  | .subscribed result => some result
  | _ => none

/-- What is put out for a waiter, read as the answer that it waits for. -/
def Output.answer? {α : Type} (waiter : Waiter) (read : Reply → Option α) : Output → Option α
  | .reply answered given => if answered = waiter then read given else none
  | .told _ _ => none

/-- The answer that a waiter of the course has. -/
def Course.answer? {σ τ α : Type} (course : Course σ τ) (waiter : Waiter)
    (read : Reply → Option α) : Option α :=
  course.outputs.findSome? fun output => output.value.answer? waiter read

/-- Whether the connection is open, as something to wait for. -/
def Course.opened? {σ τ : Type} (course : Course σ τ) : Option Unit :=
  if course.engine.status.state = .connected then some () else none

namespace Console

variable {σ τ α ε : Type}

/-- A command before it does anything. -/
def start (course : Course σ τ) : Console σ τ :=
  ⟨course, [], 0⟩

/-- Prints a line. -/
def print (line : Line) : ConsoleM σ τ Unit :=
  modify fun console => { console with printed := console.printed ++ [line] }

/-- Lets something happen to the course, and prints what listeners are told of meanwhile. -/
def onCourse (action : Course σ τ → α × Course σ τ) : ConsoleM σ τ α := do
  let console ← get
  let (result, course) := action console.course
  let news := course.outputs.drop console.course.outputs.length
  let lines := news.filterMap fun output : Timed Output => output.value.line?
  set { console with course, printed := console.printed ++ lines }
  return result

/-- Goes on with a result, or ends with an error. -/
def orFail (error : ε → ClientError) : Except ε α → ConsoleM σ τ α
  | .ok result => return result
  | .error cause => throw (error cause)

variable [MessageLog σ] [Transport τ] [KeepsSent τ]

/-- Waits for something, but not for longer than the given time. -/
def within (limit : Millis) (answer? : Course σ τ → Option α) : ConsoleM σ τ (Option α) :=
  onCourse (·.await answer? limit)

/-- Makes a request, and waits for its answer, but not for longer than the given time. -/
def requestWithin (limit : Millis) (request : Waiter → Command) (read : Reply → Option α) :
    ConsoleM σ τ (Option α) := do
  let waiter := (← get).requests
  modify ({ · with requests := waiter + 1 })
  let _ ← onCourse (·.command (request waiter))
  within limit (·.answer? waiter read)

/-- How long the engine takes to answer a request other than a sync. An attempt to connect may have
to end before it takes the request, and then it may wait for an acknowledgement. -/
def patience (engine : Engine σ τ) : Millis :=
  engine.connectTimeout + engine.registry.timeout

/-- Makes a request, and waits for its answer. If there is none, the engine has stopped. -/
def request (stopped : ε) (request : Waiter → Command) (read : Reply → Option (Except ε α)) :
    ConsoleM σ τ (Except ε α) := do
  let limit := patience (← get).course.engine
  return (← requestWithin limit request read).getD (.error stopped)

/-- Connects, and waits until the connection is open. -/
def waitConnected (limit : Millis) : ConsoleM σ τ Unit := do
  if !(← onCourse (·.command .connect)) then throw (.engine .stopped)
  if (← within limit Course.opened?).isNone then throw (.timeout "connection")

/-- The stored messages of a conversation. -/
def messages (conversationId : String) : ConsoleM σ τ (List Message) := do
  orFail .engine (← request .stopped (.messages conversationId) Reply.listed?)

/-- Stores a message, and sends it if there is a connection. -/
def sendMessage (conversationId contents : String) : ConsoleM σ τ Message := do
  orFail .engine (← request .stopped (.sendMessage conversationId contents) Reply.written?)

/-- Makes a conversation sync, and waits for the end of the run. -/
def syncNow (limit : Millis) (conversationId : String) : ConsoleM σ τ SyncSummary := do
  match ← requestWithin limit (.syncNow conversationId) Reply.synced? with
  | some result => orFail .sync result
  | none => throw (.timeout "sync")

/-- Subscribes to a conversation, and waits for the acknowledgement. -/
def subscribe (conversationId : String) : ConsoleM σ τ SubscribeAck := do
  orFail .subscribe (← request .engineStopped (.subscribe conversationId) Reply.subscribed?)

/-- Registers a listener. -/
def listen (interest : Interest) : ConsoleM σ τ Unit :=
  modify fun console =>
    let engine := console.course.engine
    let listeners := (engine.listeners.register interest).2
    { console with course := { console.course with engine := { engine with listeners } } }

end Console

end MessageSync
