import MessageSync.CommandLine.Arguments
import MessageSync.CommandLine.Console
import MessageSync.Settings.Document
import MessageSync.Simulation.Session

/-!
# Running a command

A command reads its settings, opens the store, starts the engine, carries out its task and stops the
engine again. The store and the transport are those of the host, where it runs.
-/

namespace MessageSync

/-- How long a command waits for the connection. -/
def connectWait : Millis := 30000

/-- What a command finds where it runs. -/
structure Host (σ τ : Type) where
  /-- The content of the settings file, if it can be read. -/
  file : Option String
  /-- Where the store is if the settings do not say it. -/
  usualPath : Option String
  /-- Opens the store at a place. -/
  opens : String → Except LogError σ
  transport : τ
  /-- What the server does, in order. -/
  arrivals : List (Timed Arrival)
  /-- After how long the user ends a command that does not end by itself. -/
  interruptAfter : Millis
  calendar : Moment

/-- How a command ended. -/
structure CommandReport (σ : Type) where
  result : Except ClientError Unit
  elapsed : Millis
  printed : List Line
  /-- The store afterwards and where it is, if it was opened. -/
  store : Option (String × σ)
  /-- The local ids that were given out. -/
  localIds : List String

namespace CommandLine

variable {σ τ : Type}

/-- The settings of an invocation: those of the file with the given content, with the address of the
server from the command line, if it is there. -/
def settingsFor (invocation : Invocation) (file : Option String) :
    Except SettingsError Settings := do
  let settings ←
    if invocation.config.isSome then Settings.load file else Settings.loadOrStandard file
  match invocation.url with
  | none => return settings
  | some url =>
    let settings := { settings with connection := { settings.connection with url } }
    settings.validate
    return settings

/-- The report of a command that failed before there was an engine. -/
def unstarted (error : ClientError) (store : Option (String × σ)) : CommandReport σ :=
  ⟨.error error, 0, [], store, []⟩

variable [MessageLog σ] [Transport τ] [KeepsSent τ]

/-- Prints the messages of the conversations, those that are stored and those that come, until the
user ends it. -/
def watch (interruptAfter : Millis) (conversationIds : List String) : ConsoleM σ τ Unit := do
  for conversationId in conversationIds do
    Console.listen (.messages conversationId)
  Console.listen .updates
  Console.waitConnected connectWait
  for conversationId in conversationIds do
    for message in ← Console.messages conversationId do
      Console.print message.line
    let _ ← Console.subscribe conversationId
  Console.onCourse fun course => ((), course.advance interruptAfter)

/-- Stores a message, syncs its conversation once there is a connection, and prints the message as it
is then stored. -/
def send (conversationId contents : String) (timeout : Nat) : ConsoleM σ τ Unit := do
  let message ← Console.sendMessage conversationId contents
  let localId := message.localId.getD message.id
  Console.waitConnected connectWait
  let _ ← Console.syncNow (timeout * 1000) conversationId
  let stored := (← Console.messages conversationId).find? fun message =>
    message.localId = some localId || message.id = localId
  match stored with
  | some message => Console.print message.line
  | none => Console.print (.out (localId ++ " (absorbed by server copy)"))

/-- Carries out a task. -/
def carryOut (interruptAfter : Millis) : Task → ConsoleM σ τ Unit
  | .watch conversationIds => watch interruptAfter conversationIds
  | .send conversationId contents timeout => send conversationId contents timeout

/-- Runs an invocation. -/
def perform (invocation : Invocation) (host : Host σ τ) : Except StartError (CommandReport σ) := do
  match settingsFor invocation host.file with
  | .error error => return unstarted (.config error.message) none
  | .ok settings =>
    let some path := settings.store.path.or host.usualPath | return unstarted .noDataDirectory none
    match host.opens path with
    | .error error => return unstarted (.log error) none
    | .ok log =>
      match Engine.start settings host.transport log ⟨0, host.calendar⟩ with
      | .error (.invalid error) => return unstarted (.engine error) (some (path, log))
      | .error .unholdableWindow => throw .unholdableWindow
      | .ok engine =>
        let console := Console.start (Course.start engine host.arrivals)
        let (result, console) := (carryOut host.interruptAfter invocation.task).runOn console
        let ended := console.course.shutdown
        return ⟨result, ended.now, console.printed, some (path, ended.engine.log),
          ended.engine.localIds⟩

/-- Runs an invocation where there is no server and no store yet. -/
def run (invocation : Invocation) (file usualPath : Option String) (calendar : Moment) :
    Except StartError (CommandReport Store) :=
  perform invocation {
    file, usualPath, calendar
    opens := fun _ => .ok .empty
    transport := { unreachable := true : ScriptedTransport }
    arrivals := []
    interruptAfter := 0 }

end CommandLine

end MessageSync
