import MessageSync.CommandLine.Help
import MessageSync.CommandLine.Run
import Std.Time.DateTime.Timestamp

/-!
# The program

Reads the command line and the settings file, runs the command and prints how it ended. No transport
over a real socket is part of this library, so no server is reached.
-/

namespace MessageSync.Program

/-- The content of a file, if it can be read. -/
def contentOf (path : String) : IO (Option String) := do
  try
    return some (← IO.FS.readFile path)
  catch _ => return none

/-- A directory of the user, from its variable or below the home directory. -/
def userDirectory (variableName belowHome : String) : IO (Option String) := do
  match ← IO.getEnv variableName with
  | some directory => return some directory
  | none => return (← IO.getEnv "HOME").map (· ++ belowHome)

/-- The present moment of the calendar. -/
def presentMoment : IO Moment := do
  let time ← Std.Time.Timestamp.now
  return (Moment.of? time.toSecondsSinceUnixEpoch.val 0).getD default

/-- Prints a line. -/
def printLine : Line → IO Unit
  | .out text => IO.println text
  | .err text => IO.eprintln text

/-- Carries out an invocation. The result is the exit code. -/
def carryOut (invocation : Invocation) : IO UInt32 := do
  let config ← userDirectory "XDG_CONFIG_HOME" "/.config"
  let usual := config.map (· ++ "/message-sync/config.toml")
  let file ← match invocation.config.or usual with
    | some path => contentOf path
    | none => pure none
  let data ← userDirectory "XDG_DATA_HOME" "/.local/share"
  let store := data.map (· ++ "/message-sync/messages.db")
  match CommandLine.run invocation file store (← presentMoment) with
  | .error _ =>
    IO.eprintln "error: the settings cannot be used"
    return 1
  | .ok report =>
    report.printed.forM printLine
    match report.result with
    | .ok () => return 0
    | .error error =>
      IO.eprintln ("error: " ++ error.message)
      return 1

/-- Runs the program. The result is the exit code. -/
def run (arguments : List String) : IO UInt32 := do
  match CommandLine.read arguments with
  | .ok invocation => carryOut invocation
  | .error .helpAsked | .error .nothingGiven =>
    IO.print usageText
    return 0
  | .error .versionAsked =>
    IO.println clientVersion
    return 0
  | .error refusal =>
    IO.eprintln ("error: " ++ refusal.message)
    return 2

end MessageSync.Program

/-- The program. -/
def main (arguments : List String) : IO UInt32 :=
  MessageSync.Program.run arguments
