import MessageSync.CommandLine.Arguments

/-!
# Texts of the command line
-/

namespace MessageSync

/-- The text of a refusal. -/
def Refusal.message : Refusal → String
  | .helpAsked => "help requested"
  | .versionAsked => "version requested"
  | .nothingGiven => "no arguments were given"
  | .missingTask => "a command is required: watch or send"
  | .missingArgument => "a required argument is missing"
  | .unknownTask => "unrecognized command"
  | .unknownArgument => "unexpected argument"
  | .missingValue => "a value is required"
  | .invalidNumber => "the value is not a number"
  | .givenTwice => "an option cannot be used more than once"
  | .unwantedValue => "the option takes no value"

/-- How the program is used. -/
def usageText : String :=
  "Local-first message sync client for chat conversations\n\n" ++
  "Usage:\n" ++
  "  watch <CONVERSATION>...        Print messages as they arrive\n" ++
  "  send <CONVERSATION> <TEXT>     Send a message and wait for it to sync\n\n" ++
  "Options:\n" ++
  "  --config <FILE>     Config file\n" ++
  "  --url <URL>         Server URL, overriding the config file\n" ++
  "  --log-file <FILE>   Write logs to a file\n" ++
  "  --timeout <SECS>    Seconds that send waits for the sync (30 unless given)\n" ++
  "  -v, --verbose       Enable debug logging\n" ++
  "  -h, --help          Print help\n" ++
  "  -V, --version       Print version\n"

end MessageSync
