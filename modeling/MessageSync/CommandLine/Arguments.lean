/-!
# Command-line arguments

A command line names a task. Switches may stand before and after its name; those before it are read
by the program and those after it by the task. What the task reads counts where both have a switch.

A switch that takes a value takes it from the same argument, after an equals sign, or from the next
one. Its value is looked at only when the next argument is taken that is not its value. After two
hyphens all arguments are values.
-/

namespace MessageSync

/-- What the program is to do. -/
inductive Task where
  | watch (conversationIds : List String)
  /-- Send a message and wait for the given number of seconds until it is synced. -/
  | send (conversationId text : String) (timeout : Nat)
deriving DecidableEq, Inhabited

/-- A command line that was read. -/
structure Invocation where
  config : Option String
  url : Option String
  verbose : Bool
  logFile : Option String
  task : Task
deriving DecidableEq, Inhabited

/-- Why a command line is not carried out. -/
inductive Refusal where
  | helpAsked
  | versionAsked
  /-- Nothing was given where something has to be. -/
  | nothingGiven
  | missingTask
  | missingArgument
  | unknownTask
  | unknownArgument
  /-- A switch without the value that it takes. -/
  | missingValue
  /-- A value that is no number. -/
  | invalidNumber
  | givenTwice
  /-- A value for a switch that takes none. -/
  | unwantedValue
deriving DecidableEq, Inhabited

namespace CommandLine

/-- A switch. -/
inductive Switch where
  | config
  | url
  | verbose
  | logFile
  | timeout
  | help
  | version
deriving DecidableEq, Inhabited

/-- Who reads an argument: the program before the name of the task, and then the task. -/
inductive Scope where
  | program
  | watch
  | send
deriving DecidableEq, Inhabited

/-- Whether a switch takes a value. -/
def Switch.takesValue : Switch → Bool
  | .config | .url | .logFile | .timeout => true
  | .verbose | .help | .version => false

namespace Scope

/-- The switch of a long name. -/
def switch? (scope : Scope) : String → Option Switch
  | "config" => some .config
  | "url" => some .url
  | "verbose" => some .verbose
  | "log-file" => some .logFile
  | "help" => some .help
  | "version" => if scope = .program then some .version else none
  | "timeout" => if scope = .send then some .timeout else none
  | _ => none

/-- The switch of a letter. -/
def letterSwitch? (scope : Scope) : Char → Option Switch
  | 'v' => some .verbose
  | 'h' => some .help
  | 'V' => if scope = .program then some .version else none
  | _ => none

/-- How many values there may be, if not any number of them. -/
def capacity : Scope → Option Nat
  | .program => some 0
  | .watch => none
  | .send => some 2

/-- How many values there have to be. -/
def requirement : Scope → Nat
  | .program => 0
  | .watch => 1
  | .send => 2

end Scope

/-- The task of a name. -/
def taskNamed? : String → Option Scope
  | "watch" => some .watch
  | "send" => some .send
  | _ => none

/-- The value of a decimal number of at most 64 bits, which may have a plus sign. -/
def number? (text : String) : Option Nat :=
  let digits :=
    match text.toList with
    | '+' :: rest => rest
    | chars => chars
  let value := digits.foldl (fun value c => value * 10 + (c.toNat - 48)) 0
  if !digits.isEmpty && digits.all Char.isDigit && value < 0x10000000000000000 then some value
  else none

/-- Whether a switch may have a value. -/
def accept (switch : Switch) (value : String) : Except Refusal Unit :=
  match switch with
  | .config | .logFile => if value = "" then .error .missingValue else .ok ()
  | .timeout => if (number? value).isSome then .ok () else .error .invalidNumber
  | _ => .ok ()

/-- The arguments taken so far. -/
structure Reading where
  /-- The switches and their values. -/
  given : List (Switch × String)
  values : List String
  /-- A switch whose value was not looked at, and the value, if it is already there. -/
  pending : Option (Switch × Option String)
  /-- Whether all further arguments are values. -/
  valuesOnly : Bool
deriving DecidableEq, Inhabited

namespace Reading

/-- Nothing taken. -/
def start : Reading := ⟨[], [], none, false⟩

/-- Takes a switch with a value, or with an empty one if it takes none. -/
def give (reading : Reading) (switch : Switch) (value : String) : Except Refusal Reading := do
  if (reading.given.lookup switch).isSome then throw .givenTwice
  accept switch value
  return { reading with given := reading.given ++ [(switch, value)] }

/-- Looks at the value of the pending switch. -/
def resolve (reading : Reading) : Except Refusal Reading :=
  match reading.pending with
  | none => .ok reading
  | some (_, none) => .error .missingValue
  | some (switch, some value) => { reading with pending := none }.give switch value

/-- Takes a switch that takes no value. -/
def flag (reading : Reading) (switch : Switch) : Except Refusal Reading := do
  let reading ← reading.resolve
  match switch with
  | .help => throw .helpAsked
  | .version => throw .versionAsked
  | _ => reading.give switch ""

/-- Takes a switch by its long name, with the value from the same argument, if there is one. -/
def long (scope : Scope) (reading : Reading) (name : String) (value : Option String) :
    Except Refusal Reading :=
  match scope.switch? name, value with
  | none, _ => .error .unknownArgument
  | some switch, some value =>
    if switch.takesValue then do (← reading.resolve).give switch value
    else .error .unwantedValue
  | some switch, none =>
    if switch.takesValue then do
      return { ← reading.resolve with pending := some (switch, none) }
    else reading.flag switch

/-- Takes switches by their letters. -/
def letters (scope : Scope) (reading : Reading) : List Char → Except Refusal Reading
  | [] => .ok reading
  | letter :: rest =>
    match scope.letterSwitch? letter with
    | some switch => do letters scope (← reading.flag switch) rest
    | none => .error .unknownArgument

/-- Takes a value, which is that of the pending switch if it waits for one. -/
def value (scope : Scope) (reading : Reading) (value : String) : Except Refusal Reading :=
  match reading.pending, reading.valuesOnly with
  | some (switch, none), false => .ok { reading with pending := some (switch, some value) }
  | _, _ =>
    if scope.capacity.any (· ≤ reading.values.length) then
      if scope = .program && !(reading.valuesOnly && (taskNamed? value).isSome) then
        .error .unknownTask
      else .error .unknownArgument
    else do
      let reading ← reading.resolve
      return { reading with values := reading.values ++ [value] }

end Reading

/-- The name in an argument that is a switch by its long name, and the value after an equals
sign. -/
def longName? (argument : String) : Option (String × Option String) :=
  match argument.toList with
  | '-' :: '-' :: rest =>
    match rest.span (· != '=') with
    | (name, _ :: value) => some (String.ofList name, some (String.ofList value))
    | (name, []) => some (String.ofList name, none)
  | _ => none

/-- The letters of an argument that is switches by their letters. -/
def letters? (argument : String) : Option (List Char) :=
  match argument.toList with
  | '-' :: letter :: rest => if letter = '-' then none else some (letter :: rest)
  | _ => none

/-- Takes an argument. -/
def take (scope : Scope) (reading : Reading) (argument : String) : Except Refusal Reading :=
  if reading.valuesOnly then reading.value scope argument
  else if argument = "--" then .ok { reading with valuesOnly := true }
  else
    match longName? argument, letters? argument with
    | some (name, value), _ => reading.long scope name value
    | none, some letters => reading.letters scope letters
    | none, none => reading.value scope argument

/-- Whether the argument can name a task: it is none of the values after two hyphens, and not the
value of a switch. -/
def Reading.awaitsTask (reading : Reading) : Bool :=
  !reading.valuesOnly && !reading.pending.any fun switch => switch.2.isNone

/-- What an argument to the program asks for: help about a task or a task itself. -/
def asked? (argument : String) : Option (Option Scope) :=
  if argument = "help" then some none else (taskNamed? argument).map some

/-- The answer to the arguments after the word for help. -/
def helpOn : List String → Refusal
  | [] => .helpAsked
  | [name] => if (asked? name).isSome then .helpAsked else .unknownTask
  | _ => .unknownTask

/-- Takes the arguments of a task. -/
def takeAll (scope : Scope) (arguments : List String) : Except Refusal Reading := do
  let reading ← (← arguments.foldlM (take scope) .start).resolve
  if reading.given.isEmpty && reading.values.isEmpty then throw .nothingGiven
  if reading.values.length < scope.requirement then throw .missingArgument
  return reading

/-- Takes the arguments of the program, up to the name of a task. The result also holds that task
and what it took. -/
def takeProgram (reading : Reading) :
    List String → Except Refusal (Reading × Option (Scope × Reading))
  | [] => .ok (reading, none)
  | argument :: rest => do
    match if reading.awaitsTask then asked? argument else none with
    | some none => throw (helpOn rest)
    | some (some scope) => return (reading, some (scope, ← takeAll scope rest))
    | none => takeProgram (← take .program reading argument) rest

/-- The task that was read. -/
def taskOf (scope : Scope) (reading : Reading) : Task :=
  match scope, reading.values with
  | .send, [conversationId, text] =>
    .send conversationId text (((reading.given.lookup .timeout).bind number?).getD 30)
  | _, values => .watch values

/-- The invocation that arguments stand for. -/
def read (arguments : List String) : Except Refusal Invocation := do
  let (program, found) ← takeProgram .start arguments
  let program ← program.resolve
  match found with
  | none => throw (if program.given.isEmpty then .nothingGiven else .missingTask)
  | some (scope, task) =>
    let last (switch : Switch) := (task.given.lookup switch).or (program.given.lookup switch)
    return {
      config := last .config
      url := last .url
      verbose := (last .verbose).isSome
      logFile := last .logFile
      task := taskOf scope task }

end CommandLine

end MessageSync
