import MessageSync.Record.Naming
import MessageSync.Wire.Envelope

/-!
# Errors of the message log

Why an operation on the log of messages fails, and the names that may be invalid.
-/

namespace MessageSync

/-- A column of a stored row whose text cannot be read back. -/
inductive Unreadable where
  /-- The text names no value of the column. -/
  | name (column text : String)
  /-- The text is no timestamp. -/
  | timestamp (column text : String)
deriving DecidableEq, Inhabited

/-- Why an operation on the log fails. -/
inductive LogError where
  /-- No record has the id. -/
  | notFound (id : String)
  /-- Another record has the id, server id or local id. -/
  | duplicate (id : String)
  | invalidRole (name : String)
  | invalidSyncStatus (name : String)
  | invalidInput (text : String)
  | unreadable (cause : Unreadable)
  | codec (cause : CodecError)
  | corrupted (text : String)
deriving DecidableEq, Inhabited

/-- What is wrong with the text of a column. -/
def Unreadable.message : Unreadable → String
  | .name column text => "invalid value '" ++ text ++ "' in column '" ++ column ++ "'"
  | .timestamp column text => "invalid timestamp '" ++ text ++ "' in column '" ++ column ++ "'"

/-- The text of the error. -/
def LogError.message : LogError → String
  | .notFound id => "message not found: " ++ id
  | .duplicate id =>
    "duplicate message: " ++ id ++
      "\n  hint: a record with this id, server id, or local id already exists"
  | .invalidRole name =>
    "invalid role: '" ++ name ++ "'\n  hint: valid roles are: user, assistant, system"
  | .invalidSyncStatus name =>
    "invalid sync status: '" ++ name ++ "'\n  hint: valid statuses are: pending, synced, conflict"
  | .invalidInput text => text
  | .unreadable cause =>
    "database error: Conversion error from type Text at index: 0, corrupted data: " ++
      cause.message
  | .codec cause => "codec error: " ++ cause.message
  | .corrupted text => "corrupted data: " ++ text

/-- The role of a name. -/
def Role.parse (name : String) : Except LogError Role :=
  match ofName? name with
  | some role => .ok role
  | none => .error (.invalidRole name)

/-- The sync state of a name. -/
def SyncStatus.parse (name : String) : Except LogError SyncStatus :=
  match ofName? name with
  | some status => .ok status
  | none => .error (.invalidSyncStatus name)

end MessageSync
