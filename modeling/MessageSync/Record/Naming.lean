import MessageSync.Wire.Codec

/-!
# Roles and sync states

Who wrote a message, and where the record of it stands relative to the server. Both have names,
which are read in letters of either case where a person or a stored row gives them and exactly where
a message on the wire does.
-/

namespace MessageSync

/-- Who wrote a message. -/
inductive Role where
  | user
  | assistant
  | system
deriving DecidableEq, Inhabited

namespace Role

/-- The name of a role. -/
def name : Role → String
  | .user => "user"
  | .assistant => "assistant"
  | .system => "system"

/-- The roles with their names. -/
def named : List (String × Role) :=
  [.user, .assistant, .system].map fun role => (role.name, role)

/-- The role of a name, in letters of either case. -/
def ofName? (name : String) : Option Role :=
  named.lookup (name.map Char.toLower)

/-- A role on the wire. -/
def codec : Codec Role :=
  .variant named name

end Role

/-- Where a record stands relative to the server. -/
inductive SyncStatus where
  /-- Written here and not acknowledged. -/
  | pending
  /-- The same as the server's record. -/
  | synced
  /-- The server held another version, which replaced the one written here. -/
  | conflict
deriving DecidableEq, Inhabited

namespace SyncStatus

/-- The name of a sync state. -/
def name : SyncStatus → String
  | .pending => "pending"
  | .synced => "synced"
  | .conflict => "conflict"

/-- The sync states with their names. -/
def named : List (String × SyncStatus) :=
  [.pending, .synced, .conflict].map fun status => (status.name, status)

/-- The sync state of a name, in letters of either case. -/
def ofName? (name : String) : Option SyncStatus :=
  named.lookup (name.map Char.toLower)

/-- A sync state on the wire. -/
def codec : Codec SyncStatus :=
  .variant named name

end SyncStatus

end MessageSync
