import MessageSync.Settings.Basic
import MessageSync.Toml.Document
import MessageSync.Toml.Writing

/-!
# Settings as documents

Settings are kept in a document with a table for each section. A document that is read has to be
valid; what it leaves out has its standard value.
-/

namespace MessageSync

namespace Settings

/-- The settings of a document. -/
def ofDocument (document : String) : Except SettingsError Settings := do
  let some entries := Toml.read document | throw .unparsable
  let settings ← (layout.read (Toml.Node.table .header entries).item).mapError fun _ => .unparsable
  settings.validate
  return settings

/-- The settings of a file with the given content, which is `none` if the file cannot be read. -/
def load (content : Option String) : Except SettingsError Settings :=
  match content with
  | some document => ofDocument document
  | none => .error .unreadableFile

/-- The settings of a file with the given content, or the standard ones if there is no file. -/
def loadOrStandard (content : Option String) : Except SettingsError Settings :=
  match content with
  | some document => ofDocument document
  | none => .ok standard

/-- The document of settings. -/
def document (settings : Settings) : String :=
  "\n".intercalate [
    Toml.writtenTable "connection" (ConnectionSettings.layout.fields settings.connection),
    Toml.writtenTable "sync" (SyncSettings.layout.fields settings.sync),
    Toml.writtenTable "store" (StoreSettings.layout.fields settings.store)]

end Settings

end MessageSync
