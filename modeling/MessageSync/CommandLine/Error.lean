import MessageSync.Engine.Error
import MessageSync.Schedule.Coordinator
import MessageSync.Subscription.Registry

/-!
# Errors of the command line

Why a command ends without success. Errors of the log and the engine are shown as they are.
-/

namespace MessageSync

/-- Why a command fails. -/
inductive ClientError where
  | config (text : String)
  /-- There is no place for the store. -/
  | noDataDirectory
  | timeout (awaited : String)
  | log (cause : LogError)
  | engine (cause : EngineError)
  | subscribe (cause : SubscribeError)
  | sync (cause : SyncError)
deriving DecidableEq, Inhabited

/-- The text of the error. -/
def ClientError.message : ClientError → String
  | .config text => "config error: " ++ text
  | .noDataDirectory =>
    "no data directory available\n  hint: set [store] path in the config file"
  | .timeout awaited => "timed out waiting for " ++ awaited
  | .log cause => cause.message
  | .engine cause => cause.message
  | .subscribe cause => "subscribe failed: " ++ cause.message
  | .sync cause => "sync failed: " ++ cause.message

end MessageSync
