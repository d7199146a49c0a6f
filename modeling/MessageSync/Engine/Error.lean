import MessageSync.Link.Transport
import MessageSync.Record.LogError

/-!
# Errors of the engine
-/

namespace MessageSync

/-- Why a request to the engine fails. -/
inductive EngineError where
  | stopped
  | notConnected
  | invalidInput (text : String)
  | config (text : String)
  | transport (cause : TransportError)
  | codec (cause : CodecError)
  | log (cause : LogError)
deriving DecidableEq, Inhabited

/-- The text of the error. -/
def EngineError.message : EngineError → String
  | .stopped => "sync engine has stopped"
  | .notConnected => "not connected"
  | .invalidInput text => "invalid input: " ++ text
  | .config text => "invalid engine config: " ++ text
  | .transport cause => cause.message
  | .codec cause => cause.message
  | .log cause => cause.message

end MessageSync
