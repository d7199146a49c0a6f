import MessageSync.Wire.Packing

/-!
# Transports

A transport carries frames over one connection at a time. How it does that is left open: the engine
uses any type with these operations.
-/

namespace MessageSync

/-- Why a transport fails. -/
inductive TransportError where
  | connectionFailed (text : String)
  /-- The transport is not connected. -/
  | connectionClosed
  | sendFailed (text : String)
  | receiveFailed (text : String)
deriving DecidableEq, Inhabited

/-- The text of the error. -/
def TransportError.message : TransportError → String
  | .connectionFailed text => "connection failed: " ++ text
  | .connectionClosed => "connection closed"
  | .sendFailed text => "send failed: " ++ text
  | .receiveFailed text => "receive failed: " ++ text

/-- How an attempt to connect goes. -/
inductive ConnectOutcome where
  | opened
  | failed (error : TransportError)
  /-- There is no answer. -/
  | unanswered
deriving DecidableEq, Inhabited

/-- A transport of frames. -/
class Transport (τ : Type) where
  isConnected : τ → Bool
  connect : τ → String → ConnectOutcome × τ
  send : τ → Packing.Bytes → Except TransportError Unit × τ
  disconnect : τ → τ

end MessageSync
