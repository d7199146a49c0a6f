import MessageSync.Link.Transport

/-!
# Recorded transports

A transport that notes its calls, so that what was asked of it can be told afterwards. It does what
the transport inside it does.
-/

namespace MessageSync

/-- A call of a transport. -/
inductive TransportCall where
  | connect (outcome : ConnectOutcome)
  | send (frame : Packing.Bytes)
  | disconnect
deriving DecidableEq, Inhabited

/-- A transport with the calls of it so far, in order. -/
structure Recorder (τ : Type) where
  inner : τ
  calls : List TransportCall
deriving DecidableEq, Inhabited

namespace Recorder

variable {τ : Type}

/-- The recorder after one more call. -/
def after (recorder : Recorder τ) (call : TransportCall) (inner : τ) : Recorder τ :=
  ⟨inner, recorder.calls ++ [call]⟩

end Recorder

instance {τ : Type} [Transport τ] : Transport (Recorder τ) where
  isConnected recorder := Transport.isConnected recorder.inner
  connect recorder url :=
    let (outcome, inner) := Transport.connect recorder.inner url
    (outcome, recorder.after (.connect outcome) inner)
  send recorder frame :=
    let (sent, inner) := Transport.send recorder.inner frame
    (sent, recorder.after (.send frame) inner)
  disconnect recorder := recorder.after .disconnect (Transport.disconnect recorder.inner)

end MessageSync
