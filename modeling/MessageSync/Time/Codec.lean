import MessageSync.Time.Timestamp
import MessageSync.Wire.Codec

/-!
# Moments on the wire

A moment travels as the text of a timestamp, read leniently.
-/

namespace MessageSync

/-- A moment as the text of a timestamp. -/
def Codec.moment : Codec Moment where
  read
    | .text content =>
      match Timestamp.readLenient content with
      | some moment => .ok moment
      | none => .error .mismatch
    | _ => .error .mismatch
  write moment := .text (Timestamp.wireText moment)

end MessageSync
