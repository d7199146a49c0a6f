import MessageSync.Wire.Envelope

/-!
# Stanza numbers

The client numbers its stanzas upwards from one; the server's are negative. The highest magnitude
seen from the server goes into the next greeting, so that the server can go on from there. Both
counts outlive a lost connection and end with an explicit disconnect.
-/

namespace MessageSync

/-- The next number of the client, and the highest magnitude seen from the server. -/
structure StanzaTracker where
  nextClient : Int64
  lastServer : Int64
deriving DecidableEq, Inhabited

namespace StanzaTracker

/-- The counts before the first stanza. -/
def start : StanzaTracker := ⟨1, 0⟩

/-- Takes the next number of the client. The last number there is stays the last. -/
def take (tracker : StanzaTracker) : Int64 × StanzaTracker :=
  let next :=
    if tracker.nextClient = Int64.maxValue then tracker.nextClient else tracker.nextClient + 1
  (tracker.nextClient, { tracker with nextClient := next })

/-- The magnitude of a number, or the largest number there is for the one number that has none. -/
def magnitude (stanza : Int64) : Int64 :=
  if stanza = Int64.minValue then Int64.maxValue else if stanza < 0 then -stanza else stanza

/-- Notes the number of a received stanza, if it is the server's. -/
def observe (tracker : StanzaTracker) (stanza : Int64) : StanzaTracker :=
  if stanza < 0 then
    { tracker with lastServer := max tracker.lastServer (magnitude stanza) }
  else tracker

end StanzaTracker

end MessageSync
