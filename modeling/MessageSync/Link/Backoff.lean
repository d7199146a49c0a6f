import MessageSync.Time.Span

/-!
# Reconnect delays

The delay doubles with every attempt, up to a bound.
-/

namespace MessageSync

/-- Twice itself as often as given, as long as that fits 32 bits; the largest such number beyond. -/
def doubling (count : Nat) : Nat :=
  if count < 32 then 1 <<< count else 0xFFFFFFFF

/-- The first delay and the bound of all delays. -/
structure Backoff where
  initial : Millis
  max : Millis
deriving DecidableEq, Inhabited

namespace Backoff

/-- The delays used unless others are given: from one second to half a minute. -/
def standard : Backoff := ⟨1000, 30000⟩

/-- The delay before an attempt, counted from zero. -/
def delay (backoff : Backoff) (attempt : Nat) : Millis :=
  min (backoff.initial * doubling attempt) backoff.max

end Backoff

end MessageSync
