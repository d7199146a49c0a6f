import MessageSync.Link.Backoff

/-!
# When to sync

A conversation syncs at a fixed interval while it is active. When it has been idle for some time,
the interval doubles with every further such time, up to a bound. While the server pushes messages
of the conversation, another interval applies.

Instants need not be whole milliseconds, and neither need idle times. So the interval is also given
for an idle time in nanoseconds, step by step and in numbers of limited width: a step that subtracts
more than there is, divides by zero or gives a number that is too large has no result.
-/

namespace MessageSync

/-- The timing of sync runs. -/
structure SyncPolicy where
  /-- The interval while the conversation is active and nothing is pushed. -/
  baseInterval : Millis
  /-- The interval while the server pushes. -/
  pushInterval : Millis
  /-- The idle time after which the interval starts to double. -/
  idleThreshold : Millis
  maxInterval : Millis
  /-- The delay after the first failed run. -/
  errorBackoffBase : Millis
  errorBackoffMax : Millis
  /-- How long a request waits for its answer. -/
  responseTimeout : Millis
deriving DecidableEq, Inhabited

/-- A quotient, unless the divisor is zero. -/
def quotient? (dividend divisor : Nat) : Option Nat :=
  if divisor = 0 then none else some (dividend / divisor)

/-- A number of at most 128 bits. -/
def wide? (number : Nat) : Option Nat :=
  if number < 0x100000000000000000000000000000000 then some number else none

/-- The number in 32 bits. The largest such number stands for all that are larger. -/
def narrowed (number : Nat) : Nat :=
  min number 0xFFFFFFFF

namespace SyncPolicy

/-- The timing used unless another is given. -/
def standard : SyncPolicy :=
  { baseInterval := 5000
    pushInterval := 30000
    idleThreshold := 30000
    maxInterval := 60000
    errorBackoffBase := 2000
    errorBackoffMax := 60000
    responseTimeout := 15000 }

/-- How often the interval has doubled after an idle time beyond the threshold. -/
def doublings (policy : SyncPolicy) (idle : Millis) : Nat :=
  (idle - policy.idleThreshold) / max policy.idleThreshold 1 + 1

/-- The interval until the next run. -/
def interval (policy : SyncPolicy) (idle : Millis) (pushLive : Bool) : Millis :=
  if pushLive then policy.pushInterval
  else if idle ≤ policy.idleThreshold then policy.baseInterval
  else min (policy.baseInterval * doubling (policy.doublings idle)) policy.maxInterval

/-- The interval without a push, computed step by step. There is none if a step has no result. -/
def interval? (policy : SyncPolicy) (idle : Span) : Option Span := do
  let base := Span.ofMillis policy.baseInterval
  let threshold := Span.ofMillis policy.idleThreshold
  if idle.nanos ≤ threshold.nanos then return base
  let beyond ← idle.minus? threshold
  let thresholds ← quotient? beyond.millis (max threshold.millis 1)
  let doublings ← wide? (thresholds + 1)
  return (base.times (doubling (narrowed doublings))).shorter (Span.ofMillis policy.maxInterval)

end SyncPolicy

end MessageSync
