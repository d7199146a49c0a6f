import MessageSync.Time.Calendar

/-!
# Moments

A moment is a point in time with a resolution of one nanosecond. A leap second is a second that
lasts longer: its nanoseconds go on from one to two thousand million.
-/

namespace MessageSync

/-- Seconds since the beginning of 1970, and nanoseconds within the second. Only the last second of
a minute may be a leap second. Moments lie in the years from -262143 to 262142. -/
structure Moment where
  seconds : Int
  nanos : Nat
  nanos_lt : nanos < 2000000000
  leap_last : 1000000000 ≤ nanos → seconds % 60 = 59
  earliest : -8334601228800 ≤ seconds
  latest : seconds ≤ 8210266876799
deriving DecidableEq

namespace Moment

instance : Inhabited Moment := ⟨⟨0, 0, by decide, by decide, by decide, by decide⟩⟩

/-- The moment of a number of seconds and nanoseconds, if there is one. -/
def of? (seconds : Int) (nanos : Nat) : Option Moment :=
  if valid : nanos < 2000000000 ∧ (1000000000 ≤ nanos → seconds % 60 = 59) ∧
      -8334601228800 ≤ seconds ∧ seconds ≤ 8210266876799 then
    some ⟨seconds, nanos, valid.1, valid.2.1, valid.2.2.1, valid.2.2.2⟩
  else none

/-- The order of time. -/
def Before (first second : Moment) : Prop :=
  first.seconds < second.seconds ∨ first.seconds = second.seconds ∧ first.nanos < second.nanos

instance (first second : Moment) : Decidable (first.Before second) :=
  inferInstanceAs (Decidable (_ ∨ _))

/-- The number of the day. -/
def day (moment : Moment) : Int :=
  moment.seconds / 86400

/-- The second of the day, where a leap second counts as the one before it. -/
def secondOfDay (moment : Moment) : Nat :=
  (moment.seconds % 86400).toNat

/-- The calendar year. -/
def year (moment : Moment) : Int :=
  (Calendar.Date.ofDay moment.day).year

/-- The nanoseconds from one moment to another, with the leap second of the one that is earlier in
its day counted in full. -/
def since (later earlier : Moment) : Int :=
  let days := later.day - earlier.day
  let seconds : Int := later.secondOfDay - earlier.secondOfDay
  let leap : Int :=
    if earlier.secondOfDay < later.secondOfDay then
      if 1000000000 ≤ earlier.nanos then 1 else 0
    else if later.secondOfDay < earlier.secondOfDay then
      if 1000000000 ≤ later.nanos then -1 else 0
    else 0
  (days * 86400 + seconds + leap) * 1000000000 + (later.nanos - earlier.nanos)

/-- The distance between two moments in nanoseconds. -/
def distance (first second : Moment) : Int :=
  if second.Before first then first.since second else second.since first

/-- The nanoseconds since the beginning of 1970, or zero when they do not fit 64 bits. -/
def nanosSinceEpoch (moment : Moment) : Int :=
  let total := moment.seconds * 1000000000 + moment.nanos
  if -0x8000000000000000 ≤ total ∧ total < 0x8000000000000000 then total else 0

end Moment

end MessageSync
