/-!
# Spans of time

Instants and spans are counted in whole milliseconds. An instant is the time since a fixed
beginning. Where a span is shown, it is in the largest unit of which it has at least one, with as
many decimal places as it needs.

Spans in nanoseconds, and instants to go with them, are held in numbers of limited width. Of what is
computed with them, a multiple that is too long is cut off, and a difference or a deadline that
cannot be held is not there.
-/

namespace MessageSync

/-- Milliseconds since the beginning. -/
abbrev Instant := Nat

/-- A number of milliseconds. -/
abbrev Millis := Nat

/-- A span of time in nanoseconds, as error texts show it. -/
structure Span where
  nanos : Nat
deriving DecidableEq, Inhabited

namespace Span

/-- The span of a number of milliseconds. -/
def ofMillis (millis : Millis) : Span :=
  ⟨millis * 1000000⟩

/-! ## Arithmetic -/

/-- The longest span that can be held: as many seconds as fit 64 bits, and all but one nanosecond of
another. -/
def longest : Span := ⟨0x10000000000000000 * 1000000000 - 1⟩

/-- The span can be held. -/
def IsHeld (span : Span) : Prop :=
  span.nanos ≤ longest.nanos

instance (span : Span) : Decidable span.IsHeld :=
  inferInstanceAs (Decidable (_ ≤ _))

/-- What the span has more than another, unless it has less. -/
def minus? (span other : Span) : Option Span :=
  if other.nanos ≤ span.nanos then some ⟨span.nanos - other.nanos⟩ else none

/-- The whole milliseconds of the span. -/
def millis (span : Span) : Millis :=
  span.nanos / 1000000

/-- A multiple of the span. The longest span stands for all that are longer. -/
def times (span : Span) (factor : Nat) : Span :=
  ⟨min (span.nanos * factor) longest.nanos⟩

/-- The shorter one of two spans. -/
def shorter (first second : Span) : Span :=
  if first.nanos ≤ second.nanos then first else second

/-- The last instant that can be held, in nanoseconds: as many seconds as a signed number of 64 bits
counts, and all but one nanosecond of another. -/
def lastInstant : Nat :=
  0x8000000000000000 * 1000000000 - 1

/-- The instant so long after another, both in nanoseconds, unless it comes after the last one. -/
def deadline? (span : Span) (now : Nat) : Option Nat :=
  if now + span.nanos ≤ lastInstant then some (now + span.nanos) else none

/-! ## Text -/

/-- A decimal fraction of the given number of places, without zeros at its end. -/
def fractionText (places value : Nat) : String :=
  let digits := (toString value).toList
  let all := List.replicate (places - digits.length) '0' ++ digits
  match (all.reverse.dropWhile (· = '0')).reverse with
  | [] => ""
  | kept => "." ++ String.ofList kept

/-- The span in units of the given size, whose parts have the given number of decimal places. -/
def inUnits (span : Span) (size places : Nat) (unit : String) : String :=
  toString (span.nanos / size) ++ fractionText places (span.nanos % size) ++ unit

/-- The text of a span. -/
def text (span : Span) : String :=
  if 1000000000 ≤ span.nanos then span.inUnits 1000000000 9 "s"
  else if 1000000 ≤ span.nanos then span.inUnits 1000000 6 "ms"
  else if 1000 ≤ span.nanos then span.inUnits 1000 3 "µs"
  else span.inUnits 1 0 "ns"

end Span

end MessageSync
