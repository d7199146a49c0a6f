import MessageSync.Text.Blank
import MessageSync.Time.Moment

/-!
# Timestamps

The text of a moment after RFC 3339. Texts are written in universal time, with no more digits of a
second than needed in groups of three, and years outside of 0 to 9999 with their sign. There are two
readers: a strict one for stored texts, and a lenient one for texts from elsewhere, which also takes
one-digit fields, white space in some places, signed years and other forms of the offset.
-/

namespace MessageSync

namespace Timestamp

/-! ## Writing -/

/-- A number in decimal, with zeros in front up to the given width. -/
def padded (width value : Nat) : String :=
  let digits := toString value
  String.ofList (List.replicate (width - digits.length) '0') ++ digits

/-- A year: four digits from 0 to 9999, else a sign and at least four digits. -/
def yearText (year : Int) : String :=
  if 0 ≤ year ∧ year ≤ 9999 then padded 4 year.toNat
  else (if year < 0 then "-" else "+") ++ padded 4 year.natAbs

/-- The fraction of a second: none, or three, six or nine digits. -/
def fractionText (nanos : Nat) : String :=
  if nanos = 0 then ""
  else if nanos % 1000000 = 0 then "." ++ padded 3 (nanos / 1000000)
  else if nanos % 1000 = 0 then "." ++ padded 6 (nanos / 1000)
  else "." ++ padded 9 nanos

/-- The text of a moment in universal time, which the given text stands for. -/
def write (zone : String) (moment : Moment) : String :=
  let date := Calendar.Date.ofDay moment.day
  let second := moment.secondOfDay % 60 + moment.nanos / 1000000000
  yearText date.year ++ "-" ++ padded 2 date.month ++ "-" ++ padded 2 date.day ++ "T" ++
    padded 2 (moment.secondOfDay / 3600) ++ ":" ++ padded 2 (moment.secondOfDay / 60 % 60) ++ ":" ++
    padded 2 second ++ fractionText (moment.nanos % 1000000000) ++ zone

/-- The text of a moment in messages. -/
def wireText : Moment → String := write "Z"

/-- The text of a moment in stored rows. -/
def storedText : Moment → String := write "+00:00"

/-! ## Parts of a timestamp -/

/-- A reader of part of a text: what was read and the characters after it. -/
abbrev Reader (α : Type) := List Char → Option (α × List Char)

/-- The value of decimal digits. -/
def digitsValue (digits : List Char) : Nat :=
  digits.foldl (fun value c => value * 10 + (c.toNat - 48)) 0

/-- A number of at least one of the following digits, and of at most as many as allowed. -/
def number (least most : Nat) : Reader Nat := fun chars =>
  let digits := (chars.take most).takeWhile Char.isDigit
  if least ≤ digits.length then some (digitsValue digits, chars.drop digits.length) else none

/-- A character. -/
def literal (c : Char) (chars : List Char) : Option (List Char) :=
  match chars with
  | [] => none
  | first :: rest => if first = c then some rest else none

/-- The mark between the date and the time. -/
def dateMark (chars : List Char) : Option (List Char) :=
  match chars with
  | 't' :: rest | 'T' :: rest | ' ' :: rest => some rest
  | _ => none

/-- The fraction of a second in nanoseconds. Digits after the ninth are dropped. -/
def fraction : Reader Nat
  | '.' :: rest =>
    match rest.takeWhile Char.isDigit with
    | [] => none
    | digits =>
      let places := (digits ++ List.replicate 9 '0').take 9
      some (digitsValue places, rest.drop digits.length)
  | chars => some (0, chars)

/-- The sign of an offset: whether it is to the west. -/
def offsetSign : Reader Bool
  | '+' :: rest => some (false, rest)
  | '-' :: rest | '\u2212' :: rest => some (true, rest)
  | _ => none

/-- An offset from universal time in seconds, with hours and minutes set apart as given. -/
def offset (separator : List Char → Option (List Char)) : Reader Int
  | 'Z' :: rest | 'z' :: rest => some (0, rest)
  | chars => do
    let (west, rest) ← offsetSign chars
    let (hours, rest) ← number 2 2 rest
    let (minutes, rest) ← number 2 2 (← separator rest)
    guard (minutes < 60)
    let seconds : Int := hours * 3600 + minutes * 60
    return (if west then -seconds else seconds, rest)

/-- The moment of a date, a time of day and an offset. The sixtieth second of any minute is a leap
second. -/
def moment? (date : Calendar.Date) (hour minute second nanos : Nat) (offset : Int) :
    Option Moment := do
  guard (date.Exists ∧ -262143 ≤ date.year ∧ date.year ≤ 262142)
  guard (hour < 24 ∧ minute < 60 ∧ second ≤ 60 ∧ offset.natAbs < 86400)
  let seconds := date.toDay * 86400 + hour * 3600 + minute * 60 + min second 59 - offset
  Moment.of? seconds (if second = 60 then nanos + 1000000000 else nanos)

/-! ## Readers -/

/-- Reads a timestamp as stored: all fields at their full width, years of four digits, and an
offset of at most 23:59. -/
def readStrict (text : String) : Option Moment := do
  let (year, rest) ← number 4 4 text.toList
  let (month, rest) ← number 2 2 (← literal '-' rest)
  let (day, rest) ← number 2 2 (← literal '-' rest)
  let (hour, rest) ← number 2 2 (← dateMark rest)
  let (minute, rest) ← number 2 2 (← literal ':' rest)
  let (second, rest) ← number 2 2 (← literal ':' rest)
  let (nanos, rest) ← fraction rest
  let (offset, rest) ← offset (literal ':') rest
  guard (rest = [])
  moment? ⟨year, month, day⟩ hour minute second nanos offset

/-- A year: up to four digits, or any number of them after a sign. -/
def lenientYear : Reader Int
  | '-' :: rest => (number 1 rest.length rest).map fun (year, rest) => (-(year : Int), rest)
  | '+' :: rest => (number 1 rest.length rest).map fun (year, rest) => ((year : Int), rest)
  | chars => (number 1 4 chars).map fun (year, rest) => ((year : Int), rest)

/-- A field of one or two digits, with white space before it. -/
def lenientField : Reader Nat := fun chars =>
  number 1 2 (skipBlank chars)

/-- A separator with white space before it. -/
def lenientMark (c : Char) (chars : List Char) : Option (List Char) :=
  literal c (skipBlank chars)

/-- An offset, the name of universal time in letters of either case, or any mixture of colons and
white space between hours and minutes. -/
def lenientOffset : Reader Int := fun chars =>
  if (chars.take 3).map Char.toUpper = ['U', 'T', 'C'] then some (0, chars.drop 3)
  else offset (fun chars => some (chars.dropWhile fun c => c = ':' || isBlank c)) chars

/-- Reads a timestamp as messages may hold it. -/
def readLenient (text : String) : Option Moment := do
  let (year, rest) ← lenientYear (skipBlank text.toList)
  let (month, rest) ← lenientField (← lenientMark '-' rest)
  let (day, rest) ← lenientField (← lenientMark '-' rest)
  let (hour, rest) ← lenientField (← dateMark rest)
  let (minute, rest) ← lenientField (← lenientMark ':' rest)
  let (second, rest) ← lenientField (← lenientMark ':' rest)
  let (nanos, rest) ← fraction rest
  let (offset, rest) ← lenientOffset (skipBlank rest)
  guard (skipBlank rest = [])
  moment? ⟨year, month, day⟩ hour minute second nanos offset

end Timestamp

end MessageSync
