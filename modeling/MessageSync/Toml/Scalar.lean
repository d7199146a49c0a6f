import MessageSync.Text.Hex
import MessageSync.Time.Timestamp
import MessageSync.Toml.Node

/-!
# Scalars of settings documents

Numbers, truth values and moments are written without quotes. A run of the characters that occur in
them is one scalar; a date and a time may also have a space between them.
-/

namespace MessageSync.Toml

/-- A reader of part of a document: what was read and the characters after it. -/
abbrev Reader (α : Type) := List Char → Option (α × List Char)

/-! ## Numbers -/

/-- Goes on to read digits of a radix after a value read so far. Between two digits there may be one
underscore. -/
def digits? (radix value : Nat) (afterDigit : Bool) : List Char → Option Nat
  | [] => if afterDigit then some value else none
  | '_' :: rest => if afterDigit then digits? radix value false rest else none
  | c :: rest => do
    let digit ← Hex.digitValue? c
    guard (digit < radix)
    digits? radix (value * radix + digit) true rest

/-- A decimal number without a sign. Only zero itself begins with a zero. -/
def decimal? : List Char → Option Nat
  | '0' :: _ :: _ => none
  | chars => digits? 10 0 false chars

/-- Whether a sign makes the number after it negative, and the characters after the sign. -/
def unsigned (chars : List Char) : Bool × List Char :=
  match chars with
  | '+' :: rest => (false, rest)
  | '-' :: rest => (true, rest)
  | _ => (false, chars)

/-- A whole number: decimal with or without a sign, or with the mark of another radix. -/
def integer? : List Char → Option Int
  | '0' :: 'x' :: rest => (digits? 16 0 false rest).map Int.ofNat
  | '0' :: 'o' :: rest => (digits? 8 0 false rest).map Int.ofNat
  | '0' :: 'b' :: rest => (digits? 2 0 false rest).map Int.ofNat
  | chars =>
    let (negative, digits) := unsigned chars
    (decimal? digits).map fun value => if negative then -(value : Int) else value

/-- Whether the characters are the digits of an exponent. -/
def isExponent (chars : List Char) : Bool :=
  (digits? 10 0 false (unsigned chars).2).isSome

/-- Whether the characters are a number with a point or an exponent, an infinity or no number. -/
def isFraction (chars : List Char) : Bool :=
  let body := (unsigned chars).2
  let (mantissa, exponent) := body.span fun c => c != 'e' && c != 'E'
  let (whole, places) := mantissa.span (· != '.')
  body = "inf".toList || body = "nan".toList ||
    ((decimal? whole).isSome && !(places.isEmpty && exponent.isEmpty) &&
      (places.isEmpty || (digits? 10 0 false places.tail).isSome) &&
      (exponent.isEmpty || isExponent exponent.tail))

/-! ## Moments -/

/-- A day of the calendar. -/
def date? : Reader Unit := fun chars => do
  let (year, rest) ← Timestamp.number 4 4 chars
  let (month, rest) ← Timestamp.number 2 2 (← Timestamp.literal '-' rest)
  let (day, rest) ← Timestamp.number 2 2 (← Timestamp.literal '-' rest)
  guard (Calendar.Date.Exists ⟨year, month, day⟩)
  return ((), rest)

/-- A time of day. The seconds may be left out. -/
def time? : Reader Unit := fun chars => do
  let (hour, rest) ← Timestamp.number 2 2 chars
  let (minute, rest) ← Timestamp.number 2 2 (← Timestamp.literal ':' rest)
  guard (hour < 24 ∧ minute < 60)
  match Timestamp.literal ':' rest with
  | none => return ((), rest)
  | some rest =>
    let (second, rest) ← Timestamp.number 2 2 rest
    guard (second ≤ 60)
    return ((), (← Timestamp.fraction rest).2)

/-- An offset from universal time, if there is one. -/
def offset? : Reader Unit
  | [] => some ((), [])
  | chars => do
    let (seconds, rest) ← Timestamp.offset (Timestamp.literal ':') chars
    guard (seconds.natAbs < 86400)
    return ((), rest)

/-- Whether the characters are a date, a time, or both with or without an offset. -/
def isMoment (chars : List Char) : Bool :=
  match date? chars with
  | some ((), []) => true
  | some ((), rest) =>
    (do
      let ((), rest) ← time? (← Timestamp.dateMark rest)
      let ((), rest) ← offset? rest
      return rest.isEmpty) == some true
  | none => time? chars == some ((), [])

/-! ## Scalars -/

/-- Whether the character may occur in a scalar. -/
def isScalarChar (c : Char) : Bool :=
  c.isAlphanum || c == '+' || c == '-' || c == '_' || c == '.' || c == ':'

/-- The characters of the scalar at the beginning, and those after it. -/
def scalarChars (chars : List Char) : List Char × List Char :=
  match chars.span isScalarChar with
  | (first, ' ' :: c :: rest) =>
    if c.isDigit && date? first == some ((), []) then
      let (second, rest) := (c :: rest).span isScalarChar
      (first ++ ' ' :: second, rest)
    else (first, ' ' :: c :: rest)
  | parts => parts

/-- The scalar of a run of characters. -/
def scalarOf? (chars : List Char) : Option Node :=
  if chars = "true".toList then some (.bool true)
  else if chars = "false".toList then some (.bool false)
  else
    match integer? chars with
    | some value => some (.integer value)
    | none =>
      if isFraction chars then some .fraction
      else if isMoment chars then some .moment
      else none

/-- A scalar. -/
def scalar : Reader Node := fun chars => do
  let (first, rest) := scalarChars chars
  return (← scalarOf? first, rest)

end MessageSync.Toml
