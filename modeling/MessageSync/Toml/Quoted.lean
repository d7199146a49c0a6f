import MessageSync.Toml.Scalar

/-!
# Quoted text of settings documents

Text is written between double quotes, where a backslash begins an escape, or between single quotes,
where every character stands for itself. Between three quotes it may have several lines.
-/

namespace MessageSync.Toml

/-- The double quote. -/
abbrev doubleQuote : Char := '\x22'

/-- The single quote. -/
abbrev singleQuote : Char := '\x27'

/-- Whether the character may stand in text and comments. Tabs may, other control characters not. -/
def isPlain (c : Char) : Bool :=
  c == '\t' || (' ' ≤ c && c != '\x7f')

/-- The character of a code in hexadecimal digits. -/
def charOfDigits? (digits : List Char) : Option Char := do
  let code ← digits.foldlM (fun code c => do return code * 16 + (← Hex.digitValue? c)) 0
  if code.isValidChar then some (Char.ofNat code) else none

/-- The character of an escape, given what comes after the backslash. -/
def escape? : Reader Char
  | 'b' :: rest => some ('\x08', rest)
  | 't' :: rest => some ('\t', rest)
  | 'n' :: rest => some ('\n', rest)
  | 'f' :: rest => some ('\x0c', rest)
  | 'r' :: rest => some ('\r', rest)
  | 'e' :: rest => some ('\x1b', rest)
  | '\x22' :: rest => some ('\x22', rest)
  | '\x5c' :: rest => some ('\x5c', rest)
  | 'x' :: rest => coded 2 rest
  | 'u' :: rest => coded 4 rest
  | 'U' :: rest => coded 8 rest
  | _ => none
where
  /-- An escape by the given number of digits. -/
  coded (count : Nat) : Reader Char := fun chars => do
    guard (count ≤ chars.length)
    return (← charOfDigits? (chars.take count), chars.drop count)

/-- Puts a character before what is read. -/
def prepend (c : Char) (read : String × List Char) : String × List Char :=
  (String.singleton c ++ read.1, read.2)

/-- The rest of a text between double quotes, in no more than the given number of steps. -/
def basicRest : Nat → Reader String
  | 0, _ => none
  | steps + 1, chars =>
    match chars with
    | '\x22' :: rest => some ("", rest)
    | '\x5c' :: rest => do
      let (c, rest) ← escape? rest
      return prepend c (← basicRest steps rest)
    | c :: rest => if isPlain c then (basicRest steps rest).map (prepend c) else none
    | [] => none

/-- The rest of a text between single quotes. -/
def literalRest : Reader String
  | '\x27' :: rest => some ("", rest)
  | c :: rest => if isPlain c then (literalRest rest).map (prepend c) else none
  | [] => none

/-- The characters after a line end, if there is one here. -/
def lineBreak? : List Char → Option (List Char)
  | '\n' :: rest => some rest
  | '\r' :: '\n' :: rest => some rest
  | _ => none

/-- Whether the character is a space or a tab. -/
def isSpace (c : Char) : Bool :=
  c == ' ' || c == '\t'

/-- Leaves out spaces, tabs and line ends up to the next other character. -/
def skipBlanks : List Char → List Char
  | '\n' :: rest => skipBlanks rest
  | '\r' :: '\n' :: rest => skipBlanks rest
  | c :: rest => if isSpace c then skipBlanks rest else c :: rest
  | [] => []

/-- The end of a text between three quotes each. Up to two more quotes before them belong to the
text. -/
def closing? (quote : Char) : Reader String := fun chars =>
  let count := (chars.takeWhile (· == quote)).length
  if count < 3 then none
  else
    let kept := min (count - 3) 2
    some (String.ofList (List.replicate kept quote), chars.drop (kept + 3))

/-- The rest of a text of several lines, in no more than the given number of steps. A backslash at
the end of a line leaves out all white space up to the next other character. -/
def linesRest (quote : Char) : Nat → Reader String
  | 0, _ => none
  | steps + 1, chars =>
    match closing? quote chars with
    | some closed => some closed
    | none =>
      match lineBreak? chars with
      | some rest => (linesRest quote steps rest).map (prepend '\n')
      | none =>
        match chars with
        | [] => none
        | c :: rest =>
          if c == '\x5c' && quote == doubleQuote then
            match lineBreak? (rest.dropWhile isSpace) with
            | some rest => linesRest quote steps (skipBlanks rest)
            | none => do
              let (c, rest) ← escape? rest
              return prepend c (← linesRest quote steps rest)
          else if isPlain c then (linesRest quote steps rest).map (prepend c)
          else none

/-- A text of several lines, after its three quotes. A line end right after them is left out. -/
def lines (quote : Char) : Reader String := fun chars =>
  linesRest quote (chars.length + 1) ((lineBreak? chars).getD chars)

/-- A text of one line. -/
def lineText : Reader String
  | '\x22' :: rest => basicRest (rest.length + 1) rest
  | '\x27' :: rest => literalRest rest
  | _ => none

/-- A text. -/
def text : Reader String
  | '\x22' :: '\x22' :: '\x22' :: rest => lines doubleQuote rest
  | '\x27' :: '\x27' :: '\x27' :: rest => lines singleQuote rest
  | chars => lineText chars

end MessageSync.Toml
