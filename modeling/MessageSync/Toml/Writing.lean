import MessageSync.Toml.Quoted
import MessageSync.Wire.Item

/-!
# Writing settings documents

Text is written between double quotes where nothing in it needs an escape, and otherwise in the
first other form that needs none. Only text with control characters, or with too many quotes of both
kinds, is written with escapes.
-/

namespace MessageSync.Toml

/-- The length of the longest run of a character, given the length of the run that goes on here. -/
def longestRun (c : Char) (run : Nat) : List Char → Nat
  | [] => run
  | first :: rest =>
    if first = c then longestRun c (run + 1) rest else max run (longestRun c 0 rest)

/-- Whether the character needs an escape wherever it stands. -/
def isControl (c : Char) : Bool :=
  c != '\t' && c != '\n' && (c < ' ' || c == '\x7f')

/-- A character as an escape, if it is not to stand for itself between double quotes. -/
def escaped? (severalLines : Bool) (c : Char) : Option (List Char) :=
  if c = '\x08' then some ['\x5c', 'b']
  else if c = '\t' then some ['\x5c', 't']
  else if c = '\n' then (if severalLines then none else some ['\x5c', 'n'])
  else if c = '\x0c' then some ['\x5c', 'f']
  else if c = '\r' then some ['\x5c', 'r']
  else if c = '\x5c' then some ['\x5c', '\x5c']
  else if isControl c then some ('\x5c' :: 'u' :: '0' :: '0' ::
    (Hex.ofByte (UInt8.ofNat c.toNat)).map Char.toUpper)
  else none

/-- The characters of a text between double quotes. No more quotes follow each other without an
escape than allowed, of which the given number came before. -/
def escapedChars (severalLines : Bool) (allowed run : Nat) : List Char → List Char
  | [] => []
  | c :: rest =>
    if c = doubleQuote then
      if run < allowed then c :: escapedChars severalLines allowed (run + 1) rest
      else '\x5c' :: c :: escapedChars severalLines allowed 0 rest
    else
      match escaped? severalLines c with
      | some escape => escape ++ escapedChars severalLines allowed 0 rest
      | none => c :: escapedChars severalLines allowed 0 rest

/-- The characters between quotes. -/
def between (quote : Char) (count : Nat) (chars : List Char) : String :=
  let quotes := List.replicate count quote
  String.ofList (quotes ++ chars ++ quotes)

/-- A text between three quotes, on lines of its own if it has more than one. -/
def onLines (quote : Char) (severalLines : Bool) (chars : List Char) : String :=
  between quote 3 (if severalLines then '\n' :: chars else chars)

/-- A text in quotes. -/
def quoted (content : String) : String :=
  let chars := content.toList
  let control := chars.any isControl
  let backslash := chars.contains '\x5c'
  let severalLines := chars.contains '\n'
  let doubles := longestRun doubleQuote 0 chars
  let singles := longestRun singleQuote 0 chars
  if !control && !backslash && !severalLines && doubles == 0 then
    between doubleQuote 1 (escapedChars false 0 0 chars)
  else if !control && !severalLines && singles == 0 then between singleQuote 1 chars
  else if !control && !backslash && doubles ≤ 2 then
    onLines doubleQuote severalLines (escapedChars true 2 0 chars)
  else if !control && singles ≤ 2 then onLines singleQuote severalLines chars
  else if severalLines then onLines doubleQuote true (escapedChars true 2 0 chars)
  else between doubleQuote 1 (escapedChars false 0 0 chars)

/-- A value of a table: a text or a number. -/
def written : Item → String
  | .text content => quoted content
  | .whole number => toString number.val
  | .position number => toString number.toNat
  | _ => ""

/-- A value of a table. An array of more than one value has a line for each. -/
def writtenEntry : Item → String
  | .array [] => "[]"
  | .array [only] => "[" ++ written only ++ "]"
  | .array items =>
    let lines := items.map fun item => "    " ++ written item ++ ",\n"
    "[\n" ++ String.join lines ++ "]"
  | item => written item

/-- The lines of a table with its header. -/
def writtenTable (name : String) (fields : List (String × Item)) : String :=
  "[" ++ name ++ "]\n" ++
    String.join (fields.map fun (key, item) => key ++ " = " ++ writtenEntry item ++ "\n")

end MessageSync.Toml
