import MessageSync.Toml.Quoted

/-!
# Reading settings documents

A document is a sequence of lines: headers, which say to which table the following lines belong, and
entries of a key and a value. Nothing of a document that breaks a rule is read.
-/

namespace MessageSync.Toml

/-! ## Between values -/

/-- The characters after spaces and tabs. -/
def skipSpaces (chars : List Char) : List Char :=
  chars.dropWhile isSpace

/-- The characters after a comment, if there is one here. -/
def skipComment : List Char → List Char
  | '#' :: rest => rest.dropWhile isPlain
  | chars => chars

/-- The characters after the end of a line, which may have a comment before it. -/
def endLine (chars : List Char) : Option (List Char) :=
  match skipComment (skipSpaces chars) with
  | [] => some []
  | rest => lineBreak? rest

/-- The characters after spaces, comments and line ends, in no more than the given number of
lines. -/
def skipLines : Nat → List Char → List Char
  | 0, chars => skipSpaces chars
  | count + 1, chars =>
    match lineBreak? (skipComment (skipSpaces chars)) with
    | some rest => skipLines count rest
    | none => skipSpaces chars

/-- The characters after spaces, comments and line ends. -/
def skipBlankLines (chars : List Char) : List Char :=
  skipLines chars.length chars

/-- The characters after the given one. -/
def expect (c : Char) (chars : List Char) : Option (List Char) :=
  Timestamp.literal c chars

/-! ## Keys -/

/-- Whether the character may stand in a key without quotes. -/
def isKeyChar (c : Char) : Bool :=
  c.isAlphanum || c == '_' || c == '-'

/-- A key. -/
def key : Reader String := fun chars =>
  match chars.span isKeyChar with
  | ([], rest) => lineText rest
  | (name, rest) => some (String.ofList name, rest)

/-- Keys with points between them, in no more than the given number. -/
def dottedKeys : Nat → Reader Path
  | 0, _ => none
  | count + 1, chars => do
    let (name, rest) ← key (skipSpaces chars)
    match skipSpaces rest with
    | '.' :: rest => do
      let (names, rest) ← dottedKeys count rest
      return (name :: names, rest)
    | rest => return ([name], rest)

/-- Keys with points between them. -/
def path : Reader Path := fun chars =>
  dottedKeys (chars.length + 1) chars

/-! ## Values -/

mutual

/-- A value, in no more than the given number of steps. -/
def value : Nat → Reader Node
  | 0, _ => none
  | steps + 1, chars =>
    match chars with
    | '\x22' :: _ | '\x27' :: _ => (text chars).map fun (content, rest) => (.text content, rest)
    | '[' :: rest => do
      let (nodes, rest) ← arrayRest steps (skipBlankLines rest)
      return (.array nodes, rest)
    | '\x7b' :: rest => do
      let (entries, rest) ← tableRest steps [] (skipBlankLines rest)
      return (.table .inline entries, rest)
    | chars => scalar chars

/-- The items of an array up to its end. There may be a comma after the last one. -/
def arrayRest : Nat → Reader (List Node)
  | 0, _ => none
  | steps + 1, chars =>
    match chars with
    | ']' :: rest => some ([], rest)
    | chars => do
      let (node, rest) ← value steps chars
      match skipBlankLines rest with
      | ',' :: rest => do
        let (nodes, rest) ← arrayRest steps (skipBlankLines rest)
        return (node :: nodes, rest)
      | rest => return ([node], ← expect ']' rest)

/-- The entries of a table up to its end, after those read so far. There may be a comma after the
last one. -/
def tableRest : Nat → Entries → Reader Entries
  | 0, _, _ => none
  | steps + 1, entries, chars =>
    match chars with
    | '\x7d' :: rest => some (entries, rest)
    | chars => do
      let (keys, rest) ← path chars
      let (node, rest) ← value steps (skipSpaces (← expect '=' rest))
      let entries ← entries.insert node keys
      match skipBlankLines rest with
      | ',' :: rest => tableRest steps entries (skipBlankLines rest)
      | rest => return (entries, ← expect '\x7d' rest)

end

/-! ## Lines -/

/-- What a line says. -/
inductive Line where
  | blank
  | header (path : Path)
  /-- A header that may be repeated. -/
  | repeatedHeader (path : Path)
  | entry (keys : Path) (value : Node)

/-- A line without its end. A line without content takes no character. -/
def line : Reader Line := fun chars =>
  match chars with
  | '[' :: '[' :: rest => do
    let (keys, rest) ← path rest
    return (.repeatedHeader keys, ← expect ']' (← expect ']' rest))
  | '[' :: rest => do
    let (keys, rest) ← path rest
    return (.header keys, ← expect ']' rest)
  | [] | '#' :: _ | '\n' :: _ | '\r' :: _ => some (.blank, chars)
  | chars => do
    let (keys, rest) ← path chars
    let (node, rest) ← value (rest.length + 1) (skipSpaces (← expect '=' rest))
    return (.entry keys node, rest)

/-- A document as read so far: its entries, and the path of the last header. -/
structure Progress where
  entries : Entries
  header : Path

/-- Takes in a line. -/
def Progress.take (progress : Progress) : Line → Option Progress
  | .blank => some progress
  | .header keys => do
    let last ← keys.getLast?
    return ⟨← Entries.atPath (·.define last) keys.dropLast progress.entries, keys⟩
  | .repeatedHeader keys => do
    let last ← keys.getLast?
    return ⟨← Entries.atPath (·.append last) keys.dropLast progress.entries, keys⟩
  | .entry keys node => do
    return { progress with
      entries := ← Entries.atPath (Entries.insert node keys) progress.header progress.entries }

/-- Reads no more than the given number of lines. -/
def readLines : Nat → Progress → List Char → Option Entries
  | _, progress, [] => some progress.entries
  | 0, _, _ => none
  | count + 1, progress, chars => do
    let (read, rest) ← line (skipSpaces chars)
    readLines count (← progress.take read) (← endLine rest)

/-- The entries of a document. It may begin with a byte order mark. -/
def read (document : String) : Option Entries :=
  let chars :=
    match document.toList with
    | '\ufeff' :: rest => rest
    | chars => chars
  readLines chars.length ⟨[], []⟩ chars

end MessageSync.Toml
