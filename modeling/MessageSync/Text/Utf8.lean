/-!
# Text as bytes

Strings travel as UTF-8. This module converts between the two forms, and gives the replacement
reading of ill-formed bytes: every longest run of bytes that starts a character but does not
finish it becomes one replacement character.
-/

namespace MessageSync

namespace Utf8

/-- The UTF-8 bytes of a text. -/
def encode (text : String) : List UInt8 :=
  text.toByteArray.data.toList

/-- The text whose UTF-8 form is the given bytes, when there is one. -/
def decode? (bytes : List UInt8) : Option String :=
  String.fromUTF8? bytes.toByteArray

/-- Well-formed bytes that came from a text read back as that text. -/
theorem decode?_encode (text : String) : decode? (encode text) = some text := by
  have same : (text.toByteArray.data.toList).toByteArray = text.toByteArray := by
    apply ByteArray.ext
    simp
  have valid := text.isValidUTF8
  simp [decode?, encode, same, String.fromUTF8?, String.fromUTF8, valid]

theorem encode_inj {first second : String} : encode first = encode second ↔ first = second := by
  refine ⟨fun same => ?_, congrArg encode⟩
  apply Option.some.inj
  rw [← decode?_encode first, same, decode?_encode]

/-- The bytes that may follow a leading byte, one inclusive range a position. -/
def continuations (lead : UInt8) : Option (List (UInt8 × UInt8)) :=
  let tail : UInt8 × UInt8 := (0x80, 0xBF)
  if lead < 0x80 then some []
  else if lead < 0xC2 then none
  else if lead < 0xE0 then some [tail]
  else if lead = 0xE0 then some [(0xA0, 0xBF), tail]
  else if lead = 0xED then some [(0x80, 0x9F), tail]
  else if lead < 0xF0 then some [tail, tail]
  else if lead = 0xF0 then some [(0x90, 0xBF), tail, tail]
  else if lead < 0xF4 then some [tail, tail, tail]
  else if lead = 0xF4 then some [(0x80, 0x8F), tail, tail]
  else none

/-- How many of the leading bytes lie in their ranges, stopping at the first that does not. -/
def matched : List (UInt8 × UInt8) → List UInt8 → Nat
  | (low, high) :: ranges, byte :: bytes =>
    if low ≤ byte ∧ byte ≤ high then matched ranges bytes + 1 else 0
  | _, _ => 0

/-- The value that a leading byte and its continuation bytes encode. -/
def codePoint (lead : UInt8) (rest : List UInt8) : Nat :=
  let start :=
    match rest.length with
    | 0 => lead.toNat
    | 1 => lead.toNat % 32
    | 2 => lead.toNat % 16
    | _ => lead.toNat % 8
  rest.foldl (fun value byte => value * 64 + byte.toNat % 64) start

/-- The characters of a byte sequence, with a replacement character for each ill-formed run. -/
def lossyChars : List UInt8 → List Char
  | [] => []
  | lead :: rest =>
    match continuations lead with
    | none => '\uFFFD' :: lossyChars rest
    | some ranges =>
      let count := matched ranges rest
      let next :=
        if count = ranges.length then Char.ofNat (codePoint lead (rest.take count))
        else '\uFFFD'
      next :: lossyChars (rest.drop count)
termination_by bytes => bytes.length
decreasing_by all_goals simp only [List.length_cons, List.length_drop]; omega

/-- The text of a byte sequence, with a replacement character for each ill-formed run. -/
def decodeLossy (bytes : List UInt8) : String :=
  String.ofList (lossyChars bytes)

end Utf8

end MessageSync
