/-!
# White space

The characters with the property `White_Space` of the Unicode standard.
-/

namespace MessageSync

/-- Whether the character has the property `White_Space`. -/
def isBlank (c : Char) : Bool :=
  let code := c.toNat
  (9 ≤ code && code ≤ 13) || code == 0x20 || code == 0x85 || code == 0xA0 || code == 0x1680 ||
    (0x2000 ≤ code && code ≤ 0x200A) || code == 0x2028 || code == 0x2029 || code == 0x202F ||
    code == 0x205F || code == 0x3000

/-- The characters from the first that is not white space on. -/
def skipBlank (chars : List Char) : List Char :=
  chars.dropWhile isBlank

end MessageSync
