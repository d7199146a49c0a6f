/-!
# Why an item cannot be read

An item that does not fit the type it is read as is refused for one of four reasons. Three of them
have a text of their own; for all other mismatches only the surrounding text is shown.
-/

namespace MessageSync

/-- Why an item does not fit the type it is read as. -/
inductive ReadError where
  | missingField (name : String)
  | duplicateField (name : String)
  /-- A name that is none of the expected ones. -/
  | unknownVariant (name : String) (expected : List String)
  /-- Any other difference. -/
  | mismatch
deriving DecidableEq, Inhabited

namespace ReadError

/-- A name between backticks. -/
def quoted (name : String) : String :=
  "\x60" ++ name ++ "\x60"

/-- The expected names as a phrase. -/
def expectation : List String → String
  | [] => "there are no variants"
  | [only] => "expected " ++ quoted only
  | [first, second] => "expected " ++ quoted first ++ " or " ++ quoted second
  | names => "expected one of " ++ ", ".intercalate (names.map quoted)

/-- The text of the reason, if it has one. -/
def detail? : ReadError → Option String
  | .missingField name => some ("missing field " ++ quoted name)
  | .duplicateField name => some ("duplicate field " ++ quoted name)
  | .unknownVariant name expected =>
    some ("unknown variant " ++ quoted name ++ ", " ++ expectation expected)
  | .mismatch => none

/-- A description of what failed, with the text of the reason if it has one. -/
def describe (failure : String) (reason : ReadError) : String :=
  match reason.detail? with
  | some detail => failure ++ ": " ++ detail
  | none => failure

end ReadError

end MessageSync
