import MessageSync.Hash.Sha256
import MessageSync.Text.Hex
import MessageSync.Text.Utf8
import MessageSync.Record.Naming
import MessageSync.Time.Moment

/-!
# Local ids and fingerprints

A local id names a record before the server does. It is a hash of the conversation, the contents,
the time of writing and a counter, so that equal messages written at the same time still get
different ids. A fingerprint is a hash of a record's role and contents.
-/

namespace MessageSync

namespace LocalId

/-- The text that a local id is a hash of. The counter fits into 64 bits for the first `2 ^ 64` records
of a process. -/
def hashedText (conversationId contents : String) (createdAt : Moment) (counter : Nat) : String :=
  conversationId ++ "|" ++ contents ++ "|" ++ toString createdAt.nanosSinceEpoch ++ "|" ++
    toString counter

/-- The local id of a record: the first eight bytes of the hash, in hexadecimal. -/
def generate (conversationId contents : String) (createdAt : Moment) (counter : Nat) : String :=
  let digest := Sha256.hash (Utf8.encode (hashedText conversationId contents createdAt counter))
  "local-" ++ Hex.encode (digest.take 8)

end LocalId

namespace Fingerprint

/-- The bytes that a fingerprint is a hash of. -/
def hashedBytes (role : Role) (contents : String) : List UInt8 :=
  Utf8.encode role.name ++ 0 :: Utf8.encode contents

/-- The hash of a role and contents, in hexadecimal. -/
def of (role : Role) (contents : String) : String :=
  Hex.encode (Sha256.hash (hashedBytes role contents))

end Fingerprint

end MessageSync
