import Attest.Digest.Sha256

/-!
The message authentication code HMAC over SHA-256.
-/

namespace Attest

/-- A message authentication code: from a key and a message to a tag. -/
abbrev Mac := Bytes → Bytes → Bytes

namespace Hmac

/-- A key of exactly one block; a longer one is hashed first. -/
def blockKey (key : Bytes) : Bytes :=
  let short := if key.length ≤ Sha256.blockLength then key else Sha256.digest key
  short ++ List.replicate (Sha256.blockLength - short.length) 0

def sha256 : Mac := fun key message =>
  let inner := Sha256.digest ((blockKey key).map (· ^^^ 0x36) ++ message)
  Sha256.digest ((blockKey key).map (· ^^^ 0x5C) ++ inner)

theorem length_sha256 (key message : Bytes) :
    (sha256 key message).length = Sha256.digestLength :=
  Sha256.length_digest _

end Hmac

end Attest
