import Attest.AuthError
import Attest.Wire.Field

/-!
Credentials: the number of the mechanism that made them, and a state that only that kind of mechanism
knows how to read.
-/

namespace Attest

/-- The user and group that an unknown identity answers with. -/
def nobody : UInt32 := 99

/-- An identity as its creator states it. -/
structure Claim where
  uid : UInt32
  gid : UInt32
  host : Option String
deriving Repr, DecidableEq

namespace Claim

def bytes (claim : Claim) : Bytes :=
  Wire.word32 claim.uid ++ Wire.word32 claim.gid ++ Wire.text claim.host

def read : Wire.Reader Claim := do
  let uid ← Wire.readWord32
  let gid ← Wire.readWord32
  let host ← Wire.readText
  return { uid, gid, host }

end Claim

/-- An identity that is asserted for a limited time, under a signature. Whether it has been verified,
and the last error, are known to its holder only and never sent. -/
structure SignedClaim where
  claim : Claim
  created : UInt64
  expires : UInt64
  nonce : Bytes
  signature : Bytes
  verified : Bool := false
  lastError : Int32 := 0
deriving Repr, DecidableEq

namespace SignedClaim

/-- What the signature covers. -/
def signedBytes (signed : SignedClaim) : Bytes :=
  signed.claim.bytes ++ Wire.word64 signed.created ++ Wire.word64 signed.expires ++
    Wire.block signed.nonce

def bytes (signed : SignedClaim) : Bytes :=
  signed.signedBytes ++ Wire.block signed.signature

def read : Wire.Reader SignedClaim := do
  let claim ← Claim.read
  let created ← Wire.readWord64
  let expires ← Wire.readWord64
  let nonce ← Wire.readBlock
  let signature ← Wire.readBlock
  return { claim, created, expires, nonce, signature }

end SignedClaim

namespace Credential

/-- What a credential holds, by the kind of mechanism that made it. -/
inductive State where
  | claimed (claim : Claim)
  | signed (claim : SignedClaim)
  | rehearsed (claim : Claim)
  | bearer (uid : UInt32)
  /-- A state that belongs to no mechanism. -/
  | text (content : String)
deriving Repr, DecidableEq

end Credential

structure Credential where
  mechanismId : UInt32
  state : Credential.State
deriving Repr, DecidableEq

/-- Appending to an output buffer. What was appended before a failure stays there. -/
abbrev Packer := ExceptT AuthError (StateM Bytes) Unit

/-- Taking from the front of an input buffer. What was taken before a failure is gone. -/
abbrev Unpacker (α : Type) := ExceptT AuthError (StateM Bytes) α

namespace Packer

def append (bytes : Bytes) : Packer := fun buffer =>
  (.ok (), buffer ++ bytes)

/-- Packs behind the front, or leaves the buffer as it was. -/
def behind (packer : Packer) (front : Bytes) : Packer := fun buffer =>
  match packer (buffer ++ front) with
  | (.ok (), packed) => (.ok (), packed)
  | (.error cause, packed) => (.error cause, packed.take buffer.length)

variable {packer : Packer} {front buffer packed written : Bytes} {cause : AuthError}

theorem behind_of_ok (done : packer (buffer ++ front) = (.ok (), packed)) :
    packer.behind front buffer = (.ok (), packed) := by
  simp only [behind, done]

theorem behind_of_error
    (failed : packer (buffer ++ front) = (.error cause, buffer ++ front ++ written)) :
    packer.behind front buffer = (.error cause, buffer) := by
  simp only [behind, failed, List.append_assoc, List.take_left]

/-- The answer is the packer's own. -/
theorem answer_behind (packer : Packer) (front buffer : Bytes) :
    (packer.behind front buffer).1 = (packer (buffer ++ front)).1 := by
  rcases outcome : packer (buffer ++ front) with ⟨cause | done, packed⟩ <;>
    simp only [behind, outcome]

end Packer

namespace Unpacker

/-- A wire field that cannot be read makes the credential undecodable. -/
def ofWire (reader : Wire.Reader α) : Unpacker α :=
  ExceptT.adapt AuthError.decode reader

end Unpacker

end Attest
