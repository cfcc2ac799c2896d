import Attest.Credential
import Attest.Options

/-!
The mechanism `auth/none`: a credential carries a user, a group and a host exactly as its creator
claims them, and verifying it always succeeds.
-/

namespace Attest.Claimed

def mechanismId : UInt32 := 100

def mechanismName : String := "auth/none"

/-- What a credential of this mechanism claims. -/
def claim? (credential : Credential) : Except AuthError Claim :=
  match credential.state with
  | .claimed claim => .ok claim
  | _ => .error (.badArgument "credential not created by auth/none")

/-- The user has to be given as a number. The group has to be a number if it is given and is the
user's number if not. -/
def create (info : Option String) : Except AuthError Credential := do
  let options := Options.parse info
  let uid ← match options.word32? "uid" with
    | some uid => .ok uid
    | none => .error (.badArgument "auth/none requires a numeric uid")
  let gid ← match options.get? "gid" with
    | none => .ok uid
    | some _ => match options.word32? "gid" with
      | some gid => .ok gid
      | none => .error (.badArgument "gid must be numeric")
  let host := options.get? "host"
  return { mechanismId, state := .claimed { uid, gid, host } }

def verify (credential : Credential) : Except AuthError Unit := do
  let _ ← claim? credential

def uid (credential : Credential) : UInt32 :=
  match claim? credential with
  | .ok claim => claim.uid
  | .error _ => nobody

def gid (credential : Credential) : UInt32 :=
  match claim? credential with
  | .ok claim => claim.gid
  | .error _ => nobody

def host (credential : Credential) : Option String :=
  match claim? credential with
  | .ok claim => claim.host
  | .error _ => none

def pack (credential : Credential) : Packer := do
  let claim ← claim? credential
  Packer.append claim.bytes

def unpack : Unpacker Credential := do
  let claim ← Unpacker.ofWire Claim.read
  return { mechanismId, state := .claimed claim }

def describe (credential : Credential) : Except AuthError String := do
  let claim ← claim? credential
  let host := claim.host.getD "(unknown)"
  return "BEGIN AUTHENTICATION CREDENTIAL\n" ++
    s!"   mechanism: {mechanismName}\n" ++
    s!"   uid: {claim.uid.toNat}\n" ++
    s!"   gid: {claim.gid.toNat}\n" ++
    s!"   host: {host}\n" ++
    "END AUTHENTICATION CREDENTIAL\n"

def lastError (credential : Credential) : ErrorCode :=
  match claim? credential with
  | .ok _ => .success
  | .error e => e.code

def errorText (_code : Int32) : String := "unknown error"

end Attest.Claimed
