import Attest.Credential
import Attest.Options

/-!
A mechanism for rehearsals, under any number and name. It knows the one user `alice`, takes any other
identity by number, and can be set up to fail when it is released.
-/

namespace Attest

structure Rehearsal where
  mechanismId : UInt32
  mechanismName : String
  failsToFinish : Bool := false
deriving Repr, DecidableEq

namespace Rehearsal

/-- The code of the one error that this mechanism describes. -/
def rejectedTicket : Int32 := 4

def claim? (credential : Credential) : Option Claim :=
  match credential.state with
  | .rehearsed claim => some claim
  | _ => none

def create (setup : Rehearsal) (info : Option String) : Except AuthError Credential := do
  let options := Options.parse info
  let uid ← match options.get? "user" with
    | some user => if user = "alice" then .ok 1000 else .error (.noSuchUser user)
    | none => .ok ((options.word32? "uid").getD 0)
  let host := options.get? "host"
  return { mechanismId := setup.mechanismId, state := .rehearsed { uid, gid := uid, host } }

def verify (credential : Credential) : Except AuthError Unit :=
  match claim? credential with
  | some _ => .ok ()
  | none => .error .invalidCredential

def uid (credential : Credential) : UInt32 :=
  ((claim? credential).map Claim.uid).getD nobody

def gid (credential : Credential) : UInt32 :=
  ((claim? credential).map Claim.gid).getD nobody

def host (credential : Credential) : Option String :=
  (claim? credential).bind Claim.host

def pack (credential : Credential) : Packer :=
  match claim? credential with
  | some claim => Packer.append claim.bytes
  | none => throw (.badArgument "foreign credential")

def unpack (setup : Rehearsal) : Unpacker Credential := do
  let claim ← Unpacker.ofWire Claim.read
  return { mechanismId := setup.mechanismId, state := .rehearsed claim }

def describe (credential : Credential) : Except AuthError String :=
  match claim? credential with
  | some claim => .ok s!"uid={claim.uid.toNat} gid={claim.gid.toNat}\n"
  | none => .error .invalidCredential

def lastError (credential : Credential) : ErrorCode :=
  match claim? credential with
  | some _ => .success
  | none => .badArgument

def errorText (code : Int32) : String :=
  if code = rejectedTicket then "fake ticket rejected" else "unknown fake error"

def finish (setup : Rehearsal) : Except AuthError Unit :=
  if setup.failsToFinish then .error (.teardown "fake fini failure") else .ok ()

end Rehearsal

end Attest
