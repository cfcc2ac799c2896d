import Attest.Credential
import Attest.Digest.Hmac
import Attest.Mechanism.Signed.Config
import Attest.Options

/-!
The mechanism `auth/hmac`: a credential asserts an identity for a limited time, signed under a key
that all nodes share. Whoever receives it has to verify it before it releases the identity.

The definitions take the message authentication code as a parameter; none of them depends on how it
is computed.
-/

namespace Attest.Signed

def mechanismId : UInt32 := 102

def mechanismName : String := "auth/hmac"

def nonceLength : Nat := 16

/-- The credential's lifetime has passed. -/
def expired : Int32 := ErrorCode.firstOfMechanism

/-- The signature does not match what the credential asserts. -/
def badSignature : Int32 := ErrorCode.firstOfMechanism + 1

/-- An identity was asked for before the credential was verified. -/
def notVerified : Int32 := ErrorCode.firstOfMechanism + 2

def errorText (code : Int32) : String :=
  if code = expired then "credential expired"
  else if code = badSignature then "credential signature invalid"
  else if code = notVerified then "credential not verified"
  else "unknown error"

def failure (code : Int32) : AuthError :=
  .mechanism code (errorText code)

/-- Where a mechanism takes the time from. -/
inductive Clock where
  | wall
  | scripted
deriving Repr, DecidableEq

/-- A mechanism that has been brought up. -/
structure Signer where
  key : Bytes
  users : NameMap Identity
  host : Option String
  lifetime : UInt64
  clock : Clock := .wall

def Signer.ofConfig (config : Config) (clock : Clock) : Except ConfigError Signer := do
  let key ← config.decodeKey
  return { key, users := config.users, host := config.host, lifetime := config.lifetime, clock }

def claim? (credential : Credential) : Except AuthError SignedClaim :=
  match credential.state with
  | .signed claim => .ok claim
  | _ => .error (.badArgument "credential not created by auth/hmac")

/-- The end of a lifetime, or the end of time if that comes first. -/
def expiry (created lifetime : UInt64) : UInt64 :=
  UInt64.ofNat (min (created.toNat + lifetime.toNat) (UInt64.size - 1))

section

variable (mac : Mac)

def signature (key : Bytes) (claim : SignedClaim) : Bytes :=
  mac key claim.signedBytes

/-- Only a user of the configuration gets a credential, and with the identity that stands there. -/
def create (signer : Signer) (now : UInt64) (nonce : Bytes) (info : Option String) :
    Except AuthError Credential := do
  let options := Options.parse info
  let user ← match options.get? "user" with
    | some user => .ok user
    | none => .error (.badArgument "auth/hmac requires a user")
  let identity ← match signer.users.get? user with
    | some identity => .ok identity
    | none => .error (.noSuchUser user)
  let unsigned : SignedClaim := {
    claim := {
      uid := identity.uid
      gid := identity.gid
      host := (options.get? "host").or signer.host
    }
    created := now
    expires := expiry now signer.lifetime
    nonce
    signature := []
  }
  let claim := { unsigned with signature := signature mac signer.key unsigned }
  return { mechanismId, state := .signed claim }

/-- The error that verifying finds, if any: a wrong signature comes before a lifetime that has
passed. -/
def refusal? (key : Bytes) (now : UInt64) (claim : SignedClaim) : Option Int32 :=
  if signature mac key claim ≠ claim.signature then some badSignature
  else if now > claim.expires then some expired
  else none

/-- Verifying leaves its outcome in the credential. A refusal takes back no earlier success. -/
def verify (signer : Signer) (now : UInt64) (credential : Credential) :
    Except AuthError Unit × Credential :=
  match claim? credential with
  | .error e => (.error e, credential)
  | .ok claim =>
    match refusal? mac signer.key now claim with
    | some code =>
      (.error (failure code), { credential with state := .signed { claim with lastError := code } })
    | none =>
      (.ok (),
        { credential with state := .signed { claim with verified := true, lastError := 0 } })

end

/-- The identity of a verified credential. Asking one that is not verified is noted in it. -/
def release (credential : Credential) : Option Claim × Credential :=
  match claim? credential with
  | .error _ => (none, credential)
  | .ok claim =>
    if claim.verified then (some claim.claim, credential)
    else (none, { credential with state := .signed { claim with lastError := notVerified } })

def uid (credential : Credential) : UInt32 × Credential :=
  let (claim, credential) := release credential
  ((claim.map Claim.uid).getD nobody, credential)

def gid (credential : Credential) : UInt32 × Credential :=
  let (claim, credential) := release credential
  ((claim.map Claim.gid).getD nobody, credential)

def host (credential : Credential) : Option String × Credential :=
  let (claim, credential) := release credential
  (claim.bind Claim.host, credential)

def pack (credential : Credential) : Packer := do
  let claim ← claim? credential
  Packer.append claim.bytes

/-- A credential that arrives is not verified, whatever its sender knew about it. -/
def unpack : Unpacker Credential := do
  let claim ← Unpacker.ofWire SignedClaim.read
  return { mechanismId, state := .signed claim }

def describe (credential : Credential) : Except AuthError String := do
  let claim ← claim? credential
  let host := claim.claim.host.getD "(unknown)"
  return "BEGIN AUTHENTICATION CREDENTIAL\n" ++
    s!"   mechanism: {mechanismName}\n" ++
    s!"   uid: {claim.claim.uid.toNat}\n" ++
    s!"   gid: {claim.claim.gid.toNat}\n" ++
    s!"   host: {host}\n" ++
    s!"   created: {claim.created.toNat}\n" ++
    s!"   expires: {claim.expires.toNat}\n" ++
    s!"   verified: {claim.verified}\n" ++
    "END AUTHENTICATION CREDENTIAL\n"

def lastError (credential : Credential) : ErrorCode :=
  match claim? credential with
  | .ok claim => .ofRaw claim.lastError
  | .error e => e.code

end Attest.Signed
