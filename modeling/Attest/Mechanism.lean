import Attest.Mechanism.Bearer
import Attest.Mechanism.Claimed
import Attest.Mechanism.Rehearsal
import Attest.Mechanism.Signed
import Attest.Sink

/-!
The mechanisms, under the operations that they all answer. A credential of another kind is foreign to
a mechanism: it neither reads nor changes it.
-/

namespace Attest

inductive Mechanism where
  | claimed
  | signed (signer : Signed.Signer)
  | rehearsal (setup : Rehearsal)
  | bearer (setup : Bearer)

/-- What an operation takes from around it: the time on each clock, and fresh random bytes. -/
structure Surroundings where
  wallTime : UInt64
  scriptedTime : UInt64 := 0
  nonce : Bytes := []
deriving Repr, DecidableEq

def Surroundings.now (surroundings : Surroundings) : Signed.Clock → UInt64
  | .wall => surroundings.wallTime
  | .scripted => surroundings.scriptedTime

namespace Mechanism

def id : Mechanism → UInt32
  | .claimed => Claimed.mechanismId
  | .signed _ => Signed.mechanismId
  | .rehearsal setup => setup.mechanismId
  | .bearer setup => setup.mechanismId

def name : Mechanism → String
  | .claimed => Claimed.mechanismName
  | .signed _ => Signed.mechanismName
  | .rehearsal setup => setup.mechanismName
  | .bearer setup => setup.mechanismName

def create (surroundings : Surroundings) (info : Option String) :
    Mechanism → Except AuthError Credential
  | .claimed => Claimed.create info
  | .signed signer =>
    Signed.create Hmac.sha256 signer (surroundings.now signer.clock) surroundings.nonce info
  | .rehearsal setup => setup.create info
  | .bearer setup => setup.create info

/-- No mechanism holds anything for a credential, so giving one up always succeeds. -/
def destroy (_credential : Credential) (_mechanism : Mechanism) : Except AuthError Unit :=
  .ok ()

def verify (surroundings : Surroundings) (credential : Credential) :
    Mechanism → Except AuthError Unit × Credential
  | .claimed => (Claimed.verify credential, credential)
  | .signed signer =>
    Signed.verify Hmac.sha256 signer (surroundings.now signer.clock) credential
  | .rehearsal _ => (Rehearsal.verify credential, credential)
  | .bearer _ => (.ok (), credential)

def uid (credential : Credential) : Mechanism → UInt32 × Credential
  | .claimed => (Claimed.uid credential, credential)
  | .signed _ => Signed.uid credential
  | .rehearsal _ => (Rehearsal.uid credential, credential)
  | .bearer _ => (Bearer.uid credential, credential)

def gid (credential : Credential) : Mechanism → UInt32 × Credential
  | .claimed => (Claimed.gid credential, credential)
  | .signed _ => Signed.gid credential
  | .rehearsal _ => (Rehearsal.gid credential, credential)
  | .bearer _ => (Bearer.uid credential, credential)

def host (credential : Credential) : Mechanism → Option String × Credential
  | .claimed => (Claimed.host credential, credential)
  | .signed _ => Signed.host credential
  | .rehearsal _ => (Rehearsal.host credential, credential)
  | .bearer _ => (none, credential)

def pack (credential : Credential) : Mechanism → Packer
  | .claimed => Claimed.pack credential
  | .signed _ => Signed.pack credential
  | .rehearsal _ => Rehearsal.pack credential
  | .bearer _ => Bearer.pack credential

def unpack : Mechanism → Unpacker Credential
  | .claimed => Claimed.unpack
  | .signed _ => Signed.unpack
  | .rehearsal setup => setup.unpack
  | .bearer setup => setup.unpack

def describe (credential : Credential) : Mechanism → Except AuthError String
  | .claimed => Claimed.describe credential
  | .signed _ => Signed.describe credential
  | .rehearsal _ => Rehearsal.describe credential
  | .bearer _ => .ok (Bearer.describe credential)

def print (credential : Credential) (sink : Sink) (mechanism : Mechanism) :
    Except AuthError Unit × Sink :=
  sink.describe (mechanism.describe credential)

def lastError (credential : Credential) : Mechanism → ErrorCode
  | .claimed => Claimed.lastError credential
  | .signed _ => Signed.lastError credential
  | .rehearsal _ => Rehearsal.lastError credential
  | .bearer _ => .success

def errorText (code : Int32) : Mechanism → String
  | .claimed => Claimed.errorText code
  | .signed _ => Signed.errorText code
  | .rehearsal _ => Rehearsal.errorText code
  | .bearer _ => Bearer.errorText code

/-- Gives up what a mechanism holds. -/
def finish : Mechanism → Except AuthError Unit
  | .rehearsal setup => setup.finish
  | _ => .ok ()

end Mechanism

end Attest
