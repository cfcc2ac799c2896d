import Attest.Mechanism
import Attest.Proofs.Credential.Payload

/-!
The claims that signing mechanisms make and take. Creating succeeds exactly for a user of the
configuration, and what it yields is signed. Whatever comes anew, created or unpacked, is neither
verified nor in error.
-/

namespace Attest

namespace Signed

variable (mac : Mac) (signer : Signer) (now : UInt64) (nonce : Bytes) (info : Option String)

/-- The claim that is made for an identity, before it is signed. -/
def unsigned (identity : Identity) : SignedClaim where
  claim := {
    uid := identity.uid
    gid := identity.gid
    host := ((Options.parse info).get? "host").or signer.host
  }
  created := now
  expires := expiry now signer.lifetime
  nonce := nonce
  signature := []

def issue (identity : Identity) : SignedClaim :=
  let claim := unsigned signer now nonce info identity
  { claim with signature := signature mac signer.key claim }

/-- The signature is not among the bytes that it covers. -/
theorem signature_issue (identity : Identity) :
    (issue mac signer now nonce info identity).signature =
      signature mac signer.key (issue mac signer now nonce info identity) :=
  rfl

theorem create_ok_iff {credential : Credential} :
    create mac signer now nonce info = .ok credential ↔
      ∃ user identity, (Options.parse info).get? "user" = some user ∧
        signer.users.get? user = some identity ∧
        credential = { mechanismId, state := .signed (issue mac signer now nonce info identity) } := by
  unfold create
  constructor
  · intro created
    cases asked : (Options.parse info).get? "user" with
    | none => simp [asked, bind, Except.bind] at created
    | some user =>
      cases found : signer.users.get? user with
      | none => simp [asked, found, bind, Except.bind] at created
      | some identity =>
        simp only [asked, found, bind, Except.bind, pure, Except.pure, Except.ok.injEq] at created
        exact ⟨user, identity, rfl, found, created.symm⟩
  · rintro ⟨user, identity, asked, found, rfl⟩
    simp only [asked, found, bind, Except.bind]
    rfl

theorem read_of_unpack {buffer rest : Bytes} {arrived : Credential}
    (unpacked : unpack buffer = (.ok arrived, rest)) :
    ∃ received, arrived = { mechanismId, state := .signed received } ∧
      SignedClaim.read buffer = (.ok received, rest) := by
  obtain ⟨received, between, read, finished⟩ := ok_of_bind unpacked
  cases finished
  exact ⟨received, rfl, Unpacker.ok_of_ofWire read⟩

/-- Nothing has been learned about the credential yet. -/
def Fresh (credential : Credential) : Prop :=
  ∃ claim, credential.state = .signed claim ∧ claim.verified = false ∧ claim.lastError = 0

variable {signer info} {credential : Credential} {surroundings : Surroundings}

theorem fresh_of_create
    (created : Mechanism.create surroundings info (.signed signer) = .ok credential) :
    Fresh credential := by
  obtain ⟨user, identity, -, -, rfl⟩ := (create_ok_iff _ _ _ _ _).1 created
  exact ⟨_, rfl, rfl, rfl⟩

theorem fresh_of_unpack {buffer rest : Bytes}
    (unpacked : Mechanism.unpack (.signed signer) buffer = (.ok credential, rest)) :
    Fresh credential := by
  obtain ⟨received, rfl, read⟩ := read_of_unpack unpacked
  obtain ⟨same, -⟩ := SignedClaim.ok_of_read read
  refine ⟨received, rfl, ?_, ?_⟩
  · rw [← same]
    rfl
  · rw [← same]
    rfl

def sampleSigner : Signer where
  key := List.replicate 32 0x5A
  users := ({} : NameMap Identity).insert "alice" { uid := 1000, gid := 100 }
  host := some "node01"
  lifetime := 10
  clock := .scripted

def sampleSurroundings (time : UInt64) : Surroundings where
  wallTime := time
  scriptedTime := time
  nonce := List.replicate nonceLength 7

def sampleClaim : SignedClaim :=
  issue Hmac.sha256 sampleSigner 1000 (List.replicate nonceLength 7) (some "user=alice")
    { uid := 1000, gid := 100 }

def sampleCredential : Credential where
  mechanismId := mechanismId
  state := .signed sampleClaim

theorem genuine_sample :
    sampleClaim.signature = signature Hmac.sha256 sampleSigner.key sampleClaim :=
  signature_issue _ _ _ _ _ _

theorem fits_sample : sampleClaim.Fits := by
  refine { host := ?_, nonce := by decide, signature := ?_ }
  · intro host named
    cases named
    decide +kernel
  · rw [genuine_sample, signature, Hmac.length_sha256]
    decide

theorem create_sample :
    Mechanism.create (sampleSurroundings 1000) (some "user=alice") (.signed sampleSigner) =
      .ok sampleCredential := by
  rw [Mechanism.create, create_ok_iff]
  exact ⟨"alice", { uid := 1000, gid := 100 }, by decide +kernel, by decide +kernel, rfl⟩

end Signed

end Attest
