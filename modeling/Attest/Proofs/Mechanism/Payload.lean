import Attest.Proofs.Credential.Payload
import Attest.Proofs.Signed.Creation

/-!
Which kind of mechanism a credential belongs to, and what mechanisms of that kind write for it and
read back.
-/

namespace Attest

/-- Mechanisms of one kind know each other's credentials, whatever number and name they go by. -/
inductive Mechanism.Kind where
  | claimed
  | signed
  | rehearsal
  | bearer
deriving Repr, DecidableEq

def Mechanism.kind : Mechanism → Kind
  | .claimed => .claimed
  | .signed _ => .signed
  | .rehearsal _ => .rehearsal
  | .bearer _ => .bearer

/-- What is drawn at random has the length of a nonce. -/
def Surroundings.Drawn (surroundings : Surroundings) : Prop :=
  surroundings.nonce.length = Signed.nonceLength

namespace Credential

namespace State

def maker? : State → Option Mechanism.Kind
  | .claimed _ => some .claimed
  | .signed _ => some .signed
  | .rehearsed _ => some .rehearsal
  | .bearer _ => some .bearer
  | .text _ => none

def payload : State → Bytes
  | .claimed claim => claim.bytes
  | .signed claim => claim.bytes
  | .rehearsed claim => claim.bytes
  | .bearer uid => Wire.word32 uid
  | .text _ => []

/-- The state as it arrives: what its holder has learned about it is not sent. -/
def received : State → State
  | .signed claim => .signed claim.received
  | state => state

def host? : State → Option String
  | .claimed claim | .rehearsed claim => claim.host
  | .signed claim => claim.claim.host
  | .bearer _ | .text _ => none

/-- All fields are within the limits of what is read. -/
def Fits : State → Prop
  | .claimed claim | .rehearsed claim => Wire.Fits claim.host
  | .signed claim => claim.Fits
  | .bearer _ | .text _ => True

@[simp] theorem received_received (state : State) :
    state.received.received = state.received := by
  cases state <;> rfl

theorem exists_signed_of_received {state : State} {claim : SignedClaim}
    (same : state.received = .signed claim) :
    ∃ held, state = .signed held ∧ held.received = claim := by
  cases state with
  | signed held =>
    cases same
    exact ⟨held, rfl, rfl⟩
  | _ => cases same

@[simp] theorem maker?_received (state : State) : state.received.maker? = state.maker? := by
  cases state <;> rfl

@[simp] theorem host?_received (state : State) : state.received.host? = state.host? := by
  cases state <;> rfl

theorem fits_received {state : State} : state.received.Fits ↔ state.Fits := by
  cases state with
  | signed claim =>
    constructor
    · rintro ⟨host, nonce, signature⟩
      exact ⟨host, nonce, signature⟩
    · rintro ⟨host, nonce, signature⟩
      exact ⟨host, nonce, signature⟩
  | _ => exact Iff.rfl

end State

/-- The credential as a mechanism with the number takes it in. -/
def received (mechanismId : UInt32) (credential : Credential) : Credential :=
  { mechanismId, state := credential.state.received }

end Credential

namespace Mechanism

variable {mechanism : Mechanism} {credential : Credential} {state : Credential.State}

theorem pack_of_maker (own : credential.state.maker? = some mechanism.kind) (buffer : Bytes) :
    mechanism.pack credential buffer = (.ok (), buffer ++ credential.state.payload) := by
  obtain ⟨mechanismId, state⟩ := credential
  cases state <;> cases mechanism <;> first | rfl | cases own

/-- No mechanism packs a credential of another kind. -/
theorem maker_of_pack {buffer : Bytes} (packed : (mechanism.pack credential buffer).1 = .ok ()) :
    credential.state.maker? = some mechanism.kind := by
  obtain ⟨mechanismId, state⟩ := credential
  cases state <;> cases mechanism <;> first | rfl | cases packed

theorem reads_unpack (own : state.maker? = some mechanism.kind) (fits : state.Fits) :
    Reads mechanism.unpack state.payload
      { mechanismId := mechanism.id, state := state.received } := by
  cases state with
  | claimed claim =>
    cases mechanism <;> cases own
    exact (Unpacker.reads_ofWire (Claim.reads fits)).bind_pure _
  | signed claim =>
    cases mechanism <;> cases own
    exact (Unpacker.reads_ofWire (SignedClaim.reads fits)).bind_pure _
  | rehearsed claim =>
    cases mechanism <;> cases own
    exact (Unpacker.reads_ofWire (Claim.reads fits)).bind_pure _
  | bearer uid =>
    cases mechanism <;> cases own
    exact (Unpacker.reads_ofWire (Wire.reads_word32 uid)).bind_pure _
  | text content => cases own

theorem unpack_of_tooLong {host : String} (own : state.maker? = some mechanism.kind)
    (named : state.host? = some host) (long : Wire.maxBlockLength ≤ (Utf8.encode host).length)
    (declared : (Utf8.encode host).length + 1 < BigEndian.capacity 4) (rest : Bytes) :
    ∃ left, mechanism.unpack (state.payload ++ rest) =
      (.error (.decode (.tooLong ((Utf8.encode host).length + 1) Wire.maxBlockLength)), left) := by
  cases state with
  | claimed claim =>
    cases mechanism <;> cases own
    exact ⟨_, bind_of_error (Unpacker.ofWire_of_error
      (Claim.read_of_tooLong named long declared rest))⟩
  | signed claim =>
    cases mechanism <;> cases own
    obtain ⟨left, refused⟩ := SignedClaim.read_of_tooLong named long declared rest
    exact ⟨left, bind_of_error (Unpacker.ofWire_of_error refused)⟩
  | rehearsed claim =>
    cases mechanism <;> cases own
    exact ⟨_, bind_of_error (Unpacker.ofWire_of_error
      (Claim.read_of_tooLong named long declared rest))⟩
  | bearer uid => cases named
  | text content => cases own

end Mechanism

namespace Claimed

theorem claimed_of_create {info : Option String} {credential : Credential}
    (created : create info = .ok credential) :
    ∃ claim, credential = { mechanismId, state := .claimed claim } := by
  simp only [create, bind, Except.bind, pure, Except.pure] at created
  split at created
  · split at created
    · cases created
      exact ⟨_, rfl⟩
    · split at created <;> cases created
      exact ⟨_, rfl⟩
  · cases created

end Claimed

namespace Rehearsal

theorem rehearsed_of_create {setup : Rehearsal} {info : Option String} {credential : Credential}
    (created : setup.create info = .ok credential) :
    ∃ claim, credential = { mechanismId := setup.mechanismId, state := .rehearsed claim } := by
  simp only [create, bind, Except.bind, pure, Except.pure] at created
  split at created
  · split at created <;> cases created
    exact ⟨_, rfl⟩
  · cases created
    exact ⟨_, rfl⟩

end Rehearsal

namespace Bearer

theorem bearer_of_create {setup : Bearer} {info : Option String} {credential : Credential}
    (created : setup.create info = .ok credential) :
    ∃ uid, credential = { mechanismId := setup.mechanismId, state := .bearer uid } := by
  unfold create at created
  split at created <;> cases created
  exact ⟨_, rfl⟩

end Bearer

namespace Mechanism

variable {mechanism : Mechanism} {surroundings : Surroundings} {info : Option String}
  {credential : Credential}

theorem maker_of_create (created : mechanism.create surroundings info = .ok credential) :
    credential.state.maker? = some mechanism.kind := by
  cases mechanism with
  | claimed =>
    obtain ⟨claim, rfl⟩ := Claimed.claimed_of_create created
    rfl
  | signed signer =>
    obtain ⟨user, identity, -, -, rfl⟩ := (Signed.create_ok_iff _ _ _ _ _).1 created
    rfl
  | rehearsal setup =>
    obtain ⟨claim, rfl⟩ := Rehearsal.rehearsed_of_create created
    rfl
  | bearer setup =>
    obtain ⟨uid, rfl⟩ := Bearer.bearer_of_create created
    rfl

/-- Only the host of a new credential can be above the limits. -/
theorem fits_of_create (drawn : surroundings.Drawn)
    (created : mechanism.create surroundings info = .ok credential)
    (host : Wire.Fits credential.state.host?) : credential.state.Fits := by
  cases mechanism with
  | claimed =>
    obtain ⟨claim, rfl⟩ := Claimed.claimed_of_create created
    exact host
  | signed signer =>
    obtain ⟨user, identity, -, -, rfl⟩ := (Signed.create_ok_iff _ _ _ _ _).1 created
    refine { host, nonce := ?_, signature := ?_ }
    · change surroundings.nonce.length ≤ Wire.maxBlockLength
      rw [drawn]
      decide
    · rw [Signed.signature_issue, Signed.signature, Hmac.length_sha256]
      decide
  | rehearsal setup =>
    obtain ⟨claim, rfl⟩ := Rehearsal.rehearsed_of_create created
    exact host
  | bearer setup =>
    obtain ⟨uid, rfl⟩ := Bearer.bearer_of_create created
    trivial

end Mechanism

end Attest
