import Attest.Proofs.Signed.Creation
import Attest.Proofs.Signed.Verification

/-!
What a signature binds. The bytes that are signed tell every signed field of a claim, so a claim that
is accepted under the signature of another agrees with it, or the two exhibit a collision of the
message authentication code. The code is any function of key and message.
-/

namespace Attest

namespace SignedClaim

/-- The lengths of the fields that are signed can be declared in four bytes. That of a host counts
the octet that ends it. -/
structure Declarable (signed : SignedClaim) : Prop where
  host : ∀ host, signed.claim.host = some host →
    (Utf8.encode host).length + 1 < BigEndian.capacity 4
  nonce : signed.nonce.length < BigEndian.capacity 4

structure Agrees (left right : SignedClaim) : Prop where
  uid : left.claim.uid = right.claim.uid
  gid : left.claim.gid = right.claim.gid
  host : left.claim.host = right.claim.host
  created : left.created = right.created
  expires : left.expires = right.expires
  nonce : left.nonce = right.nonce

variable {left right signed : SignedClaim}

theorem Declarable.octets_lt (declarable : signed.Declarable) :
    (Wire.octets signed.claim.host).length < BigEndian.capacity 4 := by
  cases named : signed.claim.host with
  | none => decide
  | some host =>
    rw [Wire.octets, List.length_append, List.length_singleton]
    exact declarable.host host named

theorem agrees_of_signedBytes_eq (leftDeclarable : left.Declarable)
    (rightDeclarable : right.Declarable) (same : left.signedBytes = right.signedBytes) :
    left.Agrees right := by
  have fields := congrArg (· ++ []) same
  simp only [signedBytes, Claim.bytes, List.append_assoc] at fields
  obtain ⟨uid, fields⟩ := Wire.word32_append_inj fields
  obtain ⟨gid, fields⟩ := Wire.word32_append_inj fields
  obtain ⟨host, fields⟩ :=
    Wire.text_append_inj leftDeclarable.octets_lt rightDeclarable.octets_lt fields
  obtain ⟨created, fields⟩ := Wire.word64_append_inj fields
  obtain ⟨expires, fields⟩ := Wire.word64_append_inj fields
  obtain ⟨nonce, -⟩ :=
    Wire.block_append_inj leftDeclarable.nonce rightDeclarable.nonce fields
  exact { uid, gid, host, created, expires, nonce }

theorem Agrees.signedBytes_eq (agrees : left.Agrees right) :
    left.signedBytes = right.signedBytes := by
  simp only [signedBytes, Claim.bytes, agrees.uid, agrees.gid, agrees.host, agrees.created,
    agrees.expires, agrees.nonce]

theorem signedBytes_eq_iff (leftDeclarable : left.Declarable)
    (rightDeclarable : right.Declarable) :
    left.signedBytes = right.signedBytes ↔ left.Agrees right :=
  ⟨agrees_of_signedBytes_eq leftDeclarable rightDeclarable, Agrees.signedBytes_eq⟩

theorem declarable_of_read {buffer rest : Bytes} (accepted : read buffer = (.ok signed, rest)) :
    signed.Declarable := by
  obtain ⟨-, _, _, _, _, claimed, -, -, drawn, -⟩ := ok_of_read accepted
  obtain ⟨_, _, -, -, named⟩ := Claim.ok_of_read claimed
  refine { host := ?_, nonce := ?_ }
  · intro host isHost
    rw [isHost] at named
    have short := Wire.length_encode_le_of_readText named
    -- What is read is shorter than what can be declared.
    have limit : Wire.maxBlockLength + 1 < BigEndian.capacity 4 := by decide
    omega
  · have short := (Wire.readBlock_ok_iff.1 drawn).1
    exact Wire.lt_capacity_of_le_maxBlockLength short

end SignedClaim

namespace Signed

theorem declarable_issue {mac : Mac} {signer : Signer} {made : UInt64} {nonce : Bytes}
    {info : Option String} {identity : Identity} (drawn : nonce.length = nonceLength)
    (host : ∀ host, (issue mac signer made nonce info identity).claim.host = some host →
      (Utf8.encode host).length + 1 < BigEndian.capacity 4) :
    (issue mac signer made nonce info identity).Declarable := by
  refine { host, nonce := ?_ }
  change nonce.length < BigEndian.capacity 4
  rw [drawn]
  decide

/-- Claims whose lengths can be declared are signed alike exactly when they agree on every signed
field. So whatever is accepted under the signature of a created claim agrees with that claim, or
collides with it. -/
theorem agrees_or_collides_of_accepted (mac : Mac) :
    (∀ left right : SignedClaim, left.Declarable → right.Declarable →
      (left.signedBytes = right.signedBytes ↔ left.Agrees right)) ∧
    ∀ (signer : Signer) (made : UInt64) (nonce : Bytes) (info : Option String)
      (original : Credential) (asserted : SignedClaim),
      nonce.length = nonceLength → create mac signer made nonce info = .ok original →
      original.state = .signed asserted →
      (∀ host, asserted.claim.host = some host →
        (Utf8.encode host).length + 1 < BigEndian.capacity 4) →
      ∀ (buffer rest : Bytes) (arrived : Credential) (received : SignedClaim),
      unpack buffer = (.ok arrived, rest) → arrived.state = .signed received →
      received.signature = asserted.signature →
      ∀ (verifier : Signer) (now : UInt64), verifier.key = signer.key →
      (verify mac verifier now arrived).1 = .ok () →
      asserted.Agrees received ∨
        asserted.signedBytes ≠ received.signedBytes ∧
          mac signer.key asserted.signedBytes = mac signer.key received.signedBytes := by
  constructor
  · intro left right leftDeclarable rightDeclarable
    exact SignedClaim.signedBytes_eq_iff leftDeclarable rightDeclarable
  · intro signer made nonce info original asserted drawn created isAsserted host buffer rest arrived
      received unpacked held sameSignature verifier now sameKey accepted
    obtain ⟨user, identity, -, -, rfl⟩ := (create_ok_iff mac signer made nonce info).1 created
    cases isAsserted
    obtain ⟨_, rfl, read⟩ := read_of_unpack unpacked
    cases held
    have genuine := ((verify_ok_iff rfl).1 accepted).1
    have collision : mac signer.key (issue mac signer made nonce info identity).signedBytes =
        mac signer.key received.signedBytes := by
      calc
        _ = (issue mac signer made nonce info identity).signature := rfl
        _ = received.signature := sameSignature.symm
        _ = mac signer.key received.signedBytes := by rw [genuine, signature, sameKey]
    by_cases same : (issue mac signer made nonce info identity).signedBytes = received.signedBytes
    · left
      exact SignedClaim.agrees_of_signedBytes_eq (declarable_issue drawn host)
        (SignedClaim.declarable_of_read read) same
    · right
      exact ⟨same, collision⟩

theorem binds_sample :
    unpack (sampleClaim.bytes ++ [0xFF]) =
      (.ok { mechanismId, state := .signed sampleClaim.received }, [0xFF]) ∧
    (verify Hmac.sha256 sampleSigner 1010
      { mechanismId, state := .signed sampleClaim.received }).1 = .ok () ∧
    (sampleClaim.Agrees sampleClaim.received ∨
      sampleClaim.signedBytes ≠ sampleClaim.received.signedBytes ∧
        Hmac.sha256 sampleSigner.key sampleClaim.signedBytes =
          Hmac.sha256 sampleSigner.key sampleClaim.received.signedBytes) := by
  have unpacked : unpack (sampleClaim.bytes ++ [0xFF]) =
      (.ok { mechanismId, state := .signed sampleClaim.received }, [0xFF]) :=
    (Unpacker.reads_ofWire (SignedClaim.reads fits_sample)).bind_pure _ [0xFF]
  have accepted : (verify Hmac.sha256 sampleSigner 1010
      { mechanismId, state := .signed sampleClaim.received }).1 = .ok () :=
    (verify_ok_iff rfl).2 ⟨genuine_sample, by decide⟩
  refine ⟨unpacked, accepted, ?_⟩
  have short : ∀ host, sampleClaim.claim.host = some host →
      (Utf8.encode host).length + 1 < BigEndian.capacity 4 := by
    intro host named
    have fits := fits_sample.host host named
    exact Wire.lt_capacity_of_le_maxBlockLength fits
  exact (agrees_or_collides_of_accepted Hmac.sha256).2 sampleSigner 1000 _ (some "user=alice")
    sampleCredential sampleClaim rfl create_sample rfl short (sampleClaim.bytes ++ [0xFF]) [0xFF] _
    sampleClaim.received unpacked rfl rfl sampleSigner 1010 rfl accepted

end Signed

end Attest
