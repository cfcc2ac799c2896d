import Attest.Proofs.Context.Absence
import Attest.Proofs.Context.RoundTrip
import Attest.Proofs.Signed.Verification
import Mathlib.Algebra.Group.Nat.Defs

/-!
How long a signed credential is accepted. The end of its lifetime is fixed when it is created and is
signed with it, so every verifier with the key accepts it up to the same moment, wherever it has been
sent and whatever it has been used for in between.
-/

namespace Attest

/-- The provider has a signing mechanism and goes by the number and name of all of them. -/
structure Provider.Signs (provider : Provider) : Prop where
  signing : ∃ signer, provider.mechanism = .signed signer
  id : provider.id = Signed.mechanismId
  name : provider.name = Signed.mechanismName

theorem Provider.Signs.peers {sender receiver : Provider} (sends : sender.Signs)
    (takes : receiver.Signs) : sender.Peers receiver := by
  obtain ⟨source, isSource⟩ := sends.signing
  obtain ⟨target, isTarget⟩ := takes.signing
  exact {
    kind := by rw [isSource, isTarget]; rfl
    id := sends.id.trans takes.id.symm
    name := sends.name.trans takes.name.symm
    named := by rw [sends.name]; decide
    short := by rw [sends.name]; decide
  }

/-- A signing mechanism is active, or is the default one and can be loaded. -/
def Site.Signs (site : Site) : Prop :=
  ∃ provider ready, site.Present provider ready ∧ provider.Signs

namespace Signed

section

variable {mac : Mac} {signer : Signer} {now : UInt64} {credential : Credential}
  {claim : SignedClaim}

/-- The end of a lifetime is computed without wrapping around. -/
theorem toNat_expiry (created lifetime : UInt64) :
    (expiry created lifetime).toNat = min (created.toNat + lifetime.toNat) (2 ^ 64 - 1) := by
  apply UInt64.toNat_ofNat_of_lt'
  have : UInt64.size = 2 ^ 64 := rfl
  omega

theorem le_expiry (created lifetime : UInt64) : created ≤ expiry created lifetime := by
  rw [UInt64.le_iff_toNat_le, toNat_expiry]
  have bounded := created.toNat_lt
  omega

/-- Only a credential that is signed under the key is refused for its age. -/
theorem refusal?_eq_expired_iff :
    refusal? mac signer.key now claim = some expired ↔
      claim.signature = signature mac signer.key claim ∧ claim.expires < now := by
  constructor
  · intro refused
    have genuine : claim.signature = signature mac signer.key claim := by
      refine Decidable.byContradiction fun forged => ?_
      rw [refusal?_of_forged forged] at refused
      cases refused
    refine ⟨genuine, UInt64.not_le.1 fun inTime => ?_⟩
    rw [refusal?_eq_none_iff.2 ⟨genuine, inTime⟩] at refused
    cases refused
  · intro ⟨genuine, late⟩
    exact refusal?_of_expired genuine late

theorem verify_eq_expired_iff (held : credential.state = .signed claim) :
    (verify mac signer now credential).1 = .error (failure expired) ↔
      claim.signature = signature mac signer.key claim ∧ claim.expires < now := by
  rw [← refusal?_eq_expired_iff]
  cases refused : refusal? mac signer.key now claim with
  | none =>
    rw [verify_of_accepted held refused]
    simp only [reduceCtorEq]
  | some code =>
    rw [verify_of_refused held refused]
    simp only [failure, Except.error.injEq, AuthError.mechanism.injEq, Option.some.injEq]
    constructor
    · intro same
      exact same.1
    · intro same
      exact ⟨same, congrArg errorText same⟩

/-- The age of a signed claim is all that the key does not settle. -/
theorem verify_of_genuine (held : credential.state = .signed claim)
    (genuine : claim.signature = signature mac signer.key claim) :
    (verify mac signer now credential).1 =
      if now ≤ claim.expires then .ok () else .error (failure expired) := by
  by_cases inTime : now ≤ claim.expires
  · rw [if_pos inTime]
    exact (verify_ok_iff held).2 ⟨genuine, inTime⟩
  · rw [if_neg inTime]
    exact (verify_eq_expired_iff held).2 ⟨genuine, UInt64.not_le.1 inTime⟩

/-- Once a claim is refused for its age it always is. -/
theorem verify_eq_expired_mono {verifier : Signer} {later : UInt64}
    (held : credential.state = .signed claim) (sameKey : verifier.key = signer.key)
    (order : now ≤ later)
    (refused : (verify mac signer now credential).1 = .error (failure expired)) :
    (verify mac verifier later credential).1 = .error (failure expired) := by
  obtain ⟨genuine, late⟩ := (verify_eq_expired_iff held).1 refused
  rw [verify_eq_expired_iff held, sameKey]
  exact ⟨genuine, UInt64.lt_of_lt_of_le late order⟩

/-- No moment comes after the end of time. -/
theorem verify_ne_expired (held : credential.state = .signed claim)
    (endless : claim.expires.toNat = 2 ^ 64 - 1) :
    (verify mac signer now credential).1 ≠ .error (failure expired) := by
  intro refused
  obtain ⟨-, late⟩ := (verify_eq_expired_iff held).1 refused
  rw [UInt64.lt_iff_toNat_lt] at late
  have bounded := now.toNat_lt
  omega

theorem received_release (credential : Credential) :
    (release credential).2.state.received = credential.state.received := by
  cases held : credential.state with
  | signed claim =>
    cases verified : claim.verified with
    | true => rw [release_of_verified held verified, held]
    | false =>
      rw [release_of_unverified held verified]
      rfl
  | _ => simp only [release, claim?, held]

theorem received_verify (mac : Mac) (signer : Signer) (now : UInt64) (credential : Credential) :
    (verify mac signer now credential).2.state.received = credential.state.received := by
  cases held : credential.state with
  | signed claim =>
    cases refused : refusal? mac signer.key now claim with
    | none =>
      rw [verify_of_accepted held refused]
      rfl
    | some code =>
      rw [verify_of_refused held refused]
      rfl
  | _ => simp only [verify, claim?, held]

/-- No use of a credential changes what is sent of it. -/
theorem received_ask (signer : Signer) (surroundings : Surroundings) (credential : Credential)
    (use : Use) :
    (use.ask surroundings (.signed signer) credential).2.state.received =
      credential.state.received := by
  cases use with
  | verify => exact received_verify ..
  | uid => exact received_release credential
  | gid => exact received_release credential
  | host => exact received_release credential
  | lastError => rfl
  | pack version buffer => rfl
  | print sink => rfl

end

/-- What may happen to a credential after it has been created. -/
inductive Passage where
  /-- Some signing mechanism is asked about it. -/
  | use (signer : Signer) (surroundings : Surroundings) (asked : Use)
  /-- One context packs it behind what stands in the buffer, and another unpacks it from what was
  packed and whatever follows. -/
  | sending (sender receiver : Site) (version : Version) (before after : Bytes)

namespace Passage

/-- What becomes of the credential. -/
def carry (credential : Credential) : Passage → Except AuthError Credential
  | .use signer surroundings asked =>
    .ok (asked.ask surroundings (.signed signer) credential).2
  | .sending sender receiver version before after =>
    match (sender.pack version credential before).1 with
    | (.error cause, _) => .error cause
    | (.ok (), packed) =>
      (receiver.unpack version (packed.drop before.length ++ after)).1.1

/-- Credentials are sent between signing contexts, under a version that they support. Their keys do not
matter. -/
def Supported : Passage → Prop
  | .use _ _ _ => True
  | .sending sender receiver version _ _ =>
    sender.Signs ∧ receiver.Signs ∧ Version.oldest.number ≤ version.number

variable {credential : Credential}

theorem carry_sending {sender receiver : Site} {version : Version} {before after : Bytes}
    (supported : (sending sender receiver version before after).Supported)
    (own : credential.state.maker? = some .signed) (fits : credential.state.Fits) :
    (sending sender receiver version before after).carry credential =
      .ok (credential.received mechanismId) := by
  obtain ⟨⟨source, sending, sends, sourceSigns⟩, ⟨target, receiving, takes, targetSigns⟩, recent⟩ :=
    supported
  obtain ⟨envelope, chosen⟩ := Version.exists_envelope recent
  obtain ⟨packer, isPacker⟩ := sourceSigns.signing
  obtain ⟨taker, isTaker⟩ := targetSigns.signing
  have made : credential.state.maker? = some source.mechanism.kind := by
    rw [own, isPacker]
    rfl
  obtain ⟨_, packs⟩ := Site.pack_of_maker (Site.active_of_present sends) chosen made before
  obtain ⟨_, unpacks⟩ := Site.unpack_of_maker (Site.active_of_present takes) chosen
    (sourceSigns.peers targetSigns) made fits after
  have packed : sender.pack version credential before = sending.pack version credential before :=
    sends.dispatch_eq _ _
  have unpacked (buffer : Bytes) : receiver.unpack version buffer = receiving.unpack version buffer :=
    takes.dispatch_eq _ _
  simp only [carry, packed, packs, unpacked, List.drop_left, unpacks, isTaker]
  rfl

theorem exists_carry {original : Credential} (own : original.state.maker? = some .signed)
    (fits : original.state.Fits) (same : credential.state.received = original.state.received)
    {passage : Passage} (supported : passage.Supported) :
    ∃ after, passage.carry credential = .ok after ∧
      after.state.received = original.state.received := by
  cases passage with
  | use signer surroundings asked =>
    exact ⟨_, rfl, (received_ask signer surroundings credential asked).trans same⟩
  | sending sender receiver version before after =>
    have stillOwn : credential.state.maker? = some .signed := by
      rw [← Credential.State.maker?_received, same, Credential.State.maker?_received, own]
    have stillFits : credential.state.Fits := by
      rw [← Credential.State.fits_received, same, Credential.State.fits_received]
      exact fits
    refine ⟨_, carry_sending supported stillOwn stillFits, ?_⟩
    exact (Credential.State.received_received _).trans same

end Passage

/-- One passage after another, until one fails. -/
def travel (passages : List Passage) (credential : Credential) : Except AuthError Credential :=
  passages.foldlM Passage.carry credential

theorem exists_travel {original credential : Credential}
    (own : original.state.maker? = some .signed) (fits : original.state.Fits)
    (same : credential.state.received = original.state.received) {passages : List Passage}
    (supported : ∀ passage ∈ passages, passage.Supported) :
    ∃ copy, travel passages credential = .ok copy ∧
      copy.state.received = original.state.received := by
  induction passages generalizing credential with
  | nil => exact ⟨credential, rfl, same⟩
  | cons passage later ih =>
    obtain ⟨first, others⟩ := List.forall_mem_cons.1 supported
    obtain ⟨after, carried, stillSame⟩ := Passage.exists_carry own fits same first
    obtain ⟨copy, travelled, arrived⟩ := ih stillSame others
    refine ⟨copy, ?_, arrived⟩
    rw [travel, List.foldlM_cons, carried]
    exact travelled

/-- What every copy of a created credential holds: a signed claim with the end of its lifetime. -/
theorem exists_travel_create {signer : Signer} {surroundings : Surroundings} {info : Option String}
    {original : Credential} {passages : List Passage} (drawn : surroundings.Drawn)
    (created : Mechanism.create surroundings info (.signed signer) = .ok original)
    (host : Wire.Fits original.state.host?)
    (supported : ∀ passage ∈ passages, passage.Supported) :
    ∃ copy claim, travel passages original = .ok copy ∧ copy.state = .signed claim ∧
      claim.signature = signature Hmac.sha256 signer.key claim ∧
      claim.created = surroundings.now signer.clock ∧
      claim.expires = expiry (surroundings.now signer.clock) signer.lifetime := by
  have fits := Mechanism.fits_of_create drawn created host
  obtain ⟨user, identity, -, -, rfl⟩ := (create_ok_iff _ _ _ _ _).1 created
  obtain ⟨copy, travelled, same⟩ := exists_travel rfl fits rfl supported
  obtain ⟨claim, held, sameClaim⟩ := Credential.State.exists_signed_of_received same
  -- What a holder learns is in none of the fields that are compared.
  refine ⟨copy, claim, travelled, held, ?_, congrArg SignedClaim.created sameClaim,
    congrArg SignedClaim.expires sameClaim⟩
  have genuine : claim.received.signature =
      signature Hmac.sha256 signer.key claim.received := by
    rw [sameClaim]
    exact signature_issue Hmac.sha256 signer _ surroundings.nonce info identity
  exact genuine

/-- A created credential, and every copy of it, is accepted up to the end of the lifetime that it was
created with, and refused for its age from then on: by every verifier with the key, whatever else its
configuration is. -/
theorem verify_of_travel {signer : Signer} {surroundings : Surroundings} {info : Option String}
    {original : Credential} {passages : List Passage} (drawn : surroundings.Drawn)
    (created : Mechanism.create surroundings info (.signed signer) = .ok original)
    (host : Wire.Fits original.state.host?)
    (supported : ∀ passage ∈ passages, passage.Supported) :
    let made := surroundings.now signer.clock
    let deadline := min (made.toNat + signer.lifetime.toNat) (2 ^ 64 - 1)
    ∃ copy claim, travel passages original = .ok copy ∧ copy.state = .signed claim ∧
      claim.created = made ∧ claim.expires.toNat = deadline ∧ claim.created ≤ claim.expires ∧
      (∀ (verifier : Signer) (later : Surroundings), verifier.key = signer.key →
        (Mechanism.verify later copy (.signed verifier)).1 =
          if (later.now verifier.clock).toNat ≤ deadline then .ok ()
          else .error (.mechanism 8 "credential expired")) ∧
      (∀ (first second : Signer) (early late : Surroundings), second.key = first.key →
        early.now first.clock ≤ late.now second.clock →
        (Mechanism.verify early copy (.signed first)).1 =
          .error (.mechanism 8 "credential expired") →
        (Mechanism.verify late copy (.signed second)).1 =
          .error (.mechanism 8 "credential expired")) ∧
      (2 ^ 64 - 1 ≤ made.toNat + signer.lifetime.toNat →
        ∀ (verifier : Signer) (later : Surroundings),
          (Mechanism.verify later copy (.signed verifier)).1 ≠
            .error (.mechanism 8 "credential expired")) := by
  intro made deadline
  obtain ⟨copy, claim, travelled, held, genuine, start, finish⟩ :=
    exists_travel_create drawn created host supported
  have ends : claim.expires.toNat = deadline := by
    rw [finish, toNat_expiry]
  have aged : failure expired = .mechanism 8 "credential expired" := rfl
  refine ⟨copy, claim, travelled, held, start, ends, ?_, ?_, ?_, ?_⟩
  · rw [start, finish]
    exact le_expiry _ _
  · intro verifier later sameKey
    rw [← ends, ← aged]
    rw [← sameKey] at genuine
    exact verify_of_genuine held genuine
  · intro first second early late sameKey order
    exact verify_eq_expired_mono held sameKey order
  · intro endless verifier later
    apply verify_ne_expired held
    rw [ends]
    exact Nat.min_eq_right endless

def sampleJourney : List Passage :=
  let site (key : Bytes) : Site := { context := .ofMechanism (.signed { sampleSigner with key }) }
  let near := site sampleSigner.key
  let far := site (List.replicate 32 0x11)
  [.sending near far .oldest [1, 2, 3] [], .use sampleSigner (sampleSurroundings 1005) .verify,
    .sending far near .current [] [0xFF]]

theorem supported_sampleJourney : ∀ passage ∈ sampleJourney, passage.Supported := by
  have signs (key : Bytes) :
      ({ context := .ofMechanism (.signed { sampleSigner with key }) } : Site).Signs :=
    ⟨_, _, .active rfl, ⟨_, rfl⟩, rfl, rfl⟩
  intro passage member
  simp only [sampleJourney, List.mem_cons, List.not_mem_nil, or_false] at member
  obtain rfl | rfl | rfl := member
  · exact ⟨signs _, signs _, by decide⟩
  · trivial
  · exact ⟨signs _, signs _, by decide⟩

/-- A verifier with another lifetime, and no users and no host of its own, agrees to the second. -/
theorem verify_sampleJourney :
    let verifier : Signer := { key := sampleSigner.key, users := {}, host := none, lifetime := 0 }
    ∃ copy, travel sampleJourney sampleCredential = .ok copy ∧
      (Mechanism.verify (sampleSurroundings 1010) copy (.signed verifier)).1 = .ok () ∧
      (Mechanism.verify (sampleSurroundings 1011) copy (.signed verifier)).1 =
        .error (.mechanism 8 "credential expired") := by
  intro verifier
  have drawn : (sampleSurroundings 1000).Drawn := rfl
  obtain ⟨copy, claim, travelled, -, -, -, -, verifies, -⟩ :=
    verify_of_travel drawn create_sample fits_sample.host supported_sampleJourney
  refine ⟨copy, travelled, ?_, ?_⟩
  · exact verifies verifier (sampleSurroundings 1010) rfl
  · exact verifies verifier (sampleSurroundings 1011) rfl

end Signed

end Attest
