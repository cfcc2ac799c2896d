import Attest.Proofs.Signed.Gate

/-!
One signed credential that any number of contexts use in turn. That it has been verified is a fact of
the credential: whichever context verified it, all of them are told the identity from then on, and no
refusal takes that back.
-/

namespace Attest

/-- The identity that is told when there is none to tell. -/
def Claim.unknown : Claim where
  uid := nobody
  gid := nobody
  host := none

def Claim.Reveals (told identity : Claim) : Prop :=
  (told.uid = identity.uid ∧ identity.uid ≠ nobody) ∨
    (told.gid = identity.gid ∧ identity.gid ≠ nobody) ∨
    (told.host = identity.host ∧ identity.host ≠ none)

theorem Claim.not_reveals_unknown (identity : Claim) : ¬ unknown.Reveals identity := by
  intro reveals
  rcases reveals with ⟨same, known⟩ | ⟨same, known⟩ | ⟨same, known⟩
  · exact known same.symm
  · exact known same.symm
  · exact known same.symm

namespace Signed

structure Request where
  caller : Nat
  surroundings : Surroundings
  use : Use

structure Exchange where
  caller : Nat
  use : Use
  answer : Use.Answer

/-- The contexts by their numbers, the credential that they share, and what they have been told, the
latest first. -/
structure Sharing where
  contexts : Nat → Context
  history : History
  credential : Credential
  exchanges : List Exchange := []

/-- A credential that some signing mechanism has created or unpacked. -/
def Born (credential : Credential) : Prop :=
  (∃ signer surroundings info,
    Mechanism.create surroundings info (.signed signer) = .ok credential) ∨
  ∃ signer buffer rest, Mechanism.unpack (.signed signer) buffer = (.ok credential, rest)

theorem Born.fresh {credential : Credential} (born : Born credential) : Fresh credential := by
  rcases born with ⟨signer, surroundings, info, created⟩ | ⟨signer, buffer, rest, unpacked⟩
  · exact fresh_of_create created
  · exact fresh_of_unpack unpacked

theorem tracks_request {site : Site} {provider : Provider} {signer : Signer}
    {credential : Credential} {claim : SignedClaim} {record : Record}
    (active : site.context.active = some provider) (signs : provider.mechanism = .signed signer)
    (surroundings : Surroundings) (tracks : Tracks claim record)
    (held : credential.state = .signed claim) (use : Use) :
    ∃ after, (use.request surroundings site credential).1.2 = credential.withClaim after ∧
      after.received = claim.received ∧
      Tracks after ((use, (use.request surroundings site credential).1.1) :: record) := by
  -- Contexts answer as their mechanisms do but for packing, which leaves the credential alone.
  by_cases packs : ∃ version buffer, use = .pack version buffer
  · obtain ⟨version, buffer, rfl⟩ := packs
    exact ⟨claim, (Credential.withClaim_self held).symm, rfl, tracks.verified, tracks.lastError⟩
  · have plain : ∀ version buffer, use ≠ .pack version buffer :=
      fun version buffer same => packs ⟨version, buffer, same⟩
    rw [Use.request_eq_ask active surroundings credential plain, signs]
    exact tracks_ask signer surroundings tracks held use

namespace Sharing

def site (sharing : Sharing) (caller : Nat) : Site where
  context := sharing.contexts caller
  history := sharing.history

def perform (sharing : Sharing) (request : Request) : Sharing :=
  let ((answer, credential), site) :=
    request.use.request request.surroundings (sharing.site request.caller) sharing.credential
  {
    contexts := fun caller =>
      if caller = request.caller then site.context else sharing.contexts caller
    history := site.history
    credential
    exchanges := { caller := request.caller, use := request.use, answer } :: sharing.exchanges
  }

def run (sharing : Sharing) (requests : List Request) : Sharing :=
  requests.foldl perform sharing

theorem run_nil (sharing : Sharing) : sharing.run [] = sharing :=
  rfl

theorem run_cons (sharing : Sharing) (request : Request) (later : List Request) :
    sharing.run (request :: later) = (sharing.perform request).run later :=
  rfl

/-- All contexts have signing mechanisms, each with a key and clock of its own. -/
def Signing (sharing : Sharing) : Prop :=
  ∀ caller, ∃ provider signer, (sharing.contexts caller).active = some provider ∧
    provider.mechanism = .signed signer

theorem Signing.active {sharing : Sharing} (signing : sharing.Signing) (caller : Nat) :
    ∃ provider signer, (sharing.site caller).context.active = some provider ∧
      provider.mechanism = .signed signer :=
  signing caller

def told (sharing : Sharing) (caller : Nat) : Claim where
  uid := ((sharing.site caller).uid sharing.credential).1.1
  gid := ((sharing.site caller).gid sharing.credential).1.1
  host := ((sharing.site caller).host sharing.credential).1.1

/-- A verification by some context has succeeded. -/
def Accepted (sharing : Sharing) : Prop :=
  ∃ caller, { caller, use := .verify, answer := .done (.ok ()) } ∈ sharing.exchanges

/-- The last verification by the context has succeeded. -/
def latestAccepted (caller : Nat) : List Exchange → Bool
  | [] => false
  | { caller := other, use := .verify, answer := .done outcome } :: earlier =>
    if other = caller then outcome.isOk else latestAccepted caller earlier
  | _ :: earlier => latestAccepted caller earlier

def record (sharing : Sharing) : Record :=
  sharing.exchanges.map fun exchange => (exchange.use, exchange.answer)

variable {sharing : Sharing} {provider : Provider} {signer : Signer} {claim : SignedClaim}

theorem accepted_iff : sharing.Accepted ↔ acceptance ∈ sharing.record := by
  rw [record, List.mem_map]
  constructor
  · intro accepted
    obtain ⟨caller, member⟩ := accepted
    exact ⟨_, member, rfl⟩
  · intro recorded
    obtain ⟨⟨caller, use, answer⟩, member, same⟩ := recorded
    cases same
    exact ⟨caller, member⟩

/-- A context that has a provider stays as it is, whoever asks. -/
theorem contexts_perform {caller : Nat} (active : (sharing.contexts caller).active = some provider)
    (request : Request) : (sharing.perform request).contexts caller = sharing.contexts caller := by
  by_cases asked : caller = request.caller
  · subst asked
    have active : (sharing.site request.caller).context.active = some provider := active
    have kept := Use.context_request active request.surroundings sharing.credential request.use
    simp only [perform, if_true, kept]
    rfl
  · simp only [perform, if_neg asked]

theorem signing_perform (signing : sharing.Signing) (request : Request) :
    (sharing.perform request).Signing := by
  intro caller
  obtain ⟨provider, signer, active, signs⟩ := signing caller
  refine ⟨provider, signer, ?_, signs⟩
  rw [contexts_perform active]
  exact active

theorem told_of_active {caller : Nat}
    (active : (sharing.site caller).context.active = some provider) :
    sharing.told caller = {
      uid := (provider.mechanism.uid sharing.credential).1
      gid := (provider.mechanism.gid sharing.credential).1
      host := (provider.mechanism.host sharing.credential).1
    } := by
  simp only [told, Site.uid, Site.gid, Site.host, Site.dispatch_of_active active]
  rfl

theorem request_verify {caller : Nat} (active : (sharing.contexts caller).active = some provider)
    (signs : provider.mechanism = .signed signer) (surroundings : Surroundings) :
    (Use.verify.request surroundings (sharing.site caller) sharing.credential).1 =
      let (outcome, credential) :=
        verify Hmac.sha256 signer (surroundings.now signer.clock) sharing.credential
      (.done outcome, credential) := by
  have active : (sharing.site caller).context.active = some provider := active
  rw [Use.request_eq_ask active surroundings sharing.credential (by simp), signs]
  rfl

theorem exchanges_verify {caller : Nat}
    (active : (sharing.contexts caller).active = some provider)
    (signs : provider.mechanism = .signed signer) (surroundings : Surroundings) :
    (sharing.perform { caller, surroundings, use := .verify }).exchanges =
      {
        caller
        use := .verify
        answer := .done
          (verify Hmac.sha256 signer (surroundings.now signer.clock) sharing.credential).1
      } :: sharing.exchanges := by
  simp only [perform, request_verify active signs]

theorem credential_verify {caller : Nat}
    (active : (sharing.contexts caller).active = some provider)
    (signs : provider.mechanism = .signed signer) (surroundings : Surroundings) :
    (sharing.perform { caller, surroundings, use := .verify }).credential =
      (verify Hmac.sha256 signer (surroundings.now signer.clock) sharing.credential).2 := by
  simp only [perform, request_verify active signs]

/-- The credential is in step with what all contexts together have been told, and all that is signed
is as it was. -/
structure InStep (claim : SignedClaim) (sharing : Sharing) : Prop where
  signing : sharing.Signing
  tracks : ∃ held, sharing.credential.state = .signed held ∧ held.received = claim.received ∧
    Tracks held sharing.record

theorem inStep_start {contexts : Nat → Context} {history : History} {credential : Credential}
    (signing : ({ contexts, history, credential } : Sharing).Signing)
    (held : credential.state = .signed claim) (unverified : claim.verified = false)
    (inOrder : claim.lastError = 0) : InStep claim { contexts, history, credential } := by
  have tracks : Tracks claim [] := ⟨unverified, inOrder⟩
  exact { signing, tracks := ⟨claim, held, rfl, tracks⟩ }

theorem inStep_perform (inStep : InStep claim sharing) (request : Request) :
    InStep claim (sharing.perform request) := by
  obtain ⟨provider, signer, active, signs⟩ := inStep.signing.active request.caller
  obtain ⟨held, state, same, tracks⟩ := inStep.tracks
  obtain ⟨after, left, kept, tracked⟩ :=
    tracks_request active signs request.surroundings tracks state request.use
  refine { signing := signing_perform inStep.signing request, tracks := ⟨after, ?_, ?_, tracked⟩ }
  · change ((request.use.request request.surroundings (sharing.site request.caller)
      sharing.credential).1.2).state = .signed after
    rw [left, Credential.withClaim_state]
  · exact kept.trans same

theorem inStep_run (inStep : InStep claim sharing) (requests : List Request) :
    InStep claim (sharing.run requests) := by
  induction requests generalizing sharing with
  | nil => exact inStep
  | cons request later ih => exact ih (inStep_perform inStep request)

theorem told_of_accepted (inStep : InStep claim sharing) (accepted : sharing.Accepted)
    (caller : Nat) : sharing.told caller = claim.claim := by
  obtain ⟨provider, signer, active, signs⟩ := inStep.signing.active caller
  obtain ⟨held, state, same, tracks⟩ := inStep.tracks
  have verified : held.verified = true := by
    rw [tracks.verified]
    exact Record.accepted_iff.2 (accepted_iff.1 accepted)
  have sameClaim : held.claim = claim.claim := by
    calc
      held.claim = held.received.claim := rfl
      _ = claim.received.claim := by rw [same]
      _ = claim.claim := rfl
  have releases := (gate_of_signed state).released verified signer
  rw [told_of_active active, signs, releases.1, releases.2.1, releases.2.2, sameClaim]

theorem told_of_not_accepted (inStep : InStep claim sharing) (unaccepted : ¬ sharing.Accepted)
    (caller : Nat) : sharing.told caller = .unknown := by
  obtain ⟨provider, signer, active, signs⟩ := inStep.signing.active caller
  obtain ⟨held, state, same, tracks⟩ := inStep.tracks
  have unverified : held.verified = false := by
    cases verified : held.verified with
    | false => rfl
    | true =>
      rw [tracks.verified] at verified
      exact absurd (accepted_iff.2 (Record.accepted_iff.1 verified)) unaccepted
  have withholds := (gate_of_signed state).withheld unverified signer
  rw [told_of_active active, signs, withholds.1, withholds.2.1, withholds.2.2]
  rfl

/-- Contexts that share a credential are told its identity if one of them has verified it with
success, and nothing before that. -/
theorem told_iff_accepted {contexts : Nat → Context} {history : History} {credential : Credential}
    (signing : ({ contexts, history, credential } : Sharing).Signing) (born : Born credential) :
    ∃ claim, credential.state = .signed claim ∧ ∀ requests caller,
      let shared := ({ contexts, history, credential } : Sharing).run requests
      ((shared.told caller).Reveals claim.claim → shared.Accepted) ∧
      (shared.Accepted → shared.told caller = claim.claim) ∧
      (¬ shared.Accepted → shared.told caller = .unknown) := by
  obtain ⟨claim, state, unverified, inOrder⟩ := born.fresh
  refine ⟨claim, state, ?_⟩
  intro requests caller shared
  have inStep : InStep claim shared :=
    inStep_run (inStep_start signing state unverified inOrder) requests
  refine ⟨?_, ?_, ?_⟩
  · intro reveals
    by_cases accepted : shared.Accepted
    · exact accepted
    · rw [told_of_not_accepted inStep accepted caller] at reveals
      exact absurd reveals (Claim.not_reveals_unknown _)
  · intro accepted
    exact told_of_accepted inStep accepted caller
  · intro unaccepted
    exact told_of_not_accepted inStep unaccepted caller

/-- Nodes of one key, and a credential that one of them has created. -/
def sampleSharing : Sharing where
  contexts := fun _ => .ofMechanism (.signed sampleSigner)
  history := []
  credential := sampleCredential

/-- A node verifies the credential in its last second and in the next one. -/
def sampleRequests : List Request := [
  { caller := 0, surroundings := sampleSurroundings 1010, use := .verify },
  { caller := 0, surroundings := sampleSurroundings 1011, use := .verify }
]

theorem verify_sample : verify Hmac.sha256 sampleSigner 1010 sampleCredential =
    (.ok (), sampleCredential.withClaim { sampleClaim with verified := true, lastError := 0 }) :=
  verify_of_accepted rfl (refusal?_eq_none_iff.2 ⟨genuine_sample, by decide⟩)

theorem exchanges_sample :
    (sampleSharing.run sampleRequests).exchanges = [
      { caller := 0, use := .verify, answer := .done (.error (failure expired)) },
      { caller := 0, use := .verify, answer := .done (.ok ()) }
    ] := by
  have first := verify_sample
  have late : refusal? Hmac.sha256 sampleSigner.key 1011
      { sampleClaim with verified := true, lastError := 0 } = some expired :=
    (refusal?_congr rfl _).trans (refusal?_of_expired genuine_sample (by decide))
  have second : (verify Hmac.sha256 sampleSigner 1011
      (sampleCredential.withClaim { sampleClaim with verified := true, lastError := 0 })).1 =
      .error (failure expired) := by
    rw [verify_of_refused rfl late]
  have active : (sampleSharing.contexts 0).active =
      some (.ofMechanism (.signed sampleSigner)) := rfl
  have stillActive (request : Request) : ((sampleSharing.perform request).contexts 0).active =
      some (.ofMechanism (.signed sampleSigner)) := by
    rw [contexts_perform active]
    exact active
  -- Rewriting step by step leaves the digests alone, which are long to compute.
  rw [sampleRequests, run_cons, run_cons, run_nil, exchanges_verify (stillActive _) rfl,
    credential_verify active rfl, exchanges_verify active rfl]
  simp only [sampleSharing, sampleSurroundings, Surroundings.now, sampleSigner] at first second ⊢
  rw [first, second]

theorem told_sample :
    (sampleSharing.run []).told 1 = .unknown ∧
    (sampleSharing.run sampleRequests).told 1 =
      { uid := 1000, gid := 100, host := some "node01" } := by
  have signing : sampleSharing.Signing := fun _ => ⟨_, _, rfl, rfl⟩
  have born : Born sampleCredential := .inl ⟨_, _, _, create_sample⟩
  obtain ⟨claim, state, told⟩ := told_iff_accepted signing born
  cases state
  constructor
  · apply (told [] 1).2.2
    intro accepted
    obtain ⟨caller, member⟩ := accepted
    cases member
  · apply (told sampleRequests 1).2.1
    refine ⟨0, ?_⟩
    change _ ∈ (sampleSharing.run sampleRequests).exchanges
    rw [exchanges_sample]
    simp

/-- The success of a verification outlasts its refusal to the same context later on. -/
theorem reveals_after_refusal :
    ¬ ∀ (contexts : Nat → Context) (history : History) (credential : Credential)
      (claim : SignedClaim), ({ contexts, history, credential } : Sharing).Signing →
      Born credential → credential.state = .signed claim → ∀ requests caller,
      let shared := ({ contexts, history, credential } : Sharing).run requests
      (shared.told caller).Reveals claim.claim → latestAccepted caller shared.exchanges = true := by
  intro always
  have signing : sampleSharing.Signing := fun _ => ⟨_, _, rfl, rfl⟩
  have born : Born sampleCredential := .inl ⟨_, _, _, create_sample⟩
  have accepted : (sampleSharing.run sampleRequests).Accepted := by
    refine ⟨0, ?_⟩
    rw [exchanges_sample]
    simp
  have refused : latestAccepted 0 (sampleSharing.run sampleRequests).exchanges = false := by
    rw [exchanges_sample]
    rfl
  have inStep : InStep sampleClaim sampleSharing := inStep_start signing rfl rfl rfl
  have revealed : ((sampleSharing.run sampleRequests).told 0).Reveals sampleClaim.claim := by
    rw [told_of_accepted (inStep_run inStep sampleRequests) accepted]
    left
    exact ⟨rfl, by decide⟩
  have latest := always _ [] sampleCredential sampleClaim signing born rfl sampleRequests 0 revealed
  exact Bool.false_ne_true (refused.symm.trans latest)

end Sharing

end Signed

end Attest
