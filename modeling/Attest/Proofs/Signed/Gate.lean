import Attest.Proofs.Context.Use
import Attest.Proofs.Mechanism.Payload
import Attest.Proofs.Signed.Verification

/-!
The gate in front of the identity of a signed credential, over runs in which any number of mechanisms
use any number of credentials. What a credential has been used for is kept in a record, and what it
shows of its holder's knowledge is read off that record.
-/

namespace Attest

namespace Signed

/-- What one credential has been used for, with the answers, the latest first. -/
abbrev Record := List (Use × Use.Answer)

abbrev acceptance : Use × Use.Answer := (.verify, .done (.ok ()))

namespace Record

def accepted : Record → Bool
  | [] => false
  | (.verify, .done (.ok ())) :: _ => true
  | _ :: earlier => accepted earlier

/-- The outcome of the last use that sets one. Verifying does, and so does asking for the identity as
long as no verification has succeeded. -/
def lastOutcome : Record → Int32
  | [] => 0
  | (.verify, .done (.ok ())) :: _ => 0
  | (.verify, .done (.error cause)) :: _ => cause.code.raw
  | (.uid, _) :: earlier | (.gid, _) :: earlier | (.host, _) :: earlier =>
    if accepted earlier then lastOutcome earlier else notVerified
  | _ :: earlier => lastOutcome earlier

theorem accepted_iff {record : Record} : record.accepted = true ↔ acceptance ∈ record := by
  fun_induction accepted record with
  | case1 => simp
  | case2 earlier => simp
  | case3 entry earlier other ih =>
    rw [ih, List.mem_cons]
    constructor
    · exact Or.inr
    · intro found
      rcases found with same | member
      · exact absurd same.symm other
      · exact member

end Record

/-- What the claim shows of its holder's knowledge is what the record says. -/
structure Tracks (claim : SignedClaim) (record : Record) : Prop where
  verified : claim.verified = record.accepted
  lastError : claim.lastError = record.lastOutcome

variable {credential : Credential} {claim : SignedClaim} {record : Record}

theorem raw_code_failure (code : Int32) : (failure code).code.raw = code :=
  ErrorCode.raw_ofRaw code

theorem tracks_query (tracks : Tracks claim record) (held : credential.state = .signed claim)
    {use : Use} (queries : use = .uid ∨ use = .gid ∨ use = .host) (answer : Use.Answer) :
    ∃ after, (release credential).2 = credential.withClaim after ∧
      after.received = claim.received ∧ Tracks after ((use, answer) :: record) := by
  have outcome : Record.lastOutcome ((use, answer) :: record) =
      if record.accepted then record.lastOutcome else notVerified := by
    rcases queries with rfl | rfl | rfl <;> rfl
  have unchanged : Record.accepted ((use, answer) :: record) = record.accepted := by
    rcases queries with rfl | rfl | rfl <;> rfl
  cases verified : claim.verified with
  | true =>
    rw [release_of_verified held verified]
    refine ⟨claim, (Credential.withClaim_self held).symm, rfl, ?_, ?_⟩
    · rw [unchanged, tracks.verified]
    · rw [outcome, if_pos (tracks.verified ▸ verified), tracks.lastError]
  | false =>
    rw [release_of_unverified held verified]
    refine ⟨_, rfl, rfl, ?_, ?_⟩
    · rw [unchanged]
      exact tracks.verified
    · rw [outcome, if_neg (by rw [← tracks.verified, verified]; decide)]

/-- One use of a credential, by whichever mechanism, keeps the claim in step with the record and
leaves all that is signed as it is. -/
theorem tracks_ask (signer : Signer) (surroundings : Surroundings)
    (tracks : Tracks claim record) (held : credential.state = .signed claim) (use : Use) :
    ∃ after, (use.ask surroundings (.signed signer) credential).2 = credential.withClaim after ∧
      after.received = claim.received ∧
      Tracks after ((use, (use.ask surroundings (.signed signer) credential).1) :: record) := by
  cases use with
  -- Only verifying sets the claim's verification, and only verifying and the three queries its error.
  | verify =>
    simp only [Use.ask, Mechanism.verify]
    cases refused : refusal? Hmac.sha256 signer.key (surroundings.now signer.clock) claim with
    | none =>
      rw [verify_of_accepted held refused]
      exact ⟨_, rfl, rfl, rfl, rfl⟩
    | some code =>
      rw [verify_of_refused held refused]
      exact ⟨_, rfl, rfl, tracks.verified, (raw_code_failure code).symm⟩
  | uid => exact tracks_query tracks held (.inl rfl) _
  | gid => exact tracks_query tracks held (.inr (.inl rfl)) _
  | host => exact tracks_query tracks held (.inr (.inr rfl)) _
  | lastError =>
    exact ⟨claim, (Credential.withClaim_self held).symm, rfl, tracks.verified, tracks.lastError⟩
  | pack version buffer =>
    exact ⟨claim, (Credential.withClaim_self held).symm, rfl, tracks.verified, tracks.lastError⟩
  | print sink =>
    exact ⟨claim, (Credential.withClaim_self held).symm, rfl, tracks.verified, tracks.lastError⟩

/-- A credential that is held, as it came and as it is now, with the record of its uses. -/
structure Held where
  origin : Credential
  credential : Credential
  record : Record

namespace Held

def anew (credential : Credential) : Held where
  origin := credential
  credential := credential
  record := []

def use (signer : Signer) (surroundings : Surroundings) (use : Use) (held : Held) : Held :=
  let (answer, credential) := use.ask surroundings (.signed signer) held.credential
  { held with credential, record := (use, answer) :: held.record }

theorem record_use (signer : Signer) (surroundings : Surroundings) (asked : Use) (held : Held) :
    (held.use signer surroundings asked).record =
      (asked, (asked.ask surroundings (.signed signer) held.credential).1) :: held.record :=
  rfl

/-- The claim is in step with the record, and nothing else about the credential has changed. -/
structure InStep (held : Held) : Prop where
  fresh : Fresh held.origin
  mechanismId : held.credential.mechanismId = held.origin.mechanismId
  received : held.credential.state.received = held.origin.state.received
  tracks : ∃ claim, held.credential.state = .signed claim ∧ Tracks claim held.record

theorem inStep_anew (fresh : Fresh credential) : (anew credential).InStep := by
  obtain ⟨claim, signed, unverified, inOrder⟩ := fresh
  have tracks : Tracks claim [] := ⟨unverified, inOrder⟩
  exact {
    fresh := ⟨claim, signed, unverified, inOrder⟩
    mechanismId := rfl
    received := rfl
    tracks := ⟨claim, signed, tracks⟩
  }

theorem inStep_use {held : Held} (inStep : held.InStep) (signer : Signer)
    (surroundings : Surroundings) (asked : Use) :
    (held.use signer surroundings asked).InStep := by
  obtain ⟨claim, signed, tracks⟩ := inStep.tracks
  obtain ⟨after, left, same, tracked⟩ := tracks_ask signer surroundings tracks signed asked
  have now : (held.use signer surroundings asked).credential =
      held.credential.withClaim after := left
  constructor
  · exact inStep.fresh
  · rw [now]
    exact inStep.mechanismId
  · have received : held.credential.state.received = .signed after.received := by
      rw [signed, same]
      rfl
    rw [now, Credential.withClaim_state]
    exact received.symm.trans inStep.received
  · rw [now]
    exact ⟨after, rfl, tracked⟩

end Held

inductive Action where
  | create (info : Option String)
  | unpack (buffer : Bytes)
  /-- Uses one of the credentials, which are numbered as they came. -/
  | use (index : Nat) (use : Use)

structure Call where
  signer : Signer
  surroundings : Surroundings
  action : Action

def Call.perform (held : List Held) (call : Call) : List Held :=
  match call.action with
  | .create info =>
    match Mechanism.create call.surroundings info (.signed call.signer) with
    | .ok credential => held ++ [.anew credential]
    | .error _ => held
  | .unpack buffer =>
    match Mechanism.unpack (.signed call.signer) buffer with
    | (.ok credential, _) => held ++ [.anew credential]
    | (.error _, _) => held
  | .use index use => held.modify index (Held.use call.signer call.surroundings use)

/-- All credentials that a run leaves. -/
def run (calls : List Call) : List Held :=
  calls.foldl Call.perform []

theorem inStep_append {held : List Held} (inStep : ∀ item ∈ held, item.InStep)
    (fresh : Fresh credential) : ∀ item ∈ held ++ [.anew credential], item.InStep := by
  intro item member
  rcases List.mem_append.1 member with old | new
  · exact inStep item old
  · rw [List.mem_singleton.1 new]
    exact Held.inStep_anew fresh

/-- A call changes at most one credential, and what comes anew is fresh. -/
theorem inStep_perform {held : List Held} (inStep : ∀ item ∈ held, item.InStep) (call : Call) :
    ∀ item ∈ call.perform held, item.InStep := by
  intro item member
  rcases call with ⟨signer, surroundings, action⟩
  cases action with
  | create info =>
    simp only [Call.perform] at member
    cases created : Mechanism.create surroundings info (.signed signer) with
    | error cause =>
      rw [created] at member
      exact inStep item member
    | ok credential =>
      rw [created] at member
      exact inStep_append inStep (fresh_of_create created) item member
  | unpack buffer =>
    simp only [Call.perform] at member
    rcases unpacked : Mechanism.unpack (.signed signer) buffer with ⟨cause | credential, rest⟩
    · rw [unpacked] at member
      exact inStep item member
    · rw [unpacked] at member
      exact inStep_append inStep (fresh_of_unpack unpacked) item member
  | use index asked =>
    obtain ⟨position, there⟩ := List.mem_iff_getElem?.1 member
    rw [Call.perform, List.getElem?_modify] at there
    obtain ⟨before, stood, rfl⟩ := Option.map_eq_some_iff.1 there
    have beforeInStep := inStep before (List.mem_of_getElem? stood)
    by_cases chosen : index = position
    · rw [if_pos chosen]
      exact Held.inStep_use beforeInStep signer surroundings asked
    · rw [if_neg chosen]
      exact beforeInStep

theorem inStep_foldl {held : List Held} (inStep : ∀ item ∈ held, item.InStep)
    (calls : List Call) : ∀ item ∈ calls.foldl Call.perform held, item.InStep := by
  induction calls generalizing held with
  | nil => exact inStep
  | cons call later ih => exact ih (inStep_perform inStep call)

theorem inStep_run (calls : List Call) : ∀ item ∈ run calls, item.InStep :=
  inStep_foldl (fun _ member => absurd member List.not_mem_nil) calls

/-- What any signing mechanism answers about a claim at any time: it accepts the full signature under
its key up to the end of the lifetime, and releases the identity once the claim is verified. -/
structure Gate (credential : Credential) (claim : SignedClaim) : Prop where
  accepted : ∀ signer surroundings,
    ((Mechanism.signed signer).verify surroundings credential).1 = .ok () ↔
      claim.signature = Hmac.sha256 signer.key claim.signedBytes ∧
        surroundings.now signer.clock ≤ claim.expires
  forged : ∀ signer surroundings,
    claim.signature ≠ Hmac.sha256 signer.key claim.signedBytes →
    ((Mechanism.signed signer).verify surroundings credential).1 = .error (failure badSignature)
  late : ∀ signer surroundings,
    claim.signature = Hmac.sha256 signer.key claim.signedBytes →
    claim.expires < surroundings.now signer.clock →
    ((Mechanism.signed signer).verify surroundings credential).1 = .error (failure expired)
  withheld : claim.verified = false →
    let noted := credential.withClaim { claim with lastError := notVerified }
    ∀ signer,
      (Mechanism.signed signer).uid credential = (nobody, noted) ∧
      (Mechanism.signed signer).gid credential = (nobody, noted) ∧
      (Mechanism.signed signer).host credential = (none, noted)
  released : claim.verified = true →
    ∀ signer,
      (Mechanism.signed signer).uid credential = (claim.claim.uid, credential) ∧
      (Mechanism.signed signer).gid credential = (claim.claim.gid, credential) ∧
      (Mechanism.signed signer).host credential = (claim.claim.host, credential)
  lastError : ∀ signer,
    (Mechanism.signed signer).lastError credential = .ofRaw claim.lastError

theorem gate_of_signed (held : credential.state = .signed claim) : Gate credential claim where
  accepted signer surroundings := verify_ok_iff held
  forged signer surroundings wrong := by
    have refused : refusal? Hmac.sha256 signer.key (surroundings.now signer.clock) claim =
        some badSignature := refusal?_of_forged wrong
    rw [Mechanism.verify, verify_of_refused held refused]
  late signer surroundings genuine passed := by
    have refused : refusal? Hmac.sha256 signer.key (surroundings.now signer.clock) claim =
        some expired := refusal?_of_expired genuine passed
    rw [Mechanism.verify, verify_of_refused held refused]
  withheld unverified := by
    intro noted signer
    have withholds := release_of_unverified held unverified
    refine ⟨?_, ?_, ?_⟩
    · rw [Mechanism.uid, uid, withholds]
      rfl
    · rw [Mechanism.gid, gid, withholds]
      rfl
    · rw [Mechanism.host, host, withholds]
      rfl
  released verified := by
    intro signer
    have releases := release_of_verified held verified
    refine ⟨?_, ?_, ?_⟩
    · rw [Mechanism.uid, uid, releases]
      rfl
    · rw [Mechanism.gid, gid, releases]
      rfl
    · rw [Mechanism.host, host, releases]
      rfl
  lastError signer := lastError_of_signed held

/-- Whatever a run does, a credential counts as verified exactly if a verification of it has
succeeded, its last error is the outcome of the last use that sets one, and the gate stands in front
of its identity. Credentials come without either, and their fields stay as they came. -/
theorem gate_of_mem_run (calls : List Call) :
    (∀ held ∈ run calls, ∃ claim, held.credential.state = .signed claim ∧
      held.credential.state.received = held.origin.state.received ∧
      (claim.verified = true ↔ acceptance ∈ held.record) ∧
      claim.lastError = held.record.lastOutcome ∧
      Gate held.credential claim) ∧
    (∀ signer surroundings info credential,
      Mechanism.create surroundings info (.signed signer) = .ok credential → Fresh credential) ∧
    ∀ signer buffer credential rest,
      Mechanism.unpack (.signed signer) buffer = (.ok credential, rest) → Fresh credential := by
  refine ⟨?_, ?_, ?_⟩
  · intro held member
    have inStep := inStep_run calls held member
    obtain ⟨claim, signed, tracks⟩ := inStep.tracks
    refine ⟨claim, signed, inStep.received, ?_, tracks.lastError, gate_of_signed signed⟩
    rw [tracks.verified]
    exact Record.accepted_iff
  · intro signer surroundings info credential created
    exact fresh_of_create created
  · intro signer buffer credential rest unpacked
    exact fresh_of_unpack unpacked

def sampleCalls : List Call := [
  {
    signer := sampleSigner
    surroundings := sampleSurroundings 1000
    action := .create (some "user=alice")
  },
  { signer := sampleSigner, surroundings := sampleSurroundings 1010, action := .use 0 .verify }
]

theorem run_sample :
    run sampleCalls =
      [(Held.anew sampleCredential).use sampleSigner (sampleSurroundings 1010) .verify] := by
  rw [run, sampleCalls, List.foldl_cons, Call.perform]
  simp only [create_sample]
  rfl

theorem verified_sample :
    ∃ held ∈ run sampleCalls, ∃ claim, held.credential.state = .signed claim ∧
      claim.verified = true ∧ Gate held.credential claim := by
  have accepted : (verify Hmac.sha256 sampleSigner 1010 sampleCredential).1 = .ok () :=
    (verify_ok_iff rfl).2 ⟨genuine_sample, by decide⟩
  have member : (Held.anew sampleCredential).use sampleSigner (sampleSurroundings 1010) .verify ∈
      run sampleCalls := by
    rw [run_sample]
    exact List.mem_singleton_self _
  have answered : (Use.verify.ask (sampleSurroundings 1010) (.signed sampleSigner)
      sampleCredential).1 = .done (.ok ()) := by
    rw [← accepted]
    exact Use.answer_verify _ _ _
  obtain ⟨claim, signed, -, verified, -, gate⟩ := (gate_of_mem_run sampleCalls).1 _ member
  refine ⟨_, member, claim, signed, verified.2 ?_, gate⟩
  rw [Held.record_use, Held.anew, answered]
  exact List.mem_singleton_self _

end Signed

end Attest
