import Attest.Mechanism.Signed
import Attest.Proofs.Credential.Payload

/-!
What verifying a signed credential and asking for its identity answer, and what they leave in it.
-/

namespace Attest

namespace Credential

def withClaim (credential : Credential) (claim : SignedClaim) : Credential :=
  { credential with state := .signed claim }

@[simp] theorem withClaim_state (credential : Credential) (claim : SignedClaim) :
    (credential.withClaim claim).state = .signed claim :=
  rfl

theorem withClaim_self {credential : Credential} {claim : SignedClaim}
    (held : credential.state = .signed claim) : credential.withClaim claim = credential := by
  rw [withClaim, ← held]

end Credential

namespace Signed

variable {mac : Mac} {signer : Signer} {now : UInt64} {credential : Credential}
  {claim : SignedClaim}

theorem claim?_of_signed (held : credential.state = .signed claim) :
    claim? credential = .ok claim := by
  rw [claim?, held]

theorem verify_of_refused {code : Int32} (held : credential.state = .signed claim)
    (refused : refusal? mac signer.key now claim = some code) :
    verify mac signer now credential =
      (.error (failure code), credential.withClaim { claim with lastError := code }) := by
  rw [verify, claim?_of_signed held]
  simp only [refused]
  rfl

theorem verify_of_accepted (held : credential.state = .signed claim)
    (accepted : refusal? mac signer.key now claim = none) :
    verify mac signer now credential =
      (.ok (), credential.withClaim { claim with verified := true, lastError := 0 }) := by
  rw [verify, claim?_of_signed held]
  simp only [accepted]
  rfl

theorem refusal?_eq_none_iff :
    refusal? mac signer.key now claim = none ↔
      claim.signature = signature mac signer.key claim ∧ now ≤ claim.expires := by
  unfold refusal?
  by_cases right : signature mac signer.key claim = claim.signature
  · rw [if_neg (not_not_intro right)]
    by_cases late : now > claim.expires
    · rw [if_pos late]
      constructor
      · intro impossible
        cases impossible
      · rintro ⟨-, inTime⟩
        exact absurd inTime (UInt64.not_le.2 late)
    · rw [if_neg late]
      exact ⟨fun _ => ⟨right.symm, UInt64.not_lt.1 late⟩, fun _ => rfl⟩
  · rw [if_pos right]
    constructor
    · intro impossible
      cases impossible
    · rintro ⟨genuine, -⟩
      exact absurd genuine.symm right

theorem refusal?_of_forged (forged : claim.signature ≠ signature mac signer.key claim) :
    refusal? mac signer.key now claim = some badSignature := by
  rw [refusal?, if_pos (Ne.symm forged)]

theorem refusal?_of_expired (genuine : claim.signature = signature mac signer.key claim)
    (late : claim.expires < now) : refusal? mac signer.key now claim = some expired := by
  rw [refusal?, if_neg (not_not_intro genuine.symm), if_pos late]

theorem code_of_refusal {key : Bytes} {code : Int32}
    (refused : refusal? mac key now claim = some code) :
    code = expired ∨ code = badSignature := by
  unfold refusal? at refused
  split at refused
  · cases refused
    exact .inr rfl
  · split at refused <;> cases refused
    exact .inl rfl

/-- What is told about the code of a refusal is what the refusal itself says. -/
theorem text_of_refusal {code : Int32} (found : code = expired ∨ code = badSignature) :
    (ErrorCode.genericText? (failure code).code.raw).getD (errorText (failure code).code.raw) =
      errorText code := by
  obtain rfl | rfl := found <;> rfl

theorem refusal?_received (mac : Mac) (key : Bytes) (now : UInt64) (claim : SignedClaim) :
    refusal? mac key now claim.received = refusal? mac key now claim :=
  rfl

/-- What its holder has learned about a claim does not matter to whoever verifies it. -/
theorem refusal?_congr {left right : SignedClaim} (same : left.received = right.received)
    (key : Bytes) : refusal? mac key now left = refusal? mac key now right := by
  rw [← refusal?_received mac key now left, same, refusal?_received]

/-- Verifying succeeds exactly for the full signature of the fields under the verifier's key, up to
the end of the lifetime. -/
theorem verify_ok_iff (held : credential.state = .signed claim) :
    (verify mac signer now credential).1 = .ok () ↔
      claim.signature = signature mac signer.key claim ∧ now ≤ claim.expires := by
  rw [← refusal?_eq_none_iff]
  cases refused : refusal? mac signer.key now claim with
  | none =>
    rw [verify_of_accepted held refused]
    exact ⟨fun _ => rfl, fun _ => rfl⟩
  | some code =>
    rw [verify_of_refused held refused]
    constructor
    · intro impossible
      cases impossible
    · intro impossible
      cases impossible

theorem release_of_verified (held : credential.state = .signed claim)
    (verified : claim.verified = true) : release credential = (some claim.claim, credential) := by
  rw [release, claim?_of_signed held]
  simp only [verified, if_true]

theorem release_of_unverified (held : credential.state = .signed claim)
    (unverified : claim.verified = false) :
    release credential = (none, credential.withClaim { claim with lastError := notVerified }) := by
  rw [release, claim?_of_signed held]
  simp only [unverified, Bool.false_eq_true, if_false]
  rfl

theorem lastError_of_signed (held : credential.state = .signed claim) :
    lastError credential = .ofRaw claim.lastError := by
  rw [lastError, claim?_of_signed held]

end Signed

end Attest
