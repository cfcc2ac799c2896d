import Attest.Proofs.Options.Lookup
import Attest.Proofs.Signed.Lifetime

/-!
Whom a new credential speaks for. Its identity is that of a user in the configuration, found by the
name that the last user option gives, letter by letter. Nothing else in the options has a say in it;
they may only name another host.
-/

namespace Attest.Signed

section

variable {config : Config} {key : Bytes} {clock : Clock}

/-- The mechanism that a configuration brings up, once its key has been decoded. -/
def Config.signer (config : Config) (key : Bytes) (clock : Clock) : Signer :=
  { key, users := config.users, host := config.host, lifetime := config.lifetime, clock }

theorem Signer.ofConfig_of_decodeKey (valid : config.decodeKey = .ok key) :
    Signer.ofConfig config clock = .ok (config.signer key clock) := by
  rw [Signer.ofConfig, valid]
  rfl

end

section

variable {mac : Mac} {signer : Signer} {now : UInt64} {nonce : Bytes} {info : Option String}

theorem create_of_nameless (nameless : (Options.parse info).Lacks "user") :
    create mac signer now nonce info = .error (.badArgument "auth/hmac requires a user") := by
  rw [← Options.get?_eq_none_iff] at nameless
  simp only [create, nameless]
  rfl

theorem create_of_unknown {user : String} (asked : (Options.parse info).Last "user" user)
    (unknown : ∀ identity, (user, identity) ∉ signer.users.entries) :
    create mac signer now nonce info = .error (.noSuchUser user) := by
  rw [← Options.get?_eq_some_iff] at asked
  rw [← NameMap.get?_eq_none_iff] at unknown
  simp only [create, asked, bind, Except.bind, unknown]

theorem create_of_known {user : String} {identity : Identity}
    (asked : (Options.parse info).Last "user" user)
    (known : (user, identity) ∈ signer.users.entries) :
    create mac signer now nonce info =
      .ok { mechanismId, state := .signed (issue mac signer now nonce info identity) } := by
  rw [← Options.get?_eq_some_iff] at asked
  rw [← NameMap.get?_eq_some_iff] at known
  exact (create_ok_iff ..).2 ⟨user, identity, asked, known, rfl⟩

theorem exists_create_iff :
    (∃ credential, create mac signer now nonce info = .ok credential) ↔
      ∃ user identity, (Options.parse info).Last "user" user ∧
        (user, identity) ∈ signer.users.entries := by
  simp only [create_ok_iff, Options.get?_eq_some_iff, NameMap.get?_eq_some_iff]
  constructor
  · rintro ⟨_, user, identity, asked, known, -⟩
    exact ⟨user, identity, asked, known⟩
  · rintro ⟨user, identity, asked, known⟩
    exact ⟨_, user, identity, asked, known, rfl⟩

/-- What a claim says that was asked for with the options and made for the identity. -/
structure Asserts (mac : Mac) (signer : Signer) (options : Options) (identity : Identity)
    (claim : SignedClaim) : Prop where
  uid : claim.claim.uid = identity.uid
  gid : claim.claim.gid = identity.gid
  namedHost : ∀ host, options.Last "host" host → claim.claim.host = some host
  ownHost : options.Lacks "host" → claim.claim.host = signer.host
  signature : claim.signature = mac signer.key claim.signedBytes

theorem asserts_issue (identity : Identity) :
    Asserts mac signer (Options.parse info) identity
      (issue mac signer now nonce info identity) where
  uid := rfl
  gid := rfl
  namedHost := by
    intro host named
    rw [← Options.get?_eq_some_iff] at named
    rw [issue, unsigned, named, Option.some_or]
  ownHost := by
    intro unnamed
    rw [← Options.get?_eq_none_iff] at unnamed
    rw [issue, unsigned, unnamed, Option.none_or]
  signature := rfl

/-- At the moment of its creation a claim is in time, whatever its lifetime. -/
theorem verify_of_issue {verifier : Signer} (sameKey : verifier.key = signer.key)
    (identity : Identity) :
    (verify mac verifier now
      { mechanismId, state := .signed (issue mac signer now nonce info identity) }).1 = .ok () := by
  rw [verify_ok_iff rfl, sameKey]
  exact ⟨signature_issue .., le_expiry ..⟩

end

/-- A credential is created exactly for a user of the configuration. It asserts the identity that
stands there and passes whoever verifies it at once with the same key. Whoever is not named, or is
not in the configuration, gets the error that says so. -/
theorem create_asserts_configured {config : Config} {key : Bytes}
    (valid : config.decodeKey = .ok key) (clock : Clock) :
    ∃ signer, Signer.ofConfig config clock = .ok signer ∧ signer.key = key ∧
      signer.host = config.host ∧
      ∀ (surroundings : Surroundings) (info : Option String),
        let options := Options.parse info
        let created := Mechanism.create surroundings info (.signed signer)
        ((∃ credential, created = .ok credential) ↔
          ∃ user identity, options.Last "user" user ∧ (user, identity) ∈ config.users.entries) ∧
        (∀ user identity, options.Last "user" user → (user, identity) ∈ config.users.entries →
          ∃ claim, created = .ok { mechanismId, state := .signed claim } ∧
            Asserts Hmac.sha256 signer options identity claim ∧
            ∀ (verifier : Signer) (moment : Surroundings), verifier.key = key →
              moment.now verifier.clock = surroundings.now clock →
              (Mechanism.verify moment { mechanismId, state := .signed claim }
                (.signed verifier)).1 = .ok ()) ∧
        (options.Lacks "user" →
          created = .error (.badArgument "auth/hmac requires a user")) ∧
        ∀ user, options.Last "user" user →
          (∀ identity, (user, identity) ∉ config.users.entries) →
          created = .error (.noSuchUser user) := by
  refine ⟨config.signer key clock, Signer.ofConfig_of_decodeKey valid, rfl, rfl, ?_⟩
  intro surroundings info options created
  refine ⟨exists_create_iff, ?_, create_of_nameless, ?_⟩
  · intro user identity asked known
    refine ⟨_, create_of_known asked known, asserts_issue identity, ?_⟩
    intro verifier moment sameKey sameMoment
    rw [Mechanism.verify, sameMoment]
    exact verify_of_issue sameKey identity
  · intro user asked unknown
    exact create_of_unknown asked unknown

def sampleConfig : Config where
  key := (Config.ofKey sampleSigner.key).key
  users := sampleSigner.users
  host := sampleSigner.host

/-- Neither another name before the last one nor a number of one's own is of any avail, and names are
compared letter by letter. -/
theorem create_asserts_sample :
    ∃ signer, Signer.ofConfig sampleConfig .wall = .ok signer ∧ ∀ surroundings,
      (∃ claim, Mechanism.create surroundings (some "user=bob,uid=0, USER = alice,host=a,Host=")
          (.signed signer) = .ok { mechanismId, state := .signed claim } ∧
        claim.claim.uid = 1000 ∧ claim.claim.gid = 100 ∧ claim.claim.host = some "") ∧
      Mechanism.create surroundings (some "user=Alice,uid=0") (.signed signer) =
        .error (.noSuchUser "Alice") ∧
      Mechanism.create surroundings (some "uid=1000") (.signed signer) =
        .error (.badArgument "auth/hmac requires a user") := by
  have valid : sampleConfig.decodeKey = .ok sampleSigner.key := by decide +kernel
  obtain ⟨signer, brought, -, -, creates⟩ := create_asserts_configured valid .wall
  refine ⟨signer, brought, fun surroundings => ⟨?_, ?_, ?_⟩⟩
  · obtain ⟨-, granted, -, -⟩ :=
      creates surroundings (some "user=bob,uid=0, USER = alice,host=a,Host=")
    obtain ⟨claim, created, asserts, -⟩ := granted "alice" { uid := 1000, gid := 100 }
      (Options.get?_eq_some_iff.1 (by decide +kernel)) (by decide)
    refine ⟨claim, created, asserts.uid, asserts.gid, asserts.namedHost "" ?_⟩
    exact Options.get?_eq_some_iff.1 (by decide +kernel)
  · obtain ⟨-, -, -, unknown⟩ := creates surroundings (some "user=Alice,uid=0")
    refine unknown "Alice" (Options.get?_eq_some_iff.1 (by decide +kernel)) ?_
    exact NameMap.get?_eq_none_iff.1 (by decide +kernel)
  · obtain ⟨-, -, nameless, -⟩ := creates surroundings (some "uid=1000")
    exact nameless (Options.get?_eq_none_iff.1 (by decide +kernel))

end Attest.Signed
