import Attest.Proofs.Claimed.Creation
import Attest.Proofs.Command.Report

/-!
What a new credential asserts, by the options and the configuration it is created with, and what is
reported of it when it arrives in time.
-/

namespace Attest

theorem Signed.Signer.ok_of_ofConfig {config : Config} {clock : Clock} {signer : Signer}
    (brought : ofConfig config clock = .ok signer) :
    ∃ key, signer =
      { key, users := config.users, host := config.host, lifetime := config.lifetime, clock } := by
  unfold ofConfig at brought
  cases read : config.decodeKey with
  | error cause =>
    rw [read] at brought
    cases brought
  | ok key =>
    rw [read] at brought
    cases brought
    exact ⟨key, rfl⟩

/-- Whoever has the key takes a new claim until its lifetime has passed. -/
theorem Signed.accepted_issue {mac : Mac} {signer : Signer} {created now : UInt64} {nonce : Bytes}
    {info : Option String} {identity : Identity} (inTime : now ≤ expiry created signer.lifetime) :
    refusal? mac signer.key now (issue mac signer created nonce info identity).received = none := by
  rw [refusal?_received, refusal?_eq_none_iff]
  exact ⟨signature_issue .., inTime⟩

theorem Provider.unpack_of_pack {provider : Provider} {version : Version} {credential : Credential}
    {packed : Bytes} {history : History} (named : provider.name ≠ "")
    (short : (Utf8.encode provider.name).length < Wire.maxBlockLength)
    (fits : credential.state.Fits)
    (done : (provider.pack version credential [] history).1 = (.ok (), packed)) :
    (provider.unpack version packed []).1 =
      (.ok (credential.received provider.mechanism.id), []) := by
  obtain ⟨envelope, selects, own, rfl⟩ := packet_of_pack done
  have recognizes : envelope.Recognizes provider provider := by
    cases envelope with
    | mechanismId => exact .number rfl
    | mechanismName => exact .name named rfl
  have admits : provider.Admits version (provider.packet envelope credential)
      credential.state.payload :=
    ⟨envelope, _, selects, Envelope.opens_header recognizes short, rfl⟩
  have decoded := Mechanism.reads_unpack own fits []
  rw [List.append_nil] at decoded
  rw [unpack_of_admits admits, decoded]
  rfl

namespace Command

/-- The identity that a credential asserts, and until when if not forever. -/
structure Grant where
  mechanismId : UInt32
  claim : Claim
  expires : Option UInt64 := none

/-- The report of a credential that is accepted. -/
def Grant.report (grant : Grant) : Report where
  mechanismId := grant.mechanismId
  verified := true
  uid := grant.claim.uid
  gid := grant.claim.gid
  host := grant.claim.host
  lastError := 0
  error := none

/-- What the options grant under a mechanism of this name: the numbers that they give, the group being
that of the user unless it is given too, or the identity that the configuration has for their user. -/
inductive Grants (environment : Environment) (invocation : Invocation) (options : Options) :
    String → Grant → Prop where
  | claimed {uid gid : UInt32} (user : options.word32? "uid" = some uid)
    (group : (options.get? "gid").elim (some uid) Decimal.word32? = some gid) :
    Grants environment invocation options Claimed.mechanismName {
      mechanismId := Claimed.mechanismId
      claim := { uid, gid, host := options.get? "host" }
    }
  | signed {path user : String} {config : Signed.Config} {identity : Signed.Identity}
    (given : invocation.signedConfigPath = some path)
    (read : Signed.Config.ofFile path (environment.files path) = .ok config)
    (asked : options.get? "user" = some user) (known : config.users.get? user = some identity) :
    Grants environment invocation options Signed.mechanismName {
      mechanismId := Signed.mechanismId
      claim := {
        uid := identity.uid
        gid := identity.gid
        host := (options.get? "host").or config.host
      }
      expires := some (Signed.expiry environment.surroundings.wallTime config.lifetime)
    }

variable {environment : Environment} {invocation : Invocation} {registry : Registry}
  {name : String} {history : History} {provider : Provider} {credential : Credential}

theorem named_of_load (built : buildRegistry environment invocation = .ok registry)
    (loaded : (registry.load name history).1 = .ok provider) :
    provider.name ≠ "" ∧ (Utf8.encode provider.name).length < Wire.maxBlockLength := by
  obtain ⟨named, -, -⟩ := Registry.identity_of_load loaded
  obtain ⟨rfl, -⟩ | ⟨rfl, -⟩ := mechanism_of_load built loaded <;> rw [named] <;> decide +kernel

/-- A credential that a command creates asserts what it was granted, and is accepted as long as its
lifetime lasts. -/
theorem grants_of_create {info : Option String}
    (built : buildRegistry environment invocation = .ok registry)
    (loaded : (registry.load name history).1 = .ok provider)
    (created : provider.mechanism.create environment.surroundings info = .ok credential) :
    ∃ grant, Grants environment invocation (Options.parse info) name grant ∧
      credential.state.host? = grant.claim.host ∧
      ∀ later : Surroundings, (∀ limit, grant.expires = some limit → later.wallTime ≤ limit) →
        (Report.ofMechanism later provider.mechanism
          (credential.received provider.mechanism.id)).1 = grant.report := by
  obtain ⟨rfl, mechanism⟩ | ⟨rfl, path, config, signer, given, read, brought, mechanism⟩ :=
    mechanism_of_load built loaded
  · rw [mechanism] at created ⊢
    obtain ⟨uid, gid, user, group, rfl⟩ := Claimed.create_ok_iff.1 created
    exact ⟨_, .claimed user group, rfl, fun _ _ => rfl⟩
  · rw [mechanism] at created ⊢
    obtain ⟨key, rfl⟩ := Signed.Signer.ok_of_ofConfig brought
    obtain ⟨user, identity, asked, known, rfl⟩ := (Signed.create_ok_iff _ _ _ _ _).1 created
    refine ⟨_, .signed given read asked known, rfl, fun later inTime => ?_⟩
    let signer : Signed.Signer :=
      { key, users := config.users, host := config.host, lifetime := config.lifetime }
    have inTime : later.now signer.clock ≤
        Signed.expiry environment.surroundings.wallTime signer.lifetime := inTime _ rfl
    exact Report.ofMechanism_of_accepted rfl (Signed.accepted_issue inTime)

end Command

end Attest
