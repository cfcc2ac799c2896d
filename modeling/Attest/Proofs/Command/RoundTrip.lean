import Attest.Proofs.Command.Arguments
import Attest.Proofs.Command.Grant
import Attest.Proofs.Text.Base64

/-!
A command line that makes a credential, and one with the same settings that takes it in. Whatever the
first puts around the credential, from the envelope to the text, the second takes off again.
-/

namespace Attest.Command

variable {environment : Environment} {invocation : Invocation} {settings : Settings}
  {registry : Registry} {context : Context} {provider : Provider} {console final : Console}
  {info : Option String} {version : Version}

theorem encoded_of_encode (installed : console.process.installed = some context)
    (idle : context.active = none)
    (done : encode environment settings info version console = (.ok (), final)) :
    ∃ provider credential packed,
      (context.registry.load context.defaultName console.process.history).1 = .ok provider ∧
      provider.mechanism.create environment.surroundings (info.or settings.authInfo) =
        .ok credential ∧
      (provider.pack version credential [] []).1 = (.ok (), packed) ∧
      final.output = console.output ++ Utf8.encode (Base64.encode packed ++ "\n") := by
  unfold encode at done
  obtain ⟨answer, started, asked, initializing⟩ := Job.ok_of_bind done
  obtain ⟨_, rfl, creating⟩ := Job.ok_of_require_bind initializing
  obtain ⟨provider, serving, silent, loaded⟩ := serving_of_init installed idle asked
  obtain ⟨created, serving, quiet, requiring⟩ :=
    (yields_ask .create (Mechanism.create environment.surroundings _) _ _).ok_of_bind serving creating
  obtain ⟨credential, made, packing⟩ := Job.ok_of_require_bind requiring
  obtain ⟨packaged, serving, calm, finishing⟩ :=
    (yields_dispatch (provider.answers_pack version credential []) _ _).ok_of_bind serving packing
  rcases packs : (provider.pack version credential [] []).1 with ⟨outcome, packed⟩
  rw [packs] at finishing
  obtain ⟨_, rfl, destroying⟩ := Job.ok_of_require_bind finishing
  obtain ⟨answer, destroyed, asked, printing⟩ := Job.ok_of_bind destroying
  obtain ⟨_, -, line⟩ := Job.ok_of_require_bind printing
  cases line
  refine ⟨provider, credential, packed, loaded, made, packs, ?_⟩
  rw [output_ask asked, calm, quiet, silent]

/-- The version of the credential that a task makes or takes in. -/
def Task.version? : Task → Option Version
  | .encode _ version | .decode _ version _ => some version
  | .mechanisms | .codeText _ => none

theorem supported_of_performed {task : Task} (idle : context.active = none)
    (installed : console.process.installed = some context) (asked : task.version? = some version)
    (performed : perform environment settings context task console = (.ok (), final)) :
    Version.oldest.number ≤ version.number := by
  refine UInt16.not_lt.1 fun old => ?_
  cases task with
  | mechanisms | codeText => cases asked
  | encode info =>
    cases asked
    rw [perform] at performed
    obtain ⟨provider, credential, packed, -, -, packs, -⟩ :=
      encoded_of_encode installed idle performed
    rw [Provider.pack, Version.envelope_of_old old] at packs
    cases packs
  | decode text version format =>
    cases asked
    rw [perform] at performed
    obtain ⟨packed, provider, credential, rest, -, -, unpacked⟩ :=
      unpacked_of_decode installed idle performed
    rw [Provider.unpack, Version.envelope_of_old old] at unpacked
    cases unpacked

variable {arguments : List String} {text : String} {grant : Grant}

/-- The invocation can be asked for, and at all times until the grant has expired it reports the
identity as verified, with no error. -/
structure Arrives (environment : Environment) (receiving : Invocation) (grant : Grant) : Prop where
  asked : ∃ others, Invocation.ofArguments others environment.ambient = .ok receiving
  reported : ∀ others (later : Surroundings),
    Invocation.ofArguments others environment.ambient = .ok receiving →
    (∀ limit, grant.expires = some limit → later.wallTime ≤ limit) →
    run { environment with surroundings := later } others =
        { status := 0, output := Utf8.encode (grant.report.toJson.pretty ++ "\n") } ∧
      ∀ report : Report, report.Shows grant.report.toJson.pretty ↔ report = {
        mechanismId := grant.mechanismId
        verified := true
        uid := grant.claim.uid
        gid := grant.claim.gid
        host := grant.claim.host
        lastError := 0
        error := none
      }

theorem run_of_unpacked {later : Surroundings} {packed rest : Bytes} {credential : Credential}
    (parsed : Invocation.ofArguments arguments environment.ambient =
      .ok { invocation with task := .decode text version "json" })
    (settled : loadSettings environment invocation = .ok settings)
    (built : buildRegistry environment invocation = .ok registry)
    (loaded : (registry.load settings.authType []).1 = .ok provider)
    (written : Base64.decode? (Blank.trim text) = some packed)
    (unpacked : (provider.unpack version packed []).1 = (.ok credential, rest)) :
    run { environment with surroundings := later } arguments = {
      status := 0
      output := Utf8.encode
        ((Report.ofMechanism later provider.mechanism credential).1.toJson.pretty ++ "\n")
    } := by
  let receiver : Environment := { environment with surroundings := later }
  let receiving : Invocation := { invocation with task := .decode text version "json" }
  -- The clock is no part of the settings, and neither is the task.
  have parsed : Invocation.ofArguments arguments receiver.ambient = .ok receiving := parsed
  have settled : loadSettings receiver receiving = .ok settings := settled
  have built : buildRegistry receiver receiving = .ok registry := built
  have installed : (Console.begin registry settings).process.installed =
      some (.ofSettings registry settings) := rfl
  obtain ⟨halfway, decoded, told⟩ :=
    decode_of_unpacked receiver installed rfl written loaded unpacked
  have performed : perform receiver settings (.ofSettings registry settings) receiving.task
      (.begin registry settings) = (.ok (), halfway) := decoded
  rw [run_of_performed parsed settled built performed, told, Console.output_begin, List.nil_append]

/-- What is made under any settings that name a mechanism of the command line, with any options, and
printed as text, is taken in again under the same settings, with white space around the text or
without. No version before the oldest one is made or taken in. -/
theorem arrives_of_encode
    (parsed : Invocation.ofArguments arguments environment.ambient = .ok invocation) :
    (∀ version, invocation.task.version? = some version →
      version.number < Version.oldest.number → (run environment arguments).status = 1) ∧
    ∀ info version, invocation.task = .encode info version → environment.surroundings.Drawn →
      (run environment arguments).status = 0 →
      ∃ settings text grant, loadSettings environment invocation = .ok settings ∧
        (run environment arguments).output = Utf8.encode (text ++ "\n") ∧
        Grants environment invocation (Options.parse (info.or settings.authInfo))
          settings.authType grant ∧
        (Wire.Fits grant.claim.host → ∀ left right, Blank.isBlankText left = true →
          Blank.isBlankText right = true →
          Arrives environment
            { invocation with task := .decode (left ++ text ++ right) version "json" } grant) := by
  constructor
  · intro version asked old
    obtain failed | ⟨settings, registry, halfway, -, -, performed, -⟩ := failed_or_performed parsed
    · exact failed
    · have supported := supported_of_performed rfl rfl asked performed
      exact absurd old (UInt16.not_lt.2 supported)
  · intro info version task drawn succeeded
    obtain failed | ⟨settings, registry, halfway, settled, built, performed, ran⟩ :=
      failed_or_performed parsed
    · rw [failed] at succeeded
      cases succeeded
    rw [task, perform] at performed
    obtain ⟨provider, credential, packed, loaded, created, packs, line⟩ :=
      encoded_of_encode rfl rfl performed
    obtain ⟨grant, grants, host, reports⟩ := grants_of_create built loaded created
    refine ⟨settings, Base64.encode packed, grant, settled, ?_, grants, ?_⟩
    · rw [ran, line, Console.output_begin, List.nil_append]
    intro fits left right before after
    have fits := Mechanism.fits_of_create drawn created (host ▸ fits)
    obtain ⟨named, short⟩ := named_of_load built loaded
    have unpacked := Provider.unpack_of_pack named short fits packs
    constructor
    · exact Invocation.exists_decode_arguments parsed task
        (Base64.head?_surrounded before after packed)
    · intro others later parsed inTime
      refine ⟨?_, fun _ => Report.shows_pretty_iff⟩
      rw [← reports later inTime]
      exact run_of_unpacked parsed settled built loaded
        (Base64.decode?_surrounded before after packed) unpacked

/-- The lifetime is zero, so that a credential expires as soon as the clock moves on. -/
def grantingEnvironment : Environment where
  files path :=
    if path = "h.json" then
      .ok (Utf8.encode ("\x7b\"key\": \"WlpaWlpaWlpaWlpaWlpaWlpaWlpaWlpaWlpaWlpaWlo=\", " ++
        "\"users\": \x7b\"alice\": \x7b\"uid\": 1000, \"gid\": 100\x7d\x7d, \"ttl_secs\": 0\x7d"))
    else .error .missing
  surroundings := { wallTime := 1000, nonce := List.replicate Signed.nonceLength 7 }

def grantingInfo : String := "user=alice,host=node01"

def grantingArguments (version : String) : List String :=
  sampleOptions ++ ["encode", "--info", grantingInfo, "--protocol", version]

def grantingInvocation (version : Version) : Invocation where
  authType := some "auth/hmac"
  signedConfigPath := some "h.json"
  task := .encode (some grantingInfo) version

def grantedText : String :=
  "AAAACmF1dGgvaG1hYwAAAAAAAAAD6AAAAGQAAAAHbm9kZTAxAAAAAAAAAAPoAAAAAAAAA+gAAAAQBwcHBwcHBwcHBwcH" ++
  "BwcHBwAAACBqOq0CzXXh0K6sTjJ5s+bl3R+GSFEdJmQuIn0895qpsg=="

def granted : Grant where
  mechanismId := 102
  claim := { uid := 1000, gid := 100, host := some "node01" }
  expires := some 1000

def receivedText : String := " " ++ grantedText ++ "\n"

def receivingArguments : List String :=
  sampleOptions ++ ["decode", receivedText, "--format", "json", "--protocol", "17"]

def receivingInvocation : Invocation :=
  { grantingInvocation .oldest with task := .decode receivedText .oldest "json" }

def receivedOutput : String :=
  "\x7b\n  \"mechanism_id\": 102,\n  \"verified\": true,\n  \"uid\": 1000,\n  \"gid\": 100,\n" ++
  "  \"host\": \"node01\",\n  \"errno\": 0,\n  \"error\": null\n\x7d\n"

theorem settings_of_granting {settings : Settings}
    (settled : loadSettings grantingEnvironment (grantingInvocation .oldest) = .ok settings) :
    settings = { authType := Signed.mechanismName } := by
  have expected : loadSettings grantingEnvironment (grantingInvocation .oldest) =
      .ok { authType := Signed.mechanismName } := by
    decide +kernel
  exact Except.ok.inj (settled.symm.trans expected)

theorem granted_of_grants {grant : Grant}
    (grants : Grants grantingEnvironment (grantingInvocation .oldest)
      (Options.parse (some grantingInfo)) Signed.mechanismName grant) : grant = granted := by
  generalize named : Signed.mechanismName = name at grants
  cases grants with
  | claimed => exact absurd named (by decide)
  | signed given read asked known =>
    have user : (Options.parse (some grantingInfo)).get? "user" = some "alice" := by decide +kernel
    have host : (Options.parse (some grantingInfo)).get? "host" = some "node01" := by decide +kernel
    have configured : (Signed.Config.ofFile "h.json" (grantingEnvironment.files "h.json")).map
        (fun config => (config.users.get? "alice", config.lifetime)) =
          .ok (some { uid := 1000, gid := 100 }, 0) := by
      decide +kernel
    cases given
    cases user.symm.trans asked
    rw [read] at configured
    obtain ⟨identity, lifetime⟩ := Prod.mk.inj (Except.ok.inj configured)
    cases known.symm.trans identity
    rw [host, lifetime]
    rfl

theorem granting_sample :
    (run grantingEnvironment (grantingArguments "16")).status = 1 ∧
      run grantingEnvironment (grantingArguments "17") =
        { status := 0, output := Utf8.encode (grantedText ++ "\n") } ∧
      Arrives grantingEnvironment receivingInvocation granted ∧
      run grantingEnvironment receivingArguments =
        { status := 0, output := Utf8.encode receivedOutput } := by
  have old : Invocation.ofArguments (grantingArguments "16") grantingEnvironment.ambient =
      .ok (grantingInvocation ⟨16⟩) := rfl
  have parsed : Invocation.ofArguments (grantingArguments "17") grantingEnvironment.ambient =
      .ok (grantingInvocation .oldest) := rfl
  have received : Invocation.ofArguments receivingArguments grantingEnvironment.ambient =
      .ok receivingInvocation := by
    decide +kernel
  have ran : run grantingEnvironment (grantingArguments "17") =
      { status := 0, output := Utf8.encode (grantedText ++ "\n") } := by
    decide +kernel
  have succeeded : (run grantingEnvironment (grantingArguments "17")).status = 0 := by rw [ran]
  obtain ⟨settings, text, grant, settled, printed, grants, arrives⟩ :=
    (arrives_of_encode parsed).2 _ _ rfl rfl succeeded
  rw [settings_of_granting settled] at grants
  cases granted_of_grants grants
  rw [ran] at printed
  obtain rfl : grantedText = text := (String.append_left_inj _).1 (Utf8.encode_inj.1 printed)
  have fits : Wire.Fits granted.claim.host := by decide +kernel
  have arrives : Arrives grantingEnvironment receivingInvocation granted :=
    arrives fits " " "\n" (by decide) (by decide)
  have inTime : ∀ limit, granted.expires = some limit → (1000 : UInt64) ≤ limit := by
    rintro limit ⟨⟩
    decide
  have told :=
    (arrives.reported receivingArguments grantingEnvironment.surroundings received inTime).1
  have shown : granted.report.toJson.pretty ++ "\n" = receivedOutput := by decide +kernel
  rw [shown] at told
  exact ⟨(arrives_of_encode old).1 _ rfl (by decide), ran, arrives, told⟩

end Attest.Command
