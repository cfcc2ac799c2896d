import Attest.Proofs.Command.Run
import Attest.Proofs.Json.Reading
import Attest.Proofs.Mechanism.Arrival
import Attest.Proofs.Protocol.Gate
import Attest.Proofs.Signed.Creation
import Attest.Proofs.Signed.Verification

/-!
What is reported about a credential. The verdict and the error text are those of verifying it. The
last error is read after the identity was asked for, and a credential that was refused has by then
noted that it is not verified. The printed text tells all of it.
-/

namespace Attest

/-- A command line knows these mechanisms. -/
inductive Mechanism.Offered : Mechanism → Prop where
  | claimed : Offered .claimed
  | signed (signer : Signed.Signer) : Offered (.signed signer)

namespace Command

namespace Report

/-- The text is an object with a member for each field. -/
def Shows (report : Report) (text : String) : Prop :=
  (Json.ofMembers [
    ("mechanism_id", .ofNat report.mechanismId.toNat),
    ("verified", .bool report.verified),
    ("uid", .ofNat report.uid.toNat),
    ("gid", .ofNat report.gid.toNat),
    ("host", .ofOption .ofText report.host),
    ("errno", .ofInt report.lastError.toInt),
    ("error", .ofOption .ofText report.error)]).SpelledBy text

theorem whole_toJson (report : Report) : report.toJson.Whole := by
  apply Json.Whole.ofMembers
  simp only [List.forall_mem_cons]
  exact ⟨.ofNat _, .bool _, .ofNat _, .ofNat _, .ofOption .ofText _, .ofInt _,
    .ofOption .ofText _, nofun⟩

theorem shows_pretty (report : Report) : report.Shows report.toJson.pretty :=
  Json.parse?_eq_some_iff.1 (Json.parse?_printed report.whole_toJson).2

theorem Shows.unique {report other : Report} {text : String} (shows : report.Shows text)
    (also : other.Shows text) : other = report := by
  have same := Option.some.inj
    ((Json.parse?_eq_some_iff.2 also).symm.trans (Json.parse?_eq_some_iff.2 shows))
  simp only [Json.ofMembers, List.map_cons, List.map_nil, Json.object.injEq, List.cons.injEq,
    Prod.mk.injEq, true_and, and_true, Json.bool.injEq] at same
  obtain ⟨mechanismId, verified, uid, gid, host, lastError, error⟩ := same
  cases report
  cases other
  rw [Report.mk.injEq]
  exact ⟨UInt32.toNat.inj (Json.ofNat_injective mechanismId), verified,
    UInt32.toNat.inj (Json.ofNat_injective uid), UInt32.toNat.inj (Json.ofNat_injective gid),
    Json.ofOption_ofText_injective host, Int32.toInt.inj (Json.ofInt_injective lastError),
    Json.ofOption_ofText_injective error⟩

/-- What is printed of a report shows it and no other. -/
theorem shows_pretty_iff {report other : Report} :
    other.Shows report.toJson.pretty ↔ other = report := by
  constructor
  · exact report.shows_pretty.unique
  · rintro rfl
    exact shows_pretty _

/-- What a mechanism has to report about a credential, and the credential afterwards. -/
def ofMechanism (surroundings : Surroundings) (mechanism : Mechanism) (credential : Credential) :
    Report × Credential :=
  let (outcome, credential) := mechanism.verify surroundings credential
  let (uid, credential) := mechanism.uid credential
  let (gid, credential) := mechanism.gid credential
  let (host, credential) := mechanism.host credential
  ({
    mechanismId := credential.mechanismId
    verified := outcome.isOk
    uid, gid, host
    lastError := (mechanism.lastError credential).raw
    error := match outcome with
      | .ok () => none
      | .error cause =>
        let code := cause.code.raw
        some ((ErrorCode.genericText? code).getD (mechanism.errorText code))
  }, credential)

/-- The error text tells why a credential was refused, the last error only that it was. -/
structure Agrees (report : Report) : Prop where
  error_iff : report.verified = true ↔ report.error = none
  lastError_iff : report.verified = true ↔ report.lastError = 0
  refused : report.verified = false → report.lastError = Signed.notVerified ∧
    ∃ code, (code = Signed.expired ∨ code = Signed.badSignature) ∧
      report.error = some (Signed.errorText code)

theorem agrees_of_verified {report : Report} (verified : report.verified = true)
    (error : report.error = none) (lastError : report.lastError = 0) : report.Agrees where
  error_iff := iff_of_true verified error
  lastError_iff := iff_of_true verified lastError
  refused refused := by
    rw [verified] at refused
    cases refused

theorem agrees_of_refused {report : Report} {code : Int32} (refused : report.verified = false)
    (found : code = Signed.expired ∨ code = Signed.badSignature)
    (error : report.error = some (Signed.errorText code))
    (lastError : report.lastError = Signed.notVerified) : report.Agrees where
  error_iff := iff_of_false (Bool.eq_false_iff.1 refused) (by rw [error]; nofun)
  lastError_iff := iff_of_false (Bool.eq_false_iff.1 refused) (by rw [lastError]; decide)
  refused _ := ⟨lastError, code, found, error⟩

theorem Agrees.error_ne {report : Report} (agrees : report.Agrees)
    (refused : report.verified = false) :
    report.error ≠ some (Signed.errorText report.lastError) := by
  obtain ⟨lastError, code, found, error⟩ := agrees.refused refused
  rw [error, lastError]
  obtain rfl | rfl := found <;> decide

variable {surroundings : Surroundings} {credential : Credential} {signer : Signed.Signer}
  {payload rest : Bytes}

theorem agrees_of_claimed (unpacked : Claimed.unpack payload = (.ok credential, rest)) :
    (ofMechanism surroundings .claimed credential).1.Agrees := by
  obtain ⟨claim, rfl, -⟩ := Claimed.read_of_unpack unpacked
  exact agrees_of_verified rfl rfl rfl

variable {claim : SignedClaim}

theorem ofMechanism_of_accepted (held : credential.state = .signed claim)
    (accepted :
      Signed.refusal? Hmac.sha256 signer.key (surroundings.now signer.clock) claim = none) :
    (ofMechanism surroundings (.signed signer) credential).1 = {
      mechanismId := credential.mechanismId
      verified := true
      uid := claim.claim.uid
      gid := claim.claim.gid
      host := claim.claim.host
      lastError := 0
      error := none
    } := by
  have released := Signed.release_of_verified
    (credential.withClaim_state { claim with verified := true, lastError := 0 }) rfl
  simp only [ofMechanism, Mechanism.verify, Signed.verify_of_accepted held accepted,
    Mechanism.uid, Signed.uid, Mechanism.gid, Signed.gid, Mechanism.host, Signed.host, released]
  rfl

theorem ofMechanism_of_refused {code : Int32} (held : credential.state = .signed claim)
    (unverified : claim.verified = false)
    (refused :
      Signed.refusal? Hmac.sha256 signer.key (surroundings.now signer.clock) claim = some code) :
    (ofMechanism surroundings (.signed signer) credential).1 = {
      mechanismId := credential.mechanismId
      verified := false
      uid := nobody
      gid := nobody
      host := none
      lastError := Signed.notVerified
      error := some (Signed.errorText code)
    } := by
  -- Whatever verifying has noted, asking for the identity takes its place.
  have withheld (noted : Int32) :
      Signed.release (credential.withClaim { claim with lastError := noted }) =
        (none, credential.withClaim { claim with lastError := Signed.notVerified }) := by
    have held := credential.withClaim_state { claim with lastError := noted }
    exact (Signed.release_of_unverified held unverified).trans rfl
  have text := Signed.text_of_refusal (Signed.code_of_refusal refused)
  simp only [ofMechanism, Mechanism.verify, Signed.verify_of_refused held refused,
    Mechanism.uid, Signed.uid, Mechanism.gid, Signed.gid, Mechanism.host, Signed.host, withheld,
    Mechanism.errorText, text]
  rfl

theorem agrees_of_signed (fresh : Signed.Fresh credential) :
    (ofMechanism surroundings (.signed signer) credential).1.Agrees := by
  obtain ⟨claim, held, unverified, -⟩ := fresh
  cases judged : Signed.refusal? Hmac.sha256 signer.key (surroundings.now signer.clock) claim with
  | none =>
    rw [ofMechanism_of_accepted held judged]
    exact agrees_of_verified rfl rfl rfl
  | some code =>
    rw [ofMechanism_of_refused held unverified judged]
    exact agrees_of_refused rfl (Signed.code_of_refusal judged) rfl rfl

theorem agrees_ofMechanism {mechanism : Mechanism} (offered : mechanism.Offered)
    (unpacked : mechanism.unpack payload = (.ok credential, rest)) :
    (ofMechanism surroundings mechanism credential).1.Agrees := by
  cases offered with
  | claimed => exact agrees_of_claimed unpacked
  | signed signer => exact agrees_of_signed (Signed.fresh_of_unpack unpacked)

end Report

variable {environment : Environment} {console final : Console} {provider : Provider}
  {credential : Credential}

theorem yields_examine (environment : Environment) (credential : Credential) :
    (examine environment credential).Yields provider
      (Report.ofMechanism environment.surroundings provider.mechanism credential) := by
  unfold examine Report.ofMechanism
  refine (yields_ask .verify (Mechanism.verify environment.surroundings credential) _ _).bind ?_
  rcases provider.mechanism.verify environment.surroundings credential with ⟨outcome, credential⟩
  dsimp only
  refine (yields_ask .uid (Mechanism.uid credential) _ _).bind ?_
  rcases provider.mechanism.uid credential with ⟨uid, credential⟩
  dsimp only
  refine (yields_ask .gid (Mechanism.gid credential) _ _).bind ?_
  rcases provider.mechanism.gid credential with ⟨gid, credential⟩
  dsimp only
  refine (yields_ask .host (Mechanism.host credential) _ _).bind ?_
  rcases provider.mechanism.host credential with ⟨host, credential⟩
  dsimp only
  refine (yields_ask .lastError (Mechanism.lastError credential) _ _).bind ?_
  cases outcome with
  | ok => exact .pure _
  | error cause => exact ((yields_codeText provider cause.code.raw).map some).bind (.pure _)

variable {invocation : Invocation} {registry : Registry} {context : Context}

theorem offered_of_load {name : String} {history : History}
    (built : buildRegistry environment invocation = .ok registry)
    (loaded : (registry.load name history).1 = .ok provider) : provider.mechanism.Offered := by
  obtain ⟨-, mechanism⟩ | ⟨-, path, config, signer, -, -, -, mechanism⟩ :=
    mechanism_of_load built loaded
  · rw [mechanism]
    exact .claimed
  · rw [mechanism]
    exact .signed signer

variable {text format : String} {version : Version} {packed rest : Bytes}

theorem unpacked_of_decode (installed : console.process.installed = some context)
    (idle : context.active = none)
    (done : decode environment text version format console = (.ok (), final)) :
    ∃ packed provider credential rest,
      Base64.decode? (Blank.trim text) = some packed ∧
      (context.registry.load context.defaultName console.process.history).1 = .ok provider ∧
      (provider.unpack version packed []).1 = (.ok credential, rest) := by
  unfold decode at done
  cases written : Base64.decode? (Blank.trim text) with
  | none =>
    rw [written] at done
    cases done
  | some packed =>
    simp only [written, pure_bind] at done
    obtain ⟨answer, started, asked, initializing⟩ := Job.ok_of_bind done
    obtain ⟨_, rfl, unpacking⟩ := Job.ok_of_require_bind initializing
    obtain ⟨provider, serving, -, loaded⟩ := serving_of_init installed idle asked
    obtain ⟨opened, -, -, examining⟩ :=
      (yields_unpack provider version packed).ok_of_bind serving unpacking
    rcases unpacked : (provider.unpack version packed []).1 with ⟨cause | credential, rest⟩
    · rw [unpacked] at examining
      obtain ⟨_, _, _, failing⟩ := Job.ok_of_bind examining
      cases failing
    · exact ⟨packed, provider, credential, rest, rfl, loaded, unpacked⟩

theorem decode_of_unpacked (environment : Environment)
    (installed : console.process.installed = some context) (idle : context.active = none)
    (written : Base64.decode? (Blank.trim text) = some packed)
    (loaded : (context.registry.load context.defaultName console.process.history).1 =
      .ok provider)
    (unpacked : (provider.unpack version packed []).1 = (.ok credential, rest)) :
    ∃ final, decode environment text version "json" console = (.ok (), final) ∧
      final.output = console.output ++ Utf8.encode
        ((Report.ofMechanism environment.surroundings provider.mechanism credential).1.toJson.pretty ++
          "\n") := by
  obtain ⟨started, asked, serving, silent⟩ := init_of_loaded installed idle loaded
  obtain ⟨opened, opens, serving, quiet⟩ := yields_unpack provider version packed started serving
  rw [unpacked] at opens
  obtain ⟨examined, examines, serving, still⟩ := yields_examine environment credential opened serving
  rcases found : Report.ofMechanism environment.surroundings provider.mechanism credential with
    ⟨report, marked⟩
  rw [found] at examines
  let printed : Console := { examined with
    output := examined.output ++ Utf8.encode (report.toJson.pretty ++ "\n") }
  obtain ⟨final, destroyed, -, calm⟩ :=
    yields_ask .destroy (Mechanism.destroy marked) (.error .noMechanism) (.error .noMechanism)
      printed serving
  refine ⟨final, ?_, ?_⟩
  · simp only [decode, written, pure_bind]
    rw [Job.bind_of_ok asked, Job.require_ok, pure_bind, Job.bind_of_ok opens]
    dsimp only
    rw [Job.bind_of_ok examines, if_pos trivial]
    exact (Job.bind_of_ok rfl _).trans (Job.bind_of_ok destroyed _)
  · rw [calm, ← silent, ← quiet, ← still]

theorem report_of_decode (context : Context)
    (built : buildRegistry environment invocation = .ok context.registry)
    (installed : console.process.installed = some context) (idle : context.active = none)
    (done : decode environment text version "json" console = (.ok (), final)) :
    ∃ report : Report, report.Agrees ∧
      final.output = console.output ++ Utf8.encode (report.toJson.pretty ++ "\n") := by
  obtain ⟨packed, provider, credential, rest, written, loaded, unpacked⟩ :=
    unpacked_of_decode installed idle done
  obtain ⟨payload, opens⟩ := Provider.ok_of_unpack unpacked
  obtain ⟨final, again, printed⟩ :=
    decode_of_unpacked environment installed idle written loaded unpacked
  cases again.symm.trans done
  exact ⟨_, Report.agrees_ofMechanism (offered_of_load built loaded) opens, printed⟩

theorem decoded_of_carryOut {text : String} {version : Version}
    (task : invocation.task = .decode text version "json")
    (done : carryOut environment invocation {} = (.ok (), final)) :
    ∃ report : Report, report.Agrees ∧
      final.output = Utf8.encode (report.toJson.pretty ++ "\n") := by
  obtain ⟨settings, registry, halfway, -, built, performed, silent⟩ := performed_of_carryOut done
  rw [task, perform] at performed
  obtain ⟨report, agrees, printed⟩ :=
    report_of_decode (.ofSettings registry settings) built rfl rfl performed
  rw [Console.output_begin, List.nil_append] at printed
  exact ⟨report, agrees, silent.trans printed⟩

/-- What is printed shows one report. It calls a credential verified exactly if it gives no error and
the last error is none. Of a refused credential it gives the error that verifying found, but always
the same last error, that of asking for the identity of a credential that is not verified. -/
theorem verdict_agrees {arguments : List String} {text : String} {version : Version}
    (parsed : Invocation.ofArguments arguments environment.ambient = .ok invocation)
    (task : invocation.task = .decode text version "json")
    (succeeded : (run environment arguments).status = 0) :
    ∃ report : Report,
      (run environment arguments).output = Utf8.encode (report.toJson.pretty ++ "\n") ∧
      (∀ other : Report, other.Shows report.toJson.pretty ↔ other = report) ∧
      (report.verified = true ↔ report.error = none) ∧
      (report.verified = true ↔ report.lastError = 0) ∧
      (report.verified = false → report.lastError = Signed.notVerified ∧
        report.error ≠ some (Signed.errorText report.lastError) ∧
        ∃ code, (code = Signed.expired ∨ code = Signed.badSignature) ∧
          report.error = some (Signed.errorText code)) := by
  simp only [run, parsed, execute] at succeeded ⊢
  rcases done : carryOut environment invocation {} with ⟨failure | ⟨⟩, final⟩
  · rw [done] at succeeded
    cases succeeded
  · obtain ⟨report, agrees, printed⟩ := decoded_of_carryOut task done
    refine ⟨report, printed, fun _ => Report.shows_pretty_iff, agrees.error_iff,
      agrees.lastError_iff, fun refused => ?_⟩
    exact ⟨(agrees.refused refused).1, agrees.error_ne refused, (agrees.refused refused).2⟩

def sampleEnvironment : Environment where
  files path :=
    if path = "h.json" then
      .ok (Utf8.encode "\x7b\"key\": \"WlpaWlpaWlpaWlpaWlpaWlpaWlpaWlpaWlpaWlpaWlo=\"\x7d")
    else .error .missing
  surroundings := { wallTime := 1000 }

def sampleOptions : List String :=
  ["--auth-type", "auth/hmac", "--hmac-config", "h.json"]

/-- The credential has an empty signature. -/
def sampleText : String := "AAAAZgAAAAAAAAAAAAAAAAAAAAAAAAAAAAAAAAAAAAAAAAAAAAAAAAAAAAA="

def sampleArguments : List String :=
  sampleOptions ++ ["decode", sampleText, "--format", "json"]

def sampleInvocation : Invocation where
  authType := some "auth/hmac"
  signedConfigPath := some "h.json"
  task := .decode sampleText .current "json"

def sampleOutput : String :=
  "\x7b\n  \"mechanism_id\": 102,\n  \"verified\": false,\n  \"uid\": 99,\n  \"gid\": 99,\n" ++
  "  \"host\": null,\n  \"errno\": 10,\n  \"error\": \"credential signature invalid\"\n\x7d\n"

theorem run_sampleArguments : run sampleEnvironment sampleArguments =
    { status := 0, output := Utf8.encode sampleOutput } := by
  decide +kernel

theorem verdict_agrees_sample :
    Invocation.ofArguments sampleArguments sampleEnvironment.ambient = .ok sampleInvocation ∧
      (run sampleEnvironment sampleArguments).status = 0 ∧
      ∃ report : Report, Utf8.encode sampleOutput = Utf8.encode (report.toJson.pretty ++ "\n") ∧
        (∀ other : Report, other.Shows report.toJson.pretty ↔ other = report) ∧
        (report.verified = true ↔ report.error = none) ∧
        (report.verified = true ↔ report.lastError = 0) ∧
        (report.verified = false → report.lastError = Signed.notVerified ∧
          report.error ≠ some (Signed.errorText report.lastError) ∧
          ∃ code, (code = Signed.expired ∨ code = Signed.badSignature) ∧
            report.error = some (Signed.errorText code)) := by
  have parsed : Invocation.ofArguments sampleArguments sampleEnvironment.ambient =
      .ok sampleInvocation := rfl
  have succeeded : (run sampleEnvironment sampleArguments).status = 0 := by
    rw [run_sampleArguments]
  have agrees := verdict_agrees parsed rfl succeeded
  rw [run_sampleArguments] at agrees
  exact ⟨parsed, succeeded, agrees⟩

/-- The error text beside the last error is not the description of that error. -/
theorem refused_disagrees :
    run sampleEnvironment sampleArguments = { status := 0, output := Utf8.encode sampleOutput } ∧
      run sampleEnvironment (sampleOptions ++ ["errstr", "10"]) =
        { status := 0, output := Utf8.encode "credential not verified\n" } :=
  ⟨run_sampleArguments, by decide +kernel⟩

end Command

end Attest
