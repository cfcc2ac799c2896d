import Attest.Proofs.Context.Absence
import Attest.Proofs.Context.Packing
import Attest.Proofs.Signed.Creation
import Attest.Proofs.Signed.Verification

/-!
Errors, the codes they are reported under, and what is told about a code. A generic code has its one
text, which no mechanism can replace; about any other the mechanism is asked. What `auth/hmac` fails
with of its own is described by the context as the error itself describes it.
-/

namespace Attest

/-- A failure of a mechanism's own, under whatever code. -/
def AuthError.Own (cause : AuthError) : Prop :=
  ∃ code text, cause = .mechanism code text

/-- The operation has failed, for this reason. -/
inductive Use.Answer.Fails (cause : AuthError) : Use.Answer → Prop where
  | done : Fails cause (.done (.error cause))
  | packed (buffer : Bytes) : Fails cause (.packed (.error cause) buffer)
  | printed (sink : Sink) : Fails cause (.printed (.error cause) sink)

inductive Service.Answer.Fails (cause : AuthError) : Service.Answer → Prop where
  | created : Fails cause (.created (.error cause))
  | destroyed : Fails cause (.destroyed (.error cause))
  | unpacked (rest : Bytes) : Fails cause (.unpacked (.error cause, rest))
  | used {answer : Use.Answer} (fails : answer.Fails cause) (credential : Credential) :
    Fails cause (.used (answer, credential))

inductive Request.Answer.Fails (cause : AuthError) : Request.Answer → Prop where
  | initialized : Fails cause (.initialized (.error cause))
  | tornDown : Fails cause (.tornDown (.error cause))
  | served {answer : Service.Answer} (fails : answer.Fails cause) : Fails cause (.served answer)

namespace Signed

variable {mac : Mac} {signer : Signer} {now : UInt64} {nonce : Bytes} {info : Option String}
  {credential : Credential} {cause : AuthError}

theorem not_own_of_claim? (failed : claim? credential = .error cause) : ¬ cause.Own := by
  unfold claim? at failed
  split at failed <;> cases failed
  rintro ⟨_, _, ⟨⟩⟩

theorem not_own_of_create (failed : create mac signer now nonce info = .error cause) :
    ¬ cause.Own := by
  cases asked : (Options.parse info).get? "user" with
  | none =>
    simp only [create, asked, bind, Except.bind] at failed
    cases failed
    rintro ⟨_, _, ⟨⟩⟩
  | some user =>
    cases found : signer.users.get? user with
    | none =>
      simp only [create, asked, bind, Except.bind, found] at failed
      cases failed
      rintro ⟨_, _, ⟨⟩⟩
    | some identity =>
      simp only [create, asked, bind, Except.bind, found] at failed
      cases failed

theorem not_own_of_describe (failed : describe credential = .error cause) : ¬ cause.Own := by
  unfold describe at failed
  cases held : claim? credential with
  | error reason =>
    rw [held] at failed
    cases failed
    exact not_own_of_claim? held
  | ok claim =>
    rw [held] at failed
    cases failed

theorem failure_of_verify (failed : (verify mac signer now credential).1 = .error cause)
    (own : cause.Own) :
    ∃ code, (code = expired ∨ code = badSignature) ∧ cause = failure code := by
  unfold verify at failed
  split at failed
  · rename_i found
    cases failed
    exact absurd own (not_own_of_claim? found)
  · split at failed <;> cases failed
    rename_i refused
    exact ⟨_, code_of_refusal refused, rfl⟩

end Signed

theorem Sink.not_own_of_writeText {sink : Sink} {text : String} {cause : AuthError}
    (failed : (sink.writeText text).1 = .error cause) : ¬ cause.Own := by
  unfold writeText write at failed
  split at failed
  · cases failed
  · dsimp only at failed
    split at failed <;> cases failed
    rintro ⟨_, _, ⟨⟩⟩

namespace Unpacker

variable {reader : Wire.Reader α} {buffer rest : Bytes} {cause : AuthError}

theorem not_own_of_ofWire (failed : ofWire reader buffer = (.error cause, rest)) :
    ¬ cause.Own := by
  rcases read : reader buffer with ⟨reason | value, left⟩
  · rw [ofWire_of_error read] at failed
    cases failed
    rintro ⟨_, _, ⟨⟩⟩
  · rw [ofWire_of_ok read] at failed
    cases failed

/-- What is made of the fields once they are read cannot fail. -/
theorem not_own_of_fields {finish : α → β}
    (failed : (ofWire reader >>= fun value => pure (finish value)) buffer = (.error cause, rest)) :
    ¬ cause.Own := by
  rcases read : ofWire reader buffer with ⟨reason | value, left⟩
  · rw [bind_of_error read] at failed
    cases failed
    exact not_own_of_ofWire read
  · rw [bind_of_ok read] at failed
    cases failed

end Unpacker

theorem Mechanism.not_own_of_unpack {mechanism : Mechanism} {buffer rest : Bytes}
    {cause : AuthError} (failed : mechanism.unpack buffer = (.error cause, rest)) :
    ¬ cause.Own := by
  cases mechanism <;> exact Unpacker.not_own_of_fields failed

namespace Provider

variable {provider : Provider} {version : Version} {credential : Credential} {buffer rest : Bytes}
  {history : History} {cause : AuthError}

theorem not_own_of_refuses (refuses : provider.Refuses version buffer cause rest) :
    ¬ cause.Own := by
  rintro ⟨code, text, rfl⟩
  cases refuses with
  | sealed selects refused => cases refused

theorem not_own_of_unpack
    (failed : (provider.unpack version buffer history).1 = (.error cause, rest)) :
    ¬ cause.Own := by
  rcases provider.admits_or_refuses version buffer with ⟨payload, admits⟩ | ⟨reason, left, refuses⟩
  · rw [unpack_of_admits admits] at failed
    exact Mechanism.not_own_of_unpack failed
  · rw [unpack_of_refuses refuses] at failed
    cases failed
    exact not_own_of_refuses refuses

theorem not_own_of_pack
    (failed : (provider.pack version credential buffer history).1 = (.error cause, rest)) :
    ¬ cause.Own := by
  rcases version.old_or_selects with old | ⟨envelope, selects⟩
  · simp only [pack, Version.envelope_of_old old] at failed
    cases failed
    rintro ⟨_, _, ⟨⟩⟩
  · simp only [pack, selects.envelope_eq] at failed
    by_cases own : credential.state.maker? = some provider.mechanism.kind
    · rw [encode_of_maker envelope own] at failed
      cases failed
    · obtain ⟨reason, refuses⟩ := Mechanism.pack_of_foreign own
      have answered := (Packer.answer_behind _ _ _).symm.trans (congrArg Prod.fst failed)
      rw [refuses] at answered
      cases answered
      rintro ⟨_, _, ⟨⟩⟩

end Provider

theorem Registry.not_own_of_load {registry : Registry} {name : String} {history after : History}
    {cause : AuthError} (failed : registry.load name history = (.error cause, after)) :
    ¬ cause.Own := by
  obtain ⟨reason, unloadable⟩ | ⟨provider, loaded, loads⟩ :=
    registry.unloadable_or_loads history name
  · rw [load_of_unloadable unloadable] at failed
    cases failed
    rintro ⟨_, _, rfl⟩
    cases unloadable
  · rw [loads] at failed
    cases failed

section

variable {provider : Provider} {signer : Signed.Signer} {cause : AuthError}

/-- Of all that can be asked about a credential, only verifying it fails with an error of the
mechanism's own. -/
theorem Use.failure_of_fails {surroundings : Surroundings} {credential : Credential} {use : Use}
    (signing : provider.mechanism = .signed signer)
    (fails : (use.answer surroundings credential provider).1.Fails cause) (own : cause.Own) :
    ∃ code, (code = Signed.expired ∨ code = Signed.badSignature) ∧
      cause = Signed.failure code := by
  cases use with
  | verify =>
    simp only [answer, answer_verify, signing, Mechanism.verify] at fails
    generalize verified : (Signed.verify _ _ _ _).1 = outcome at fails
    cases fails
    exact Signed.failure_of_verify verified own
  | pack version buffer =>
    rw [answer] at fails
    rcases packed : (provider.pack version credential buffer []).1 with ⟨outcome, after⟩
    rw [packed] at fails
    cases fails
    exact absurd own (Provider.not_own_of_pack packed)
  | print sink =>
    simp only [answer, ask, signing, Mechanism.print, Mechanism.describe] at fails
    cases described : Signed.describe credential with
    | error reason =>
      rw [described, Sink.describe] at fails
      cases fails
      exact absurd own (Signed.not_own_of_describe described)
    | ok text =>
      rw [described, Sink.describe] at fails
      rcases written : sink.writeText text with ⟨outcome, after⟩
      rw [written] at fails
      cases fails
      exact absurd own (Sink.not_own_of_writeText (congrArg Prod.fst written))
  | uid | gid | host | lastError => cases fails

theorem Service.failure_of_fails {service : Service}
    (signing : provider.mechanism = .signed signer)
    (fails : (service.answer provider).Fails cause) (own : cause.Own) :
    ∃ code, (code = Signed.expired ∨ code = Signed.badSignature) ∧
      cause = Signed.failure code := by
  cases service with
  | create surroundings info =>
    rw [answer, signing, Mechanism.create] at fails
    generalize created : Signed.create _ _ _ _ _ = outcome at fails
    cases fails
    exact absurd own (Signed.not_own_of_create created)
  | unpack version buffer =>
    rw [answer] at fails
    generalize unpacked : (provider.unpack version buffer []).1 = outcome at fails
    cases fails
    exact absurd own (Provider.not_own_of_unpack unpacked)
  | ofUse surroundings credential use =>
    rw [answer] at fails
    rcases used : use.answer surroundings credential provider with ⟨told, after⟩
    rw [used] at fails
    cases fails with
    | used fails =>
      have answered : (use.answer surroundings credential provider).1 = told :=
        congrArg Prod.fst used
      rw [← answered] at fails
      exact Use.failure_of_fails signing fails own
  | destroy | codeText => cases fails

namespace Site

variable {site ready : Site}

theorem not_own_of_init {requested : Option String}
    (failed : (site.init requested).1 = .error cause) : ¬ cause.Own := by
  rcases initialized : site.init requested with ⟨outcome, left⟩
  rw [initialized] at failed
  cases failed
  obtain ⟨-, history, failed, -⟩ := failed_of_init initialized
  exact Registry.not_own_of_load failed

theorem not_own_of_teardown (failed : site.teardown.1 = .error cause) : ¬ cause.Own := by
  rintro ⟨code, text, rfl⟩
  unfold teardown at failed
  cases active : site.context.active with
  | none =>
    rw [active] at failed
    cases failed
  | some provider =>
    simp only [active] at failed
    cases released : (provider.release site.history).1 <;> rw [released] at failed <;> cases failed

/-- Whatever fails with an error of the mechanism's own leaves the mechanism active. -/
theorem failure_of_request {request : Request} (present : site.Present provider ready)
    (signing : provider.mechanism = .signed signer)
    (fails : (request.perform site).1.Fails cause) (own : cause.Own) :
    (∃ code, (code = Signed.expired ∨ code = Signed.badSignature) ∧
      cause = Signed.failure code) ∧
      (request.perform site).2.context.active = some provider := by
  cases request with
  | init requested =>
    simp only [Request.perform, mapAnswer] at fails
    generalize initialized : (site.init requested).1 = outcome at fails
    cases fails
    exact absurd own (not_own_of_init initialized)
  | teardown =>
    simp only [Request.perform, mapAnswer] at fails
    generalize tornDown : site.teardown.1 = outcome at fails
    cases fails
    exact absurd own (not_own_of_teardown tornDown)
  | serve service =>
    obtain ⟨events, -, run⟩ := run_of_present present service
    simp only [Request.perform, mapAnswer, run] at fails ⊢
    cases fails with
    | served fails =>
      exact ⟨Service.failure_of_fails signing fails own, active_of_present present⟩

end Site

end

/-- Describes a code where mechanisms have these texts for it, whatever they are. -/
def Provider.codeTextIn (texts : Int32 → Mechanism → String) (provider : Provider) (code : Int32) :
    Recorded String :=
  match ErrorCode.genericText? code with
  | some text => fun history => (text, history)
  | none => provider.ask .errorText (texts code)

namespace Site

def codeTextIn (texts : Int32 → Mechanism → String) (code : Int32) : Site → String × Site :=
  dispatch ErrorCode.initFailureText fun provider => provider.codeTextIn texts code

/-- The mechanisms have one table of texts among all that they could have. -/
theorem codeText_eq : codeText = codeTextIn Mechanism.errorText := rfl

theorem codeTextIn_of_present {site ready : Site} {provider : Provider}
    (present : site.Present provider ready) (texts : Int32 → Mechanism → String) (code : Int32) :
    (site.codeTextIn texts code).1 =
      (ErrorCode.genericText? code).getD (texts code provider.mechanism) := by
  rw [codeTextIn, present.dispatch_eq, dispatch_of_active (active_of_present present),
    Provider.codeTextIn]
  cases ErrorCode.genericText? code <;> rfl

/-- Values and codes correspond, and so do codes and the errors that are reported under them. A
context describes a generic code by its generic text, whatever its mechanism has to say about that
value, and any other by the mechanism's own. Until it is torn down, a context of `auth/hmac` says of
the code of an error that it has returned for its mechanism what the error says of itself. -/
theorem codes_agree_with_texts :
    (∀ value : Int32, (ErrorCode.ofRaw value).raw = value ∧
      ((∃ text, ErrorCode.genericText? value = some text) ↔
        (ErrorCode.ofRaw value).isGeneric = true)) ∧
    (∀ cause : AuthError, ErrorCode.ofRaw cause.code.raw = cause.code) ∧
    codeText = codeTextIn Mechanism.errorText ∧
    (∀ (site ready : Site) (provider : Provider), site.Present provider ready →
      ∀ (texts : Int32 → Mechanism → String) (value : Int32),
        ((ErrorCode.ofRaw value).isGeneric = true →
          ErrorCode.genericText? value = some (site.codeTextIn texts value).1) ∧
        ((ErrorCode.ofRaw value).isGeneric = false →
          (site.codeTextIn texts value).1 = texts value provider.mechanism)) ∧
    ∀ (site ready : Site) (provider : Provider) (signer : Signed.Signer),
      site.Present provider ready → provider.mechanism = .signed signer →
      ∀ (request : Request) (cause : AuthError), (request.perform site).1.Fails cause →
        cause.Own → ∀ later, .teardown ∉ later →
          (((request.perform site).2.after later).codeText cause.code.raw).1 = cause.message := by
  refine ⟨fun value => ⟨ErrorCode.raw_ofRaw value, ErrorCode.exists_genericText?_iff⟩,
    AuthError.ofRaw_raw_code, codeText_eq, ?_, ?_⟩
  · intro site ready provider present texts value
    rw [codeTextIn_of_present present, ← ErrorCode.exists_genericText?_iff, ← Bool.not_eq_true,
      ← ErrorCode.exists_genericText?_iff]
    constructor
    · rintro ⟨text, generic⟩
      rw [generic, Option.getD_some]
    · intro unknown
      cases generic : ErrorCode.genericText? value with
      | none => rfl
      | some text => exact absurd ⟨text, generic⟩ unknown
  · intro site ready provider signer present signing request cause fails own later lasting
    obtain ⟨⟨code, found, rfl⟩, active⟩ := failure_of_request present signing fails own
    have still := active_after_of_lasting active lasting
    have told := codeTextIn_of_present (.active still) Mechanism.errorText
      (Signed.failure code).code.raw
    rw [signing] at told
    exact told.trans (Signed.text_of_refusal found)

/-- A credential is verified a second after its time. The context describes the code of that, and
passes over what its mechanism is made to say about a generic code. -/
theorem codes_agree_sample :
    let site : Site := { context := .ofMechanism (.signed Signed.sampleSigner) }
    let late : Request :=
      .serve (.ofUse (Signed.sampleSurroundings 1011) Signed.sampleCredential .verify)
    (late.perform site).1.Fails (Signed.failure Signed.expired) ∧
      ((late.perform site).2.codeText 8).1 = "credential expired" ∧
      ErrorCode.genericText? 8 = none ∧
      (site.codeTextIn (fun _ _ => "ticket rejected") 4).1 = "no such user" ∧
      (site.codeTextIn (fun _ _ => "ticket rejected") 11).1 = "ticket rejected" := by
  intro site late
  obtain ⟨-, -, -, described, returned⟩ := codes_agree_with_texts
  have active : site.context.active = some (.ofMechanism (.signed Signed.sampleSigner)) := rfl
  have refused : (Signed.verify Hmac.sha256 Signed.sampleSigner 1011 Signed.sampleCredential).1 =
      .error (Signed.failure Signed.expired) := by
    rw [Signed.verify_of_refused rfl (Signed.refusal?_of_expired Signed.genuine_sample (by decide))]
  have fails : (late.perform site).1.Fails (Signed.failure Signed.expired) := by
    obtain ⟨events, -, run⟩ := Service.run_of_active active
      (.ofUse (Signed.sampleSurroundings 1011) Signed.sampleCredential .verify)
    simp only [late, Request.perform, mapAnswer, run]
    refine .served (.used ?_ _)
    show Use.Answer.Fails _
      (.done (Signed.verify Hmac.sha256 Signed.sampleSigner 1011 Signed.sampleCredential).1)
    rw [refused]
    exact .done
  have generic := (described site site _ (.active active) (fun _ _ => "ticket rejected") 4).1 rfl
  refine ⟨fails, ?_, rfl, (Option.some.inj generic).symm,
    (described site site _ (.active active) (fun _ _ => "ticket rejected") 11).2 rfl⟩
  exact returned site site _ _ (.active active) rfl late _ fails ⟨_, _, rfl⟩ [] List.not_mem_nil

end Site

end Attest
