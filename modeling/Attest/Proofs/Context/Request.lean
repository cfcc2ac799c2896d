import Attest.Proofs.Context.Use

/-!
Everything that a context can be asked, in one type. Whatever is asked of a context but its teardown
goes the same way: a provider is made sure of, and then answers.
-/

namespace Attest

/-- Another answer, after the same step. -/
def mapAnswer (f : α → β) (step : σ → α × σ) : σ → β × σ := fun state =>
  (f (step state).1, (step state).2)

namespace Provider

/-- The events are of questions to the provider's mechanism. -/
def Asked (provider : Provider) (events : List Event) : Prop :=
  ∀ event ∈ events, ∃ operation, event = .asked provider.object operation

/-- Answers the value, whatever has happened before, and asks no mechanism but the provider's. -/
def Answers (provider : Provider) (answer : Recorded α) (value : α) : Prop :=
  ∃ events, provider.Asked events ∧ ∀ history, answer history = (value, events ++ history)

variable {provider : Provider}

theorem answers_ask (operation : Operation) (answer : Mechanism → α) :
    provider.Answers (provider.ask operation answer) (answer provider.mechanism) := by
  refine ⟨[.asked provider.object operation], ?_, fun _ => rfl⟩
  intro event member
  exact ⟨operation, List.mem_singleton.1 member⟩

theorem answers_pure (value : α) : provider.Answers (fun history => (value, history)) value :=
  ⟨[], fun _ member => absurd member List.not_mem_nil, fun _ => rfl⟩

theorem Answers.map {answer : Recorded α} {value : α} (answers : provider.Answers answer value)
    (f : α → β) : provider.Answers (mapAnswer f answer) (f value) := by
  obtain ⟨events, asked, answered⟩ := answers
  refine ⟨events, asked, fun history => ?_⟩
  rw [mapAnswer, answered]

theorem answers_codeText (provider : Provider) (code : Int32) :
    provider.Answers (provider.codeText code)
      ((ErrorCode.genericText? code).getD (provider.mechanism.errorText code)) := by
  unfold codeText
  cases ErrorCode.genericText? code with
  | some text => exact answers_pure text
  | none => exact answers_ask .errorText fun mechanism => mechanism.errorText code

theorem answers_encode (provider : Provider) (envelope : Envelope) (credential : Credential)
    (buffer : Bytes) :
    provider.Answers (provider.encode envelope credential buffer)
      (provider.encode envelope credential buffer []).1 :=
  answers_ask .pack _

theorem answers_decode (provider : Provider) (envelope : Envelope) (buffer : Bytes) :
    provider.Answers (provider.decode envelope buffer) (provider.decode envelope buffer []).1 := by
  unfold decode
  rcases envelope.accept provider buffer with ⟨cause | accepted, rest⟩
  · exact answers_pure _
  · exact answers_ask .unpack fun mechanism => mechanism.unpack rest

theorem answers_pack (provider : Provider) (version : Version) (credential : Credential)
    (buffer : Bytes) :
    provider.Answers (provider.pack version credential buffer)
      (provider.pack version credential buffer []).1 := by
  unfold pack
  cases version.envelope with
  | ok envelope => exact answers_encode provider envelope credential buffer
  | error cause => exact answers_pure _

theorem answers_unpack (provider : Provider) (version : Version) (buffer : Bytes) :
    provider.Answers (provider.unpack version buffer) (provider.unpack version buffer []).1 := by
  unfold unpack
  cases version.envelope with
  | ok envelope => exact answers_decode provider envelope buffer
  | error cause => exact answers_pure _

end Provider

namespace Site

/-- Has a provider answer, and answers the fallback when there is none. -/
def Serves (operation : Site → α × Site) (fallback : α) (value : Provider → α) : Prop :=
  ∃ answer, operation = dispatch fallback answer ∧
    ∀ provider : Provider, provider.Answers (answer provider) (value provider)

theorem map_dispatch (fallback : α) (answer : Provider → Recorded α) (f : α → β) :
    mapAnswer f (dispatch fallback answer) =
      dispatch (f fallback) fun provider => mapAnswer f (answer provider) := by
  funext site
  unfold mapAnswer dispatch
  rcases site.ensure none with ⟨cause | provider, after⟩ <;> rfl

theorem Serves.map {operation : Site → α × Site} {fallback : α} {value : Provider → α}
    (serves : Serves operation fallback value) (f : α → β) :
    Serves (mapAnswer f operation) (f fallback) fun provider => f (value provider) := by
  obtain ⟨answer, rfl, answers⟩ := serves
  refine ⟨_, map_dispatch fallback answer f, ?_⟩
  intro provider
  exact Provider.Answers.map (answers provider) f

theorem Serves.fallback_or_value {operation : Site → α × Site} {fallback : α} {value : Provider → α}
    (serves : Serves operation fallback value) (site : Site) :
    (operation site).1 = fallback ∨ ∃ provider, (operation site).1 = value provider := by
  obtain ⟨answer, rfl, answers⟩ := serves
  unfold dispatch
  rcases site.ensure none with ⟨cause | provider, after⟩
  · exact .inl rfl
  · obtain ⟨events, -, answered⟩ := answers provider
    simp only [answered]
    exact .inr ⟨provider, rfl⟩

/-- An active provider answers, and leaves nothing but questions to its mechanism. -/
theorem Serves.run_of_active {operation : Site → α × Site} {fallback : α} {value : Provider → α}
    (serves : Serves operation fallback value) {site : Site} {provider : Provider}
    (active : site.context.active = some provider) :
    ∃ events, provider.Asked events ∧
      operation site = (value provider, { site with history := events ++ site.history }) := by
  obtain ⟨answer, rfl, answers⟩ := serves
  obtain ⟨events, asked, answered⟩ := answers provider
  refine ⟨events, asked, ?_⟩
  rw [Site.dispatch_of_active active, answered]

end Site

namespace Use

/-- The answer without a mechanism. The credential and the buffer or sink that came with the request
go back as they are. -/
def fallback (credential : Credential) : Use → Answer × Credential
  | .verify => (.done (.error .noMechanism), credential)
  | .uid | .gid => (.number nobody, credential)
  | .host => (.text none, credential)
  | .lastError => (.code .generalFailure, credential)
  | .pack _ buffer => (.packed (.error .noMechanism) buffer, credential)
  | .print sink => (.printed (.error .noMechanism) sink, credential)

/-- What a provider answers. It packs behind an envelope of its own. -/
def answer (surroundings : Surroundings) (credential : Credential) (use : Use)
    (provider : Provider) : Answer × Credential :=
  match use with
  | .pack version buffer =>
    let (outcome, buffer) := (provider.pack version credential buffer []).1
    (.packed outcome buffer, credential)
  | use => use.ask surroundings provider.mechanism credential

theorem serves (surroundings : Surroundings) (credential : Credential) (use : Use) :
    Site.Serves (fun site => use.request surroundings site credential) (use.fallback credential)
      (use.answer surroundings credential) := by
  cases use with
  | verify =>
    exact Site.Serves.map ⟨_, rfl, fun provider => provider.answers_ask .verify _⟩
      (Prod.map Answer.done id)
  | uid =>
    exact Site.Serves.map ⟨_, rfl, fun provider => provider.answers_ask .uid _⟩
      (Prod.map Answer.number id)
  | gid =>
    exact Site.Serves.map ⟨_, rfl, fun provider => provider.answers_ask .gid _⟩
      (Prod.map Answer.number id)
  | host =>
    exact Site.Serves.map ⟨_, rfl, fun provider => provider.answers_ask .host _⟩
      (Prod.map Answer.text id)
  | lastError =>
    exact Site.Serves.map ⟨_, rfl, fun provider => provider.answers_ask .lastError _⟩
      fun code => (Answer.code code, credential)
  | pack version buffer =>
    exact Site.Serves.map
      ⟨_, rfl, fun provider => provider.answers_pack version credential buffer⟩
      fun (told : Except AuthError Unit × Bytes) => (Answer.packed told.1 told.2, credential)
  | print sink =>
    exact Site.Serves.map ⟨_, rfl, fun provider => provider.answers_ask .print _⟩
      fun (told : Except AuthError Unit × Sink) => (Answer.printed told.1 told.2, credential)

end Use

inductive Service where
  | create (surroundings : Surroundings) (info : Option String)
  | destroy (credential : Credential)
  | unpack (version : Version) (buffer : Bytes)
  | codeText (code : Int32)
  | ofUse (surroundings : Surroundings) (credential : Credential) (use : Use)

namespace Service

inductive Answer where
  | created (outcome : Except AuthError Credential)
  | destroyed (outcome : Except AuthError Unit)
  | unpacked (outcome : Except AuthError Credential × Bytes)
  | text (value : String)
  | used (answer : Use.Answer × Credential)

def run : Service → Site → Answer × Site
  | .create surroundings info => mapAnswer .created (Site.create surroundings info)
  | .destroy credential => mapAnswer .destroyed (Site.destroy credential)
  | .unpack version buffer => mapAnswer .unpacked (Site.unpack version buffer)
  | .codeText code => mapAnswer .text (Site.codeText code)
  | .ofUse surroundings credential use =>
    mapAnswer .used fun site => use.request surroundings site credential

/-- The answer without a mechanism. It tells nothing of why there is none. -/
def fallback : Service → Answer
  | .create _ _ => .created (.error .noMechanism)
  | .destroy _ => .destroyed (.error .noMechanism)
  | .unpack _ buffer => .unpacked (.error .noMechanism, buffer)
  | .codeText _ => .text ErrorCode.initFailureText
  | .ofUse _ credential use => .used (use.fallback credential)

/-- What a provider's mechanism answers. The envelope stands in front of what it unpacks, and the
generic texts in front of its own. -/
def answer (service : Service) (provider : Provider) : Answer :=
  match service with
  | .create surroundings info => .created (provider.mechanism.create surroundings info)
  | .destroy credential => .destroyed (provider.mechanism.destroy credential)
  | .unpack version buffer => .unpacked (provider.unpack version buffer []).1
  | .codeText code =>
    .text ((ErrorCode.genericText? code).getD (provider.mechanism.errorText code))
  | .ofUse surroundings credential use => .used (use.answer surroundings credential provider)

theorem serves (service : Service) :
    Site.Serves service.run service.fallback service.answer := by
  cases service with
  | create surroundings info =>
    exact Site.Serves.map ⟨_, rfl, fun provider => provider.answers_ask .create _⟩ Answer.created
  | destroy credential =>
    exact Site.Serves.map ⟨_, rfl, fun provider => provider.answers_ask .destroy _⟩ Answer.destroyed
  | unpack version buffer =>
    exact Site.Serves.map ⟨_, rfl, fun provider => provider.answers_unpack version buffer⟩
      Answer.unpacked
  | codeText code =>
    exact Site.Serves.map ⟨_, rfl, fun provider => provider.answers_codeText code⟩ Answer.text
  | ofUse surroundings credential use => exact (use.serves surroundings credential).map Answer.used

end Service

inductive Request where
  | init (requested : Option String)
  | teardown
  | serve (service : Service)

namespace Request

inductive Answer where
  | initialized (outcome : Except AuthError Unit)
  | tornDown (outcome : Except AuthError Unit)
  | served (answer : Service.Answer)

def perform : Request → Site → Answer × Site
  | .init requested => mapAnswer .initialized (Site.init requested)
  | .teardown => mapAnswer .tornDown Site.teardown
  | .serve service => mapAnswer .served service.run

/-- The name of the mechanism that is loaded if none is active. -/
def name? (defaultName : String) : Request → Option String
  | .init requested => some (requested.getD defaultName)
  | .teardown => none
  | .serve _ => some defaultName

end Request

namespace Site

def activate (site : Site) (provider : Provider) (history : History) : Site where
  context := { site.context with active := some provider }
  history := history

variable {site : Site} {provider : Provider} {history : History} {cause : AuthError}

theorem ensure_of_loaded (requested : Option String) (idle : site.context.active = none)
    (loaded : site.context.registry.load (requested.getD site.context.defaultName) site.history =
      (.ok provider, history)) :
    site.ensure requested = (.ok provider, site.activate provider history) := by
  unfold ensure
  simp only [idle, loaded, activate]

theorem ensure_of_failed (requested : Option String) (idle : site.context.active = none)
    (failed : site.context.registry.load (requested.getD site.context.defaultName) site.history =
      (.error cause, history)) :
    site.ensure requested = (.error cause, { site with history }) := by
  unfold ensure
  simp only [idle, failed]

/-- Loading comes first, and all else is as if the provider had been active before. -/
theorem dispatch_of_loaded (idle : site.context.active = none)
    (loaded : site.context.registry.load site.context.defaultName site.history =
      (.ok provider, history)) (fallback : α) (answer : Provider → Recorded α) :
    site.dispatch fallback answer = (site.activate provider history).dispatch fallback answer := by
  have active : (site.activate provider history).context.active = some provider := rfl
  unfold dispatch
  rw [ensure_of_active active, ensure_of_loaded none idle loaded]

theorem dispatch_of_failed (idle : site.context.active = none)
    (failed : site.context.registry.load site.context.defaultName site.history =
      (.error cause, history)) (fallback : α) (answer : Provider → Recorded α) :
    site.dispatch fallback answer = (fallback, { site with history }) := by
  unfold dispatch
  rw [ensure_of_failed none idle failed]

end Site

namespace Service

variable {site : Site} {provider : Provider} {history : History} {cause : AuthError}

theorem run_of_active (active : site.context.active = some provider) (service : Service) :
    ∃ events, provider.Asked events ∧
      service.run site =
        (service.answer provider, { site with history := events ++ site.history }) :=
  service.serves.run_of_active active

theorem run_of_loaded (idle : site.context.active = none)
    (loaded : site.context.registry.load site.context.defaultName site.history =
      (.ok provider, history)) (service : Service) :
    service.run site = service.run (site.activate provider history) := by
  obtain ⟨answer, run, -⟩ := service.serves
  rw [run, Site.dispatch_of_loaded idle loaded]

theorem run_of_failed (idle : site.context.active = none)
    (failed : site.context.registry.load site.context.defaultName site.history =
      (.error cause, history)) (service : Service) :
    service.run site = (service.fallback, { site with history }) := by
  obtain ⟨answer, run, -⟩ := service.serves
  rw [run, Site.dispatch_of_failed idle failed]

end Service

namespace Request

variable {site : Site} {provider : Provider} {history : History} {cause : AuthError}
  {request : Request} {name : String}

theorem perform_of_active (active : site.context.active = some provider)
    (named : request.name? site.context.defaultName = some name) :
    ∃ events, provider.Asked events ∧
      (request.perform site).2 = { site with history := events ++ site.history } := by
  cases request with
  | init requested =>
    refine ⟨[], fun _ member => absurd member List.not_mem_nil, ?_⟩
    simp only [perform, mapAnswer, Site.init, Site.ensure_of_active active, List.nil_append]
  | teardown => cases named
  | serve service =>
    obtain ⟨events, asked, run⟩ := service.run_of_active active
    refine ⟨events, asked, ?_⟩
    simp only [perform, mapAnswer, run]

theorem perform_of_loaded (idle : site.context.active = none)
    (named : request.name? site.context.defaultName = some name)
    (loaded : site.context.registry.load name site.history = (.ok provider, history)) :
    request.perform site = request.perform (site.activate provider history) := by
  cases request with
  | init requested =>
    cases named
    have active : (site.activate provider history).context.active = some provider := rfl
    simp only [perform, mapAnswer, Site.init, Site.ensure_of_active active,
      Site.ensure_of_loaded requested idle loaded]
  | teardown => cases named
  | serve service =>
    cases named
    simp only [perform, mapAnswer, service.run_of_loaded idle loaded]

theorem perform_of_failed (idle : site.context.active = none)
    (named : request.name? site.context.defaultName = some name)
    (failed : site.context.registry.load name site.history = (.error cause, history)) :
    (request.perform site).2 = { site with history } := by
  cases request with
  | init requested =>
    cases named
    simp only [perform, mapAnswer, Site.init, Site.ensure_of_failed requested idle failed]
  | teardown => cases named
  | serve service =>
    cases named
    simp only [perform, mapAnswer, service.run_of_failed idle failed]

end Request

end Attest
