import Attest.Proofs.Context.Request
import Attest.Proofs.Registry.Loading

/-!
The entries of a history that tell of loads and releases. A load makes one entry and the first release
of a provider makes two; nothing else that a context is asked makes any.
-/

namespace Attest

namespace Event

def isEntry : Event → Bool
  | .loaded _ _ | .released _ | .asked _ .finish => true
  | .called _ | .asked _ _ => false

/-- The number of the provider, if it was made from the object. -/
def serialFrom? (object : Object) : Event → Option Nat
  | .loaded serial other => if other = object then some serial else none
  | _ => none

end Event

namespace History

/-- The entries alone. -/
def entries (history : History) : History :=
  history.filter Event.isEntry

/-- The providers that have been made from an object, by their numbers. -/
def serialsFrom (history : History) (object : Object) : List Nat :=
  history.filterMap (Event.serialFrom? object)

variable {history : History} {event : Event}

theorem entries_cons_of_entry (entry : event.isEntry = true) (history : History) :
    entries (event :: history) = event :: history.entries :=
  List.filter_cons_of_pos entry

theorem entries_cons_of_other (other : event.isEntry = false) (history : History) :
    entries (event :: history) = history.entries :=
  List.filter_cons_of_neg (Bool.eq_false_iff.1 other)

theorem mem_entries (entry : event.isEntry = true) : event ∈ history.entries ↔ event ∈ history := by
  rw [entries, List.mem_filter, and_iff_left entry]

theorem isReleased_cons {serial : Nat} :
    isReleased (event :: history) serial = true ↔
      event = .released serial ∨ history.isReleased serial = true := by
  rw [isReleased, isReleased, List.contains_iff_mem, List.contains_iff_mem, List.mem_cons, eq_comm]

theorem count_cons_self {object : Object} {operation : Operation} :
    count (.asked object operation :: history) object operation =
      history.count object operation + 1 :=
  List.count_cons_self

theorem count_cons_of_ne {object : Object} {operation : Operation}
    (differs : event ≠ .asked object operation) :
    count (event :: history) object operation = history.count object operation :=
  List.count_cons_of_ne differs

theorem count_entries (object : Object) :
    history.entries.count object .finish = history.count object .finish :=
  List.count_filter rfl

theorem isReleased_entries (serial : Nat) :
    history.entries.isReleased serial = history.isReleased serial := by
  rw [isReleased, isReleased, Bool.eq_iff_iff, List.contains_iff_mem, List.contains_iff_mem]
  exact mem_entries rfl

theorem nextSerial_entries : nextSerial history.entries = nextSerial history := by
  rw [nextSerial, entries, List.countP_filter]
  refine List.countP_congr fun event _ => ?_
  cases event <;> simp [isLoad, Event.isEntry]

theorem serialsFrom_entries (object : Object) :
    history.entries.serialsFrom object = history.serialsFrom object := by
  rw [serialsFrom, entries, List.filterMap_filter, serialsFrom]
  congr 1
  funext event
  cases event with
  | loaded | released => rfl
  | called | asked => exact ite_self none

theorem mem_serialsFrom {object : Object} {serial : Nat} :
    serial ∈ history.serialsFrom object ↔ .loaded serial object ∈ history := by
  rw [serialsFrom, List.mem_filterMap]
  constructor
  · rintro ⟨event, member, numbered⟩
    cases event with
    | loaded other made =>
      obtain ⟨rfl, same⟩ := Option.ite_none_right_eq_some.1 numbered
      cases same
      exact member
    | called | released | asked => cases numbered
  · intro member
    exact ⟨_, member, if_pos rfl⟩

end History

/-- Makes no entry. -/
def Recorded.Silent (computation : Recorded α) : Prop :=
  ∀ history, (computation history).2.entries = history.entries

namespace Provider

variable {provider : Provider} {history : History}

theorem silent_ask (operation : Operation) (lasting : operation ≠ .finish)
    (answer : Mechanism → α) : Recorded.Silent (provider.ask operation answer) := by
  intro history
  refine History.entries_cons_of_other ?_ history
  cases operation <;> first | rfl | exact absurd rfl lasting

theorem silent_encode (envelope : Envelope) (credential : Credential) (buffer : Bytes) :
    (provider.encode envelope credential buffer).Silent :=
  silent_ask .pack (by decide) _

theorem silent_pack (version : Version) (credential : Credential) (buffer : Bytes) :
    (provider.pack version credential buffer).Silent := by
  unfold pack
  cases version.envelope with
  | ok envelope => exact silent_encode envelope credential buffer
  | error cause => exact fun _ => rfl

theorem silent_decode (envelope : Envelope) (buffer : Bytes) :
    (provider.decode envelope buffer).Silent := by
  unfold decode
  rcases envelope.accept provider buffer with ⟨cause | accepted, rest⟩
  · exact fun _ => rfl
  · exact silent_ask .unpack nofun _

theorem silent_unpack (version : Version) (buffer : Bytes) :
    (provider.unpack version buffer).Silent := by
  unfold unpack
  cases version.envelope with
  | ok envelope => exact silent_decode envelope buffer
  | error cause => exact fun _ => rfl

theorem silent_codeText (code : Int32) : (provider.codeText code).Silent := by
  unfold codeText
  cases ErrorCode.genericText? code with
  | some text => exact fun _ => rfl
  | none => exact silent_ask .errorText nofun _

/-- The mechanism finishes at the first release, whatever comes of it. -/
theorem release_first (unreleased : history.isReleased provider.serial = false) :
    provider.release history =
      (provider.mechanism.finish,
        .asked provider.object .finish :: .released provider.serial :: history) := by
  rw [release, if_neg (Bool.eq_false_iff.1 unreleased)]
  rfl

theorem release_again (released : history.isReleased provider.serial = true) :
    provider.release history = (.ok (), history) :=
  if_pos released

end Provider

namespace Registry

variable {registry : Registry} {name : String} {history after : History} {provider : Provider}
  {cause : AuthError}

theorem entries_of_loaded (loads : registry.load name history = (.ok provider, after)) :
    provider.serial = history.nextSerial ∧
      after.entries = .loaded provider.serial provider.object :: history.entries := by
  cases found : registry.factories.get? name with
  | none =>
    rw [load_of_unknown found] at loads
    cases loads
  | some factory =>
    cases made : factory.outcomeAs name (history.calls factory.label) with
    | error cause =>
      rw [load_of_failed found made] at loads
      cases loads
    | ok result =>
      rw [load_of_made found made] at loads
      cases loads
      exact ⟨rfl, rfl⟩

theorem entries_of_failed (fails : registry.load name history = (.error cause, after)) :
    after.entries = history.entries := by
  cases found : registry.factories.get? name with
  | none =>
    rw [load_of_unknown found] at fails
    cases fails
    rfl
  | some factory =>
    cases made : factory.outcomeAs name (history.calls factory.label) with
    | error cause =>
      rw [load_of_failed found made] at fails
      cases fails
      rfl
    | ok result =>
      rw [load_of_made found made] at fails
      cases fails

end Registry

namespace Site

/-- Has a provider answer, which makes no entry. -/
def Discreet (operation : Site → α × Site) : Prop :=
  ∃ fallback answer, operation = dispatch fallback answer ∧
    ∀ provider : Provider, (answer provider).Silent

theorem Discreet.map {operation : Site → α × Site} (discreet : Discreet operation) (f : α → β) :
    Discreet (mapAnswer f operation) := by
  obtain ⟨fallback, answer, rfl, silent⟩ := discreet
  exact ⟨_, _, map_dispatch fallback answer f, fun provider history => silent provider history⟩

theorem discreet_dispatch (fallback : α) {answer : Provider → Recorded α}
    (silent : ∀ provider, (answer provider).Silent) : Discreet (dispatch fallback answer) :=
  ⟨fallback, answer, rfl, silent⟩

end Site

theorem Use.discreet (surroundings : Surroundings) (credential : Credential) (use : Use) :
    Site.Discreet fun site => use.request surroundings site credential := by
  cases use with
  | verify =>
    exact (Site.discreet_dispatch _ fun _ => Provider.silent_ask .verify nofun _).map
      (Prod.map Answer.done id)
  | uid =>
    exact (Site.discreet_dispatch _ fun _ => Provider.silent_ask .uid nofun _).map
      (Prod.map Answer.number id)
  | gid =>
    exact (Site.discreet_dispatch _ fun _ => Provider.silent_ask .gid nofun _).map
      (Prod.map Answer.number id)
  | host =>
    exact (Site.discreet_dispatch _ fun _ => Provider.silent_ask .host nofun _).map
      (Prod.map Answer.text id)
  | lastError =>
    exact (Site.discreet_dispatch _ fun _ => Provider.silent_ask .lastError nofun _).map
      fun code => (Answer.code code, credential)
  | pack version buffer =>
    exact (Site.discreet_dispatch _ fun _ => Provider.silent_pack version credential buffer).map
      fun (told : Except AuthError Unit × Bytes) => (Answer.packed told.1 told.2, credential)
  | print sink =>
    exact (Site.discreet_dispatch _ fun _ => Provider.silent_ask .print nofun _).map
      fun (told : Except AuthError Unit × Sink) => (Answer.printed told.1 told.2, credential)

theorem Service.discreet (service : Service) : Site.Discreet service.run := by
  cases service with
  | create surroundings info =>
    exact (Site.discreet_dispatch _ fun _ => Provider.silent_ask .create nofun _).map Answer.created
  | destroy credential =>
    exact (Site.discreet_dispatch _ fun _ => Provider.silent_ask .destroy nofun _).map Answer.destroyed
  | unpack version buffer =>
    exact (Site.discreet_dispatch _ fun _ => Provider.silent_unpack version buffer).map
      Answer.unpacked
  | codeText code =>
    exact (Site.discreet_dispatch _ fun _ => Provider.silent_codeText code).map Answer.text
  | ofUse surroundings credential use => exact (use.discreet surroundings credential).map Answer.used

namespace Request

/-- What a request other than teardown comes to: as before, or a new provider is active. -/
inductive Effect (site : Site) : Site → Prop where
  | same {history : History} (entries : history.entries = site.history.entries) :
    Effect site { site with history }
  | loaded {provider : Provider} {history : History} (idle : site.context.active = none)
    (serial : provider.serial = site.history.nextSerial)
    (entries :
      history.entries = .loaded provider.serial provider.object :: site.history.entries) :
    Effect site (site.activate provider history)

variable {site : Site} {request : Request}

theorem effect_of_ensure (requested : Option String) : Effect site (site.ensure requested).2 := by
  cases active : site.context.active with
  | some provider =>
    rw [Site.ensure_of_active active]
    exact .same rfl
  | none =>
    rcases loading : site.context.registry.load (requested.getD site.context.defaultName)
      site.history with ⟨cause | provider, history⟩
    · rw [Site.ensure_of_failed requested active loading]
      exact .same (Registry.entries_of_failed loading)
    · rw [Site.ensure_of_loaded requested active loading]
      obtain ⟨serial, entries⟩ := Registry.entries_of_loaded loading
      exact .loaded active serial entries

theorem Effect.dispatch {α : Type} {fallback : α} {answer : Provider → Recorded α}
    (silent : ∀ provider, (answer provider).Silent) :
    Effect site (site.dispatch fallback answer).2 := by
  have effect : Effect site (site.ensure none).2 := effect_of_ensure none
  unfold Site.dispatch
  generalize site.ensure none = ensured at effect ⊢
  obtain ⟨cause | provider, ready⟩ := ensured
  · exact effect
  · have quiet := silent provider ready.history
    cases effect with
    | same entries => exact .same (quiet.trans entries)
    | loaded idle serial entries => exact .loaded idle serial (quiet.trans entries)

theorem effect_perform (lasting : request ≠ .teardown) : Effect site (request.perform site).2 := by
  cases request with
  | init requested => exact effect_of_ensure requested
  | teardown => exact absurd rfl lasting
  | serve service =>
    obtain ⟨fallback, answer, run, silent⟩ := service.discreet
    simp only [perform, mapAnswer, run]
    exact .dispatch silent

end Request

end Attest
