import Attest.Proofs.Context.Request
import Attest.Proofs.Registry.Loading
import Mathlib.Data.List.Induction

/-!
Which mechanism a context has selected, after whatever it has been asked so far. The first load that
succeeds selects, and the selection stays until teardown.
-/

namespace Attest

namespace Request

inductive Moves (site : Site) : Request → Site → Prop where
  | tornDown (events : List Event) (uncalled : ∀ event ∈ events, ∀ label, event ≠ .called label) :
    Moves site .teardown
      { context := { site.context with active := none }, history := events ++ site.history }
  | held {request : Request} {provider : Provider} {name : String} {events : List Event}
    (active : site.context.active = some provider)
    (named : request.name? site.context.defaultName = some name) (asked : provider.Asked events) :
    Moves site request { site with history := events ++ site.history }
  | loaded {request : Request} {provider : Provider} {name : String} {history : History}
    {events : List Event} (idle : site.context.active = none)
    (named : request.name? site.context.defaultName = some name)
    (loads : site.context.registry.load name site.history = (.ok provider, history))
    (asked : provider.Asked events) :
    Moves site request
      { context := { site.context with active := some provider }, history := events ++ history }
  | failed {request : Request} {cause : AuthError} {name : String} {history : History}
    (idle : site.context.active = none)
    (named : request.name? site.context.defaultName = some name)
    (fails : site.context.registry.load name site.history = (.error cause, history)) :
    Moves site request { site with history }

theorem moves_teardown (site : Site) : Moves site .teardown (Request.teardown.perform site).2 := by
  simp only [perform, mapAnswer, Site.teardown]
  cases active : site.context.active with
  | none =>
    have unchanged : site =
        { context := { site.context with active := none }, history := [] ++ site.history } := by
      rw [← active]
      rfl
    rw [unchanged]
    exact .tornDown [] (fun _ member => absurd member List.not_mem_nil)
  | some provider =>
    by_cases released : site.history.isReleased provider.serial
    · simp only [Provider.release, if_pos released]
      exact .tornDown [] (fun _ member => absurd member List.not_mem_nil)
    · simp only [Provider.release, if_neg released, Provider.ask]
      exact .tornDown [.asked provider.object .finish, .released provider.serial] (by simp)

theorem teardown_of_nameless {defaultName : String} {request : Request}
    (nameless : request.name? defaultName = none) : request = .teardown := by
  cases request with
  | teardown => rfl
  | init requested => cases nameless
  | serve service => cases nameless

theorem moves_perform (site : Site) (request : Request) :
    Moves site request (request.perform site).2 := by
  cases named : request.name? site.context.defaultName with
  | none =>
    obtain rfl := teardown_of_nameless named
    exact moves_teardown site
  | some name =>
    cases active : site.context.active with
    | some provider =>
      obtain ⟨events, asked, performed⟩ := perform_of_active active named
      rw [performed]
      exact .held active named asked
    | none =>
      rcases loads : site.context.registry.load name site.history with ⟨cause | provider, history⟩
      · rw [perform_of_failed active named loads]
        exact .failed active named loads
      · have active' : (site.activate provider history).context.active = some provider := rfl
        obtain ⟨events, asked, performed⟩ := perform_of_active active' named
        rw [perform_of_loaded active named loads, performed]
        exact .loaded active named loads asked

variable {site after : Site} {request : Request} {provider : Provider} {name : String}

theorem Moves.configured (moves : Moves site request after) :
    after.context.registry = site.context.registry ∧
      after.context.defaultName = site.context.defaultName := by
  cases moves <;> exact ⟨rfl, rfl⟩

/-- The request has the name loaded, with this outcome. -/
structure Loads (site : Site) (request : Request) (name : String)
    (outcome : Except AuthError Provider) : Prop where
  idle : site.context.active = none
  named : request.name? site.context.defaultName = some name
  yields : (site.context.registry.load name site.history).1 = outcome

/-- The names that a request has loaded, which is one if no mechanism is active. -/
def attempted (request : Request) (context : Context) : List String :=
  match context.active with
  | some _ => []
  | none => (request.name? context.defaultName).toList

theorem attempted_of_idle (idle : site.context.active = none)
    (named : request.name? site.context.defaultName = some name) :
    request.attempted site.context = [name] := by
  simp only [attempted, idle, named, Option.toList_some]

theorem calls_append {events : List Event}
    (uncalled : ∀ event ∈ events, ∀ label, event ≠ .called label) (history : History)
    (label : Nat) : History.calls (events ++ history) label = history.calls label := by
  have none : History.calls events label = 0 :=
    List.count_eq_zero.2 fun member => uncalled _ member label rfl
  rw [History.calls, List.count_append, ← History.calls, none, Nat.zero_add, ← History.calls]

theorem uncalled_of_asked {events : List Event} (asked : provider.Asked events) :
    ∀ event ∈ events, ∀ label, event ≠ .called label := by
  intro event member label same
  obtain ⟨operation, question⟩ := asked event member
  cases question.symm.trans same

theorem Moves.calls_eq (moves : Moves site request after) (label : Nat) :
    after.history.calls label = site.history.calls label +
      (request.attempted site.context).countP fun name =>
        site.context.registry.label? name = some label := by
  cases moves with
  | tornDown events uncalled =>
    have silent : Request.attempted .teardown site.context = [] := by
      unfold attempted
      cases site.context.active <;> rfl
    rw [silent, calls_append uncalled]
    rfl
  | held active named asked =>
    simp only [attempted, active, calls_append (uncalled_of_asked asked)]
    rfl
  | @loaded _ provider name history events idle named loads asked =>
    rw [calls_append (uncalled_of_asked asked), attempted_of_idle idle named,
      List.countP_singleton]
    have called := site.context.registry.calls_load name site.history label
    rw [loads] at called
    simpa using called
  | @failed _ cause name history idle named fails =>
    rw [attempted_of_idle idle named, List.countP_singleton]
    have called := site.context.registry.calls_load name site.history label
    rw [fails] at called
    simpa using called

end Request

namespace Site

def after (site : Site) (requests : List Request) : Site :=
  requests.foldl (fun site request => (request.perform site).2) site

theorem after_append (site : Site) (earlier later : List Request) :
    site.after (earlier ++ later) = (site.after earlier).after later :=
  List.foldl_append

/-- All names that requests have loaded, in order. -/
def attempts (site : Site) : List Request → List String
  | [] => []
  | request :: later => request.attempted site.context ++ (request.perform site).2.attempts later

theorem configured_after (site : Site) (requests : List Request) :
    (site.after requests).context.registry = site.context.registry ∧
      (site.after requests).context.defaultName = site.context.defaultName := by
  induction requests generalizing site with
  | nil => exact ⟨rfl, rfl⟩
  | cons request later ih =>
    have first := (request.moves_perform site).configured
    have rest := ih (request.perform site).2
    exact ⟨rest.1.trans first.1, rest.2.trans first.2⟩

theorem calls_after (site : Site) (requests : List Request) (label : Nat) :
    (site.after requests).history.calls label = site.history.calls label +
      (site.attempts requests).countP fun name =>
        site.context.registry.label? name = some label := by
  induction requests generalizing site with
  | nil => rfl
  | cons request later ih =>
    have moves := request.moves_perform site
    have rest := ih (request.perform site).2
    rw [moves.configured.1, moves.calls_eq] at rest
    rw [attempts, List.countP_append, ← Nat.add_assoc]
    exact rest

/-- Each of these requests has a name loaded, without success. -/
inductive Fails (site : Site) : List Request → Prop where
  | untried : Fails site []
  | again {tried : List Request} {request : Request} {name : String} {cause : AuthError}
    (failed : Fails site tried) (loads : request.Loads (site.after tried) name (.error cause)) :
    Fails site (tried ++ [request])

/-- Ends with the latest teardown so far, or is before everything. -/
def Fresh (earlier : List Request) : Prop :=
  earlier = [] ∨ ∃ before, earlier = before ++ [.teardown]

/-- No load has succeeded since the latest teardown. -/
inductive Vacant (start : Site) : List Request → Prop where
  | intro {earlier tried : List Request} (fresh : Fresh earlier)
    (failed : (start.after earlier).Fails tried) : Vacant start (earlier ++ tried)

/-- The first load that has succeeded since the latest teardown is that of this name, and has
yielded this provider. -/
inductive Selected (start : Site) : List Request → String → Provider → Prop where
  | intro {earlier tried later : List Request} {request : Request} {name : String}
    {provider : Provider} (fresh : Fresh earlier) (failed : (start.after earlier).Fails tried)
    (loads : request.Loads (start.after (earlier ++ tried)) name (.ok provider))
    (lasting : .teardown ∉ later) :
    Selected start (earlier ++ tried ++ request :: later) name provider

variable {start site : Site} {provider : Provider} {requests : List Request} {name : String}

theorem load_of_loads {request : Request} {outcome : Except AuthError Provider}
    (loads : request.Loads site name outcome) :
    ∃ history, site.context.registry.load name site.history = (outcome, history) :=
  ⟨_, Prod.ext loads.yields rfl⟩

theorem active_of_loads {request : Request} (loads : request.Loads site name (.ok provider)) :
    (request.perform site).2.context.active = some provider := by
  obtain ⟨history, loading⟩ := load_of_loads loads
  have active : (site.activate provider history).context.active = some provider := rfl
  obtain ⟨events, -, performed⟩ := Request.perform_of_active active loads.named
  rw [Request.perform_of_loaded loads.idle loads.named loading, performed]
  exact active

theorem idle_of_loads {request : Request} {cause : AuthError}
    (loads : request.Loads site name (.error cause)) :
    (request.perform site).2.context.active = none := by
  obtain ⟨history, loading⟩ := load_of_loads loads
  rw [Request.perform_of_failed loads.idle loads.named loading]
  exact loads.idle

theorem idle_of_teardown (site : Site) :
    (Request.teardown.perform site).2.context.active = none := by
  have moves := Request.moves_teardown site
  generalize (Request.teardown.perform site).2 = after at moves
  cases moves with
  | tornDown => rfl
  | held active named asked => cases named
  | loaded idle named loads asked => cases named
  | failed idle named fails => cases named

theorem after_concat (site : Site) (requests : List Request) (request : Request) :
    site.after (requests ++ [request]) = (request.perform (site.after requests)).2 :=
  site.after_append requests [request]

theorem idle_of_vacant (idle : start.context.active = none) (vacant : start.Vacant requests) :
    (start.after requests).context.active = none := by
  obtain @⟨earlier, tried, fresh, failed⟩ := vacant
  rw [after_append]
  cases failed with
  | untried =>
    obtain rfl | ⟨before, rfl⟩ := fresh
    · exact idle
    · rw [after_concat]
      exact idle_of_teardown (start.after before)
  | again failed loads =>
    rw [after_concat]
    exact idle_of_loads loads

theorem active_after_of_lasting (active : site.context.active = some provider)
    {later : List Request} (lasting : .teardown ∉ later) :
    (site.after later).context.active = some provider := by
  induction later generalizing site with
  | nil => exact active
  | cons request later ih =>
    obtain ⟨continued, lasting⟩ := not_or.1 (List.mem_cons.not.1 lasting)
    have still : (request.perform site).2.context.active = some provider := by
      cases named : request.name? site.context.defaultName with
      | none => exact absurd (Request.teardown_of_nameless named).symm continued
      | some name =>
        obtain ⟨events, -, performed⟩ := Request.perform_of_active active named
        rw [performed]
        exact active
    exact ih still lasting

theorem active_of_selected (selected : start.Selected requests name provider) :
    (start.after requests).context.active = some provider := by
  obtain ⟨-, -, loads, lasting⟩ := selected
  rw [after_append]
  exact active_after_of_lasting (active_of_loads loads) lasting

theorem Selected.concat (selected : start.Selected requests name provider) {request : Request}
    (lasting : request ≠ .teardown) : start.Selected (requests ++ [request]) name provider := by
  obtain @⟨earlier, tried, later, loading, name, provider, fresh, failed, loads, lasted⟩ := selected
  rw [List.append_assoc, List.cons_append]
  refine .intro fresh failed loads ?_
  rw [List.mem_append, List.mem_singleton]
  exact not_or.2 ⟨lasted, Ne.symm lasting⟩

theorem vacant_of_fresh (fresh : Fresh requests) : start.Vacant requests := by
  have vacant : start.Vacant (requests ++ []) := .intro fresh .untried
  rwa [List.append_nil] at vacant

theorem vacant_or_selected (idle : start.context.active = none) (requests : List Request) :
    start.Vacant requests ∨ ∃ name provider, start.Selected requests name provider := by
  -- From the right: what the last request does depends on where those before it have led.
  induction requests using List.reverseRecOn with
  | nil => exact .inl (vacant_of_fresh (.inl rfl))
  | append_singleton requests request ih =>
    cases named : request.name? (start.after requests).context.defaultName with
    | none =>
      obtain rfl := Request.teardown_of_nameless named
      exact .inl (vacant_of_fresh (.inr ⟨requests, rfl⟩))
    | some name =>
      have lasting : request ≠ .teardown := by
        rintro rfl
        cases named
      obtain vacant | ⟨selecting, provider, selected⟩ := ih
      · have idle := idle_of_vacant idle vacant
        obtain @⟨earlier, tried, fresh, failed⟩ := vacant
        rcases yields : ((start.after (earlier ++ tried)).context.registry.load name
          (start.after (earlier ++ tried)).history).1 with cause | provider
        · rw [List.append_assoc]
          rw [after_append] at idle named yields
          exact .inl (.intro fresh (.again failed ⟨idle, named, yields⟩))
        · exact .inr ⟨name, provider, .intro fresh failed ⟨idle, named, yields⟩ List.not_mem_nil⟩
      · exact .inr ⟨selecting, provider, selected.concat lasting⟩

theorem active_iff_selected (idle : start.context.active = none) :
    (start.after requests).context.active = some provider ↔
      ∃ name, start.Selected requests name provider := by
  constructor
  · intro active
    obtain vacant | ⟨name, selecting, selected⟩ := vacant_or_selected idle requests
    · rw [idle_of_vacant idle vacant] at active
      cases active
    · rw [active_of_selected selected] at active
      cases active
      exact ⟨name, selected⟩
  · rintro ⟨name, selected⟩
    exact active_of_selected selected

theorem Selected.identity (selected : start.Selected requests name provider) :
    provider.name = name ∧ provider.id = provider.mechanism.id ∧
      provider.mechanism.name = name := by
  obtain ⟨-, -, loads, -⟩ := selected
  exact Registry.identity_of_load loads.yields

theorem run_of_loads {history : History} (idle : site.context.active = none)
    (loaded : site.context.registry.load site.context.defaultName site.history =
      (.ok provider, history)) (service : Service) :
    ∃ events, provider.Asked events ∧
      service.run site =
        (service.answer provider, site.activate provider (events ++ history)) := by
  have active : (site.activate provider history).context.active = some provider := rfl
  obtain ⟨events, asked, run⟩ := service.run_of_active active
  exact ⟨events, asked, (service.run_of_loaded idle loaded).trans run⟩

theorem failed_of_init {requested : Option String} {cause : AuthError} {left : Site}
    (failed : site.init requested = (.error cause, left)) :
    site.context.active = none ∧ ∃ history,
      site.context.registry.load (requested.getD site.context.defaultName) site.history =
        (.error cause, history) ∧
      left = { site with history } := by
  cases active : site.context.active with
  | some provider =>
    rw [init, ensure_of_active active] at failed
    cases failed
  | none =>
    rcases loading : site.context.registry.load
      (requested.getD site.context.defaultName) site.history with ⟨cause | provider, history⟩
    · rw [init, ensure_of_failed requested active loading] at failed
      cases failed
      exact ⟨rfl, history, rfl, rfl⟩
    · rw [init, ensure_of_loaded requested active loading] at failed
      cases failed

theorem run_after_failed {requested : Option String} {cause : AuthError} {left : History}
    (idle : site.context.active = none)
    (failed : site.context.registry.load (requested.getD site.context.defaultName) site.history =
      (.error cause, left))
    (apart : ∀ label,
      site.context.registry.label? (requested.getD site.context.defaultName) = some label →
      site.context.registry.label? site.context.defaultName ≠ some label) (service : Service) :
    (service.run { site with history := left }).1 = (service.run site).1 ∧
      (service.run { site with history := left }).2.context = (service.run site).2.context := by
  have same := Registry.load_after_failed failed apart
  have idle' : ({ site with history := left } : Site).context.active = none := idle
  rcases before : site.context.registry.load site.context.defaultName site.history with
    ⟨cause | provider, history⟩
  all_goals
    rcases after : site.context.registry.load site.context.defaultName left with
      ⟨outcome, history'⟩
    rw [before, after] at same
    cases same
  · rw [service.run_of_failed idle before, service.run_of_failed idle' after]
    exact ⟨rfl, rfl⟩
  · obtain ⟨events, -, run⟩ := run_of_loads idle before service
    obtain ⟨events', -, run'⟩ := run_of_loads idle' after service
    rw [run, run']
    exact ⟨rfl, rfl⟩

/-- How a context stands that began without a mechanism, and how it takes what it is asked next. -/
structure Selection (start : Site) (requests : List Request) (reached : Site) : Prop where
  registry : reached.context.registry = start.context.registry
  defaultName : reached.context.defaultName = start.context.defaultName
  active : ∀ provider, reached.context.active = some provider ↔
    ∃ name, start.Selected requests name provider
  identity : ∀ name provider, start.Selected requests name provider →
    provider.name = name ∧ provider.id = provider.mechanism.id ∧ provider.mechanism.name = name
  /-- While a provider is active, it answers. -/
  served : ∀ provider, reached.context.active = some provider → ∀ service : Service,
    ∃ events, provider.Asked events ∧
      service.run reached =
        (service.answer provider, { reached with history := events ++ reached.history })
  /-- No name makes a difference while a provider is active, not even one that cannot be loaded. -/
  kept : ∀ provider, reached.context.active = some provider → ∀ requested,
    reached.init requested = (.ok (), reached)
  /-- The load that succeeds selects, whatever it was that needed a provider. -/
  selected : reached.context.active = none → ∀ name provider history,
    reached.context.registry.load name reached.history = (.ok provider, history) →
    (∀ requested, requested.getD reached.context.defaultName = name →
      reached.init requested = (.ok (), reached.activate provider history)) ∧
    (reached.context.defaultName = name → ∀ service : Service,
      ∃ events, provider.Asked events ∧
        service.run reached =
          (service.answer provider, reached.activate provider (events ++ history)))
  /-- A load that fails leaves the context as it was, to load again at the next request. -/
  retried : reached.context.active = none → ∀ name cause history,
    reached.context.registry.load name reached.history = (.error cause, history) →
    (∀ requested, requested.getD reached.context.defaultName = name →
      reached.init requested = (.error cause, { reached with history })) ∧
    (reached.context.defaultName = name → ∀ service : Service,
      service.run reached = (service.fallback, { reached with history }))
  /-- The default stays what it was when another load fails. If that has called another factory,
  whatever is asked next is answered as if it had not been tried. -/
  spared : ∀ requested cause left, reached.init requested = (.error cause, left) →
    left.context = reached.context ∧
    (∀ before after,
      (left.context.registry.load left.context.defaultName reached.history).1 = .ok before →
      (left.context.registry.load left.context.defaultName left.history).1 = .ok after →
      after.name = before.name ∧ after.id = before.id ∧ after.mechanism = before.mechanism) ∧
    ((∀ label,
        reached.context.registry.label? (requested.getD reached.context.defaultName) = some label →
        reached.context.registry.label? reached.context.defaultName ≠ some label) →
      ∀ service : Service, (service.run left).1 = (service.run reached).1 ∧
        (service.run left).2.context = (service.run reached).2.context)
  called : ∀ label, reached.history.calls label = start.history.calls label +
    (start.attempts requests).countP fun name => start.context.registry.label? name = some label
  /-- A factory that stands under one name is called for that name. -/
  called_of_sole : ∀ name label, start.context.registry.label? name = some label →
    (∀ other, start.context.registry.label? other = some label → other = name) →
    reached.history.calls label = start.history.calls label + (start.attempts requests).count name

theorem count_of_sole {registry : Registry} {label : Nat}
    (stands : registry.label? name = some label)
    (sole : ∀ other, registry.label? other = some label → other = name) (names : List String) :
    (names.countP fun other => registry.label? other = some label) = names.count name := by
  rw [List.count]
  refine List.countP_congr fun other _ => ?_
  rw [decide_eq_true_iff, beq_iff_eq]
  constructor
  · exact sole other
  · rintro rfl
    exact stands

theorem selection_after (idle : start.context.active = none) (requests : List Request) :
    start.Selection requests (start.after requests) where
  registry := (start.configured_after requests).1
  defaultName := (start.configured_after requests).2
  active _ := active_iff_selected idle
  identity _ _ := Selected.identity
  served _ active service := service.run_of_active active
  kept _ active requested := by rw [init, ensure_of_active active]; rfl
  selected idle name provider history loaded := by
    constructor
    · rintro requested rfl
      rw [init, ensure_of_loaded requested idle loaded]
      rfl
    · rintro rfl service
      exact run_of_loads idle loaded service
  retried idle name cause history failed := by
    constructor
    · rintro requested rfl
      rw [init, ensure_of_failed requested idle failed]
      rfl
    · rintro rfl service
      exact service.run_of_failed idle failed
  spared requested cause left failed := by
    obtain ⟨idle, history, loading, rfl⟩ := failed_of_init failed
    refine ⟨rfl, fun before after => Registry.load_unique, fun apart service => ?_⟩
    exact run_after_failed idle loading apart service
  called label := start.calls_after requests label
  called_of_sole name label stands sole := by
    rw [calls_after, count_of_sole stands sole]

/-- Names that cannot be loaded, another mechanism, and then the default one. -/
def sampleRequests : List Request := [
  .init (some "auth/missing"), .serve (.codeText 10), .init (some "trust-token"),
  .init (some "auth/missing"), .teardown, .serve (.codeText 10)
]

theorem selection_sample :
    sampleStart.context.active = none ∧
      sampleStart.Selection sampleRequests (sampleStart.after sampleRequests) ∧
      sampleStart.attempts sampleRequests =
        ["auth/missing", "auth/none", "trust-token", "auth/none"] ∧
      (sampleStart.after sampleRequests).history.calls 1 = 2 ∧
      ∃ provider, sampleStart.Selected sampleRequests "auth/none" provider := by
  have idle : sampleStart.context.active = none := rfl
  have settled := selection_after idle sampleRequests
  refine ⟨idle, settled, by decide, by decide, ?_⟩
  have active : ∃ provider, (sampleStart.after sampleRequests).context.active = some provider ∧
      provider.name = "auth/none" := ⟨_, rfl, rfl⟩
  obtain ⟨provider, active, named⟩ := active
  obtain ⟨name, selected⟩ := (settled.active provider).1 active
  obtain rfl := (settled.identity name provider selected).1.symm.trans named
  exact ⟨provider, selected⟩

end Site

end Attest
