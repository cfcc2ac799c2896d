import Attest.Proofs.Provider.Ledger
import Mathlib.Data.Finset.Card
import Mathlib.Data.List.Induction

/-!
How often mechanisms finish when several contexts share them and callers hold providers besides. Each
provider has its mechanism finish at its first release, in whichever way it comes to be released, and
never again.
-/

namespace Attest

/-- Some contexts, the providers that callers hold, and what has happened so far. -/
structure Estate where
  contexts : List Context
  held : List Provider := []
  history : History := []

inductive Act where
  | call (index : Nat) (request : Request)
  /-- A caller loads a provider for itself. -/
  | load (registry : Registry) (name : String)
  /-- A caller takes hold of the provider that is active in a context. -/
  | hold (index : Nat)
  /-- A caller releases a provider that it holds, or none. -/
  | unload (slot : Option Nat)

namespace Estate

def activeAt? (estate : Estate) (index : Nat) : Option Provider :=
  estate.contexts[index]?.bind Context.active

def heldAt? (estate : Estate) (slot : Option Nat) : Option Provider :=
  slot.bind fun slot => estate.held[slot]?

/-- A context as part of the estate, with the history that all share. -/
def site (estate : Estate) (context : Context) : Site :=
  { context, history := estate.history }

def put (estate : Estate) (index : Nat) (site : Site) : Estate :=
  { estate with contexts := estate.contexts.set index site.context, history := site.history }

end Estate

namespace Act

def perform (act : Act) (estate : Estate) : Estate :=
  match act with
  | .call index request =>
    match estate.contexts[index]? with
    | none => estate
    | some context => estate.put index (request.perform (estate.site context)).2
  | .load registry name =>
    match registry.load name estate.history with
    | (.ok provider, history) => { estate with held := estate.held ++ [provider], history }
    | (.error _, history) => { estate with history }
  | .hold index => { estate with held := estate.held ++ (estate.activeAt? index).toList }
  | .unload slot =>
    match estate.heldAt? slot with
    | none => estate
    | some provider => { estate with history := (provider.release estate.history).2 }

/-- The provider that an act releases, for the first time or again. -/
def unloaded? (act : Act) (estate : Estate) : Option Provider :=
  match act with
  | .call index .teardown => estate.activeAt? index
  | .unload slot => estate.heldAt? slot
  | _ => none

end Act

namespace Estate

def after (estate : Estate) (acts : List Act) : Estate :=
  acts.foldl (fun estate act => act.perform estate) estate

/-- The providers that the acts release, in turn. -/
def unloads (estate : Estate) : List Act → List Provider
  | [] => []
  | act :: acts => (act.unloaded? estate).toList ++ (act.perform estate).unloads acts

variable {estate : Estate}

theorem after_concat (acts : List Act) (act : Act) :
    estate.after (acts ++ [act]) = act.perform (estate.after acts) :=
  List.foldl_concat ..

theorem unloads_concat (acts : List Act) (act : Act) :
    estate.unloads (acts ++ [act]) =
      estate.unloads acts ++ (act.unloaded? (estate.after acts)).toList := by
  induction acts generalizing estate with
  | nil => exact List.append_nil _
  | cons earlier acts ih =>
    simp only [unloads, List.cons_append, ih, List.append_assoc]
    rfl

def Owns (estate : Estate) (provider : Provider) : Prop :=
  provider ∈ estate.held ∨ ∃ context ∈ estate.contexts, context.active = some provider

variable {provider : Provider} {index : Nat} {context : Context}

theorem owns_of_activeAt (active : estate.activeAt? index = some provider) :
    estate.Owns provider := by
  obtain ⟨context, present, active⟩ := Option.bind_eq_some_iff.1 active
  exact .inr ⟨context, List.mem_of_getElem? present, active⟩

theorem owns_of_heldAt {slot : Option Nat} (held : estate.heldAt? slot = some provider) :
    estate.Owns provider := by
  obtain ⟨slot, -, present⟩ := Option.bind_eq_some_iff.1 held
  exact .inl (List.mem_of_getElem? present)

theorem owns_of_unloaded {act : Act} (unloaded : act.unloaded? estate = some provider) :
    estate.Owns provider := by
  cases act with
  | call index request =>
    cases request with
    | teardown => exact owns_of_activeAt unloaded
    | init | serve => cases unloaded
  | unload slot => exact owns_of_heldAt unloaded
  | load | hold => cases unloaded

theorem activeAt_of_context (present : estate.contexts[index]? = some context) :
    estate.activeAt? index = context.active := by
  rw [activeAt?, present]
  rfl

theorem owns_of_put {site : Site} (owns : (estate.put index site).Owns provider) :
    estate.Owns provider ∨ site.context.active = some provider := by
  obtain held | ⟨context, member, active⟩ := owns
  · exact .inl (.inl held)
  · obtain member | rfl := List.mem_or_eq_of_mem_set member
    · exact .inl (.inr ⟨context, member, active⟩)
    · exact .inr active

/-- What an act comes to that releases the provider, or none. -/
inductive Effect (estate : Estate) : Option Provider → Estate → Prop where
  | same {after : Estate} (entries : after.history.entries = estate.history.entries)
    (owned : ∀ provider, after.Owns provider → estate.Owns provider) : Effect estate none after
  | loaded {provider : Provider} {after : Estate}
    (serial : provider.serial = estate.history.nextSerial)
    (entries :
      after.history.entries = .loaded provider.serial provider.object :: estate.history.entries)
    (owned : ∀ other, after.Owns other → estate.Owns other ∨ other = provider) :
    Effect estate none after
  | first {provider : Provider} {after : Estate} (owns : estate.Owns provider)
    (unreleased : estate.history.isReleased provider.serial = false)
    (history : after.history =
      .asked provider.object .finish :: .released provider.serial :: estate.history)
    (owned : ∀ provider, after.Owns provider → estate.Owns provider) :
    Effect estate (some provider) after
  | again {provider : Provider} {after : Estate} (owns : estate.Owns provider)
    (released : estate.history.isReleased provider.serial = true)
    (history : after.history = estate.history)
    (owned : ∀ provider, after.Owns provider → estate.Owns provider) :
    Effect estate (some provider) after

theorem effect_of_release {after : Estate} (owns : estate.Owns provider)
    (history : after.history = (provider.release estate.history).2)
    (owned : ∀ provider, after.Owns provider → estate.Owns provider) :
    Effect estate (some provider) after := by
  cases released : estate.history.isReleased provider.serial with
  | false => exact .first owns released (by rw [history, Provider.release_first released]) owned
  | true => exact .again owns released (by rw [history, Provider.release_again released]) owned

theorem effect_of_teardown (present : estate.contexts[index]? = some context) :
    Effect estate context.active
      (estate.put index (estate.site context).teardown.2) := by
  have owned (site : Site) (vacant : site.context.active = none) (other : Provider)
      (owns : (estate.put index site).Owns other) : estate.Owns other := by
    obtain owns | active := owns_of_put owns
    · exact owns
    · rw [vacant] at active
      cases active
  cases active : context.active with
  | none =>
    simp only [Site.teardown, site, active]
    exact .same rfl (owned _ active)
  | some provider =>
    simp only [Site.teardown, site, active]
    have owns : estate.Owns provider := .inr ⟨context, List.mem_of_getElem? present, active⟩
    exact effect_of_release owns rfl (owned _ rfl)

theorem effect_of_request {request : Request} (lasting : request ≠ .teardown)
    (present : estate.contexts[index]? = some context) :
    Effect estate none (estate.put index (request.perform (estate.site context)).2) := by
  have owned (other : Provider) (active : context.active = some other) : estate.Owns other :=
    .inr ⟨context, List.mem_of_getElem? present, active⟩
  have effect : Request.Effect (estate.site context) (request.perform (estate.site context)).2 :=
    Request.effect_perform lasting
  generalize (request.perform (estate.site context)).2 = site at effect ⊢
  cases effect with
  | same entries => exact .same entries fun other owns => (owns_of_put owns).elim id (owned other)
  | loaded idle serial entries =>
    refine .loaded serial entries fun other owns => (owns_of_put owns).imp_right fun active => ?_
    exact (Option.some.inj active).symm

theorem effect_perform (act : Act) (estate : Estate) :
    Effect estate (act.unloaded? estate) (act.perform estate) := by
  cases act with
  | call index request =>
    cases present : estate.contexts[index]? with
    | none =>
      have unloaded : (Act.call index request).unloaded? estate = none := by
        cases request with
        | teardown => rw [Act.unloaded?, activeAt?, present]; rfl
        | init | serve => rfl
      simp only [unloaded, Act.perform, present]
      exact .same rfl fun _ => id
    | some context =>
      simp only [Act.perform, present]
      cases request with
      | teardown =>
        rw [Act.unloaded?, activeAt_of_context present]
        exact effect_of_teardown present
      | init requested => exact effect_of_request nofun present
      | serve service => exact effect_of_request nofun present
  | load registry name =>
    rcases loading : registry.load name estate.history with ⟨cause | provider, history⟩
    · simp only [Act.perform, loading]
      exact .same (Registry.entries_of_failed loading) fun _ => id
    · obtain ⟨serial, entries⟩ := Registry.entries_of_loaded loading
      simp only [Act.perform, loading]
      refine .loaded serial entries ?_
      rintro other (held | active)
      · exact (List.mem_append.1 held).imp .inl List.mem_singleton.1
      · exact .inl (.inr active)
  | hold index =>
    refine .same rfl ?_
    rintro other (held | active)
    · obtain held | taken := List.mem_append.1 held
      · exact .inl held
      · exact owns_of_activeAt (Option.mem_toList.1 taken)
    · exact .inr active
  | unload slot =>
    cases held : estate.heldAt? slot with
    | none =>
      simp only [Act.perform, Act.unloaded?, held]
      exact .same rfl fun _ => id
    | some provider =>
      simp only [Act.perform, Act.unloaded?, held]
      exact effect_of_release (owns_of_heldAt held) rfl fun _ => id

end Estate

/-- The numbers of those providers that were made from the object. -/
def Provider.numbers (object : Object) (providers : List Provider) : Finset Nat :=
  ((providers.filter fun provider => provider.object = object).map Provider.serial).toFinset

namespace Provider

variable {object : Object} {providers : List Provider} {provider : Provider} {serial : Nat}

theorem mem_numbers :
    serial ∈ numbers object providers ↔
      ∃ provider ∈ providers, provider.object = object ∧ provider.serial = serial := by
  simp only [numbers, List.mem_toFinset, List.mem_map, List.mem_filter, decide_eq_true_iff,
    and_assoc]

theorem numbers_concat (providers : List Provider) (provider : Provider) :
    numbers provider.object (providers ++ [provider]) =
      insert provider.serial (numbers provider.object providers) := by
  ext serial
  simp only [Finset.mem_insert, mem_numbers, List.mem_append, List.mem_singleton]
  grind

theorem numbers_concat_of_ne (differs : provider.object ≠ object) (providers : List Provider) :
    numbers object (providers ++ [provider]) = numbers object providers := by
  ext serial
  simp only [mem_numbers, List.mem_append, List.mem_singleton]
  grind

end Provider

namespace History

/-- The ledger tells of all that are known. Each was loaded under a number of its own, and its
mechanism has finished on its behalf if and only if it has been released. -/
structure Accounts (ledger : History) (known : Provider → Prop) (unloaded : List Provider) :
    Prop where
  loaded : ∀ provider, known provider → .loaded provider.serial provider.object ∈ ledger
  numbered : ∀ provider, known provider → provider.serial < ledger.nextSerial
  identity : ∀ provider other, known provider → known other →
    provider.serial = other.serial → provider = other
  included : ∀ provider ∈ unloaded, known provider
  released : ∀ serial, ledger.isReleased serial = true ↔
    ∃ provider ∈ unloaded, provider.serial = serial
  finished : ∀ object, ledger.count object .finish = (Provider.numbers object unloaded).card

namespace Accounts

variable {ledger : History} {known : Provider → Prop} {unloaded : List Provider}
  {provider : Provider}

theorem fewer (accounts : ledger.Accounts known unloaded) {fewer : Provider → Prop}
    (among : ∀ provider, fewer provider → known provider)
    (included : ∀ provider ∈ unloaded, fewer provider) : ledger.Accounts fewer unloaded where
  loaded provider present := accounts.loaded provider (among provider present)
  numbered provider present := accounts.numbered provider (among provider present)
  identity provider other present present' :=
    accounts.identity provider other (among provider present) (among other present')
  included := included
  released := accounts.released
  finished := accounts.finished

theorem isReleased_iff (accounts : ledger.Accounts known unloaded) (present : known provider) :
    ledger.isReleased provider.serial = true ↔ provider ∈ unloaded := by
  rw [accounts.released]
  constructor
  · rintro ⟨other, member, same⟩
    obtain rfl := accounts.identity other provider (accounts.included other member) present same
    exact member
  · intro member
    exact ⟨provider, member, rfl⟩

theorem count_le (accounts : ledger.Accounts known unloaded) (object : Object) :
    ledger.count object .finish ≤ (ledger.serialsFrom object).length := by
  rw [accounts.finished]
  refine (Finset.card_le_card ?_).trans (ledger.serialsFrom object).toFinset_card_le
  intro serial member
  obtain ⟨provider, unloaded, rfl, rfl⟩ := Provider.mem_numbers.1 member
  exact List.mem_toFinset.2
    (mem_serialsFrom.2 (accounts.loaded provider (accounts.included provider unloaded)))

theorem load (accounts : ledger.Accounts known unloaded)
    (serial : provider.serial = ledger.nextSerial) :
    Accounts (.loaded provider.serial provider.object :: ledger)
      (fun other => known other ∨ other = provider) unloaded where
  loaded := by
    rintro other (present | rfl)
    · exact List.mem_cons_of_mem _ (accounts.loaded other present)
    · exact List.mem_cons_self
  numbered := by
    rw [nextSerial, List.countP_cons_of_pos rfl, ← nextSerial]
    rintro other (present | rfl)
    · exact Nat.lt_succ_of_lt (accounts.numbered other present)
    · exact Nat.lt_succ_of_le serial.le
  identity := by
    rintro one other (present | rfl) (present' | rfl) same
    · exact accounts.identity one other present present' same
    · exact absurd (same.trans serial) (accounts.numbered one present).ne
    · exact absurd (same.symm.trans serial) (accounts.numbered other present').ne
    · rfl
  included other member := .inl (accounts.included other member)
  released other := by
    have unlike : Event.loaded provider.serial provider.object ≠ .released other := by
      rintro ⟨⟩
    rw [isReleased_cons, or_iff_right unlike, accounts.released]
  finished object := (count_cons_of_ne (by rintro ⟨⟩)).trans (accounts.finished object)

theorem first (accounts : ledger.Accounts known unloaded) (present : known provider)
    (unreleased : ledger.isReleased provider.serial = false) :
    Accounts (.asked provider.object .finish :: .released provider.serial :: ledger) known
      (unloaded ++ [provider]) where
  loaded other present :=
    List.mem_cons_of_mem _ (List.mem_cons_of_mem _ (accounts.loaded other present))
  numbered := accounts.numbered
  identity := accounts.identity
  included other member := by
    obtain member | member := List.mem_append.1 member
    · exact accounts.included other member
    · rwa [List.mem_singleton.1 member]
  released serial := by
    simp only [isReleased_cons, accounts.released, List.mem_append, List.mem_singleton]
    grind
  finished object := by
    have fresh : provider.serial ∉ Provider.numbers object unloaded := by
      intro member
      obtain ⟨other, member, -, same⟩ := Provider.mem_numbers.1 member
      rw [(accounts.released _).2 ⟨other, member, same⟩] at unreleased
      cases unreleased
    by_cases same : provider.object = object
    · subst same
      rw [Provider.numbers_concat, Finset.card_insert_of_notMem fresh, ← accounts.finished]
      exact count_cons_self.trans (congrArg Nat.succ (count_cons_of_ne nofun))
    · rw [Provider.numbers_concat_of_ne same, ← accounts.finished]
      have other : Event.asked provider.object .finish ≠ .asked object .finish := by
        intro equal
        cases equal
        exact same rfl
      exact (count_cons_of_ne other).trans (count_cons_of_ne nofun)

theorem again (accounts : ledger.Accounts known unloaded) (member : provider ∈ unloaded) :
    ledger.Accounts known (unloaded ++ [provider]) where
  loaded := accounts.loaded
  numbered := accounts.numbered
  identity := accounts.identity
  included other present := by
    obtain present | present := List.mem_append.1 present
    · exact accounts.included other present
    · rw [List.mem_singleton.1 present]
      exact accounts.included provider member
  released serial := by
    rw [accounts.released]
    grind
  finished object := by
    rw [accounts.finished]
    by_cases same : provider.object = object
    · subst same
      rw [Provider.numbers_concat, Finset.insert_eq_of_mem]
      exact Provider.mem_numbers.2 ⟨provider, member, rfl, rfl⟩
    · rw [Provider.numbers_concat_of_ne same]

end Accounts

end History

namespace Estate

variable {start estate after : Estate} {unloaded : List Provider} {provider : Provider}
  {acts : List Act} {context : Context}

/-- No context has a provider yet, and no caller holds one. -/
structure Fresh (estate : Estate) : Prop where
  idle : ∀ context ∈ estate.contexts, context.active = none
  unheld : estate.held = []
  unmarked : estate.history = []

def Knows (estate : Estate) (unloaded : List Provider) (provider : Provider) : Prop :=
  estate.Owns provider ∨ provider ∈ unloaded

theorem accounts_of_fresh (fresh : estate.Fresh) :
    estate.history.entries.Accounts (estate.Knows []) [] := by
  have unknown (provider : Provider) : ¬ estate.Knows [] provider := by
    rintro ((held | ⟨context, member, active⟩) | member)
    · rw [fresh.unheld] at held
      cases held
    · rw [fresh.idle context member] at active
      cases active
    · cases member
  rw [fresh.unmarked]
  exact {
    loaded := fun provider known => absurd known (unknown provider)
    numbered := fun provider known => absurd known (unknown provider)
    identity := fun provider _ known => absurd known (unknown provider)
    included := nofun
    released := fun serial => ⟨nofun, fun ⟨_, member, _⟩ => nomatch member⟩
    finished := fun _ => rfl
  }

theorem Effect.accounts {unloaded? : Option Provider} (effect : Effect estate unloaded? after)
    (accounts : estate.history.entries.Accounts (estate.Knows unloaded) unloaded) :
    after.history.entries.Accounts (after.Knows (unloaded ++ unloaded?.toList))
      (unloaded ++ unloaded?.toList) := by
  cases effect with
  | same entries owned =>
    rw [Option.toList_none, List.append_nil, entries]
    exact accounts.fewer (fun other => Or.imp_left (owned other)) fun _ => .inr
  | loaded serial entries owned =>
    rw [← History.nextSerial_entries] at serial
    rw [Option.toList_none, List.append_nil, entries]
    refine (accounts.load serial).fewer ?_ fun _ => .inr
    rintro other (owns | member)
    · exact (owned other owns).imp_left .inl
    · exact .inl (.inr member)
  | @first provider _ owns unreleased history owned =>
    rw [← History.isReleased_entries] at unreleased
    rw [history, History.entries_cons_of_entry rfl, History.entries_cons_of_entry rfl]
    refine (accounts.first (.inl owns) unreleased).fewer ?_ fun _ => .inr
    rintro other (owns' | member)
    · exact .inl (owned other owns')
    · obtain member | member := List.mem_append.1 member
      · exact .inr member
      · rw [List.mem_singleton.1 member]
        exact .inl owns
  | @again provider _ owns released history owned =>
    rw [← History.isReleased_entries] at released
    have member : provider ∈ unloaded := (accounts.isReleased_iff (.inl owns)).1 released
    rw [history]
    refine (accounts.again member).fewer ?_ fun _ => .inr
    rintro other (owns' | present)
    · exact .inl (owned other owns')
    · obtain present | present := List.mem_append.1 present
      · exact .inr present
      · rw [List.mem_singleton.1 present]
        exact .inl owns

theorem accounts_after (fresh : start.Fresh) (acts : List Act) :
    (start.after acts).history.entries.Accounts ((start.after acts).Knows (start.unloads acts))
      (start.unloads acts) := by
  induction acts using List.reverseRecOn with
  | nil => exact accounts_of_fresh fresh
  | append_singleton acts act ih =>
    rw [after_concat, unloads_concat]
    exact (effect_perform act (start.after acts)).accounts ih

theorem isReleased_iff (fresh : start.Fresh)
    (known : (start.after acts).Knows (start.unloads acts) provider) :
    (start.after acts).history.isReleased provider.serial = true ↔
      provider ∈ start.unloads acts := by
  rw [← History.isReleased_entries]
  exact (accounts_after fresh acts).isReleased_iff known

theorem Effect.count_eq (effect : Effect estate none after) (object : Object) :
    after.history.count object .finish = estate.history.count object .finish := by
  suffices after.history.entries.count object .finish =
      estate.history.entries.count object .finish by
    rwa [History.count_entries, History.count_entries] at this
  cases effect with
  | same entries => rw [entries]
  | loaded serial entries =>
    rw [entries]
    exact History.count_cons_of_ne nofun

theorem Effect.isReleased_eq {unloaded? : Option Provider} {serial : Nat}
    (effect : Effect estate unloaded? after)
    (differs : ∀ provider, unloaded? = some provider → provider.serial ≠ serial) :
    after.history.isReleased serial = estate.history.isReleased serial := by
  rw [Bool.eq_iff_iff]
  cases effect with
  | same entries => rw [← History.isReleased_entries, entries, History.isReleased_entries]
  | @loaded provider _ _ entries =>
    have unlike : Event.loaded provider.serial provider.object ≠ .released serial := nofun
    rw [← History.isReleased_entries, entries, History.isReleased_cons, or_iff_right unlike,
      History.isReleased_entries]
  | @first provider _ _ _ history =>
    have finish : Event.asked provider.object .finish ≠ .released serial := nofun
    have unlike : Event.released provider.serial ≠ .released serial := by
      intro same
      cases same
      exact differs provider rfl rfl
    rw [history, History.isReleased_cons, or_iff_right finish, History.isReleased_cons,
      or_iff_right unlike]
  | again _ _ history => rw [history]

theorem teardown_of_idle (idle : context.active = none) :
    (estate.site context).teardown = (.ok (), estate.site context) := by
  simp only [Site.teardown, site, idle]

theorem teardown_of_active (active : context.active = some provider) :
    (estate.site context).teardown =
      ((provider.release estate.history).1.mapError provider.teardownError,
        { context := { context with active := none },
          history := (provider.release estate.history).2 }) := by
  simp only [Site.teardown, site, active]

theorem context_teardown (estate : Estate) (context : Context) :
    (estate.site context).teardown.2.context = { context with active := none } := by
  cases active : context.active with
  | none =>
    rw [teardown_of_idle active, ← active]
    rfl
  | some provider => rw [teardown_of_active active]

theorem perform_teardown {index : Nat} (present : estate.contexts[index]? = some context) :
    (Act.call index .teardown).perform estate =
      { estate with
        contexts := estate.contexts.set index { context with active := none }
        history := (estate.site context).teardown.2.history } := by
  have context_eq := estate.context_teardown context
  simp only [Act.perform, present, ← context_eq]
  rfl

theorem teardown_refuses (active : context.active = some provider) (cause : AuthError) :
    (estate.site context).teardown.1 = .error cause ↔
      estate.history.isReleased provider.serial = false ∧
        ∃ reason, provider.mechanism.finish = .error reason ∧
          cause = .teardown s!"{provider.name}: {reason.message}" := by
  rw [teardown_of_active active]
  cases released : estate.history.isReleased provider.serial with
  | true =>
    rw [Provider.release_again released]
    exact iff_of_false nofun nofun
  | false =>
    rw [Provider.release_first released]
    cases finished : provider.mechanism.finish with
    | ok done => exact iff_of_false nofun fun ⟨_, _, failed, _⟩ => nomatch failed
    | error reason =>
      constructor
      · intro refused
        cases refused
        exact ⟨rfl, reason, rfl, rfl⟩
      · rintro ⟨-, other, same, rfl⟩
        cases same
        rfl

/-- How matters stand after some acts, and what comes of one more. -/
structure Accounting (start : Estate) (acts : List Act) (reached : Estate) : Prop where
  /-- Providers are told apart by their numbers, whoever has hold of them. -/
  identity : ∀ provider other, reached.Knows (start.unloads acts) provider →
    reached.Knows (start.unloads acts) other → provider.serial = other.serial → provider = other
  finished : ∀ object, reached.history.count object .finish =
    (Provider.numbers object (start.unloads acts)).card
  bounded : ∀ object,
    reached.history.count object .finish ≤ (reached.history.serialsFrom object).length
  /-- The mechanism finishes at the first release, and the provider counts as released from then
  on even if the mechanism fails. -/
  first : ∀ (act : Act) provider, act.unloaded? reached = some provider →
    provider ∉ start.unloads acts → (act.perform reached).history =
      .asked provider.object .finish :: .released provider.serial :: reached.history
  again : ∀ (act : Act) provider, act.unloaded? reached = some provider →
    provider ∈ start.unloads acts → (act.perform reached).history = reached.history
  /-- An act that releases no provider has no mechanism finish. -/
  spared : ∀ (act : Act), act.unloaded? reached = none → ∀ object,
    (act.perform reached).history.count object .finish = reached.history.count object .finish
  others : ∀ (act : Act) other, reached.Knows (start.unloads acts) other →
    act.unloaded? reached ≠ some other →
    (act.perform reached).history.isReleased other.serial =
      reached.history.isReleased other.serial
  /-- Teardown leaves its context without a provider, whatever the answer, and nothing else changes
  but the history. -/
  vacated : ∀ (index : Nat) context, reached.contexts[index]? = some context →
    (Act.call index .teardown).perform reached =
      { reached with
        contexts := reached.contexts.set index { context with active := none }
        history := (reached.site context).teardown.2.history }
  vacant : ∀ (index : Nat) context, reached.contexts[index]? = some context → context.active = none →
    (reached.site context).teardown = (.ok (), reached.site context)
  /-- Teardown fails if the mechanism does, at the first release of the provider. -/
  refused : ∀ (index : Nat) context, reached.contexts[index]? = some context → ∀ cause,
    (reached.site context).teardown.1 = .error cause ↔
      ∃ provider reason, context.active = some provider ∧ provider ∉ start.unloads acts ∧
        provider.mechanism.finish = .error reason ∧
        cause = .teardown s!"{provider.name}: {reason.message}"

theorem accounting_after (fresh : start.Fresh) (acts : List Act) :
    start.Accounting acts (start.after acts) where
  identity := (accounts_after fresh acts).identity
  finished object := by
    rw [← History.count_entries]
    exact (accounts_after fresh acts).finished object
  bounded object := by
    rw [← History.count_entries, ← History.serialsFrom_entries]
    exact (accounts_after fresh acts).count_le object
  first act provider unloaded unreleased := by
    have effect := effect_perform act (start.after acts)
    rw [unloaded] at effect
    cases effect with
    | first _ _ history => exact history
    | again owns released => exact absurd ((isReleased_iff fresh (.inl owns)).1 released) unreleased
  again act provider unloaded member := by
    have effect := effect_perform act (start.after acts)
    rw [unloaded] at effect
    cases effect with
    | first owns unreleased =>
      rw [(isReleased_iff fresh (.inl owns)).2 member] at unreleased
      cases unreleased
    | again _ _ history => exact history
  spared act none := by
    have effect := effect_perform act (start.after acts)
    rw [none] at effect
    exact effect.count_eq
  others act other known differs := by
    refine (effect_perform act (start.after acts)).isReleased_eq fun provider unloaded same => ?_
    have owns : (start.after acts).Owns provider := owns_of_unloaded unloaded
    obtain rfl := (accounts_after fresh acts).identity provider other (.inl owns) known same
    exact differs unloaded
  vacated index context present := perform_teardown present
  vacant index context _ idle := teardown_of_idle idle
  refused index context present cause := by
    cases active : context.active with
    | none =>
      rw [teardown_of_idle active]
      exact iff_of_false nofun nofun
    | some provider =>
      have owns : (start.after acts).Owns provider :=
        .inr ⟨context, List.mem_of_getElem? present, active⟩
      rw [teardown_refuses active, ← Bool.not_eq_true, isReleased_iff fresh (.inl owns)]
      constructor
      · rintro ⟨unreleased, reason, failed, rfl⟩
        exact ⟨provider, reason, rfl, unreleased, failed, rfl⟩
      · rintro ⟨_, reason, same, unreleased, failed, rfl⟩
        cases same
        exact ⟨unreleased, reason, failed, rfl⟩

/-- Two contexts share a mechanism that fails to finish. A caller has released the provider of the
second one already when that context is torn down. -/
def sample : Estate where
  contexts := List.replicate 2 {
    registry := ({} : Registry).registerObject 0
      (.rehearsal { mechanismId := 9, mechanismName := "rehearsal", failsToFinish := true })
    defaultName := "rehearsal"
  }

def sampleActs : List Act := [
  .call 0 (.init none), .call 1 (.serve (.codeText 4)), .hold 1, .unload (some 0), .call 1 .teardown
]

theorem accounting_sample :
    sample.Fresh ∧ sample.Accounting sampleActs (sample.after sampleActs) ∧
      (sample.unloads sampleActs).map Provider.serial = [1, 1] ∧
      (sample.after sampleActs).history.count (.standing 0) .finish = 1 ∧
      ∃ context, (sample.after sampleActs).contexts[0]? = some context ∧
        ((sample.after sampleActs).site context).teardown.1 =
          .error (.teardown "rehearsal: teardown failed: fake fini failure") := by
  have fresh : sample.Fresh := ⟨by decide, rfl, rfl⟩
  exact ⟨fresh, accounting_after fresh sampleActs, by decide, by decide, _, rfl, rfl⟩

end Estate

end Attest
