import Attest.Proofs.Context.Selection

/-!
Contexts whose mechanism cannot be loaded. Each operation has an answer of its own for that, and
leaves everything as it was, save that the factory has been called once more. In all other cases it is
a mechanism that answers.
-/

namespace Attest

namespace Registry

/-- Nothing stands under the name, the factory that does fails, or its mechanism goes by another
name. -/
inductive Unloadable (registry : Registry) (history : History) (name : String) :
    AuthError → Prop where
  | unknown (absent : registry.factories.get? name = none) :
    Unloadable registry history name (.unknownMechanism name)
  | failing {factory : Factory} {cause : AuthError}
    (found : registry.factories.get? name = some factory)
    (fails : factory.outcome (history.calls factory.label) = .error cause) :
    Unloadable registry history name (.loadFailed name cause.message)
  | misnamed {factory : Factory} {mechanism : Mechanism} {object : Object}
    (found : registry.factories.get? name = some factory)
    (made : factory.outcome (history.calls factory.label) = .ok (mechanism, object))
    (differs : mechanism.name ≠ name) :
    Unloadable registry history name
      (.loadFailed name s!"mechanism identifies itself as {mechanism.name}")

/-- The call of the factory under the name, if there is one. -/
def callEvents (registry : Registry) (name : String) : List Event :=
  ((registry.label? name).map Event.called).toList

variable {registry : Registry} {history : History} {name : String} {cause : AuthError}

theorem callEvents_of_found {factory : Factory}
    (found : registry.factories.get? name = some factory) :
    registry.callEvents name = [.called factory.label] := by
  rw [callEvents, label?, found]
  rfl

theorem load_of_unloadable (unloadable : registry.Unloadable history name cause) :
    registry.load name history = (.error cause, registry.callEvents name ++ history) := by
  cases unloadable with
  | unknown absent =>
    rw [load_of_unknown absent, callEvents, label?, absent]
    rfl
  | failing found fails =>
    simp only [load, found, Factory.call_eq, fails, callEvents_of_found found]
    rfl
  | misnamed found made differs =>
    simp only [load, found, Factory.call_eq, made, if_neg differs, callEvents_of_found found]
    rfl

theorem unloadable_or_loads (registry : Registry) (history : History) (name : String) :
    (∃ cause, registry.Unloadable history name cause) ∨
      ∃ provider after, registry.load name history = (.ok provider, after) := by
  cases found : registry.factories.get? name with
  | none => exact .inl ⟨_, .unknown found⟩
  | some factory =>
    rcases outcome : factory.outcome (history.calls factory.label) with cause | ⟨mechanism, object⟩
    · exact .inl ⟨_, .failing found outcome⟩
    · by_cases named : mechanism.name = name
      · have made : factory.outcomeAs name (history.calls factory.label) =
            .ok (mechanism, object) := by
          rw [Factory.outcomeAs, outcome]
          exact if_pos named
        exact .inr ⟨_, _, load_of_made found made⟩
      · exact .inl ⟨_, .misnamed found outcome named⟩

end Registry

namespace Site

/-- No mechanism is active, and the default one cannot be loaded. -/
structure Absent (site : Site) (cause : AuthError) : Prop where
  idle : site.context.active = none
  unloadable : site.context.registry.Unloadable site.history site.context.defaultName cause

/-- The provider that answers, and the site as it stands before it does. -/
inductive Present (site : Site) (provider : Provider) : Site → Prop where
  | active (active : site.context.active = some provider) : Present site provider site
  | loaded {history : History} (idle : site.context.active = none)
    (loads : site.context.registry.load site.context.defaultName site.history =
      (.ok provider, history)) : Present site provider (site.activate provider history)

/-- The site once it has been tried to load the default mechanism in vain. -/
def tried (site : Site) : Site :=
  { site with history :=
      site.context.registry.callEvents site.context.defaultName ++ site.history }

variable {site : Site} {cause : AuthError}

theorem absent_or_present (site : Site) :
    (∃ cause, site.Absent cause) ∨ ∃ provider ready, site.Present provider ready := by
  cases active : site.context.active with
  | some provider => exact .inr ⟨provider, site, .active active⟩
  | none =>
    obtain ⟨cause, unloadable⟩ | ⟨provider, history, loads⟩ :=
      site.context.registry.unloadable_or_loads site.history site.context.defaultName
    · exact .inl ⟨cause, active, unloadable⟩
    · exact .inr ⟨provider, _, .loaded active loads⟩

theorem active_of_present {provider : Provider} {ready : Site}
    (present : site.Present provider ready) : ready.context.active = some provider := by
  cases present with
  | active active => exact active
  | loaded idle loads => rfl

/-- Whatever goes through a provider goes on as if it had been active before. -/
theorem Present.dispatch_eq {provider : Provider} {ready : Site}
    (present : site.Present provider ready) (fallback : α) (answer : Provider → Recorded α) :
    site.dispatch fallback answer = ready.dispatch fallback answer := by
  cases present with
  | active active => rfl
  | loaded idle loads => exact dispatch_of_loaded idle loads fallback answer

theorem dispatch_of_absent (absent : site.Absent cause) (fallback : α)
    (answer : Provider → Recorded α) : site.dispatch fallback answer = (fallback, site.tried) :=
  dispatch_of_failed absent.idle (Registry.load_of_unloadable absent.unloadable) fallback answer

theorem run_of_present {provider : Provider} {ready : Site} (present : site.Present provider ready)
    (service : Service) :
    ∃ events, provider.Asked events ∧
      service.run site =
        (service.answer provider, { ready with history := events ++ ready.history }) := by
  cases present with
  | active active => exact service.run_of_active active
  | loaded idle loads => exact run_of_loads idle loads service

theorem run_of_absent (absent : site.Absent cause) (service : Service) :
    service.run site = (service.fallback, site.tried) :=
  service.run_of_failed absent.idle (Registry.load_of_unloadable absent.unloadable)

/-- Without a mechanism, no operation asks one: each answers its fallback, whatever the error of the
load was, and nothing changes but that the factory of the default mechanism has been called once more,
if there is one. Otherwise the mechanism that is active, or has just been loaded, answers for itself
and is the only one that is asked. -/
theorem served_unless_absent (site : Site) :
    ((∃ cause, site.Absent cause) →
      ∀ service : Service, service.run site = (service.fallback, site.tried)) ∧
    (¬ (∃ cause, site.Absent cause) →
      ∃ provider ready, site.Present provider ready ∧
        ∀ service : Service, ∃ events, provider.Asked events ∧
          service.run site =
            (service.answer provider, { ready with history := events ++ ready.history })) := by
  constructor
  · rintro ⟨cause, absent⟩ service
    exact run_of_absent absent service
  · intro supplied
    obtain absent | ⟨provider, ready, present⟩ := site.absent_or_present
    · exact absurd absent supplied
    · exact ⟨provider, ready, present, run_of_present present⟩

/-- Another mechanism has been torn down, and the default one fails to come up for the first time. -/
def sampleAbsent : Site :=
  sampleStart.after [.init (some "trust-token"), .teardown]

/-- It answers at the next request. -/
theorem absent_sample :
    (∃ cause, sampleAbsent.Absent cause) ∧
      (Service.unpack .oldest [1]).run sampleAbsent =
        (.unpacked (.error .noMechanism, [1]), sampleAbsent.tried) ∧
      (Service.codeText 3).run sampleAbsent = (.text "authentication initialization failure",
        sampleAbsent.tried) ∧
      sampleAbsent.tried.history.calls 1 = 1 ∧
      ¬ (∃ cause, sampleAbsent.tried.Absent cause) ∧
      ((Service.codeText 3).run sampleAbsent.tried).1 = .text "memory management error" := by
  have absent : ∃ cause, sampleAbsent.Absent cause := ⟨_, rfl, .failing rfl rfl⟩
  have present : ¬ (∃ cause, sampleAbsent.tried.Absent cause) := by
    rintro ⟨cause, absent⟩
    cases Registry.load_of_unloadable absent.unloadable
  refine ⟨absent, (served_unless_absent sampleAbsent).1 absent _,
    (served_unless_absent sampleAbsent).1 absent _, by decide, present, ?_⟩
  obtain ⟨provider, ready, -, served⟩ := (served_unless_absent sampleAbsent.tried).2 present
  obtain ⟨events, -, answered⟩ := served (.codeText 3)
  rw [answered]
  rfl

end Site

end Attest
