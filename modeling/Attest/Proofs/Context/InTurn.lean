import Attest.Context.Contention
import Attest.Proofs.Context.Request
import Attest.Proofs.Registry.Loading

/-!
Calls made one after another. A load that fails is tried again by the next call, and the first that
succeeds serves all later ones.
-/

namespace Attest

namespace Call

variable {site : Site} {provider : Provider} {history : History}

theorem run_of_active (active : site.context.active = some provider) (requested : Option String) :
    run (.ensure requested) site = (.provided (.ok provider), site) := by
  rw [run, Site.ensure_of_active active]

theorem run_of_loaded (requested : Option String) (idle : site.context.active = none)
    (loaded : site.context.registry.load (requested.getD site.context.defaultName) site.history =
      (.ok provider, history)) :
    run (.ensure requested) site = (.provided (.ok provider), site.activate provider history) := by
  rw [run, Site.ensure_of_loaded requested idle loaded]

theorem run_of_failed {cause : AuthError} (requested : Option String)
    (idle : site.context.active = none)
    (failed : site.context.registry.load (requested.getD site.context.defaultName) site.history =
      (.error cause, history)) :
    run (.ensure requested) site = (.provided (.error cause), { site with history }) := by
  rw [run, Site.ensure_of_failed requested idle failed]

theorem run_of_idle (idle : site.context.active = none) :
    run .teardown site = (.released (.ok ()), site) := by
  simp only [run, Site.teardown, idle]

theorem run_of_released {outcome : Except AuthError Unit}
    (active : site.context.active = some provider)
    (released : provider.release site.history = (outcome, history)) :
    run .teardown site = (.released (outcome.mapError provider.teardownError),
      { context := { site.context with active := none }, history }) := by
  simp only [run, Site.teardown, active, released]

end Call

namespace Site

variable {site : Site} {provider : Provider} {calls : List Call} {name : String}

theorem runAll_cons (site : Site) (call : Call) (rest : List Call) :
    site.runAll (call :: rest) =
      ((call.run site).1 :: ((call.run site).2.runAll rest).1,
        ((call.run site).2.runAll rest).2) :=
  rfl

theorem runAll_concat {told : Site} {answers : List Call.Answer}
    (earlier : site.runAll calls = (answers, told)) (call : Call) :
    site.runAll (calls ++ [call]) = (answers ++ [(call.run told).1], (call.run told).2) := by
  induction calls generalizing site answers with
  | nil =>
    cases earlier
    rfl
  | cons first rest ih =>
    rw [runAll_cons] at earlier
    cases earlier
    rw [List.cons_append, runAll_cons, ih rfl, List.cons_append]

/-- All of the calls have a mechanism of this name loaded if none is active. -/
def AllAsk (site : Site) (name : String) (calls : List Call) : Prop :=
  ∀ call ∈ calls, ∃ requested, call = .ensure requested ∧
    requested.getD site.context.defaultName = name

theorem runAll_of_active (active : site.context.active = some provider)
    (asking : site.AllAsk name calls) :
    site.runAll calls =
      (List.replicate calls.length (.provided (.ok provider)), site) := by
  induction calls with
  | nil => rfl
  | cons call rest ih =>
    obtain ⟨⟨requested, rfl, -⟩, rest⟩ := List.forall_mem_cons.1 asking
    rw [runAll_cons, Call.run_of_active active, ih rest, List.length_cons, List.replicate_succ]

/-- The factory under the name fails at its next so many calls, and at no later one. -/
structure FailsFirst (site : Site) (name : String) (factory : Factory) (failures : Nat) :
    Prop where
  idle : site.context.active = none
  found : site.context.registry.factories.get? name = some factory
  fails : ∀ further,
    (∃ cause, factory.outcomeAs name (site.history.calls factory.label + further) = .error cause) ↔
      further < failures

/-- The answers of calls that all ask for the name: so many fail, and then all have one provider. -/
structure Retried (start : Site) (name : String) (factory : Factory) (failures : Nat)
    (answers : List Call.Answer) (reached : Site) : Prop where
  answered : ∃ failed provided, answers = failed ++ provided ∧
    failed.length = min answers.length failures ∧
    (∀ answer ∈ failed, ∃ message, answer = .provided (.error (.loadFailed name message))) ∧
    ∀ answer ∈ provided, ∃ provider, reached.context.active = some provider ∧
      answer = .provided (.ok provider)
  called : reached.history.calls factory.label =
    start.history.calls factory.label + min answers.length (failures + 1)
  active : reached.context.active.isSome ↔ failures < answers.length

variable {factory : Factory} {failures : Nat}

theorem retried_nil (idle : site.context.active = none) :
    site.Retried name factory failures [] site where
  answered := ⟨[], [], rfl, (Nat.zero_min _).symm, nofun, nofun⟩
  called := by rw [List.length_nil, Nat.zero_min, Nat.add_zero]
  active := by rw [idle, List.length_nil]; exact iff_of_false nofun (Nat.not_lt_zero _)

theorem retried_replicate {reached : Site} (active : reached.context.active = some provider)
    (called : reached.history.calls factory.label = site.history.calls factory.label + 1)
    (later : Nat) :
    site.Retried name factory 0 (List.replicate (later + 1) (.provided (.ok provider))) reached where
  answered := by
    refine ⟨[], List.replicate (later + 1) _, rfl, (Nat.min_zero _).symm, nofun, ?_⟩
    intro answer member
    exact ⟨provider, active, List.eq_of_mem_replicate member⟩
  called := by
    rw [List.length_replicate, called, Nat.min_eq_right (Nat.succ_le_succ (Nat.zero_le _))]
  active := by
    rw [active, List.length_replicate]
    exact iff_of_true rfl (Nat.succ_pos later)

theorem Retried.again {history : History} {answers : List Call.Answer} {reached : Site}
    (rest : Retried { site with history } name factory failures answers reached)
    (called : history.calls factory.label = site.history.calls factory.label + 1)
    (message : String) :
    site.Retried name factory (failures + 1)
      (.provided (.error (.loadFailed name message)) :: answers) reached where
  answered := by
    obtain ⟨failed, provided, rfl, length, failing, providing⟩ := rest.answered
    refine ⟨_ :: failed, provided, rfl, ?_, ?_, providing⟩
    · rw [List.length_cons, List.length_cons, length, Nat.succ_min_succ]
    · exact List.forall_mem_cons.2 ⟨⟨message, rfl⟩, failing⟩
  called := by
    rw [rest.called, called, List.length_cons, Nat.succ_min_succ, Nat.add_assoc, Nat.add_comm 1]
  active := by rw [rest.active, List.length_cons, Nat.succ_lt_succ_iff]

theorem FailsFirst.of_failed {history : History} {cause : AuthError}
    (fails : site.FailsFirst name factory failures)
    (failed : factory.outcomeAs name (site.history.calls factory.label) = .error cause)
    (called : history.calls factory.label = site.history.calls factory.label + 1) :
    ∃ fewer, failures = fewer + 1 ∧
      FailsFirst { site with history } name factory fewer := by
  have some_left : 0 < failures := (fails.fails 0).1 ⟨cause, failed⟩
  obtain ⟨fewer, rfl⟩ := Nat.exists_eq_add_one.2 some_left
  refine ⟨fewer, rfl, fails.idle, fails.found, fun further => ?_⟩
  rw [called, Nat.add_assoc, Nat.add_comm 1, fails.fails, Nat.succ_lt_succ_iff]

theorem retried_runAll (fails : site.FailsFirst name factory failures)
    (asking : site.AllAsk name calls) :
    site.Retried name factory failures (site.runAll calls).1 (site.runAll calls).2 := by
  -- Each call that fails leaves one failure less for the others; the first that does not ends it.
  induction calls generalizing site failures with
  | nil => exact retried_nil fails.idle
  | cons call rest ih =>
    obtain ⟨⟨requested, rfl, rfl⟩, later⟩ := List.forall_mem_cons.1 asking
    cases outcome : factory.outcomeAs (requested.getD site.context.defaultName)
      (site.history.calls factory.label) with
    | ok made =>
      have exhausted : ¬ 0 < failures := by
        intro more
        obtain ⟨cause, failed⟩ := (fails.fails 0).2 more
        cases outcome.symm.trans failed
      obtain rfl := Nat.eq_zero_of_not_pos exhausted
      obtain ⟨provider, history, loaded, called⟩ : ∃ provider history,
          site.context.registry.load (requested.getD site.context.defaultName) site.history =
            (.ok provider, history) ∧
          history.calls factory.label = site.history.calls factory.label + 1 :=
        ⟨_, _, Registry.load_of_made fails.found outcome, History.calls_called ..⟩
      have active : (site.activate provider history).context.active = some provider := rfl
      rw [runAll_cons, Call.run_of_loaded requested fails.idle loaded,
        runAll_of_active active later, ← List.replicate_succ]
      exact retried_replicate active called rest.length
    | error cause =>
      obtain ⟨history, failed, called⟩ : ∃ history,
          site.context.registry.load (requested.getD site.context.defaultName) site.history =
            (.error cause, history) ∧
          history.calls factory.label = site.history.calls factory.label + 1 :=
        ⟨_, Registry.load_of_failed fails.found outcome, History.calls_called ..⟩
      rw [runAll_cons, Call.run_of_failed requested fails.idle failed]
      obtain ⟨fewer, rfl, left⟩ := fails.of_failed outcome called
      obtain ⟨message, rfl⟩ := Factory.loadFailed_of_outcomeAs outcome
      exact (ih left later).again called message

end Site

end Attest
