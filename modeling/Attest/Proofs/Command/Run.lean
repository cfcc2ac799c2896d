import Attest.Proofs.Command.Job
import Attest.Proofs.Registry.Loading

/-!
What carrying out a command line comes to. It succeeds exactly if its settings can be loaded and its
task succeeds in a process of its own, where the first operation loads one of the two mechanisms that
a command line knows.
-/

namespace Attest.Command

variable {environment : Environment} {invocation : Invocation} {settings : Settings}
  {registry : Registry} {context : Context} {provider : Provider} {console halfway final : Console}
  {arguments : List String} {name : String} {history : History}

theorem factory_of_buildRegistry {factory : Factory}
    (built : buildRegistry environment invocation = .ok registry)
    (found : registry.factories.get? name = some factory) :
    factory.product = .claimed ∨ ∃ path config, invocation.signedConfigPath = some path ∧
      Signed.Config.ofFile path (environment.files path) = .ok config ∧
      factory.product = .signed config .wall := by
  have claimed {factory : Factory}
      (found : (({} : Registry).register Claimed.mechanismName
        { label := claimedLabel, product := .claimed }).factories.get? name = some factory) :
      factory.product = .claimed := by
    rw [Registry.register, NameMap.get?_insert] at found
    split at found <;> cases found
    rfl
  unfold buildRegistry at built
  cases given : invocation.signedConfigPath with
  | none =>
    rw [given] at built
    cases built
    exact .inl (claimed found)
  | some path =>
    simp only [given] at built
    cases read : Signed.Config.ofFile path (environment.files path) with
    | error cause =>
      rw [read] at built
      cases built
    | ok config =>
      rw [read] at built
      cases built
      rw [Registry.register, NameMap.get?_insert] at found
      split at found
      · cases found
        exact .inr ⟨path, config, rfl, read, rfl⟩
      · exact .inl (claimed found)

theorem mechanism_of_load (built : buildRegistry environment invocation = .ok registry)
    (loaded : (registry.load name history).1 = .ok provider) :
    (name = Claimed.mechanismName ∧ provider.mechanism = .claimed) ∨
      (name = Signed.mechanismName ∧ ∃ path config signer,
        invocation.signedConfigPath = some path ∧
        Signed.Config.ofFile path (environment.files path) = .ok config ∧
        Signed.Signer.ofConfig config .wall = .ok signer ∧ provider.mechanism = .signed signer) := by
  obtain ⟨-, -, named⟩ := Registry.identity_of_load loaded
  obtain ⟨factory, object, found, made⟩ := Registry.made_of_load loaded
  generalize provider.mechanism = mechanism at named made
  obtain product | ⟨path, config, given, read, product⟩ := factory_of_buildRegistry built found <;>
    rw [product, Product.make] at made
  · cases made
    exact .inl ⟨named.symm, rfl⟩
  · split at made
    · rename_i signer brought
      cases made
      exact .inr ⟨named.symm, path, config, signer, given, read, brought, rfl⟩
    · cases made

theorem serving_of_init {after : Console} (installed : console.process.installed = some context)
    (idle : context.active = none)
    (started : ask (Process.init none) console = (.ok (.ok ()), after)) :
    ∃ provider, after.Serving provider ∧ after.output = console.output ∧
      (context.registry.load context.defaultName console.process.history).1 = .ok provider := by
  let site : Site := { context, history := console.process.history }
  rcases loading : context.registry.load context.defaultName console.process.history with
    ⟨cause | provider, history⟩
  · have failed : site.ensure none = _ := Site.ensure_of_failed none idle loading
    simp only [ask, Process.init, Process.onContext, installed, Site.init, failed, site] at started
    cases started
  · have loaded : site.ensure none = _ := Site.ensure_of_loaded none idle loading
    simp only [ask, Process.init, Process.onContext, installed, Site.init, loaded, site] at started
    cases started
    exact ⟨provider, ⟨_, rfl, rfl⟩, rfl, rfl⟩

theorem init_of_loaded (installed : console.process.installed = some context)
    (idle : context.active = none)
    (loaded : (context.registry.load context.defaultName console.process.history).1 =
      .ok provider) :
    ∃ after, ask (Process.init none) console = (.ok (.ok ()), after) ∧ after.Serving provider ∧
      after.output = console.output := by
  rcases loading : context.registry.load context.defaultName console.process.history with
    ⟨outcome, history⟩
  rw [loading] at loaded
  cases loaded
  let site : Site := { context, history := console.process.history }
  have ensured : site.ensure none = _ := Site.ensure_of_loaded none idle loading
  let process : Process := {
    installed := some { context with active := some provider }, history }
  have started : ask (Process.init none) console = (.ok (.ok ()), { console with process }) := by
    simp only [ask, Process.init, Process.onContext, installed, Site.init, ensured, site]
    rfl
  exact ⟨_, started, ⟨_, rfl, rfl⟩, rfl⟩

theorem output_ask {operation : Process → α × Process} {answer : α} {after : Console}
    (asked : ask operation console = (.ok answer, after)) : after.output = console.output := by
  cases asked
  rfl

/-- The process in which a task is performed. -/
def Console.begin (registry : Registry) (settings : Settings) : Console where
  process := { installed := some (.ofSettings registry settings) }

theorem Console.output_begin (registry : Registry) (settings : Settings) :
    (Console.begin registry settings).output = [] :=
  rfl

theorem ask_install (registry : Registry) (settings : Settings) :
    ask (Process.install (.ofSettings registry settings)) {} =
      (.ok (.ok (.ofSettings registry settings)), .begin registry settings) :=
  rfl

theorem performed_of_carryOut (done : carryOut environment invocation {} = (.ok (), final)) :
    ∃ settings registry halfway, loadSettings environment invocation = .ok settings ∧
      buildRegistry environment invocation = .ok registry ∧
      perform environment settings (.ofSettings registry settings) invocation.task
        (.begin registry settings) = (.ok (), halfway) ∧
      final.output = halfway.output := by
  unfold carryOut at done
  obtain ⟨settings, settled, registering⟩ := Job.ok_of_require_bind done
  obtain ⟨registry, built, installing⟩ := Job.ok_of_require_bind registering
  rw [Job.bind_of_ok (ask_install _ _)] at installing
  obtain ⟨context, same, performing⟩ := Job.ok_of_require_bind installing
  cases same
  obtain ⟨_, performed, attempt, tearing⟩ := Job.ok_of_bind performing
  obtain ⟨_, after, torn, finished⟩ := Job.ok_of_bind tearing
  cases finished
  refine ⟨settings, registry, performed, settled, built, ?_, output_ask torn⟩
  obtain done | ⟨failure, halfway, handled⟩ := Job.ok_of_tryCatch attempt
  · exact done
  · obtain ⟨_, _, -, thrown⟩ := Job.ok_of_bind handled
    cases thrown

theorem carryOut_of_performed
    (settled : loadSettings environment invocation = .ok settings)
    (built : buildRegistry environment invocation = .ok registry)
    (performed : perform environment settings (.ofSettings registry settings) invocation.task
      (.begin registry settings) = (.ok (), halfway)) :
    ∃ final, carryOut environment invocation {} = (.ok (), final) ∧
      final.output = halfway.output := by
  refine ⟨{ halfway with process := (Process.teardown halfway.process).2 }, ?_, rfl⟩
  rw [carryOut, settled, built, Job.require_ok, pure_bind, Job.require_ok, pure_bind,
    Job.bind_of_ok (ask_install _ _), Job.require_ok, pure_bind,
    Job.bind_of_ok (Job.tryCatch_of_ok performed _)]
  rfl

section

variable (parsed : Invocation.ofArguments arguments environment.ambient = .ok invocation)

include parsed

theorem run_of_performed (settled : loadSettings environment invocation = .ok settings)
    (built : buildRegistry environment invocation = .ok registry)
    (performed : perform environment settings (.ofSettings registry settings) invocation.task
      (.begin registry settings) = (.ok (), halfway)) :
    run environment arguments = { status := 0, output := halfway.output } := by
  obtain ⟨final, done, silent⟩ := carryOut_of_performed settled built performed
  simp only [run, parsed, execute, done, silent]

theorem failed_or_performed :
    (run environment arguments).status = 1 ∨
      ∃ settings registry halfway, loadSettings environment invocation = .ok settings ∧
        buildRegistry environment invocation = .ok registry ∧
        perform environment settings (.ofSettings registry settings) invocation.task
          (.begin registry settings) = (.ok (), halfway) ∧
        run environment arguments = { status := 0, output := halfway.output } := by
  rcases done : carryOut environment invocation {} with ⟨failure | ⟨⟩, final⟩
  · refine .inl ?_
    simp only [run, parsed, execute, done]
  · obtain ⟨settings, registry, halfway, settled, built, performed, -⟩ := performed_of_carryOut done
    exact .inr ⟨settings, registry, halfway, settled, built, performed,
      run_of_performed parsed settled built performed⟩

end

end Attest.Command
