import Attest.Context

/-!
Operations of a context with an active provider: the provider answers, and nothing but the history
changes.
-/

namespace Attest

def Provider.ofMechanism (mechanism : Mechanism) : Provider where
  id := mechanism.id
  name := mechanism.name
  mechanism := mechanism
  object := .built 0 0
  serial := 0

def Context.ofMechanism (mechanism : Mechanism) : Context where
  registry := {}
  defaultName := mechanism.name
  active := some (.ofMechanism mechanism)

/-- Fails at its first call. -/
def Factory.sample : Factory where
  label := 1
  product := .claimed
  failure? := fun earlier => if earlier = 0 then some .noMechanism else none

namespace Site

/-- The default mechanism comes up at the second attempt, another one at the first. -/
def sampleStart : Site where
  context := {
    registry := (({} : Registry).registerObject 0
      (.bearer { mechanismId := 7, mechanismName := "trust-token" })).register "auth/none" .sample
    defaultName := "auth/none"
  }

variable {site : Site} {provider : Provider}

theorem ensure_of_active (active : site.context.active = some provider)
    (requested : Option String) : site.ensure requested = (.ok provider, site) := by
  unfold ensure
  rw [active]

theorem dispatch_of_active (active : site.context.active = some provider) (fallback : α)
    (answer : Provider → Recorded α) :
    site.dispatch fallback answer =
      ((answer provider site.history).1,
        { site with history := (answer provider site.history).2 }) := by
  unfold dispatch
  rw [ensure_of_active active none]

end Site

end Attest
