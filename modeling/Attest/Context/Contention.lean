import Attest.Context

/-!
Callers that bring up and tear down one context at the same time. Every call is a sequence of steps
that do not overlap with the steps of others; a lock, which one caller holds at a time, keeps loads
and releases apart. A schedule says which caller takes each step.
-/

namespace Attest

inductive Call where
  | ensure (requested : Option String)
  | teardown
deriving Repr, DecidableEq

namespace Call

inductive Answer where
  | provided (answer : Except AuthError Provider)
  | released (answer : Except AuthError Unit)

/-- The whole call at once, as when nobody else calls. -/
def run (call : Call) (site : Site) : Answer × Site :=
  match call with
  | .ensure requested =>
    let (answer, site) := site.ensure requested
    (.provided answer, site)
  | .teardown =>
    let (answer, site) := site.teardown
    (.released answer, site)

end Call

/-- How far a caller has come. -/
inductive Stage where
  | ready
  /-- Wants the lock. -/
  | waiting
  /-- Holds the lock, as in all later stages but the last. -/
  | entered
  /-- A load is under way. -/
  | loading (name : String)
  | loaded (answer : Except AuthError Provider)
  /-- The provider is out of the context and not yet released. -/
  | removed (provider : Provider)
  | leaving (answer : Call.Answer)
  | done (answer : Call.Answer)

structure Caller where
  call : Call
  stage : Stage := .ready

/-- A context with its callers, and which of them holds the lock. -/
structure Contention where
  site : Site
  owner : Option Nat := none
  callers : List Caller

namespace Contention

def begin (site : Site) (calls : List Call) : Contention :=
  { site, callers := calls.map fun call => { call } }

def setActive (active : Option Provider) (site : Site) : Site :=
  { site with context := { site.context with active } }

/-- Takes a caller to another stage. -/
def move (contention : Contention) (index : Nat) (stage : Stage) : Contention :=
  { contention with callers := contention.callers.modify index fun caller => { caller with stage } }

/-- The step that a caller takes from its stage. There is none while it waits for a lock that is
held, and none when it is done. -/
def step (contention : Contention) (index : Nat) (caller : Caller) : Option Contention :=
  let { site, owner, .. } := contention
  match caller.stage, caller.call with
  | .ready, .ensure _ =>
    match site.context.active with
    | some provider => some (contention.move index (.done (.provided (.ok provider))))
    | none => some (contention.move index .waiting)
  | .ready, .teardown => some (contention.move index .waiting)
  | .waiting, _ =>
    match owner with
    | some _ => none
    | none => some { contention.move index .entered with owner := some index }
  | .entered, .ensure requested =>
    match site.context.active with
    | some provider => some (contention.move index (.leaving (.provided (.ok provider))))
    | none => some (contention.move index (.loading (requested.getD site.context.defaultName)))
  | .entered, .teardown =>
    match site.context.active with
    | some provider =>
      some { contention.move index (.removed provider) with site := setActive none site }
    | none => some (contention.move index (.leaving (.released (.ok ()))))
  | .loading name, _ =>
    let (answer, history) := site.context.registry.load name site.history
    some { contention.move index (.loaded answer) with site := { site with history } }
  | .loaded (.ok provider), _ =>
    some { contention.move index (.leaving (.provided (.ok provider))) with
      site := setActive (some provider) site }
  | .loaded (.error e), _ => some (contention.move index (.leaving (.provided (.error e))))
  | .removed provider, _ =>
    let (answer, history) := provider.release site.history
    let answer := answer.mapError provider.teardownError
    some { contention.move index (.leaving (.released answer)) with site := { site with history } }
  | .leaving answer, _ => some { contention.move index (.done answer) with owner := none }
  | .done _, _ => none

def advance (contention : Contention) (index : Nat) : Option Contention :=
  contention.callers[index]?.bind (contention.step index)

/-- The steps of a schedule, each taken by the caller it names. -/
def follow (schedule : List Nat) (contention : Contention) : Option Contention :=
  schedule.foldlM advance contention

def answers (contention : Contention) : List (Option Call.Answer) :=
  contention.callers.map fun caller =>
    match caller.stage with
    | .done answer => some answer
    | _ => none

def isFinished (contention : Contention) : Bool :=
  contention.answers.all Option.isSome

end Contention

/-- Calls made one after another, with their answers. -/
def Site.runAll : List Call → Site → List Call.Answer × Site
  | [], site => ([], site)
  | call :: rest, site =>
    let (answer, site) := call.run site
    let (answers, site) := site.runAll rest
    (answer :: answers, site)

end Attest
