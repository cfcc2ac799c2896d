import Attest.Process
import Attest.Proofs.Context.Absence

/-!
The context of a whole process. What is asked of the process is asked of the installed context; until
there is one, the process answers like a context with an empty registry. The first installation is the
one that counts.
-/

namespace Attest

namespace Use

def call (surroundings : Surroundings) (credential : Credential) :
    Use → Process → (Answer × Credential) × Process
  | .verify => mapAnswer (Prod.map .done id) (Process.verify surroundings credential)
  | .uid => mapAnswer (Prod.map .number id) (Process.uid credential)
  | .gid => mapAnswer (Prod.map .number id) (Process.gid credential)
  | .host => mapAnswer (Prod.map .text id) (Process.host credential)
  | .lastError => mapAnswer (fun code => (.code code, credential)) (Process.lastError credential)
  | .pack version buffer =>
    mapAnswer (fun told => (.packed told.1 told.2, credential))
      (Process.pack version credential buffer)
  | .print sink =>
    mapAnswer (fun told => (.printed told.1 told.2, credential)) (Process.print credential sink)

end Use

namespace Service

/-- Has the process answer through its own operations. -/
def call : Service → Process → Answer × Process
  | .create surroundings info => mapAnswer .created (Process.create surroundings info)
  | .destroy credential => mapAnswer .destroyed (Process.destroy credential)
  | .unpack version buffer => mapAnswer .unpacked (Process.unpack version buffer)
  | .codeText code => mapAnswer .text (Process.codeText code)
  | .ofUse surroundings credential use => mapAnswer .used (use.call surroundings credential)

end Service

namespace Request

def call : Request → Process → Answer × Process
  | .init requested => mapAnswer .initialized (Process.init requested)
  | .teardown => mapAnswer .tornDown Process.teardown
  | .serve service => mapAnswer .served service.call

/-- The answer of a process without a context. -/
def fallback : Request → Answer
  | .init _ => .initialized (.error .noMechanism)
  | .teardown => .tornDown (.ok ())
  | .serve service => .served service.fallback

end Request

namespace Process

theorem map_onContext (fallback : α) (operation : Site → α × Site) (f : α → β) :
    mapAnswer f (onContext fallback operation) =
      onContext (f fallback) (mapAnswer f operation) := by
  funext process
  unfold mapAnswer onContext
  cases process.installed <;> rfl

end Process

theorem Use.call_eq (surroundings : Surroundings) (credential : Credential) (use : Use) :
    use.call surroundings credential =
      Process.onContext (use.fallback credential)
        fun site => use.request surroundings site credential := by
  cases use with
  | lastError => exact Process.map_onContext _ _ fun code => (Answer.code code, credential)
  | pack version buffer =>
    exact Process.map_onContext _ _
      fun (told : Except AuthError Unit × Bytes) => (Answer.packed told.1 told.2, credential)
  | print sink =>
    exact Process.map_onContext _ _
      fun (told : Except AuthError Unit × Sink) => (Answer.printed told.1 told.2, credential)
  | _ => exact Process.map_onContext ..

theorem Service.call_eq (service : Service) :
    service.call = Process.onContext service.fallback service.run := by
  cases service with
  | ofUse surroundings credential use =>
    rw [call, use.call_eq]
    exact Process.map_onContext ..
  | _ => exact Process.map_onContext ..

theorem Request.call_eq (request : Request) :
    request.call = Process.onContext request.fallback request.perform := by
  cases request with
  | serve service =>
    rw [call, service.call_eq]
    exact Process.map_onContext ..
  | _ => exact Process.map_onContext ..

namespace Request

/-- Answers to the same request that a caller can tell apart by the text of an error only. -/
inductive Answer.Alike : Answer → Answer → Prop where
  | initialized {cause other : AuthError} (code : cause.code = .noMechanism)
    (sameCode : cause.code = other.code) :
    Alike (.initialized (.error cause)) (.initialized (.error other))
  | tornDown : Alike (.tornDown (.ok ())) (.tornDown (.ok ()))
  | served (answer : Service.Answer) : Alike (.served answer) (.served answer)

end Request

/-- A context whose registry is empty. -/
def Context.bare (defaultName : String) : Context :=
  { registry := {}, defaultName }

namespace Site

def bare (defaultName : String) (history : History) : Site :=
  { context := .bare defaultName, history }

/-- What the requests are answered, one after another. -/
def answers (site : Site) : List Request → List Request.Answer
  | [] => []
  | request :: later => (request.perform site).1 :: (request.perform site).2.answers later

variable {defaultName : String} {history : History}

theorem absent_bare : (bare defaultName history).Absent (.unknownMechanism defaultName) where
  idle := rfl
  unloadable := .unknown rfl

/-- A bare context stays as it is, and answers like a process without a context. -/
theorem perform_bare (request : Request) :
    (request.perform (bare defaultName history)).2 = bare defaultName history ∧
      request.fallback.Alike (request.perform (bare defaultName history)).1 := by
  cases request with
  | init requested =>
    have failed : (bare defaultName history).ensure requested =
        (.error (.unknownMechanism (requested.getD defaultName)), bare defaultName history) :=
      ensure_of_failed requested rfl (Registry.load_of_unknown rfl history)
    simp only [Request.perform, mapAnswer, init, failed]
    exact ⟨trivial, .initialized rfl rfl⟩
  | teardown => exact ⟨rfl, .tornDown⟩
  | serve service =>
    have served : service.run (bare defaultName history) =
        (service.fallback, bare defaultName history) := run_of_absent absent_bare service
    simp only [Request.perform, mapAnswer, served]
    exact ⟨trivial, .served _⟩

theorem after_bare (requests : List Request) :
    (bare defaultName history).after requests = bare defaultName history := by
  induction requests with
  | nil => rfl
  | cons request later ih =>
    change ((request.perform (bare defaultName history)).2).after later = bare defaultName history
    rw [(perform_bare request).1]
    exact ih

theorem alike_bare (requests : List Request) :
    List.Forall₂ Request.Answer.Alike (requests.map Request.fallback)
      ((bare defaultName history).answers requests) := by
  induction requests with
  | nil => exact .nil
  | cons request later ih =>
    rw [List.map_cons, answers, (perform_bare request).1]
    exact .cons (perform_bare request).2 ih

end Site

namespace Process

inductive Step where
  | install (context : Context)
  | ask (request : Request)

namespace Step

inductive Answer where
  | installed (outcome : Except AuthError Context)
  | asked (answer : Request.Answer)

def take : Step → Process → Answer × Process
  | .install context => mapAnswer .installed (Process.install context)
  | .ask request => mapAnswer .asked request.call

/-- The step on a context that is already installed and cannot be replaced. -/
def takeOn : Step → Site → Answer × Site
  | .install _, site =>
    (.installed (.error (.configuration "authentication context already installed")), site)
  | .ask request, site => mapAnswer .asked request.perform site

end Step

def run : List Step → Process → List Step.Answer × Process
  | [], process => ([], process)
  | step :: later, process =>
    let (answer, process) := step.take process
    let (answers, process) := run later process
    (answer :: answers, process)

/-- The same steps on a context that is already installed. -/
def runOn : List Step → Site → List Step.Answer × Site
  | [], site => ([], site)
  | step :: later, site =>
    let (answer, site) := step.takeOn site
    let (answers, site) := runOn later site
    (answer :: answers, site)

def ofSite (site : Site) : Process :=
  { installed := some site.context, history := site.history }

variable {history : History}

theorem take_ofSite (step : Step) (site : Site) :
    step.take (ofSite site) = ((step.takeOn site).1, ofSite (step.takeOn site).2) := by
  cases step with
  | install context => rfl
  | ask request =>
    rw [Step.take, request.call_eq]
    rfl

theorem run_ofSite (steps : List Step) (site : Site) :
    run steps (ofSite site) = ((runOn steps site).1, ofSite (runOn steps site).2) := by
  induction steps generalizing site with
  | nil => rfl
  | cons step later ih => simp only [run, runOn, take_ofSite, ih]

theorem ask_of_vacant (request : Request) :
    (Step.ask request).take { history } = (.asked request.fallback, { history }) := by
  rw [Step.take, request.call_eq]
  rfl

theorem run_of_vacant (history : History) (requests : List Request) (rest : List Step) :
    run (requests.map .ask ++ rest) { history } =
      (requests.map (fun request => .asked request.fallback) ++ (run rest { history }).1,
        (run rest { history }).2) := by
  induction requests with
  | nil => rfl
  | cons request later ih =>
    simp only [List.map_cons, List.cons_append, run, ask_of_vacant, ih]

theorem exists_installation (steps : List Step) :
    ∃ (requests : List Request) (rest : List Step), steps = requests.map .ask ++ rest ∧
      (rest = [] ∨ ∃ context later, rest = .install context :: later) := by
  induction steps with
  | nil => exact ⟨[], [], rfl, .inl rfl⟩
  | cons step later ih =>
    cases step with
    | install context => exact ⟨[], _, rfl, .inr ⟨context, later, rfl⟩⟩
    | ask request =>
      obtain ⟨requests, rest, rfl, started⟩ := ih
      exact ⟨request :: requests, rest, rfl, started⟩

/-- Until a context is installed, a process answers like a context with an empty registry, and like
that context it stays as it is. The first context that is to be installed is, and from then on takes
every step; to install another one changes nothing, neither the answers nor the context. -/
theorem run_installed (defaultName : String) (history : History) (steps : List Step) :
    ∃ (requests : List Request) (rest : List Step) (answers : List Request.Answer),
      steps = requests.map .ask ++ rest ∧
      run (requests.map .ask) { history } = (answers.map .asked, { history }) ∧
      (Site.bare defaultName history).after requests = .bare defaultName history ∧
      answers.Forall₂ Request.Answer.Alike ((Site.bare defaultName history).answers requests) ∧
      (rest = [] ∨ ∃ context later, rest = .install context :: later ∧
        run steps { history } =
          (answers.map .asked ++ .installed (.ok context) :: (runOn later { context, history }).1,
            ofSite (runOn later { context, history }).2)) := by
  obtain ⟨requests, rest, rfl, started⟩ := exists_installation steps
  have asked : (requests.map Request.fallback).map Step.Answer.asked =
      requests.map fun request => .asked request.fallback := List.map_map
  refine ⟨requests, rest, requests.map Request.fallback, rfl, ?_, Site.after_bare requests,
    Site.alike_bare requests, ?_⟩
  · have ran := run_of_vacant history requests []
    rw [List.append_nil] at ran
    rw [ran, asked]
    exact congrArg (·, _) (List.append_nil _)
  · refine started.imp (fun ended => ended) ?_
    rintro ⟨context, later, rfl⟩
    have taken : (Step.install context).take { history } =
        (.installed (.ok context), ofSite { context, history }) := rfl
    have installed : run (.install context :: later) { history } =
        (.installed (.ok context) :: (runOn later { context, history }).1,
          ofSite (runOn later { context, history }).2) := by
      simp only [run, taken, run_ofSite]
    refine ⟨context, later, rfl, ?_⟩
    rw [run_of_vacant, installed, asked]

end Process

end Attest
