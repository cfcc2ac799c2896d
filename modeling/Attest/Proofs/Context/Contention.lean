import Attest.Proofs.Context.InTurn

/-!
What the lock keeps apart. `told` is the site as it would be if only whole calls had been made so far.
The site differs from it only while the caller that holds the lock is in the middle of a load or a
release.
-/

namespace Attest

namespace Stage

/-- Holds the lock. -/
def Inside : Stage → Prop
  | .entered | .loading _ | .loaded _ | .removed _ | .leaving _ => True
  | .ready | .waiting | .done _ => False

/-- What the call will return, once that is settled. -/
def answer? : Stage → Option Call.Answer
  | .leaving answer | .done answer => some answer
  | _ => none

/-- A bound on the steps that are left. -/
def stepsLeft : Stage → Nat
  | .ready => 6
  | .waiting => 5
  | .entered => 4
  | .loading _ => 3
  | .loaded _ | .removed _ => 2
  | .leaving _ => 1
  | .done _ => 0

end Stage

namespace Contention

/-- A step of the caller with this index and call: the site, the owner of the lock and the caller's
stage before, and the same after it. -/
inductive Pass (index : Nat) (call : Call) (site : Site) :
    Option Nat → Stage → Site → Option Nat → Stage → Prop where
  | hit {owner : Option Nat} {requested : Option String} {provider : Provider}
    (asked : call = .ensure requested) (active : site.context.active = some provider) :
    Pass index call site owner .ready site owner (.done (.provided (.ok provider)))
  | queued {owner : Option Nat}
    (missed : ∀ requested, call = .ensure requested → site.context.active = none) :
    Pass index call site owner .ready site owner .waiting
  | entered : Pass index call site none .waiting site (some index) .entered
  | found {owner : Option Nat} {requested : Option String} {provider : Provider}
    (asked : call = .ensure requested) (active : site.context.active = some provider) :
    Pass index call site owner .entered site owner (.leaving (.provided (.ok provider)))
  | begun {owner : Option Nat} {requested : Option String} (asked : call = .ensure requested)
    (idle : site.context.active = none) :
    Pass index call site owner .entered site owner
      (.loading (requested.getD site.context.defaultName))
  | removed {owner : Option Nat} {provider : Provider} (asked : call = .teardown)
    (active : site.context.active = some provider) :
    Pass index call site owner .entered (setActive none site) owner (.removed provider)
  | vacant {owner : Option Nat} (asked : call = .teardown) (idle : site.context.active = none) :
    Pass index call site owner .entered site owner (.leaving (.released (.ok ())))
  | loaded {owner : Option Nat} {name : String} {answer : Except AuthError Provider}
    {history : History} (loads : site.context.registry.load name site.history = (answer, history)) :
    Pass index call site owner (.loading name) { site with history } owner (.loaded answer)
  | published {owner : Option Nat} {provider : Provider} :
    Pass index call site owner (.loaded (.ok provider)) (setActive (some provider) site) owner
      (.leaving (.provided (.ok provider)))
  | failed {owner : Option Nat} {cause : AuthError} :
    Pass index call site owner (.loaded (.error cause)) site owner
      (.leaving (.provided (.error cause)))
  | released {owner : Option Nat} {provider : Provider} {answer : Except AuthError Unit}
    {history : History} (releases : provider.release site.history = (answer, history)) :
    Pass index call site owner (.removed provider) { site with history } owner
      (.leaving (.released (answer.mapError provider.teardownError)))
  | left {owner : Option Nat} {answer : Call.Answer} :
    Pass index call site owner (.leaving answer) site none (.done answer)

variable {contention after : Contention} {index : Nat} {caller : Caller}

def goOn (callers : List Caller) (index : Nat) (stage : Stage) : List Caller :=
  callers.modify index fun caller => { caller with stage }

theorem pass_of_step (stepped : contention.step index caller = some after) :
    ∃ site owner stage,
      Pass index caller.call contention.site contention.owner caller.stage site owner stage ∧
      after = { site, owner, callers := goOn contention.callers index stage } := by
  obtain ⟨site, owner, callers⟩ := contention
  obtain ⟨call, stage⟩ := caller
  cases stage with
  | ready =>
    cases call with
    | ensure requested =>
      cases active : site.context.active with
      | none =>
        simp only [step, active] at stepped
        cases stepped
        exact ⟨_, _, _, .queued fun _ _ => active, rfl⟩
      | some provider =>
        simp only [step, active] at stepped
        cases stepped
        exact ⟨_, _, _, .hit rfl active, rfl⟩
    | teardown =>
      cases stepped
      exact ⟨_, _, _, .queued nofun, rfl⟩
  | waiting =>
    cases owner with
    | none =>
      cases stepped
      exact ⟨_, _, _, .entered, rfl⟩
    | some holder => cases stepped
  | entered =>
    cases active : site.context.active with
    | none =>
      cases call <;> simp only [step, active] at stepped <;> cases stepped
      · exact ⟨_, _, _, .begun rfl active, rfl⟩
      · exact ⟨_, _, _, .vacant rfl active, rfl⟩
    | some provider =>
      cases call <;> simp only [step, active] at stepped <;> cases stepped
      · exact ⟨_, _, _, .found rfl active, rfl⟩
      · exact ⟨_, _, _, .removed rfl active, rfl⟩
  | loading name =>
    cases stepped
    exact ⟨_, _, _, .loaded rfl, rfl⟩
  | loaded answer =>
    cases answer <;> cases stepped
    · exact ⟨_, _, _, .failed, rfl⟩
    · exact ⟨_, _, _, .published, rfl⟩
  | removed provider =>
    cases stepped
    exact ⟨_, _, _, .released rfl, rfl⟩
  | leaving answer =>
    cases stepped
    exact ⟨_, _, _, .left, rfl⟩
  | done answer => cases stepped

theorem follow_cons (index : Nat) (rest : List Nat) (contention : Contention) :
    contention.follow (index :: rest) =
      (contention.advance index).bind fun after => after.follow rest :=
  List.foldlM_cons

theorem pass_of_advance (advanced : contention.advance index = some after) :
    ∃ caller site owner stage, contention.callers[index]? = some caller ∧
      Pass index caller.call contention.site contention.owner caller.stage site owner stage ∧
      after = { site, owner, callers := goOn contention.callers index stage } := by
  obtain ⟨caller, found, stepped⟩ := Option.bind_eq_some_iff.1 advanced
  obtain ⟨site, owner, stage, pass, result⟩ := pass_of_step stepped
  exact ⟨caller, site, owner, stage, found, pass, result⟩

/-- The site that has been told of so many whole calls, while a caller is at this stage of another. -/
inductive Behind (told : Site) (call : Call) : Stage → Site → Prop where
  | entered : Behind told call .entered told
  | loading {requested : Option String} (asked : call = .ensure requested)
    (idle : told.context.active = none) :
    Behind told call (.loading (requested.getD told.context.defaultName)) told
  | loaded {requested : Option String} {answer : Except AuthError Provider} {history : History}
    (asked : call = .ensure requested) (idle : told.context.active = none)
    (loads : told.context.registry.load (requested.getD told.context.defaultName) told.history =
      (answer, history)) :
    Behind told call (.loaded answer) { told with history }
  | removed {provider : Provider} (asked : call = .teardown)
    (active : told.context.active = some provider) :
    Behind told call (.removed provider) (setActive none told)
  | leaving {answer : Call.Answer} : Behind told call (.leaving answer) told

def Alone (callers : List Caller) (holder : Option Nat) : Prop :=
  ∀ (index : Nat) (caller : Caller), callers[index]? = some caller → caller.stage.Inside →
    holder = some index

/-- Only the caller that holds the lock is inside, and the site is what has been told but for what
that caller is about. -/
inductive Coherent (told : Site) : Contention → Prop where
  | free {callers : List Caller} (alone : Alone callers none) :
    Coherent told { site := told, callers }
  | held {site : Site} {holder : Nat} {callers : List Caller} {caller : Caller}
    (alone : Alone callers (some holder)) (holds : callers[holder]? = some caller)
    (behind : Behind told caller.call caller.stage site) :
    Coherent told { site, owner := some holder, callers }

variable {told site : Site} {call : Call} {stage : Stage} {callers : List Caller}

theorem Behind.inside (behind : Behind told call stage site) : stage.Inside := by
  cases behind <;> trivial

theorem Behind.told_eq (behind : Behind told call stage site) {provider : Provider}
    (active : site.context.active = some provider) : site = told := by
  cases behind with
  | entered => rfl
  | loading asked idle => rfl
  | loaded asked idle loads => cases idle.symm.trans active
  | removed asked was => cases active
  | leaving => rfl

theorem Coherent.told_eq (coherent : Coherent told contention) {provider : Provider}
    (active : contention.site.context.active = some provider) : contention.site = told := by
  cases coherent with
  | free alone => rfl
  | held alone holds behind => exact behind.told_eq active

theorem Coherent.alone (coherent : Coherent told contention) :
    Alone contention.callers contention.owner := by
  cases coherent with
  | free alone => exact alone
  | held alone holds behind => exact alone

theorem Coherent.behind (coherent : Coherent told contention)
    (found : contention.callers[index]? = some caller) (inside : caller.stage.Inside) :
    contention.owner = some index ∧ Behind told caller.call caller.stage contention.site := by
  cases coherent with
  | free alone => cases alone index caller found inside
  | held alone holds behind =>
    cases alone index caller found inside
    cases holds.symm.trans found
    exact ⟨rfl, behind⟩

theorem goOn_self (found : callers[index]? = some caller) (stage : Stage) :
    (goOn callers index stage)[index]? = some { caller with stage } := by
  rw [goOn, List.getElem?_modify_eq, found]
  rfl

theorem goOn_of_ne {other : Nat} (differs : other ≠ index) (callers : List Caller)
    (stage : Stage) : (goOn callers index stage)[other]? = callers[other]? :=
  List.getElem?_modify_ne _ callers (Ne.symm differs)

theorem Alone.goOn {owner owner' : Option Nat} (alone : Alone callers owner)
    (found : callers[index]? = some caller) (holds : stage.Inside → owner' = some index)
    (keeps : ∀ other, other ≠ index → owner = some other → owner' = some other) :
    Alone (goOn callers index stage) owner' := by
  intro other next moved inside
  by_cases same : other = index
  · rw [same, goOn_self found] at moved
    cases moved
    rw [same]
    exact holds inside
  · rw [goOn_of_ne same] at moved
    exact keeps other same (alone other next moved inside)

theorem Coherent.pass_outside (coherent : Coherent told contention)
    (found : contention.callers[index]? = some caller) (before : ¬ caller.stage.Inside)
    (after : ¬ stage.Inside) :
    Coherent told { contention with callers := goOn contention.callers index stage } := by
  have alone := coherent.alone.goOn found (fun inside => absurd inside after)
    (fun _ _ held => held)
  cases coherent with
  | free => exact .free alone
  | @held site holder callers holding _ holds behind =>
    have differs : holder ≠ index := by
      rintro rfl
      cases holds.symm.trans found
      exact before behind.inside
    exact .held alone ((goOn_of_ne differs callers stage).trans holds) behind

theorem Coherent.pass_inside {told' : Site} (coherent : Coherent told contention)
    (found : contention.callers[index]? = some caller)
    (mine : ∀ other, contention.owner = some other → other = index)
    (behind : Behind told' caller.call stage site) :
    Coherent told'
      { site, owner := some index, callers := goOn contention.callers index stage } := by
  refine .held ?_ (goOn_self found stage) behind
  exact coherent.alone.goOn found (fun _ => rfl)
    fun other differs held => absurd (mine other held) differs

theorem Coherent.pass_left (coherent : Coherent told contention)
    (found : contention.callers[index]? = some caller) (held : contention.owner = some index)
    (after : ¬ stage.Inside) :
    Coherent told { site := told, callers := goOn contention.callers index stage } := by
  refine .free ?_
  refine coherent.alone.goOn found (fun inside => absurd inside after) ?_
  intro other differs
  rw [held]
  rintro ⟨⟩
  exact absurd rfl differs

/-- A step settles what a call returns, as if the whole call had been made at that moment, or it
tells nothing. -/
theorem Coherent.pass {concrete : Site} {owner owner' : Option Nat} {before : Stage}
    (coherent : Coherent told { site := concrete, owner, callers })
    (found : callers[index]? = some { call, stage := before })
    (pass : Pass index call concrete owner before site owner' stage) :
    (stage.answer? = before.answer? ∧
      Coherent told { site, owner := owner', callers := goOn callers index stage }) ∨
    (before.answer? = none ∧ ∃ answer told', stage.answer? = some answer ∧
      call.run told = (answer, told') ∧
      Coherent told' { site, owner := owner', callers := goOn callers index stage }) := by
  have behind := coherent.behind found
  have mine (other : Nat) (held : some index = some other) : other = index :=
    (Option.some.inj held).symm
  cases pass with
  | hit asked active =>
    -- Whoever holds the lock is ahead only with no provider in sight, so the one seen here is told.
    subst asked
    obtain rfl : site = told := coherent.told_eq active
    exact .inr ⟨rfl, _, _, rfl, Call.run_of_active active _, coherent.pass_outside found id id⟩
  | queued missed => exact .inl ⟨rfl, coherent.pass_outside found id id⟩
  | entered =>
    obtain rfl : site = told := by cases coherent; rfl
    exact .inl ⟨rfl, coherent.pass_inside found nofun .entered⟩
  | found asked active =>
    subst asked
    obtain ⟨rfl, behind⟩ := behind trivial
    cases behind
    exact .inr ⟨rfl, _, _, rfl, Call.run_of_active active _,
      coherent.pass_inside found mine .leaving⟩
  | begun asked idle =>
    obtain ⟨rfl, behind⟩ := behind trivial
    cases behind
    exact .inl ⟨rfl, coherent.pass_inside found mine (.loading asked idle)⟩
  | removed asked active =>
    obtain ⟨rfl, behind⟩ := behind trivial
    cases behind
    exact .inl ⟨rfl, coherent.pass_inside found mine (.removed asked active)⟩
  | vacant asked idle =>
    subst asked
    obtain ⟨rfl, behind⟩ := behind trivial
    cases behind
    exact .inr ⟨rfl, _, _, rfl, Call.run_of_idle idle, coherent.pass_inside found mine .leaving⟩
  | loaded loads =>
    -- The history moves ahead of what is told until the provider is published, or given up.
    obtain ⟨rfl, behind⟩ := behind trivial
    cases behind with
    | loading asked idle =>
      exact .inl ⟨rfl, coherent.pass_inside found mine (.loaded asked idle loads)⟩
  | published =>
    obtain ⟨rfl, behind⟩ := behind trivial
    cases behind with
    | loaded asked idle loads =>
      subst asked
      exact .inr ⟨rfl, _, _, rfl, Call.run_of_loaded _ idle loads,
        coherent.pass_inside found mine .leaving⟩
  | failed =>
    obtain ⟨rfl, behind⟩ := behind trivial
    cases behind with
    | loaded asked idle loads =>
      subst asked
      exact .inr ⟨rfl, _, _, rfl, Call.run_of_failed _ idle loads,
        coherent.pass_inside found mine .leaving⟩
  | released releases =>
    obtain ⟨rfl, behind⟩ := behind trivial
    cases behind with
    | removed asked active =>
      subst asked
      exact .inr ⟨rfl, _, _, rfl, Call.run_of_released active releases,
        coherent.pass_inside found mine .leaving⟩
  | left =>
    obtain ⟨rfl, behind⟩ := behind trivial
    cases behind
    exact .inl ⟨rfl, coherent.pass_left found rfl id⟩

theorem Coherent.advance (coherent : Coherent told contention)
    (advanced : contention.advance index = some after) : ∃ told', Coherent told' after := by
  obtain ⟨caller, site, owner, stage, found, pass, rfl⟩ := pass_of_advance advanced
  obtain ⟨-, coherent⟩ | ⟨-, answer, told', -, -, coherent⟩ := coherent.pass found pass
  · exact ⟨told, coherent⟩
  · exact ⟨told', coherent⟩

/-- Nobody has to wait but for the lock. -/
theorem exists_step (undone : ∀ answer, caller.stage ≠ .done answer)
    (free : caller.stage = .waiting → contention.owner = none) (index : Nat) :
    ∃ after, contention.step index caller = some after := by
  obtain ⟨site, owner, callers⟩ := contention
  obtain ⟨call, stage⟩ := caller
  cases stage with
  | ready => cases call <;> cases active : site.context.active <;> simp [step, active]
  | waiting =>
    cases free rfl
    exact ⟨_, rfl⟩
  | entered => cases call <;> cases active : site.context.active <;> simp [step, active]
  | loaded answer => cases answer <;> exact ⟨_, rfl⟩
  | loading name | removed provider | leaving answer => exact ⟨_, rfl⟩
  | done answer => exact absurd rfl (undone answer)

theorem exists_undone (unfinished : ¬ contention.isFinished) :
    ∃ (index : Nat) (caller : Caller), contention.callers[index]? = some caller ∧
      ∀ answer, caller.stage ≠ .done answer := by
  rw [isFinished, List.all_eq_true, Classical.not_forall] at unfinished
  obtain ⟨answer, unsettled⟩ := unfinished
  obtain ⟨reported, unsettled⟩ := Classical.not_imp.1 unsettled
  obtain ⟨caller, member, rfl⟩ := List.mem_map.1 reported
  obtain ⟨index, found⟩ := List.mem_iff_getElem?.1 member
  refine ⟨index, caller, found, fun answer done => ?_⟩
  rw [done] at unsettled
  exact unsettled rfl

theorem Coherent.exists_advance (coherent : Coherent told contention)
    (unfinished : ¬ contention.isFinished) :
    ∃ index after, contention.advance index = some after := by
  have advances {index : Nat} {caller : Caller}
      (found : contention.callers[index]? = some caller)
      (undone : ∀ answer, caller.stage ≠ .done answer)
      (free : caller.stage = .waiting → contention.owner = none) :
      ∃ index after, contention.advance index = some after := by
    obtain ⟨after, stepped⟩ := exists_step undone free index
    exact ⟨index, after, Option.bind_eq_some_iff.2 ⟨caller, found, stepped⟩⟩
  cases coherent with
  | free alone =>
    obtain ⟨index, caller, found, undone⟩ := exists_undone unfinished
    exact advances found undone fun _ => rfl
  | held alone holds behind =>
    refine advances holds ?_ ?_
    · intro answer done
      have inside := behind.inside
      rw [done] at inside
      exact inside
    · intro waiting
      have inside := behind.inside
      rw [waiting] at inside
      exact inside.elim

def stepsLeft : List Caller → Nat
  | [] => 0
  | caller :: rest => caller.stage.stepsLeft + stepsLeft rest

theorem Pass.stepsLeft_lt {concrete : Site} {owner owner' : Option Nat} {before : Stage}
    (pass : Pass index call concrete owner before site owner' stage) :
    stage.stepsLeft < before.stepsLeft := by
  cases pass <;> simp [Stage.stepsLeft]

theorem stepsLeft_goOn_lt (found : callers[index]? = some caller)
    (fewer : stage.stepsLeft < caller.stage.stepsLeft) :
    stepsLeft (goOn callers index stage) < stepsLeft callers := by
  induction callers generalizing index with
  | nil => cases found
  | cons first rest ih =>
    cases index with
    | zero =>
      cases found
      exact Nat.add_lt_add_right fewer _
    | succ index => exact Nat.add_lt_add_left (ih found) _

theorem stepsLeft_advance (advanced : contention.advance index = some after) :
    stepsLeft after.callers < stepsLeft contention.callers := by
  obtain ⟨caller, site, owner, stage, found, pass, rfl⟩ := pass_of_advance advanced
  exact stepsLeft_goOn_lt found pass.stepsLeft_lt

/-- There is no deadlock. -/
theorem Coherent.exists_finish {contention : Contention} {told : Site}
    (coherent : Coherent told contention) :
    ∃ schedule final, contention.follow schedule = some final ∧ final.isFinished := by
  by_cases finished : contention.isFinished
  · exact ⟨[], contention, rfl, finished⟩
  · obtain ⟨index, after, advanced⟩ := coherent.exists_advance finished
    obtain ⟨told', coherent⟩ := coherent.advance advanced
    have fewer := stepsLeft_advance advanced
    obtain ⟨schedule, final, followed, finished⟩ := coherent.exists_finish
    refine ⟨index :: schedule, final, ?_, finished⟩
    rw [follow_cons, advanced, Option.bind_some, followed]
termination_by stepsLeft contention.callers

end Contention

end Attest
