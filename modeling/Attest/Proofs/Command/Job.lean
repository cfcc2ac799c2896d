import Attest.Command.Run
import Attest.Proofs.Context.Request

/-!
What a job that succeeds has gone through, and what it asks of a process whose mechanism is active.
-/

namespace Attest.Command

namespace Job

variable {α β : Type} {console final : Console}

theorem bind_apply (job : Job α) (next : α → Job β) (console : Console) :
    (job >>= next) console =
      match job console with
      | (.ok value, halfway) => next value halfway
      | (.error failure, halfway) => (.error failure, halfway) := by
  rcases run : job console with ⟨failure | value, halfway⟩ <;>
    simp only [bind, ExceptT.bind, ExceptT.mk, StateT.bind, run] <;> rfl

theorem ok_of_bind {job : Job α} {next : α → Job β} {result : β}
    (done : (job >>= next) console = (.ok result, final)) :
    ∃ value halfway, job console = (.ok value, halfway) ∧
      next value halfway = (.ok result, final) := by
  rw [bind_apply] at done
  rcases run : job console with ⟨failure | value, halfway⟩
  · rw [run] at done
    cases done
  · rw [run] at done
    exact ⟨value, halfway, rfl, done⟩

theorem bind_of_ok {job : Job α} {value : α} {halfway : Console}
    (run : job console = (.ok value, halfway)) (next : α → Job β) :
    (job >>= next) console = next value halfway := by
  rw [bind_apply, run]

theorem require_ok (failure : ε → Failure) (value : α) : require failure (.ok value) = pure value :=
  rfl

theorem ok_of_require {failure : ε → Failure} {answer : Except ε α} {value : α}
    (done : require failure answer console = (.ok value, final)) :
    answer = .ok value ∧ final = console := by
  cases answer <;> cases done
  exact ⟨rfl, rfl⟩

theorem ok_of_require_bind {failure : ε → Failure} {answer : Except ε α} {next : α → Job β}
    {result : β} (done : (require failure answer >>= next) console = (.ok result, final)) :
    ∃ value, answer = .ok value ∧ next value console = (.ok result, final) := by
  obtain ⟨value, halfway, required, finished⟩ := ok_of_bind done
  obtain ⟨given, rfl⟩ := ok_of_require required
  exact ⟨value, given, finished⟩

theorem ok_of_tryCatch {job : Job α} {handler : Failure → Job α} {value : α}
    (done : tryCatch job handler console = (.ok value, final)) :
    job console = (.ok value, final) ∨
      ∃ failure halfway, handler failure halfway = (.ok value, final) := by
  rcases run : job console with ⟨failure | value, halfway⟩ <;>
    simp only [tryCatch, tryCatchThe, MonadExceptOf.tryCatch, ExceptT.tryCatch, ExceptT.mk, bind,
      StateT.bind, run] at done
  · exact .inr ⟨failure, halfway, done⟩
  · exact .inl done

theorem tryCatch_of_ok {job : Job α} {value : α} (run : job console = (.ok value, final))
    (handler : Failure → Job α) : tryCatch job handler console = (.ok value, final) := by
  simp only [tryCatch, tryCatchThe, MonadExceptOf.tryCatch, ExceptT.tryCatch, ExceptT.mk, bind,
    StateT.bind, run]
  rfl

end Job

/-- The process has a context, in which this provider is active. -/
def Console.Serving (console : Console) (provider : Provider) : Prop :=
  ∃ context, console.process.installed = some context ∧ context.active = some provider

/-- Comes to the value while the provider is active, which it stays, and prints nothing. -/
def Job.Yields (job : Job α) (provider : Provider) (value : α) : Prop :=
  ∀ console, console.Serving provider →
    ∃ after, job console = (.ok value, after) ∧ after.Serving provider ∧
      after.output = console.output

namespace Job.Yields

variable {α β : Type} {provider : Provider}

theorem pure (value : α) : (Pure.pure value : Job α).Yields provider value :=
  fun console serving => ⟨console, rfl, serving, rfl⟩

theorem bind {job : Job α} {value : α} {next : α → Job β} {result : β}
    (first : job.Yields provider value) (second : (next value).Yields provider result) :
    (job >>= next).Yields provider result := by
  intro console serving
  obtain ⟨halfway, run, serving, silent⟩ := first console serving
  obtain ⟨after, finished, serving, quiet⟩ := second halfway serving
  refine ⟨after, ?_, serving, quiet.trans silent⟩
  rw [bind_of_ok run, finished]

theorem map {job : Job α} {value : α} (yields : job.Yields provider value) (f : α → β) :
    (f <$> job).Yields provider (f value) := by
  rw [map_eq_pure_bind]
  exact yields.bind (.pure (f value))

theorem ok_of_bind {job : Job α} {value : α} {next : α → Job β} {result : β}
    {console final : Console} (yields : job.Yields provider value)
    (serving : console.Serving provider)
    (done : (job >>= next) console = (.ok result, final)) :
    ∃ after, after.Serving provider ∧ after.output = console.output ∧
      next value after = (.ok result, final) := by
  obtain ⟨after, run, serving, silent⟩ := yields console serving
  rw [bind_of_ok run] at done
  exact ⟨after, serving, silent, done⟩

end Job.Yields

section

variable {provider : Provider}

theorem yields_dispatch {answer : Provider → Recorded α} {value : α}
    (answers : provider.Answers (answer provider) value) (fallback absent : α) :
    (ask (Process.onContext absent (Site.dispatch fallback answer))).Yields provider value := by
  intro console serving
  obtain ⟨context, installed, active⟩ := serving
  obtain ⟨events, -, answered⟩ := answers
  have dispatched : Site.dispatch fallback answer
      { context, history := console.process.history } =
        (value, { context, history := events ++ console.process.history }) := by
    rw [Site.dispatch_of_active active, answered]
  let process : Process := {
    installed := some context, history := events ++ console.process.history }
  refine ⟨{ console with process }, ?_, ⟨context, rfl, active⟩, rfl⟩
  simp only [ask, Process.onContext, installed, dispatched, process]

theorem yields_ask (operation : Operation) (answer : Mechanism → α) (fallback absent : α) :
    (ask (Process.onContext absent
      (Site.dispatch fallback fun provider => provider.ask operation answer))).Yields provider
      (answer provider.mechanism) :=
  yields_dispatch (provider.answers_ask operation answer) fallback absent

theorem yields_codeText (provider : Provider) (code : Int32) :
    (ask (Process.codeText code)).Yields provider
      ((ErrorCode.genericText? code).getD (provider.mechanism.errorText code)) :=
  yields_dispatch (provider.answers_codeText code) _ _

theorem yields_unpack (provider : Provider) (version : Version) (buffer : Bytes) :
    (ask (Process.unpack version buffer)).Yields provider
      (provider.unpack version buffer []).1 :=
  yields_dispatch (provider.answers_unpack version buffer) _ _

end

end Attest.Command
