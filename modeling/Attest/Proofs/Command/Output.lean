import Attest.Proofs.Command.RoundTrip
import Attest.Proofs.Mechanism.Description
import Attest.Proofs.Registry.Registration

/-!
What a command prints, by how it ends. All that can fail comes before the first line that is printed,
or cannot fail any more by then, so a command that fails prints nothing.
-/

namespace Attest.Command

variable {environment : Environment} {invocation : Invocation} {settings : Settings}
  {registry : Registry} {context : Context} {provider : Provider} {console final : Console}
  {failure : Failure}

theorem printLine_apply (text : String) (console : Console) :
    printLine text console =
      (.ok (), { console with output := console.output ++ Utf8.encode (text ++ "\n") }) :=
  rfl

namespace Job

variable {α β : Type}

theorem tryCatch_of_error {job : Job α} {halfway : Console}
    (run : job console = (.error failure, halfway)) (handler : Failure → Job α) :
    tryCatch job handler console = handler failure halfway := by
  simp only [tryCatch, tryCatchThe, MonadExceptOf.tryCatch, ExceptT.tryCatch, ExceptT.mk, bind,
    StateT.bind, run]

/-- Prints nothing, however it ends. -/
def Silent (job : Job α) : Prop :=
  ∀ console, (job console).2.output = console.output

/-- Prints nothing if it fails. -/
def FailsSilently (job : Job α) : Prop :=
  ∀ console failure after, job console = (.error failure, after) → after.output = console.output

theorem silent_ask (operation : Process → α × Process) : (ask operation).Silent :=
  fun _ => rfl

theorem silent_require (failure : ε → Failure) (answer : Except ε α) :
    (require failure answer).Silent := by
  cases answer <;> exact fun _ => rfl

theorem Silent.bind {job : Job α} {next : α → Job β} (silent : job.Silent)
    (later : ∀ value, (next value).FailsSilently) : (job >>= next).FailsSilently := by
  intro console failure after failed
  have quiet := silent console
  rw [bind_apply] at failed
  rcases run : job console with ⟨cause | value, halfway⟩ <;> rw [run] at failed quiet
  · cases failed
    exact quiet
  · exact (later value _ _ _ failed).trans quiet

theorem failsSilently_printLine (text : String) : (printLine text).FailsSilently := by
  intro console failure after failed
  rw [printLine_apply] at failed
  cases failed

/-- Succeeds while the provider is active, and leaves it active. -/
def Sure (job : Job α) (provider : Provider) : Prop :=
  ∀ console, console.Serving provider →
    ∃ value after, job console = (.ok value, after) ∧ after.Serving provider

/-- While the provider is active, either succeeds and leaves it active or fails and prints
nothing. -/
def Tidy (job : Job α) (provider : Provider) : Prop :=
  ∀ console, console.Serving provider →
    (∃ value after, job console = (.ok value, after) ∧ after.Serving provider) ∨
      ∃ failure after, job console = (.error failure, after) ∧ after.output = console.output

theorem Yields.sure {job : Job α} {value : α} (yields : job.Yields provider value) :
    job.Sure provider := by
  intro console serving
  obtain ⟨after, run, serving, -⟩ := yields console serving
  exact ⟨value, after, run, serving⟩

theorem Sure.bind {job : Job α} {next : α → Job β} (first : job.Sure provider)
    (second : ∀ value, (next value).Sure provider) : (job >>= next).Sure provider := by
  intro console serving
  obtain ⟨value, halfway, run, serving⟩ := first console serving
  rw [bind_of_ok run]
  exact second value halfway serving

theorem sure_printLine (text : String) (provider : Provider) : (printLine text).Sure provider :=
  fun _ serving => ⟨(), _, rfl, serving⟩

theorem sure_forM_printLine (lines : List String) (provider : Provider) :
    (lines.forM printLine).Sure provider := by
  induction lines with
  | nil => exact (Yields.pure ()).sure
  | cons line lines ih => exact (sure_printLine line provider).bind fun _ => ih

theorem Sure.tidy {job : Job α} (sure : job.Sure provider) : job.Tidy provider :=
  fun console serving => .inl (sure console serving)

theorem Yields.tidy_bind {job : Job α} {value : α} {next : α → Job β}
    (first : job.Yields provider value) (second : (next value).Tidy provider) :
    (job >>= next).Tidy provider := by
  intro console serving
  obtain ⟨halfway, run, serving, silent⟩ := first console serving
  rw [bind_of_ok run, ← silent]
  exact second halfway serving

/-- What comes after anything is printed must not fail. -/
theorem Tidy.bind {job : Job α} {next : α → Job β} (first : job.Tidy provider)
    (second : ∀ value, (next value).Sure provider) : (job >>= next).Tidy provider := by
  intro console serving
  obtain ⟨value, halfway, run, serving⟩ | ⟨failure, after, run, silent⟩ := first console serving
  · rw [bind_of_ok run]
    exact .inl (second value halfway serving)
  · exact .inr ⟨failure, after, by rw [bind_apply, run], silent⟩

theorem Tidy.output_of_error {job : Job α} (tidy : job.Tidy provider)
    (serving : console.Serving provider) (failed : job console = (.error failure, final)) :
    final.output = console.output := by
  obtain ⟨value, after, run, -⟩ | ⟨cause, after, run, silent⟩ := tidy console serving
  · cases run.symm.trans failed
  · cases run.symm.trans failed
    exact silent

end Job

/-- Giving up a credential never fails. -/
theorem sure_destroy (credential : Credential) (provider : Provider) :
    (ask (Process.destroy credential) >>= require .auth).Sure provider := by
  have given : (require .auth (provider.mechanism.destroy credential)).Yields provider () :=
    Job.Yields.pure ()
  exact Job.Yields.sure
    ((yields_ask .destroy (Mechanism.destroy credential) _ _).bind given)

/-- A description is printed as a whole or not at all. -/
theorem tidy_printDescription (credential : Credential) (provider : Provider) :
    (printDescription credential).Tidy provider := by
  refine (yields_ask .print (Mechanism.print credential {}) _ _).tidy_bind ?_
  intro console serving
  rw [Mechanism.print]
  cases provider.mechanism.describe credential with
  | ok text => exact .inl ⟨(), _, rfl, serving⟩
  | error cause => exact .inr ⟨.auth cause, _, rfl, List.append_nil _⟩

theorem failsSilently_encode (environment : Environment) (settings : Settings)
    (info : Option String) (version : Version) :
    (encode environment settings info version).FailsSilently := by
  refine (Job.silent_ask _).bind fun answer => (Job.silent_require _ answer).bind fun _ => ?_
  refine (Job.silent_ask _).bind fun created => (Job.silent_require _ created).bind fun _ => ?_
  refine (Job.silent_ask _).bind fun ⟨packed, buffer⟩ => (Job.silent_require _ packed).bind ?_
  intro _
  refine (Job.silent_ask _).bind fun destroyed => (Job.silent_require _ destroyed).bind fun _ => ?_
  exact Job.failsSilently_printLine _

/-- What remains to be done with a credential that was taken in. -/
theorem tidy_report (environment : Environment) (credential : Credential) (format : String)
    (provider : Provider) :
    (do
      let (report, credential) ← examine environment credential
      if format = "json" then printLine report.toJson.pretty
      else if format = "text" then
        printDescription credential
        report.lines.forM printLine
      else throw (.unknownFormat format)
      require .auth (← ask (Process.destroy credential)) : Job Unit).Tidy provider := by
  refine (yields_examine environment credential).tidy_bind ?_
  rcases Report.ofMechanism environment.surroundings provider.mechanism credential with
    ⟨report, marked⟩
  dsimp only
  split
  · exact ((Job.sure_printLine _ provider).bind fun _ => sure_destroy marked provider).tidy
  · split
    · refine (tidy_printDescription marked provider).bind fun _ => ?_
      exact (Job.sure_forM_printLine _ provider).bind fun _ => sure_destroy marked provider
    · exact fun console _ => .inr ⟨.unknownFormat format, console, rfl, rfl⟩

theorem output_of_decode_failed {text format : String} {version : Version}
    (installed : console.process.installed = some context) (idle : context.active = none)
    (failed : decode environment text version format console = (.error failure, final)) :
    final.output = console.output := by
  unfold decode at failed
  cases written : Base64.decode? (Blank.trim text) with
  | none =>
    rw [written] at failed
    cases failed
    rfl
  | some packed =>
    simp only [written, pure_bind] at failed
    obtain ⟨answer, started, asked⟩ :
        ∃ answer started, ask (Process.init none) console = (.ok answer, started) :=
      ⟨_, _, rfl⟩
    have silent := output_ask asked
    rw [Job.bind_of_ok asked] at failed
    cases answer with
    | error cause =>
      cases failed
      exact silent
    | ok =>
      obtain ⟨provider, serving, -, -⟩ := serving_of_init installed idle asked
      rw [Job.require_ok, pure_bind] at failed
      refine Eq.trans (Job.Tidy.output_of_error ?_ serving failed) silent
      refine (yields_unpack provider version packed).tidy_bind ?_
      rcases (provider.unpack version packed []).1 with ⟨cause | credential, rest⟩
      · refine (yields_codeText provider cause.code.raw).tidy_bind ?_
        exact fun console _ => .inr ⟨.unpacking _, console, rfl, rfl⟩
      · exact tidy_report environment credential format provider

/-- How a mechanism is listed. -/
def listed (selected name : String) : String :=
  name ++ if name = selected then " (selected)" else ""

theorem listMechanisms_apply (context : Context) (console : Console) :
    listMechanisms context console = (.ok (), { console with
      output := console.output ++ Utf8.encode (String.join
        ((context.registry.names.map (listed context.defaultName)).map (· ++ "\n"))) }) := by
  rw [listMechanisms]
  induction context.registry.names generalizing console with
  | nil =>
    rw [List.map_nil, List.map_nil, String.join_nil, Utf8.encode_empty, List.append_nil]
    rfl
  | cons name names ih =>
    rw [List.forIn_cons, bind_assoc, bind_assoc, Job.bind_of_ok (printLine_apply _ console),
      pure_bind]
    refine (ih _).trans ?_
    simp only [List.map_cons, String.join_cons, Utf8.encode_append, List.append_assoc, listed]

theorem output_of_perform_failed {task : Task}
    (installed : console.process.installed = some context) (idle : context.active = none)
    (failed : perform environment settings context task console = (.error failure, final)) :
    final.output = console.output := by
  cases task with
  | mechanisms =>
    rw [perform, listMechanisms_apply] at failed
    cases failed
  | encode info version => exact failsSilently_encode environment settings info version _ _ _ failed
  | decode text version format =>
    rw [perform] at failed
    exact output_of_decode_failed installed idle failed
  | codeText code =>
    exact (Job.silent_ask _).bind (fun text => Job.failsSilently_printLine text) _ _ _ failed

theorem output_of_carryOut_failed
    (failed : carryOut environment invocation {} = (.error failure, final)) :
    final.output = [] := by
  unfold carryOut at failed
  cases settled : loadSettings environment invocation with
  | error cause =>
    rw [settled] at failed
    cases failed
    rfl
  | ok settings =>
    rw [settled, Job.require_ok, pure_bind] at failed
    cases built : buildRegistry environment invocation with
    | error cause =>
      rw [built] at failed
      cases failed
      rfl
    | ok registry =>
      rw [built, Job.require_ok, pure_bind, Job.bind_of_ok (ask_install _ _), Job.require_ok,
        pure_bind] at failed
      rcases performed : perform environment settings (.ofSettings registry settings)
        invocation.task (.begin registry settings) with ⟨cause | ⟨⟩, halfway⟩
      · rw [Job.bind_apply, Job.tryCatch_of_error performed] at failed
        cases failed
        exact output_of_perform_failed rfl rfl performed
      · rw [Job.bind_of_ok (Job.tryCatch_of_ok performed _)] at failed
        cases failed

theorem output_of_run_failed (environment : Environment) (arguments : List String) :
    (run environment arguments).status ≠ 0 → (run environment arguments).output = [] := by
  unfold run
  cases Invocation.ofArguments arguments environment.ambient with
  | error stop =>
    cases stop with
    | help | version => exact fun failed => absurd rfl failed
    | misuse => exact fun _ => rfl
  | ok invocation =>
    simp only [execute]
    rcases done : carryOut environment invocation {} with ⟨failure | ⟨⟩, final⟩
    · exact fun _ => output_of_carryOut_failed done
    · exact fun failed => absurd rfl failed

/-- Whether a line marks the mechanism that is listed on it. -/
def isMarked (line : String) : Bool :=
  " (selected)".toList.isSuffixOf line.toList

/-- Fits on a line, and looks like no mark. -/
structure Plain (name : String) : Prop where
  unmarked : isMarked name = false
  unbroken : '\n' ∉ name.toList

theorem isMarked_listed (name : String) : isMarked (listed name name) = true := by
  rw [isMarked, listed, if_pos rfl, String.toList_append, List.isSuffixOf_iff_suffix]
  exact List.suffix_append ..

theorem listed_of_ne {selected name : String} (differs : name ≠ selected) :
    listed selected name = name := by
  rw [listed, if_neg differs, String.append_empty]

theorem unbroken_listed {name : String} (plain : Plain name) (selected : String) :
    '\n' ∉ (listed selected name).toList := by
  by_cases same : name = selected
  · rw [listed, if_pos same, String.toList_append, List.mem_append, not_or]
    exact ⟨plain.unbroken, by decide⟩
  · rw [listed_of_ne same]
    exact plain.unbroken

theorem marked_listed {names : List String} (distinct : names.Nodup)
    (plain : ∀ name ∈ names, Plain name) (selected : String) :
    (names.map (listed selected)).filter isMarked =
      if selected ∈ names then [listed selected selected] else [] := by
  induction names with
  | nil => rfl
  | cons name names ih =>
    obtain ⟨fresh, apart⟩ := List.nodup_cons.1 distinct
    obtain ⟨first, others⟩ := List.forall_mem_cons.1 plain
    by_cases same : selected = name
    · subst same
      rw [List.map_cons, List.filter_cons_of_pos (isMarked_listed selected), ih apart others,
        if_neg fresh, if_pos List.mem_cons_self]
    · have unmarked : ¬ isMarked (listed selected name) = true := by
        rw [listed_of_ne (Ne.symm same), first.unmarked]
        exact Bool.false_ne_true
      rw [List.map_cons, List.filter_cons_of_neg unmarked, ih apart others]
      simp only [List.mem_cons, same, false_or]

theorem names_of_buildRegistry (built : buildRegistry environment invocation = .ok registry) :
    registry.names = [Claimed.mechanismName] ∨
      registry.names = [Signed.mechanismName, Claimed.mechanismName] := by
  unfold buildRegistry at built
  cases given : invocation.signedConfigPath with
  | none =>
    rw [given] at built
    cases built
    exact .inl rfl
  | some path =>
    simp only [given] at built
    cases read : Signed.Config.ofFile path (environment.files path) with
    | error cause =>
      rw [read] at built
      cases built
    | ok config =>
      rw [read] at built
      cases built
      exact .inr rfl

theorem plain_of_buildRegistry (built : buildRegistry environment invocation = .ok registry) :
    ∀ name ∈ registry.names, Plain name := by
  have claimed : Plain Claimed.mechanismName := ⟨by decide, by decide⟩
  have signed : Plain Signed.mechanismName := ⟨by decide, by decide⟩
  obtain names | names := names_of_buildRegistry built <;> rw [names]
  · exact List.forall_mem_singleton.2 claimed
  · exact List.forall_mem_cons.2 ⟨signed, List.forall_mem_singleton.2 claimed⟩

/-- What a task that succeeds has printed. -/
inductive Prints (environment : Environment) (settings : Settings) (registry : Registry) :
    Task → Bytes → Prop where
  /-- One line for each mechanism. One of them is marked if the mechanism of the settings is there,
  and none if it is not. -/
  | mechanisms {text : String}
    (lines : Lines text (registry.names.map (listed settings.authType)))
    (marked : (registry.names.map (listed settings.authType)).filter isMarked =
      if registry.contains settings.authType then [listed settings.authType settings.authType]
      else []) :
    Prints environment settings registry .mechanisms (Utf8.encode text)
  /-- One line, which is all of the packed credential as Base64. -/
  | encode {info : Option String} {version : Version} {provider : Provider}
    {credential : Credential} {packed : Bytes} {text : String}
    (loads : (registry.load settings.authType []).1 = .ok provider)
    (creates : provider.mechanism.create environment.surroundings (info.or settings.authInfo) =
      .ok credential)
    (packs : (provider.pack version credential [] []).1 = (.ok (), packed))
    (line : Lines text [Base64.encode packed]) :
    Prints environment settings registry (.encode info version) (Utf8.encode text)

/-- A reason for a task to fail. -/
inductive Dooms (environment : Environment) (settings : Settings) (registry : Registry) :
    Task → Prop where
  | notBase64 {text format : String} {version : Version}
    (unreadable : Base64.decode? (Blank.trim text) = none) :
    Dooms environment settings registry (.decode text version format)
  | unloadable {task : Task} {version : Version} {cause : AuthError}
    (asked : task.version? = some version)
    (fails : (registry.load settings.authType []).1 = .error cause) :
    Dooms environment settings registry task
  | undecodable {text format : String} {version : Version} {provider : Provider}
    {packed rest : Bytes} {cause : AuthError}
    (written : Base64.decode? (Blank.trim text) = some packed)
    (loads : (registry.load settings.authType []).1 = .ok provider)
    (fails : (provider.unpack version packed []).1 = (.error cause, rest)) :
    Dooms environment settings registry (.decode text version format)
  | unknownFormat {text format : String} {version : Version}
    (unknown : format ≠ "json" ∧ format ≠ "text") :
    Dooms environment settings registry (.decode text version format)
  | uncreatable {info : Option String} {version : Version} {provider : Provider}
    {cause : AuthError} (loads : (registry.load settings.authType []).1 = .ok provider)
    (fails : provider.mechanism.create environment.surroundings (info.or settings.authInfo) =
      .error cause) :
    Dooms environment settings registry (.encode info version)
  | unpackable {info : Option String} {version : Version} {provider : Provider}
    {credential : Credential} {buffer : Bytes} {cause : AuthError}
    (loads : (registry.load settings.authType []).1 = .ok provider)
    (creates : provider.mechanism.create environment.surroundings (info.or settings.authInfo) =
      .ok credential)
    (fails : (provider.pack version credential [] []).1 = (.error cause, buffer)) :
    Dooms environment settings registry (.encode info version)

/-- A reason for a command line to fail: its settings, its mechanisms, or its task. -/
inductive Doomed (environment : Environment) (invocation : Invocation) : Prop where
  | settings {cause : AuthError} (fails : loadSettings environment invocation = .error cause)
  | registry {failure : Failure} (fails : buildRegistry environment invocation = .error failure)
  | task {settings : Settings} {registry : Registry}
    (settled : loadSettings environment invocation = .ok settings)
    (built : buildRegistry environment invocation = .ok registry)
    (dooms : Dooms environment settings registry invocation.task)

theorem format_of_decode {text format : String} {version : Version}
    (done : decode environment text version format console = (.ok (), final)) :
    format = "json" ∨ format = "text" := by
  by_contra unknown
  rw [not_or] at unknown
  unfold decode at done
  cases written : Base64.decode? (Blank.trim text) with
  | none =>
    rw [written] at done
    cases done
  | some packed =>
    simp only [written, pure_bind, if_neg unknown.1, if_neg unknown.2] at done
    obtain ⟨_, _, -, initializing⟩ := Job.ok_of_bind done
    obtain ⟨_, -, unpacking⟩ := Job.ok_of_require_bind initializing
    obtain ⟨⟨outcome, rest⟩, _, -, examining⟩ := Job.ok_of_bind unpacking
    cases outcome with
    | error cause =>
      obtain ⟨_, _, -, failing⟩ := Job.ok_of_bind examining
      cases failing
    | ok credential =>
      obtain ⟨_, _, -, failing⟩ := Job.ok_of_bind examining
      cases failing

theorem not_performed_of_dooms {task : Task} {halfway : Console}
    (dooms : Dooms environment settings registry task) :
    perform environment settings (.ofSettings registry settings) task (.begin registry settings) ≠
      (.ok (), halfway) := by
  intro performed
  have installed : (Console.begin registry settings).process.installed =
      some (.ofSettings registry settings) := rfl
  cases dooms with
  | @notBase64 text format version unreadable =>
    rw [perform] at performed
    obtain ⟨packed, _, _, _, written, -, -⟩ := unpacked_of_decode installed rfl performed
    cases unreadable.symm.trans written
  | @unloadable _ version cause asked fails =>
    cases task with
    | mechanisms | codeText => cases asked
    | encode info version =>
      rw [perform] at performed
      obtain ⟨provider, _, _, loaded, -⟩ := encoded_of_encode installed rfl performed
      cases fails.symm.trans loaded
    | decode text version format =>
      rw [perform] at performed
      obtain ⟨_, provider, _, _, -, loaded, -⟩ := unpacked_of_decode installed rfl performed
      cases fails.symm.trans loaded
  | @undecodable text format version provider packed rest cause written loads fails =>
    rw [perform] at performed
    obtain ⟨_, _, credential, _, read, loaded, unpacked⟩ :=
      unpacked_of_decode installed rfl performed
    cases written.symm.trans read
    cases loads.symm.trans loaded
    cases fails.symm.trans unpacked
  | unknownFormat unknown =>
    rw [perform] at performed
    exact (format_of_decode performed).elim unknown.1 unknown.2
  | @uncreatable info version provider cause loads fails =>
    rw [perform] at performed
    obtain ⟨_, credential, _, loaded, created, -⟩ := encoded_of_encode installed rfl performed
    cases loads.symm.trans loaded
    cases fails.symm.trans created
  | @unpackable info version provider credential buffer cause loads creates fails =>
    rw [perform] at performed
    obtain ⟨_, _, _, loaded, created, packed, -⟩ := encoded_of_encode installed rfl performed
    cases loads.symm.trans loaded
    cases creates.symm.trans created
    cases fails.symm.trans packed

theorem lines_encode (bytes : Bytes) :
    Lines (Base64.encode bytes ++ "\n") [Base64.encode bytes] := by
  refine .single fun broken => ?_
  rw [Base64.encode, String.toList_ofList] at broken
  have solid := (Base64.written_encodeChars bytes _ broken).solid
  cases solid.1

theorem prints_of_performed {halfway : Console} {task : Task}
    (built : buildRegistry environment invocation = .ok registry)
    (shows : task = .mechanisms ∨ ∃ info version, task = .encode info version)
    (performed : perform environment settings (.ofSettings registry settings) task
      (.begin registry settings) = (.ok (), halfway)) :
    Prints environment settings registry task halfway.output := by
  obtain rfl | ⟨info, version, rfl⟩ := shows
  · rw [perform, listMechanisms_apply] at performed
    cases performed
    rw [Console.output_begin, List.nil_append]
    have plain := plain_of_buildRegistry built
    have distinct : registry.names.Nodup := registry.factories.nodup_names
    refine .mechanisms ⟨rfl, List.forall_mem_map.2 fun name member => ?_⟩ ?_
    · exact unbroken_listed (plain name member) settings.authType
    · rw [marked_listed distinct plain]
      exact if_congr NameMap.mem_names rfl rfl
  · have installed : (Console.begin registry settings).process.installed =
        some (.ofSettings registry settings) := rfl
    rw [perform] at performed
    obtain ⟨provider, credential, packed, loaded, created, packs, printed⟩ :=
      encoded_of_encode installed rfl performed
    rw [printed, Console.output_begin, List.nil_append]
    exact .encode loaded created packs (lines_encode packed)

/-- A command that fails prints nothing, whatever the reason. One that makes a credential prints all of
it on one line, and one that lists the mechanisms marks the selected one if it is among them. -/
theorem failing_prints_nothing (environment : Environment) (arguments : List String) :
    ((run environment arguments).status ≠ 0 → (run environment arguments).output = []) ∧
    ∀ invocation, Invocation.ofArguments arguments environment.ambient = .ok invocation →
      (Doomed environment invocation → (run environment arguments).status = 1) ∧
      ((run environment arguments).status = 0 →
        (invocation.task = .mechanisms ∨ ∃ info version, invocation.task = .encode info version) →
        ∃ settings registry, loadSettings environment invocation = .ok settings ∧
          buildRegistry environment invocation = .ok registry ∧
          Prints environment settings registry invocation.task
            (run environment arguments).output) := by
  refine ⟨output_of_run_failed environment arguments, fun invocation parsed => ?_⟩
  obtain failed | ⟨settings, registry, halfway, settled, built, performed, ran⟩ :=
    failed_or_performed parsed
  · refine ⟨fun _ => failed, fun succeeded => ?_⟩
    rw [failed] at succeeded
    cases succeeded
  · refine ⟨fun doomed => ?_, fun _ shows => ⟨settings, registry, settled, built, ?_⟩⟩
    · exfalso
      cases doomed with
      | settings fails => cases fails.symm.trans settled
      | registry fails => cases fails.symm.trans built
      | task settled' built' dooms =>
        cases settled.symm.trans settled'
        cases built.symm.trans built'
        exact not_performed_of_dooms dooms performed
    · rw [ran]
      exact prints_of_performed built shows performed

/-- A credential of `auth/none`, for the user and the group of number one. -/
def claimedText : String := "AAAAZAAAAAEAAAABAAAAAA=="

/-- That a format is unknown comes to light after the credential has been verified. -/
theorem failing_prints_nothing_sample :
    let failing := ["decode", claimedText, "--format", "xml"]
    let making := ["encode", "--info", "uid=1"]
    ((run sampleEnvironment failing).status = 1 ∧ (run sampleEnvironment failing).output = []) ∧
      ((run sampleEnvironment making).status = 0 ∧
        ∃ settings registry, Prints sampleEnvironment settings registry
          (.encode (some "uid=1") .current) (run sampleEnvironment making).output) ∧
      (run sampleEnvironment ["mechanisms"]).status = 0 ∧
        ∃ settings registry, Prints sampleEnvironment settings registry .mechanisms
          (run sampleEnvironment ["mechanisms"]).output := by
  intro failing making
  refine ⟨?_, ?_, ?_⟩
  · obtain ⟨silent, ends⟩ := failing_prints_nothing sampleEnvironment failing
    have settled : loadSettings sampleEnvironment
        { task := .decode claimedText .current "xml" } = .ok {} := rfl
    have failed := (ends _ rfl).1 (.task settled rfl (.unknownFormat ⟨by decide, by decide⟩))
    refine ⟨failed, silent ?_⟩
    rw [failed]
    decide
  · have succeeded : (run sampleEnvironment making).status = 0 := by decide +kernel
    obtain ⟨settings, registry, -, -, prints⟩ :=
      ((failing_prints_nothing sampleEnvironment making).2 _ rfl).2 succeeded (.inr ⟨_, _, rfl⟩)
    exact ⟨succeeded, settings, registry, prints⟩
  · have succeeded : (run sampleEnvironment ["mechanisms"]).status = 0 := by decide +kernel
    obtain ⟨settings, registry, -, -, prints⟩ :=
      ((failing_prints_nothing sampleEnvironment ["mechanisms"]).2 _ rfl).2 succeeded (.inl rfl)
    exact ⟨succeeded, settings, registry, prints⟩

end Attest.Command
