import Attest.Command.Run
import Attest.Proofs.Configuration.RoundTrip
import Attest.Proofs.Context.Request

/-!
Where a mechanism can be named: in a file, in the environment, and on the command line, where each
overrules the ones before it. White space around the name is dropped in the environment and kept in
the other two, so that they select the same mechanism exactly for names without.
-/

namespace Attest

open Blank (isBlankText trim)

namespace Settings

variable {left right : Settings}

/-- Contexts made from these settings select the same mechanism, and come up or fail alike. -/
def SelectsAlike (left right : Settings) : Prop :=
  ∀ registry history,
    (Context.ofSettings registry left).defaultName =
      (Context.ofSettings registry right).defaultName ∧
    (Site.init none { context := .ofSettings registry left, history }).1 =
      (Site.init none { context := .ofSettings registry right, history }).1

theorem init_ofSettings (registry : Registry) (settings : Settings) (history : History) :
    (Site.init none { context := .ofSettings registry settings, history }).1 =
      (registry.load settings.authType history).1.map fun _ => () := by
  rcases loading : registry.load settings.authType history with ⟨cause | provider, after⟩
  · rw [Site.init, Site.ensure_of_failed none rfl loading]
  · rw [Site.init, Site.ensure_of_loaded none rfl loading]

theorem selectsAlike_iff : SelectsAlike left right ↔ left.authType = right.authType := by
  constructor
  · intro alike
    exact (alike {} []).1
  · intro same registry history
    rw [init_ofSettings, init_ofSettings, same]
    exact ⟨same, rfl⟩

end Settings

namespace Command

variable {environment : Environment} {invocation : Invocation} {base : Settings} {text : String}

/-- What the environment and the command line are put in place of. -/
def startingSettings (environment : Environment) (invocation : Invocation) :
    Except AuthError Settings :=
  match invocation.settingsPath with
  | some path => Settings.ofFile path (environment.files path)
  | none => .ok {}

/-- What is put together of the three, whether or not it is valid. -/
def combinedSettings (environment : Environment) (invocation : Invocation) (base : Settings) :
    Settings where
  authType := invocation.authType.getD
    (base.override { authType := environment.ambient.authType }).authType
  authInfo := environment.ambient.authInfo.or base.authInfo

theorem loadSettings_eq (environment : Environment) (invocation : Invocation) :
    loadSettings environment invocation =
      (startingSettings environment invocation).bind fun base =>
        let settings := combinedSettings environment invocation base
        settings.validate.map fun _ => settings := by
  obtain ⟨settingsPath, authType, signedConfigPath, task⟩ := invocation
  cases settingsPath <;> cases authType <;> rfl

theorem loadSettings_of_starting (starts : startingSettings environment invocation = .ok base)
    (named : isBlankText (combinedSettings environment invocation base).authType = false) :
    loadSettings environment invocation = .ok (combinedSettings environment invocation base) := by
  rw [loadSettings_eq, starts, Except.bind]
  simp only [Settings.validate, named]
  rfl

/-- The places where a mechanism can be named, each overruling the ones before it. -/
inductive Source where
  | file
  | environment
  | commandLine

namespace Source

/-- What a name selects that stands in this place. -/
def selected (text : String) : Source → String
  | .environment => trim text
  | .file | .commandLine => text

/-- The mechanism is named in this place, and in none that overrules it. A file that is given can be
read. -/
inductive Names (text : String) (environment : Environment) (invocation : Invocation) : Source → Prop
  | file {path : String} {settings : Settings} (given : invocation.settingsPath = some path)
      (holds : (environment.files path).text.bind Settings.parse = .ok settings)
      (named : settings.authType = text) (unset : environment.ambient.authType = none)
      (bare : invocation.authType = none) : Names text environment invocation .file
  | environment {base : Settings} (starts : startingSettings environment invocation = .ok base)
      (named : environment.ambient.authType = some text) (bare : invocation.authType = none) :
      Names text environment invocation .environment
  | commandLine {base : Settings} (starts : startingSettings environment invocation = .ok base)
      (named : invocation.authType = some text) : Names text environment invocation .commandLine

variable {source : Source}

theorem settled_of_names (names : Names text environment invocation source)
    (visible : isBlankText text = false) :
    ∃ settings, loadSettings environment invocation = .ok settings ∧
      settings.authType = source.selected text := by
  -- In each place the name is what is put together, and is no blank text.
  suffices combines : ∃ base, startingSettings environment invocation = .ok base ∧
      (combinedSettings environment invocation base).authType = source.selected text by
    obtain ⟨base, starts, combined⟩ := combines
    refine ⟨_, loadSettings_of_starting starts ?_, combined⟩
    rw [combined]
    cases source with
    | environment => exact (Blank.isBlankText_trim text).trans visible
    | _ => exact visible
  cases names with
  | @file path settings given holds named unset bare =>
    refine ⟨settings, ?_, ?_⟩
    · subst named
      simp only [startingSettings, given, Settings.ofFile, holds, Settings.validate, visible]
      rfl
    · simp only [combinedSettings, bare, unset, Settings.override, named, Option.getD, selected]
  | @environment base starts named bare =>
    refine ⟨base, starts, ?_⟩
    simp only [combinedSettings, bare, named, Settings.override, visible, Option.getD, selected]
    rfl
  | @commandLine base starts named =>
    refine ⟨base, starts, ?_⟩
    simp only [combinedSettings, named, Option.getD, selected]

/-- Any name can stand in any place. -/
theorem exists_names (text : String) (source : Source) :
    ∃ environment invocation, Names text environment invocation source := by
  let empty : Environment := { files := fun _ => .error .missing, surroundings := { wallTime := 0 } }
  cases source with
  | file =>
    let settings : Settings := { authType := text }
    have parsed := (Json.parse?_printed settings.whole_toJson).1
    have holds : (File.ofText settings.toJson.compact).text.bind Settings.parse = .ok settings := by
      rw [File.text_ofText, Except.bind, Settings.parse, parsed]
      simp only [Option.bind_some, Settings.ofJson?_toJson]
    exact ⟨{ empty with files := fun _ => .ofText settings.toJson.compact },
      { settingsPath := some "settings.json", task := .mechanisms }, .file rfl holds rfl rfl rfl⟩
  | environment =>
    exact ⟨{ empty with ambient := { authType := some text } }, { task := .mechanisms },
      .environment rfl rfl rfl⟩
  | commandLine =>
    exact ⟨empty, { authType := some text, task := .mechanisms }, .commandLine rfl rfl⟩

end Source

open Source (Names)

/-- The settings are accepted wherever the mechanism is named, and select what the place makes of the
name. All places select alike if there is no white space around the name, and only then. -/
theorem sources_agree_iff_trimmed (text : String) (visible : isBlankText text = false) :
    (∀ source : Source,
      (∃ environment invocation, Names text environment invocation source) ∧
      ∀ environment invocation, Names text environment invocation source →
        ∃ settings, loadSettings environment invocation = .ok settings ∧
          ∀ (registry : Registry) (history : History),
            let context := Context.ofSettings registry settings
            context.defaultName = source.selected text ∧
            (Site.init none { context, history }).1 =
              (registry.load (source.selected text) history).1.map fun _ => ()) ∧
    ((∀ first second environment environment' invocation invocation' left right,
      Names text environment invocation first → Names text environment' invocation' second →
      loadSettings environment invocation = .ok left →
      loadSettings environment' invocation' = .ok right → left.SelectsAlike right) ↔
    trim text = text) := by
  refine ⟨fun source => ⟨Source.exists_names text source, ?_⟩, ?_, ?_⟩
  · intro environment invocation names
    obtain ⟨settings, settled, selects⟩ := Source.settled_of_names names visible
    refine ⟨settings, settled, fun registry history => ⟨selects, ?_⟩⟩
    rw [← selects]
    exact Settings.init_ofSettings registry settings history
  · intro agree
    obtain ⟨environment, invocation, ambient⟩ := Source.exists_names text .environment
    obtain ⟨environment', invocation', given⟩ := Source.exists_names text .commandLine
    obtain ⟨left, settled, selects⟩ := Source.settled_of_names ambient visible
    obtain ⟨right, settled', selects'⟩ := Source.settled_of_names given visible
    have alike := agree _ _ _ _ _ _ _ _ ambient given settled settled'
    calc
      trim text = left.authType := selects.symm
      _ = right.authType := Settings.selectsAlike_iff.1 alike
      _ = text := selects'
  · intro trimmed first second environment environment' invocation invocation' left right names
      names' settled settled'
    have kept (source : Source) : source.selected text = text := by
      cases source with
      | environment => exact trimmed
      | _ => rfl
    obtain ⟨_, loaded, selects⟩ := Source.settled_of_names names visible
    obtain ⟨_, loaded', selects'⟩ := Source.settled_of_names names' visible
    cases settled.symm.trans loaded
    cases settled'.symm.trans loaded'
    rw [Settings.selectsAlike_iff, selects, selects', kept, kept]

/-- A command that finds no files and whose environment names this mechanism, if any. -/
def Environment.naming (authType : Option String) : Environment where
  ambient := { authType }
  files := fun _ => .error .missing
  surroundings := { wallTime := 0 }

theorem sources_agree_sample :
    (∃ settings, loadSettings (.naming (some " auth/hmac\n")) { task := .mechanisms } =
        .ok settings ∧ (Context.ofSettings {} settings).defaultName = "auth/hmac") ∧
    ∀ left right,
      loadSettings (.naming (some "auth/hmac")) { task := .mechanisms } = .ok left →
      loadSettings (.naming none) { authType := some "auth/hmac", task := .mechanisms } =
        .ok right → left.SelectsAlike right := by
  constructor
  · obtain ⟨selects, -⟩ := sources_agree_iff_trimmed " auth/hmac\n" (by decide)
    obtain ⟨settings, settled, always⟩ := (selects .environment).2 (.naming (some " auth/hmac\n"))
      { task := .mechanisms } (.environment rfl rfl rfl)
    refine ⟨settings, settled, (always {} []).1.trans ?_⟩
    decide
  · intro left right settled settled'
    obtain ⟨-, agree⟩ := sources_agree_iff_trimmed "auth/hmac" (by decide)
    exact agree.2 (by decide) .environment .commandLine _ _ _ _ _ _ (.environment rfl rfl rfl)
      (.commandLine rfl rfl) settled settled'

/-- White space in front of a name makes it another name on the command line. -/
theorem untrimmed_disagrees :
    let registry := ({} : Registry).register Claimed.mechanismName
      { label := claimedLabel, product := .claimed }
    ∃ left right,
      loadSettings (.naming (some " auth/none")) { task := .mechanisms } = .ok left ∧
      loadSettings (.naming none) { authType := some " auth/none", task := .mechanisms } =
        .ok right ∧
      (Site.init none { context := .ofSettings registry left }).1 = .ok () ∧
      (Site.init none { context := .ofSettings registry right }).1 =
        .error (.unknownMechanism " auth/none") := by
  intro registry
  refine ⟨_, _, rfl, rfl, ?_, ?_⟩
  · rfl
  · rfl

end Command

end Attest
