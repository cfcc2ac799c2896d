import Attest.Command.Invocation

/-!
Command lines that differ in their command only. What stands in front of a command is read without
looking at the command, so any other one can take its place.
-/

namespace Attest

namespace Arguments

variable {level : Level} {found start next : Found} {option : ValueOption} {name : String}

theorem ok_of_bind {answer : Except Stop α} {following : α → Except Stop β} {value : β}
    (completed : (answer >>= following) = .ok value) :
    ∃ halfway, answer = .ok halfway ∧ following halfway = .ok value := by
  cases answer with
  | error stop => cases completed
  | ok halfway => exact ⟨halfway, rfl, completed⟩

theorem command_of_record {value : String} (recorded : found.record option value = .ok next) :
    next.command = found.command := by
  unfold Found.record at recorded
  split at recorded <;> cases recorded
  rfl

theorem command_of_place {argument : String} (placed : found.place level argument = .ok next) :
    next.command = found.command := by
  unfold Found.place at placed
  split at placed
  · split at placed <;> cases placed
    rfl
  · cases placed

section

variable {argument : String} (unknown : ¬ level.commands.contains argument = true)
  (lasting : ¬ argument = "--") (rest : List String)

include unknown lasting

theorem read_of_positional (role : role level found argument = .ok .positional) :
    read level .ready (argument :: rest) found =
      found.place level argument >>= read level .ready rest := by
  rw [read, if_neg unknown, if_neg lasting, role]

theorem read_of_assigns {value : String}
    (role : role level found argument = .ok (.assigns option value)) :
    read level .ready (argument :: rest) found =
      found.record option value >>= read level .ready rest := by
  rw [read, if_neg unknown, if_neg lasting]
  simp only [role]

theorem read_of_awaits (role : role level found argument = .ok (.awaits option)) :
    read level .ready (argument :: rest) found = read level (.value option) rest found := by
  rw [read, if_neg unknown, if_neg lasting]
  simp only [role]

end

/-- Where a command was read, another one may stand with arguments of its own. -/
theorem read_exchange {mode : Mode} {arguments : List String}
    (completed : read level mode arguments start = .ok found) (unstarted : start.command = none)
    (commanded : found.command ≠ none) (known : level.commands.contains name = true)
    (rest : List String) :
    ∃ others, read level mode others start = .ok { found with command := some (name, rest) } := by
  fun_induction read level mode arguments start with
  | case1 => cases completed
  | case2 =>
    cases completed
    exact absurd unstarted commanded
  | case3 argument _ start ih =>
    obtain ⟨next, placed, following⟩ := ok_of_bind completed
    obtain ⟨others, read⟩ := ih next following ((command_of_place placed).trans unstarted)
    refine ⟨argument :: others, ?_⟩
    rw [Arguments.read, placed]
    exact read
  | case4 => cases completed
  | case5 option argument _ start plain ih =>
    obtain ⟨next, recorded, following⟩ := ok_of_bind completed
    obtain ⟨others, read⟩ := ih next following ((command_of_record recorded).trans unstarted)
    refine ⟨argument :: others, ?_⟩
    rw [Arguments.read, if_neg plain, recorded]
    exact read
  | case6 =>
    cases completed
    refine ⟨name :: rest, ?_⟩
    rw [Arguments.read, if_pos known]
  | case7 _ start unknown ih =>
    obtain ⟨others, read⟩ := ih completed unstarted
    refine ⟨"--" :: others, ?_⟩
    rw [Arguments.read, if_neg unknown, if_pos rfl, read]
  | case8 => cases completed
  | case9 argument _ start unknown lasting role ih =>
    obtain ⟨next, placed, following⟩ := ok_of_bind completed
    obtain ⟨others, read⟩ := ih next following ((command_of_place placed).trans unstarted)
    refine ⟨argument :: others, ?_⟩
    rw [read_of_positional unknown lasting _ role, placed]
    exact read
  | case10 argument _ start unknown lasting option value role ih =>
    obtain ⟨next, recorded, following⟩ := ok_of_bind completed
    obtain ⟨others, read⟩ := ih next following ((command_of_record recorded).trans unstarted)
    refine ⟨argument :: others, ?_⟩
    rw [read_of_assigns unknown lasting _ role, recorded]
    exact read
  | case11 argument _ start unknown lasting option role ih =>
    obtain ⟨others, read⟩ := ih completed unstarted
    refine ⟨argument :: others, ?_⟩
    rw [read_of_awaits unknown lasting _ role, read]

section

variable {value : String}

/-- An option and its value in one argument. -/
def assignment (option : ValueOption) (value : String) : String :=
  "--" ++ option.long ++ "=" ++ value

theorem toList_assignment (option : ValueOption) (value : String) :
    (assignment option value).toList =
      '-' :: '-' :: (option.long.toList ++ '=' :: value.toList) := by
  simp only [assignment, String.toList_append]
  simp

theorem role_assignment (known : level.longOption? option.long = some option)
    (unmarked : '=' ∉ option.long.toList) (helpless : option.long ≠ "help")
    (unversioned : level.hasVersion = false) :
    role level found (assignment option value) = .ok (.assigns option value) := by
  have cut : Pieces.cut? '=' (option.long.toList ++ '=' :: value.toList) =
      some (option.long.toList, value.toList) := Pieces.cut?_eq_some_iff.2 ⟨unmarked, rfl⟩
  simp only [role, toList_assignment, longRole, cut, String.ofList_toList, if_neg helpless,
    unversioned, known]
  simp

theorem role_of_unsigned (unsigned : value.toList.head? ≠ some '-') :
    role level found value = .ok .positional := by
  unfold role
  split
  · rename_i hyphens
    rw [hyphens] at unsigned
    exact absurd rfl unsigned
  · rename_i hyphen
    rw [hyphen] at unsigned
    exact absurd rfl unsigned
  · rfl

theorem read_assignment (known : level.longOption? option.long = some option)
    (unmarked : '=' ∉ option.long.toList) (helpless : option.long ≠ "help")
    (unversioned : level.hasVersion = false) (commandless : level.commands = [])
    (fresh : found.value? option.long = none) (accepted : option.accepts value = true)
    (rest : List String) :
    read level .ready (assignment option value :: rest) found =
      read level .ready rest { found with values := (option.long, value) :: found.values } := by
  have unknown : ¬ level.commands.contains (assignment option value) = true := by
    rw [commandless]
    nofun
  have lasting : ¬ assignment option value = "--" := by
    intro same
    have lengths := congrArg (fun text => text.toList.length) same
    simp [toList_assignment] at lengths
  have role : role level found (assignment option value) = .ok (.assigns option value) :=
    role_assignment known unmarked helpless unversioned
  rw [read_of_assigns unknown lasting rest role, Found.record, if_pos ⟨by rw [fresh]; rfl, accepted⟩]
  rfl

end

end Arguments

namespace Command.Invocation

open Arguments

def formatOption : ValueOption where
  long := "format"

variable {start : Found} {version : Version} {text : String}

theorem read_text (unplaced : start.positional = none) (unsigned : text.toList.head? ≠ some '-') :
    read decodeLevel .ready [text] start = .ok { start with positional := some text } := by
  have lasting : ¬ text = "--" := by
    rintro rfl
    exact unsigned rfl
  have unknown : ¬ decodeLevel.commands.contains text = true := Bool.false_ne_true
  rw [read_of_positional unknown lasting [] (role_of_unsigned unsigned), Found.place, unplaced]
  rfl

theorem read_format (unformatted : start.value? "format" = none)
    (unplaced : start.positional = none) (unsigned : text.toList.head? ≠ some '-') :
    read decodeLevel .ready [assignment formatOption "json", text] start =
      .ok { start with
        values := ("format", "json") :: start.values
        positional := some text } := by
  have known : decodeLevel.longOption? formatOption.long = some formatOption := rfl
  rw [read_assignment known (by decide) (by decide) rfl rfl unformatted rfl, read_text]
  · rfl
  · exact unplaced
  · exact unsigned

theorem ofCommand_of_read {arguments : List String} (chosen : chosenVersion start = .ok version)
    (completed : read decodeLevel .ready arguments {} =
      .ok { start with
        values := ("format", "json") :: start.values
        positional := some text }) :
    ofCommand "decode" arguments = .ok (.decode text version "json") := by
  have same : chosenVersion { start with
      values := ("format", "json") :: start.values
      positional := some text } = .ok version := chosen
  simp only [ofCommand, completed, bind, Except.bind, orMisuse, same]
  rfl

/-- The version of another command can be asked of this one too, and in the same words. -/
theorem ofCommand_decode {found : Found} (chosen : chosenVersion found = .ok version)
    (unsigned : text.toList.head? ≠ some '-') :
    ∃ arguments, ofCommand "decode" arguments = .ok (.decode text version "json") := by
  unfold chosenVersion at chosen
  cases given : found.value? "protocol" with
  | none =>
    rw [given] at chosen
    have unasked : chosenVersion {} = .ok version := chosen
    exact ⟨_, ofCommand_of_read unasked (read_format rfl rfl unsigned)⟩
  | some number =>
    rw [given] at chosen
    let protocol : Found := { values := [("protocol", number)] }
    have known : decodeLevel.longOption? versionOption.long = some versionOption := rfl
    have accepted : versionOption.accepts number = true := by
      cases supported : version? number with
      | none =>
        simp only [supported, orMisuse] at chosen
        cases chosen
      | some number' => simp only [versionOption, supported, Option.isSome_some]
    have asked : chosenVersion protocol = .ok version := chosen
    have begun : read decodeLevel .ready
        [assignment versionOption number, assignment formatOption "json", text] {} =
          read decodeLevel .ready [assignment formatOption "json", text] protocol :=
      read_assignment known (by decide) (by decide) rfl rfl rfl accepted _
    exact ⟨_, ofCommand_of_read asked (begun.trans (read_format rfl rfl unsigned))⟩

variable {arguments : List String} {ambient : Variables} {invocation : Invocation}

theorem chosenVersion_of_encode {name : String} {info : Option String}
    (parsed : ofCommand name arguments = .ok (.encode info version)) :
    ∃ found, chosenVersion found = .ok version := by
  unfold ofCommand at parsed
  split at parsed
  · obtain ⟨_, -, finished⟩ := ok_of_bind parsed
    cases finished
  split at parsed
  · obtain ⟨found, -, choosing⟩ := ok_of_bind parsed
    obtain ⟨version', chosen, finished⟩ := ok_of_bind choosing
    cases finished
    exact ⟨found, chosen⟩
  split at parsed
  · obtain ⟨_, -, placing⟩ := ok_of_bind parsed
    obtain ⟨_, -, choosing⟩ := ok_of_bind placing
    obtain ⟨_, -, finished⟩ := ok_of_bind choosing
    cases finished
  split at parsed
  · obtain ⟨_, -, placing⟩ := ok_of_bind parsed
    obtain ⟨_, -, coding⟩ := ok_of_bind placing
    obtain ⟨_, -, finished⟩ := ok_of_bind coding
    cases finished
  · cases parsed

theorem exists_decode_arguments {info : Option String}
    (parsed : ofArguments arguments ambient = .ok invocation)
    (task : invocation.task = .encode info version) (unsigned : text.toList.head? ≠ some '-') :
    ∃ others, ofArguments others ambient =
      .ok { invocation with task := .decode text version "json" } := by
  unfold ofArguments at parsed
  obtain ⟨found, completed, commanding⟩ := ok_of_bind parsed
  obtain ⟨⟨name, rest⟩, commanded, performing⟩ := ok_of_bind commanding
  obtain ⟨task', asked, locating⟩ := ok_of_bind performing
  obtain ⟨settingsPath, settings, configuring⟩ := ok_of_bind locating
  obtain ⟨signedConfigPath, signed, finished⟩ := ok_of_bind configuring
  cases finished
  cases task
  have named : found.command = some (name, rest) := by
    cases command : found.command with
    | none =>
      rw [command] at commanded
      cases commanded
    | some named =>
      rw [command] at commanded
      cases commanded
      rfl
  obtain ⟨_, chosen⟩ := chosenVersion_of_encode asked
  obtain ⟨anew, decodes⟩ := ofCommand_decode chosen unsigned
  have commanded : found.command ≠ none := by
    rw [named]
    nofun
  have known : topLevel.commands.contains "decode" = true := by decide
  obtain ⟨others, exchanged⟩ := read_exchange completed rfl commanded known anew
  refine ⟨others, ?_⟩
  -- The options are those of before, and so are the paths that they lead to.
  have settings' :
      path ({ found with command := some ("decode", anew) }.value? "config") ambient.settingsPath =
        .ok settingsPath := settings
  have signed' :
      path ({ found with command := some ("decode", anew) }.value? "hmac-config")
        ambient.signedConfigPath = .ok signedConfigPath := signed
  simp only [ofArguments, exchanged, bind, Except.bind, orMisuse, decodes, settings', signed']
  rfl

end Command.Invocation

end Attest
