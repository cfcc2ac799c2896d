import Attest.Text.Pieces

/-!
Reading command-line arguments: options with a value, at most one positional argument, and names of
commands, after which a level of its own begins.
-/

namespace Attest.Arguments

/-- An option that takes a value, after it or behind an equals sign. -/
structure ValueOption where
  long : String
  short : Option Char := none
  accepts : String → Bool := fun _ => true

structure Positional where
  accepts : String → Bool := fun _ => true
  /-- Whether it may look like an option. -/
  allowsHyphens : Bool := false

/-- What may stand on one level of a command line. -/
structure Level where
  options : List ValueOption := []
  positional : Option Positional := none
  commands : List String := []
  hasVersion : Bool := false

/-- Why reading ends before the arguments do. -/
inductive Stop where
  | help
  | version
  | misuse
deriving Repr, DecidableEq

structure Found where
  /-- The value of each option that was given, under its long name. -/
  values : List (String × String) := []
  positional : Option String := none
  /-- A command, and the arguments after it. -/
  command : Option (String × List String) := none
deriving Repr, DecidableEq

namespace Found

def value? (found : Found) (option : String) : Option String :=
  found.values.lookup option

/-- An option may be given once. -/
def record (found : Found) (option : ValueOption) (value : String) : Except Stop Found :=
  if (found.value? option.long).isNone ∧ option.accepts value then
    .ok { found with values := (option.long, value) :: found.values }
  else .error .misuse

def place (found : Found) (level : Level) (argument : String) : Except Stop Found :=
  match level.positional, found.positional with
  | some positional, none =>
    if positional.accepts argument then .ok { found with positional := some argument }
    else .error .misuse
  | _, _ => .error .misuse

end Found

namespace Level

/-- Whether the next positional argument may look like an option. -/
def takesHyphens (level : Level) (found : Found) : Bool :=
  found.positional.isNone && level.positional.any Positional.allowsHyphens

def longOption? (level : Level) (name : String) : Option ValueOption :=
  level.options.find? fun option => option.long == name

def shortOption? (level : Level) (letter : Char) : Option ValueOption :=
  level.options.find? fun option => option.short == some letter

def isShort (level : Level) (letter : Char) : Bool :=
  letter == 'h' || (level.hasVersion && letter == 'V') || (level.shortOption? letter).isSome

end Level

/-- What one argument is. -/
inductive Role where
  | positional
  | assigns (option : ValueOption) (value : String)
  | awaits (option : ValueOption)

/-- An argument that begins with two hyphens, without them. -/
def longRole (level : Level) (found : Found) (body : List Char) : Except Stop Role :=
  let (name, value) := match Pieces.cut? '=' body with
    | some (name, value) => (String.ofList name, some (String.ofList value))
    | none => (String.ofList body, none)
  if name = "help" then .error (if value.isNone then .help else .misuse)
  else if level.hasVersion ∧ name = "version" then
    .error (if value.isNone then .version else .misuse)
  else match level.longOption? name with
    | some option =>
      match value with
      | some value => .ok (.assigns option value)
      | none => .ok (.awaits option)
    | none => if level.takesHyphens found then .ok .positional else .error .misuse

/-- An argument that begins with one hyphen: a letter after it, and what follows the letter. -/
def shortRole (level : Level) (found : Found) (letter : Char) (after : List Char) :
    Except Stop Role :=
  if level.takesHyphens found ∧ ¬(letter :: after).all level.isShort then .ok .positional
  else if letter = 'h' then .error .help
  else if level.hasVersion ∧ letter = 'V' then .error .version
  else match level.shortOption? letter with
    | none => .error .misuse
    | some option =>
      match after with
      | [] => .ok (.awaits option)
      | '=' :: value => .ok (.assigns option (String.ofList value))
      | value => .ok (.assigns option (String.ofList value))

/-- A lone hyphen is a value and no option. -/
def role (level : Level) (found : Found) (argument : String) : Except Stop Role :=
  match argument.toList with
  | '-' :: '-' :: body => longRole level found body
  | '-' :: letter :: after => shortRole level found letter after
  | _ => .ok .positional

def looksLikeOption (argument : String) : Bool :=
  match argument.toList with
  | '-' :: _ :: _ => true
  | _ => false

/-- What the arguments read so far lead up to. -/
inductive Mode where
  | ready
  | value (option : ValueOption)
  /-- After two hyphens alone, every argument is positional. -/
  | literal

def read (level : Level) : Mode → List String → Found → Except Stop Found
  | .value _, [], _ => .error .misuse
  | _, [], found => .ok found
  | .literal, argument :: rest, found => do
    read level .literal rest (← found.place level argument)
  | .value option, argument :: rest, found =>
    if looksLikeOption argument then .error .misuse
    else do read level .ready rest (← found.record option argument)
  | .ready, argument :: rest, found =>
    if level.commands.contains argument then .ok { found with command := some (argument, rest) }
    else if argument = "--" then read level .literal rest found
    else match role level found argument with
      | .error stop => .error stop
      | .ok .positional => do read level .ready rest (← found.place level argument)
      | .ok (.assigns option value) => do read level .ready rest (← found.record option value)
      | .ok (.awaits option) => read level (.value option) rest found

end Attest.Arguments
