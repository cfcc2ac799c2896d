import Attest.Command.Arguments
import Attest.Protocol.Version
import Attest.Text.Decimal

/-!
What a command line asks for.
-/

namespace Attest.Command

inductive Task where
  /-- Lists the registered mechanisms. -/
  | mechanisms
  /-- Makes a credential and prints it as Base64. -/
  | encode (info : Option String) (version : Version)
  /-- Reads, verifies and describes a credential. -/
  | decode (credential : String) (version : Version) (format : String)
  /-- Describes an error code. -/
  | codeText (code : Int32)
deriving Repr, DecidableEq

structure Invocation where
  settingsPath : Option String := none
  authType : Option String := none
  signedConfigPath : Option String := none
  task : Task
deriving Repr, DecidableEq

/-- What the environment of a program says. -/
structure Variables where
  settingsPath : Option String := none
  signedConfigPath : Option String := none
  authType : Option String := none
  authInfo : Option String := none
deriving Repr, DecidableEq

namespace Invocation

open Arguments (Level Found Stop ValueOption)

/-- Numbers are read with a sign or none, and have to fit the width they are used in. -/
def bounded? (low high : Int) (text : String) : Option Int :=
  Decimal.integer? low high text.toList

def version? (text : String) : Option Version :=
  (bounded? 0 65535 text).map fun number => ⟨UInt16.ofNat number.toNat⟩

def code? (text : String) : Option Int32 :=
  (bounded? (-2147483648) 2147483647 text).map Int32.ofInt

/-- A path has at least one character. -/
def isPath (text : String) : Bool :=
  !text.isEmpty

def taskNames : List String := ["mechanisms", "encode", "decode", "errstr"]

def topLevel : Level where
  options := [
    { long := "config", short := some 'c', accepts := isPath },
    { long := "auth-type" },
    { long := "hmac-config", accepts := isPath }]
  commands := taskNames ++ ["help"]
  hasVersion := true

def versionOption : ValueOption where
  long := "protocol"
  accepts := fun text => (version? text).isSome

def encodeLevel : Level where
  options := [{ long := "info" }, versionOption]

def decodeLevel : Level where
  options := [versionOption, { long := "format" }]
  positional := some {}

def codeTextLevel : Level where
  positional := some { accepts := fun text => (code? text).isSome, allowsHyphens := true }

def orMisuse : Option α → Except Stop α
  | some value => .ok value
  | none => .error .misuse

def chosenVersion (found : Found) : Except Stop Version :=
  match found.value? "protocol" with
  | none => .ok Version.current
  | some text => orMisuse (version? text)

/-- Help on a command, if there is one of that name. -/
def helpOn (arguments : List String) : Stop :=
  match arguments with
  | [] => .help
  | [name] => if topLevel.commands.contains name then .help else .misuse
  | _ => .misuse

def ofCommand (name : String) (arguments : List String) : Except Stop Task := do
  if name = "mechanisms" then
    let _ ← Arguments.read {} .ready arguments {}
    return .mechanisms
  else if name = "encode" then
    let found ← Arguments.read encodeLevel .ready arguments {}
    return .encode (found.value? "info") (← chosenVersion found)
  else if name = "decode" then
    let found ← Arguments.read decodeLevel .ready arguments {}
    let credential ← orMisuse found.positional
    return .decode credential (← chosenVersion found) ((found.value? "format").getD "text")
  else if name = "errstr" then
    let found ← Arguments.read codeTextLevel .ready arguments {}
    let text ← orMisuse found.positional
    return .codeText (← orMisuse (code? text))
  else throw (helpOn arguments)

/-- A path from the command line, else from the environment. -/
def path (given fromEnvironment : Option String) : Except Stop (Option String) :=
  match given.or fromEnvironment with
  | none => .ok none
  | some text => if isPath text then .ok (some text) else .error .misuse

def ofArguments (arguments : List String) (ambient : Variables) : Except Stop Invocation := do
  let found ← Arguments.read topLevel .ready arguments {}
  let (name, rest) ← orMisuse found.command
  let task ← ofCommand name rest
  let settingsPath ← path (found.value? "config") ambient.settingsPath
  let signedConfigPath ← path (found.value? "hmac-config") ambient.signedConfigPath
  return { settingsPath, authType := found.value? "auth-type", signedConfigPath, task }

end Invocation

end Attest.Command
