import Attest.AuthError
import Attest.File
import Attest.Json.Printer
import Attest.Json.Reader
import Attest.Json.Record
import Attest.Text.Blank

/-!
Which mechanism to load, and the options to hand it: by default, from a file, from the environment.
-/

namespace Attest

structure Settings where
  authType : String := "auth/none"
  authInfo : Option String := none
deriving Repr, DecidableEq

namespace Settings

def fieldNames : List String := ["auth_type", "auth_info"]

def toJson (settings : Settings) : Json :=
  .ofMembers [("auth_type", .ofText settings.authType),
    ("auth_info", .ofOption .ofText settings.authInfo)]

def ofJson? (json : Json) : Option Settings := do
  let fields ← json.fields? fieldNames
  let default : Settings := {}
  let authType ← Json.withDefault? fields "auth_type" default.authType Json.text?
  let authInfo ← Json.withDefault? fields "auth_info" default.authInfo (Json.optional? Json.text?)
  return { authType, authInfo }

/-- A mechanism has to be named. -/
def validate (settings : Settings) : Except AuthError Unit :=
  if Blank.isBlankText settings.authType then
    .error (.configuration "auth_type must not be empty")
  else .ok ()

def parse (text : String) : Except String Settings :=
  match (Json.parse? text).bind ofJson? with
  | some settings => .ok settings
  | none => .error "not a valid configuration"

/-- The settings that a file holds, if they are valid. -/
def ofFile (path : String) (file : File) : Except AuthError Settings := do
  match file.text.bind parse with
  | .error reason => throw (.configuration s!"{path}: {reason}")
  | .ok settings =>
    settings.validate
    return settings

/-- What the environment says in place of the settings. -/
structure Overrides where
  authType : Option String := none
  authInfo : Option String := none
deriving Repr, DecidableEq

/-- A blank name in the environment counts as none. -/
def override (settings : Settings) (overrides : Overrides) : Settings where
  authType := match overrides.authType with
    | some name => if Blank.isBlankText name then settings.authType else Blank.trim name
    | none => settings.authType
  authInfo := overrides.authInfo.or settings.authInfo

end Settings

end Attest
