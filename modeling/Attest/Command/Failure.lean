import Attest.Mechanism.Signed.Config

/-!
Why a command fails, and how it says so.
-/

namespace Attest.Command

inductive Failure where
  /-- An error that stands for itself. -/
  | auth (cause : AuthError)
  | signedConfig (path : String) (cause : Signed.ConfigError)
  | notBase64
  | initializing (cause : AuthError)
  | creating (cause : AuthError)
  | packing (cause : AuthError)
  | unpacking (description : String)
  | unknownFormat (name : String)
deriving Repr, DecidableEq

namespace Failure

def message : Failure → String
  | .auth cause => cause.message
  | .signedConfig path _ => s!"Failed to load {path}"
  | .notBase64 => "Credential is not valid base64"
  | .initializing _ => "Failed to initialize authentication"
  | .creating _ => "Failed to create credential"
  | .packing _ => "Failed to pack credential"
  | .unpacking description => s!"Failed to unpack credential: {description}"
  | .unknownFormat name => s!"Unknown format: {name}"

def cause? : Failure → Option String
  | .auth _ | .unpacking _ | .unknownFormat _ => none
  | .signedConfig _ cause => some cause.message
  | .notBase64 => some "the padding or a character is wrong"
  | .initializing cause | .creating cause | .packing cause => some cause.message

/-- Every line of a cause stands four columns in. -/
def indent (text : String) : String :=
  "    " ++ String.ofList (text.toList.flatMap fun c =>
    if c = '\n' then '\n' :: List.replicate 4 ' ' else [c])

def report (failure : Failure) : String :=
  match failure.cause? with
  | none => s!"Error: {failure.message}\n"
  | some cause => s!"Error: {failure.message}\n\nCaused by:\n{indent cause}\n"

end Failure

end Attest.Command
