import Attest.Command.Run
import Std.Time.DateTime.Timestamp

/-!
The program: it gathers the environment, the files and the time, and prints what carrying out the
command line yields.
-/

namespace Attest.Command

def readFile (path : String) : IO File := do
  try
    let content ← IO.FS.readBinFile path
    return .ok content.data.toList
  catch e =>
    match e with
    | .noFileOrDirectory .. => return .error .missing
    | .inappropriateType (some _) .. => return .error .notDirectory
    | .inappropriateType none .. => return .error .isDirectory
    | e => return .error (.other (toString e))

def readVariables : IO Variables := do
  return {
    settingsPath := ← IO.getEnv "TESSERA_CONFIG"
    signedConfigPath := ← IO.getEnv "TESSERA_HMAC_CONFIG"
    authType := ← IO.getEnv "TESSERA_AUTH_TYPE"
    authInfo := ← IO.getEnv "TESSERA_AUTH_INFO"
  }

def readSurroundings : IO Surroundings := do
  let now ← Std.Time.Timestamp.now
  let nonce ← IO.getRandomBytes (USize.ofNat Signed.nonceLength)
  return {
    wallTime := UInt64.ofNat now.toSecondsSinceUnixEpoch.val.toNat
    nonce := nonce.data.toList
  }

/-- The files that a command line names. -/
def readFiles (arguments : List String) (ambient : Variables) : IO (List (String × File)) := do
  match Invocation.ofArguments arguments ambient with
  | .error _ => return []
  | .ok invocation =>
    let paths := invocation.settingsPath.toList ++ invocation.signedConfigPath.toList
    paths.mapM fun path => return (path, ← readFile path)

end Attest.Command

open Attest in
def main (arguments : List String) : IO UInt32 := do
  let ambient ← Command.readVariables
  let files ← Command.readFiles arguments ambient
  let environment : Command.Environment := {
    ambient
    files := fun path => (files.lookup path).getD (.error .missing)
    surroundings := ← Command.readSurroundings
  }
  let outcome := Command.run environment arguments
  (← IO.getStdout).write ⟨outcome.output.toArray⟩
  (← IO.getStderr).putStr outcome.complaint
  return outcome.status
