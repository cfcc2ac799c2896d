import Attest.Command.Failure
import Attest.Command.Invocation
import Attest.Json.Printer
import Attest.Process

/-!
Carrying out what a command line asks for. What a command has printed stays printed when it fails
later.
-/

namespace Attest.Command

/-- What a command finds around it. -/
structure Environment where
  ambient : Variables := {}
  files : String → File
  surroundings : Surroundings

/-- The process that a command runs in, and what it has printed. -/
structure Console where
  process : Process := {}
  output : Bytes := []

abbrev Job (α : Type) := ExceptT Failure (StateM Console) α

def ask (operation : Process → α × Process) : Job α := fun console =>
  let (answer, process) := operation console.process
  (.ok answer, { console with process })

def printText (text : String) : Job Unit := fun console =>
  (.ok (), { console with output := console.output ++ Utf8.encode text })

def printLine (text : String) : Job Unit :=
  printText (text ++ "\n")

def require (failure : ε → Failure) : Except ε α → Job α
  | .ok value => return value
  | .error cause => throw (failure cause)

/-- The settings of the file, then of the environment, then of the command line. -/
def loadSettings (environment : Environment) (invocation : Invocation) :
    Except AuthError Settings := do
  let base ← match invocation.settingsPath with
    | some path => Settings.ofFile path (environment.files path)
    | none => .ok {}
  let settings := base.override {
    authType := environment.ambient.authType
    authInfo := environment.ambient.authInfo
  }
  let settings := match invocation.authType with
    | some authType => { settings with authType }
    | none => settings
  settings.validate
  return settings

def claimedLabel : Nat := 0

def signedLabel : Nat := 1

/-- `auth/none`, and `auth/hmac` if there is a configuration for it. -/
def buildRegistry (environment : Environment) (invocation : Invocation) :
    Except Failure Registry := do
  let registry := ({} : Registry).register Claimed.mechanismName
    { label := claimedLabel, product := .claimed }
  match invocation.signedConfigPath with
  | none => return registry
  | some path =>
    match Signed.Config.ofFile path (environment.files path) with
    | .error cause => throw (.signedConfig path cause)
    | .ok config =>
      return registry.register Signed.mechanismName
        { label := signedLabel, product := .signed config .wall }

def listMechanisms (context : Context) : Job Unit := do
  for name in context.registry.names do
    printLine (name ++ if name = context.defaultName then " (selected)" else "")

def encode (environment : Environment) (settings : Settings) (info : Option String)
    (version : Version) : Job Unit := do
  require .initializing (← ask (Process.init none))
  let info := info.or settings.authInfo
  let credential ← require .creating (← ask (Process.create environment.surroundings info))
  let (packed, buffer) ← ask (Process.pack version credential [])
  require .packing packed
  require .auth (← ask (Process.destroy credential))
  printLine (Base64.encode buffer)

/-- What is found out about a credential. -/
structure Report where
  mechanismId : UInt32
  verified : Bool
  uid : UInt32
  gid : UInt32
  host : Option String
  lastError : Int32
  error : Option String
deriving Repr, DecidableEq

namespace Report

def toJson (report : Report) : Json :=
  .ofMembers [("mechanism_id", .ofNat report.mechanismId.toNat), ("verified", .bool report.verified),
    ("uid", .ofNat report.uid.toNat), ("gid", .ofNat report.gid.toNat),
    ("host", .ofOption .ofText report.host), ("errno", .ofInt report.lastError.toInt),
    ("error", .ofOption .ofText report.error)]

def lines (report : Report) : List String :=
  [s!"verified: {report.verified}"] ++
  (report.error.map fun error => s!"error:    {error}").toList ++
  [s!"uid:      {report.uid.toNat}", s!"gid:      {report.gid.toNat}",
    "host:     " ++ report.host.getD "(unknown)"]

end Report

/-- Verifies a credential and then asks for its identity and its last error, in this order. -/
def examine (environment : Environment) (credential : Credential) : Job (Report × Credential) := do
  let (verified, credential) ← ask (Process.verify environment.surroundings credential)
  let (uid, credential) ← ask (Process.uid credential)
  let (gid, credential) ← ask (Process.gid credential)
  let (host, credential) ← ask (Process.host credential)
  let lastError ← ask (Process.lastError credential)
  let error ← match verified with
    | .ok () => pure none
    | .error cause => some <$> ask (Process.codeText cause.code.raw)
  let report := {
    mechanismId := credential.mechanismId
    verified := verified.isOk
    uid, gid, host
    lastError := lastError.raw
    error
  }
  return (report, credential)

def printDescription (credential : Credential) : Job Unit := do
  let (answer, sink) ← ask (Process.print credential {})
  fun console => (.ok (), { console with output := console.output ++ sink.written })
  require .auth answer

def decode (environment : Environment) (text : String) (version : Version) (format : String) :
    Job Unit := do
  let packed ← match Base64.decode? (Blank.trim text) with
    | some packed => pure packed
    | none => throw .notBase64
  require .initializing (← ask (Process.init none))
  let (unpacked, _rest) ← ask (Process.unpack version packed)
  let credential ← match unpacked with
    | .ok credential => pure credential
    | .error cause => throw (.unpacking (← ask (Process.codeText cause.code.raw)))
  let (report, credential) ← examine environment credential
  if format = "json" then printLine report.toJson.pretty
  else if format = "text" then
    printDescription credential
    report.lines.forM printLine
  else throw (.unknownFormat format)
  require .auth (← ask (Process.destroy credential))

def perform (environment : Environment) (settings : Settings) (context : Context) :
    Task → Job Unit
  | .mechanisms => listMechanisms context
  | .encode info version => encode environment settings info version
  | .decode credential version format => decode environment credential version format
  | .codeText code => do printLine (← ask (Process.codeText code))

/-- Sets up the process, carries out the task, and has the mechanism released, however it ended. -/
def carryOut (environment : Environment) (invocation : Invocation) : Job Unit := do
  let settings ← require .auth (loadSettings environment invocation)
  let registry ← require id (buildRegistry environment invocation)
  let context ← require .auth
    (← ask (Process.install (Context.ofSettings registry settings)))
  tryCatch (perform environment settings context invocation.task) fun failure => do
    let _released ← ask Process.teardown
    throw failure
  let _released ← ask Process.teardown

/-- How a program ends. -/
structure Outcome where
  status : UInt32
  output : Bytes := []
  complaint : String := ""
deriving Repr, DecidableEq

def versionText : String := "tessera 0.1.0-alpha\n"

def usageText : String :=
  "Usage: tessera [--config FILE] [--auth-type NAME] [--hmac-config FILE] COMMAND\n\n" ++
  "Commands:\n" ++
  "  mechanisms\n" ++
  "  encode [--info OPTIONS] [--protocol VERSION]\n" ++
  "  decode CREDENTIAL [--protocol VERSION] [--format text|json]\n" ++
  "  errstr CODE\n"

def execute (environment : Environment) (invocation : Invocation) : Outcome :=
  match carryOut environment invocation {} with
  | (.ok (), console) => { status := 0, output := console.output }
  | (.error failure, console) =>
    { status := 1, output := console.output, complaint := failure.report }

def run (environment : Environment) (arguments : List String) : Outcome :=
  match Invocation.ofArguments arguments environment.ambient with
  | .ok invocation => execute environment invocation
  | .error .help => { status := 0, output := Utf8.encode usageText }
  | .error .version => { status := 0, output := Utf8.encode versionText }
  | .error .misuse => { status := 2, complaint := usageText }

end Attest.Command
