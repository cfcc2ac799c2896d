import Attest.Context

/-!
A process with one context for all its parts. Until one is installed, every operation answers as a
context does whose mechanism cannot be loaded.
-/

namespace Attest

structure Process where
  installed : Option Context := none
  history : History := []

namespace Process

/-- A context is installed once and stays installed. -/
def install (context : Context) (process : Process) : Except AuthError Context × Process :=
  match process.installed with
  | none => (.ok context, { process with installed := some context })
  | some _ =>
    (.error (.configuration "authentication context already installed"), process)

/-- Runs an operation on the installed context. Without one the answer is `fallback`. -/
def onContext (fallback : α) (operation : Site → α × Site) (process : Process) : α × Process :=
  match process.installed with
  | none => (fallback, process)
  | some context =>
    let (answer, site) := operation { context, history := process.history }
    (answer, { installed := some site.context, history := site.history })

def init (requested : Option String) : Process → Except AuthError Unit × Process :=
  onContext (.error .noMechanism) (Site.init requested)

def teardown : Process → Except AuthError Unit × Process :=
  onContext (.ok ()) Site.teardown

def create (surroundings : Surroundings) (info : Option String) :
    Process → Except AuthError Credential × Process :=
  onContext (.error .noMechanism) (Site.create surroundings info)

def destroy (credential : Credential) : Process → Except AuthError Unit × Process :=
  onContext (.error .noMechanism) (Site.destroy credential)

def verify (surroundings : Surroundings) (credential : Credential) :
    Process → (Except AuthError Unit × Credential) × Process :=
  onContext (.error .noMechanism, credential) (Site.verify surroundings credential)

def uid (credential : Credential) : Process → (UInt32 × Credential) × Process :=
  onContext (nobody, credential) (Site.uid credential)

def gid (credential : Credential) : Process → (UInt32 × Credential) × Process :=
  onContext (nobody, credential) (Site.gid credential)

def host (credential : Credential) : Process → (Option String × Credential) × Process :=
  onContext (none, credential) (Site.host credential)

def pack (version : Version) (credential : Credential) (buffer : Bytes) :
    Process → (Except AuthError Unit × Bytes) × Process :=
  onContext (.error .noMechanism, buffer) (Site.pack version credential buffer)

def unpack (version : Version) (buffer : Bytes) :
    Process → (Except AuthError Credential × Bytes) × Process :=
  onContext (.error .noMechanism, buffer) (Site.unpack version buffer)

def print (credential : Credential) (sink : Sink) :
    Process → (Except AuthError Unit × Sink) × Process :=
  onContext (.error .noMechanism, sink) (Site.print credential sink)

def lastError (credential : Credential) : Process → ErrorCode × Process :=
  onContext .generalFailure (Site.lastError credential)

def codeText (code : Int32) : Process → String × Process :=
  onContext ErrorCode.initFailureText (Site.codeText code)

end Process

end Attest
