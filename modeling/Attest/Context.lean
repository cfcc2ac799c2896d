import Attest.Protocol.Envelope
import Attest.Registry
import Attest.Settings
import Attest.Text.Quoted

/-!
A context selects one mechanism and has it answer every operation. The first operation selects the
default mechanism unless another was asked for before; the selection stays until it is torn down.
-/

namespace Attest

structure Context where
  registry : Registry
  defaultName : String
  active : Option Provider := none

namespace Context

def ofSettings (registry : Registry) (settings : Settings) : Context :=
  { registry, defaultName := settings.authType }

end Context

/-- A context together with what has happened so far. -/
structure Site where
  context : Context
  history : History := []

namespace Site

/-- The active provider, or the one that loading the requested or the default mechanism yields. A
request does not matter while a provider is active, and a load that fails changes nothing. -/
def ensure (requested : Option String) (site : Site) : Except AuthError Provider × Site :=
  match site.context.active with
  | some provider => (.ok provider, site)
  | none =>
    match site.context.registry.load (requested.getD site.context.defaultName) site.history with
    | (.ok provider, history) =>
      (.ok provider, { context := { site.context with active := some provider }, history })
    | (.error e, history) => (.error e, { site with history })

def init (requested : Option String) (site : Site) : Except AuthError Unit × Site :=
  let (answer, site) := site.ensure requested
  (answer.map fun _ => (), site)

/-- Removes the active provider, whether or not it can be released. -/
def teardown (site : Site) : Except AuthError Unit × Site :=
  match site.context.active with
  | none => (.ok (), site)
  | some provider =>
    let (answer, history) := provider.release site.history
    let answer := answer.mapError provider.teardownError
    (answer, { context := { site.context with active := none }, history })

/-- Has the active provider, or the default one, answer. When there is none the answer is
`fallback`. -/
def dispatch (fallback : α) (answer : Provider → Recorded α) (site : Site) : α × Site :=
  match site.ensure none with
  | (.ok provider, site) =>
    let (answer, history) := answer provider site.history
    (answer, { site with history })
  | (.error _, site) => (fallback, site)

def create (surroundings : Surroundings) (info : Option String) :
    Site → Except AuthError Credential × Site :=
  dispatch (.error .noMechanism) fun provider => provider.create surroundings info

def destroy (credential : Credential) : Site → Except AuthError Unit × Site :=
  dispatch (.error .noMechanism) fun provider => provider.destroy credential

def verify (surroundings : Surroundings) (credential : Credential) :
    Site → (Except AuthError Unit × Credential) × Site :=
  dispatch (.error .noMechanism, credential) fun provider =>
    provider.verify surroundings credential

def uid (credential : Credential) : Site → (UInt32 × Credential) × Site :=
  dispatch (nobody, credential) fun provider => provider.uid credential

def gid (credential : Credential) : Site → (UInt32 × Credential) × Site :=
  dispatch (nobody, credential) fun provider => provider.gid credential

def host (credential : Credential) : Site → (Option String × Credential) × Site :=
  dispatch (none, credential) fun provider => provider.host credential

def pack (version : Version) (credential : Credential) (buffer : Bytes) :
    Site → (Except AuthError Unit × Bytes) × Site :=
  dispatch (.error .noMechanism, buffer) fun provider => provider.pack version credential buffer

def unpack (version : Version) (buffer : Bytes) :
    Site → (Except AuthError Credential × Bytes) × Site :=
  dispatch (.error .noMechanism, buffer) fun provider => provider.unpack version buffer

def print (credential : Credential) (sink : Sink) :
    Site → (Except AuthError Unit × Sink) × Site :=
  dispatch (.error .noMechanism, sink) fun provider => provider.print credential sink

def lastError (credential : Credential) : Site → ErrorCode × Site :=
  dispatch .generalFailure fun provider => provider.lastError credential

def codeText (code : Int32) : Site → String × Site :=
  dispatch ErrorCode.initFailureText fun provider => provider.codeText code

end Site

end Attest
