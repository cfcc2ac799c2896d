import Attest.History
import Attest.Mechanism

/-!
A mechanism that has been loaded, under the number and name it had when it was loaded. Its operations
are the mechanism's, and each leaves its mark in the history. Whether a provider has been released is
read off the history, so that all who hold it agree.
-/

namespace Attest

structure Provider where
  id : UInt32
  name : String
  mechanism : Mechanism
  object : Object
  /-- Tells this provider apart from all others, also from those of the same object. -/
  serial : Nat

namespace Provider

/-- Answers what the mechanism answers, and notes that it was asked. -/
def ask (provider : Provider) (operation : Operation) (answer : Mechanism → α) : Recorded α :=
  fun history => (answer provider.mechanism, .asked provider.object operation :: history)

def create (provider : Provider) (surroundings : Surroundings) (info : Option String) :
    Recorded (Except AuthError Credential) :=
  provider.ask .create fun mechanism => mechanism.create surroundings info

def destroy (provider : Provider) (credential : Credential) : Recorded (Except AuthError Unit) :=
  provider.ask .destroy fun mechanism => mechanism.destroy credential

def verify (provider : Provider) (surroundings : Surroundings) (credential : Credential) :
    Recorded (Except AuthError Unit × Credential) :=
  provider.ask .verify fun mechanism => mechanism.verify surroundings credential

def uid (provider : Provider) (credential : Credential) : Recorded (UInt32 × Credential) :=
  provider.ask .uid fun mechanism => mechanism.uid credential

def gid (provider : Provider) (credential : Credential) : Recorded (UInt32 × Credential) :=
  provider.ask .gid fun mechanism => mechanism.gid credential

def host (provider : Provider) (credential : Credential) : Recorded (Option String × Credential) :=
  provider.ask .host fun mechanism => mechanism.host credential

def print (provider : Provider) (credential : Credential) (sink : Sink) :
    Recorded (Except AuthError Unit × Sink) :=
  provider.ask .print fun mechanism => mechanism.print credential sink

def lastError (provider : Provider) (credential : Credential) : Recorded ErrorCode :=
  provider.ask .lastError fun mechanism => mechanism.lastError credential

def errorText (provider : Provider) (code : Int32) : Recorded String :=
  provider.ask .errorText fun mechanism => mechanism.errorText code

/-- The generic text of a code if there is one, whatever the mechanism says about it. -/
def codeText (provider : Provider) (code : Int32) : Recorded String :=
  match ErrorCode.genericText? code with
  | some text => fun history => (text, history)
  | none => provider.errorText code

/-- Has the mechanism finish at the first call; every later call succeeds and does nothing. -/
def release (provider : Provider) : Recorded (Except AuthError Unit) := fun history =>
  if history.isReleased provider.serial then (.ok (), history)
  else provider.ask .finish Mechanism.finish (.released provider.serial :: history)

/-- How the failure of a release is reported when the provider was active. -/
def teardownError (provider : Provider) (cause : AuthError) : AuthError :=
  .teardown s!"{provider.name}: {cause.message}"

end Provider

end Attest
