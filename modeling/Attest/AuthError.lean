import Attest.ErrorCode
import Attest.Wire.Error

/-!
Why an operation on credentials failed, the text that says so, and the code it is reported under.
-/

namespace Attest

inductive AuthError where
  /-- No mechanism is loaded, and none could be. -/
  | noMechanism
  /-- No mechanism is registered under the name. -/
  | unknownMechanism (name : String)
  /-- The mechanism is registered but could not be brought up. -/
  | loadFailed (name reason : String)
  | badArgument (reason : String)
  | memory
  | noSuchUser (user : String)
  | invalidCredential
  /-- The packed credential names another mechanism than the active one. -/
  | mismatch (remote localName : String)
  | unsupportedVersion (version : UInt16)
  | decode (cause : Wire.Error)
  /-- Writing a description failed. -/
  | io (reason : String)
  | configuration (reason : String)
  /-- A mechanism failed to release what it held. -/
  | teardown (reason : String)
  /-- A failure of the mechanism's own. -/
  | mechanism (code : Int32) (text : String)
deriving Repr, DecidableEq

namespace AuthError

def message : AuthError → String
  | .noMechanism => "no authentication mechanism loaded"
  | .unknownMechanism name => s!"unknown authentication mechanism: {name}"
  | .loadFailed name reason => s!"cannot load authentication mechanism {name}: {reason}"
  | .badArgument reason => s!"bad argument: {reason}"
  | .memory => "memory management error"
  | .noSuchUser user => s!"no such user: {user}"
  | .invalidCredential => "authentication credential invalid"
  | .mismatch remote localName =>
    s!"authentication type mismatch: remote {remote}, local {localName}"
  | .unsupportedVersion version => s!"protocol version {version.toNat} not supported"
  | .decode cause => s!"error decoding credential: {cause.message}"
  | .io reason => s!"io error: {reason}"
  | .configuration reason => s!"configuration error: {reason}"
  | .teardown reason => s!"teardown failed: {reason}"
  | .mechanism _ text => text

def code : AuthError → ErrorCode
  | .noMechanism | .unknownMechanism _ | .loadFailed _ _ => .noMechanism
  | .badArgument _ => .badArgument
  | .memory => .memory
  | .noSuchUser _ => .noSuchUser
  | .invalidCredential => .invalidCredential
  | .mismatch _ _ => .mismatch
  | .unsupportedVersion _ => .unsupportedVersion
  | .decode _ | .io _ | .configuration _ | .teardown _ => .generalFailure
  | .mechanism code _ => .ofRaw code

/-- The code of an error is what its raw value is read as, even if a mechanism fails with a code that
is not its own. -/
theorem ofRaw_raw_code (cause : AuthError) : ErrorCode.ofRaw cause.code.raw = cause.code := by
  cases cause with
  | mechanism code text => exact congrArg ErrorCode.ofRaw (ErrorCode.raw_ofRaw code)
  | _ => exact ErrorCode.ofRaw_raw_of_isGeneric rfl

end AuthError

end Attest
