import Attest.Credential
import Attest.Options

/-!
A mechanism that trusts whoever bears a credential: it carries a bare user number, under any
mechanism number and name.
-/

namespace Attest

structure Bearer where
  mechanismId : UInt32
  mechanismName : String
deriving Repr, DecidableEq

namespace Bearer

def uid? (credential : Credential) : Option UInt32 :=
  match credential.state with
  | .bearer uid => some uid
  | _ => none

def create (setup : Bearer) (info : Option String) : Except AuthError Credential :=
  match (Options.parse info).word32? "uid" with
  | some uid => .ok { mechanismId := setup.mechanismId, state := .bearer uid }
  | none => .error (.badArgument "uid required")

def uid (credential : Credential) : UInt32 :=
  (uid? credential).getD nobody

def pack (credential : Credential) : Packer :=
  match uid? credential with
  | some uid => Packer.append (Wire.word32 uid)
  | none => throw (.badArgument "foreign credential")

def unpack (setup : Bearer) : Unpacker Credential := do
  let uid ← Unpacker.ofWire Wire.readWord32
  return { mechanismId := setup.mechanismId, state := .bearer uid }

def describe (credential : Credential) : String :=
  s!"trust-token uid={(uid credential).toNat}\n"

def errorText (_code : Int32) : String := "trust-token error"

end Bearer

end Attest
