import Attest.AuthError

/-!
Protocol versions, and the envelope that each calls for.
-/

namespace Attest

structure Version where
  number : UInt16
deriving Repr, DecidableEq

/-- How the envelope names the mechanism of a credential. -/
inductive Envelope where
  | mechanismId
  | mechanismName
deriving Repr, DecidableEq

namespace Version

/-- The oldest version that is supported. -/
def oldest : Version := ⟨17⟩

/-- The first version whose envelope carries the mechanism's number. -/
def numbered : Version := ⟨19⟩

def current : Version := ⟨20⟩

def envelope (version : Version) : Except AuthError Envelope :=
  if version.number ≥ numbered.number then .ok .mechanismId
  else if version.number ≥ oldest.number then .ok .mechanismName
  else .error (.unsupportedVersion version.number)

end Version

end Attest
