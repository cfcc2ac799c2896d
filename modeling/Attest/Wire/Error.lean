/-!
What can be wrong with a field of a packed buffer.
-/

namespace Attest.Wire

inductive Error where
  /-- The field needs more bytes than the buffer still holds. -/
  | truncated (needed remaining : Nat)
  /-- The field declares a length above the limit. -/
  | tooLong (length limit : Nat)
  /-- The octets of a text field are not UTF-8. -/
  | notUtf8
deriving Repr, DecidableEq

def Error.message : Error → String
  | .truncated needed remaining =>
    s!"truncated buffer: need {needed} bytes, {remaining} remaining"
  | .tooLong length limit => s!"length {length} exceeds maximum {limit}"
  | .notUtf8 => "invalid utf-8 in string field"

end Attest.Wire
