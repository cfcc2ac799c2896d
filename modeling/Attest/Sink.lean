import Attest.AuthError
import Attest.Text.Utf8

/-!
Where descriptions are written to. A sink with a capacity takes that many bytes and then fails.
-/

namespace Attest

structure Sink where
  capacity : Option Nat := none
  written : Bytes := []
deriving Repr, DecidableEq

namespace Sink

def write (sink : Sink) (bytes : Bytes) : Except AuthError Unit × Sink :=
  match sink.capacity with
  | none => (.ok (), { sink with written := sink.written ++ bytes })
  | some capacity =>
    let room := capacity - sink.written.length
    let after := { sink with written := sink.written ++ bytes.take room }
    if bytes.length ≤ room then (.ok (), after)
    else (.error (.io "failed to write whole buffer"), after)

def writeText (sink : Sink) (text : String) : Except AuthError Unit × Sink :=
  sink.write (Utf8.encode text)

/-- Writes a description, if there is one to write. -/
def describe (sink : Sink) : Except AuthError String → Except AuthError Unit × Sink
  | .ok text => sink.writeText text
  | .error e => (.error e, sink)

end Sink

end Attest
