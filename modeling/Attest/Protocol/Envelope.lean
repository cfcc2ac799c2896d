import Attest.Protocol.Version
import Attest.Provider

/-!
The envelope of a packed credential names the mechanism that made it: by its number, or by its name
and a reserved word. A credential of another mechanism is refused before any of its payload is read.
-/

namespace Attest

namespace Envelope

/-- What stands in front of a payload that the provider's mechanism packs. -/
def header (envelope : Envelope) (provider : Provider) : Bytes :=
  match envelope with
  | .mechanismId => Wire.word32 provider.id
  | .mechanismName => Wire.text (some provider.name) ++ Wire.word32 0

/-- How a name that does not match is reported. -/
def remoteName (name : Bytes) : String :=
  if name.isEmpty then "(none)" else Utf8.decodeLenient name

/-- Reads an envelope and refuses one that names another mechanism. What the reserved word holds does
not matter, and the terminator of the name may be missing. -/
def accept (envelope : Envelope) (provider : Provider) : Unpacker Unit := do
  match envelope with
  | .mechanismId =>
    let remote ← Unpacker.ofWire Wire.readWord32
    if remote ≠ provider.id then
      throw (.mismatch (toString remote.toNat) (toString provider.id.toNat))
  | .mechanismName =>
    let remote := Wire.dropTerminator (← Unpacker.ofWire Wire.readBlock)
    if remote.isEmpty ∨ remote ≠ Utf8.encode provider.name then
      throw (.mismatch (remoteName remote) provider.name)
    let _reserved ← Unpacker.ofWire Wire.readWord32

end Envelope

namespace Provider

/-- Appends an envelope and the credential, or leaves the buffer as it was. -/
def encode (provider : Provider) (envelope : Envelope) (credential : Credential) (buffer : Bytes) :
    Recorded (Except AuthError Unit × Bytes) :=
  provider.ask .pack fun mechanism =>
    (mechanism.pack credential).behind (envelope.header provider) buffer

/-- Hands what follows an accepted envelope to the mechanism. -/
def decode (provider : Provider) (envelope : Envelope) (buffer : Bytes) :
    Recorded (Except AuthError Credential × Bytes) := fun history =>
  match envelope.accept provider buffer with
  | (.error e, rest) => ((.error e, rest), history)
  | (.ok (), payload) => provider.ask .unpack (fun mechanism => mechanism.unpack payload) history

def pack (provider : Provider) (version : Version) (credential : Credential) (buffer : Bytes) :
    Recorded (Except AuthError Unit × Bytes) :=
  match version.envelope with
  | .ok envelope => provider.encode envelope credential buffer
  | .error e => fun history => ((.error e, buffer), history)

def unpack (provider : Provider) (version : Version) (buffer : Bytes) :
    Recorded (Except AuthError Credential × Bytes) :=
  match version.envelope with
  | .ok envelope => provider.decode envelope buffer
  | .error e => fun history => ((.error e, buffer), history)

end Provider

end Attest
