import Attest.Proofs.Mechanism.Payload
import Attest.Protocol.Envelope

/-!
What a provider packs for a credential of its own, and what it hands to its decoder.
-/

namespace Attest

theorem Version.exists_envelope {version : Version}
    (supported : oldest.number ≤ version.number) :
    ∃ envelope, version.envelope = .ok envelope := by
  unfold Version.envelope
  by_cases numbered : version.number ≥ Version.numbered.number
  · rw [if_pos numbered]
    exact ⟨_, rfl⟩
  · rw [if_neg numbered, if_pos supported]
    exact ⟨_, rfl⟩

namespace Provider

variable {sender receiver : Provider} {credential : Credential}

/-- What a provider packs for a credential of its own. -/
def packet (provider : Provider) (envelope : Envelope) (credential : Credential) : Bytes :=
  envelope.header provider ++ credential.state.payload

theorem encode_of_maker (envelope : Envelope)
    (own : credential.state.maker? = some sender.mechanism.kind) (buffer : Bytes)
    (history : History) :
    (sender.encode envelope credential buffer history).1 =
      (.ok (), buffer ++ sender.packet envelope credential) := by
  have packed := Mechanism.pack_of_maker own (buffer ++ envelope.header sender)
  rw [List.append_assoc, ← packet] at packed
  exact Packer.behind_of_ok packed

theorem decode_of_accept {envelope : Envelope} {buffer payload : Bytes}
    (accepted : envelope.accept receiver buffer = (.ok (), payload)) (history : History) :
    (receiver.decode envelope buffer history).1 = receiver.mechanism.unpack payload := by
  simp only [decode, accepted, ask]

end Provider

end Attest
