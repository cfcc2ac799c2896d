import Attest.Proofs.Protocol.Gate
import Attest.Proofs.Wire.Steadiness

/-!
Unpacking a buffer to which more is added, or off whose end something is cut. A context reads an
envelope and the payload behind it field by field, so what it has once made of a buffer stands, and
what is missing at the end is recognized as missing.
-/

namespace Attest

namespace AuthError

/-- The buffer ends before the credential does. -/
inductive Truncated : AuthError → Prop where
  | intro (needed remaining : Nat) : Truncated (.decode (.truncated needed remaining))

end AuthError

namespace Unpacker

theorem steady_ofWire {reader : Wire.Reader α} (steady : Steady Wire.Error.Truncated reader) :
    Steady AuthError.Truncated (ofWire reader) where
  reads := by
    intro buffer rest value unpacked
    obtain ⟨taken, same, reads⟩ := steady.reads (ok_of_ofWire unpacked)
    exact ⟨taken, same, reads_ofWire reads⟩
  fails := by
    intro buffer rest cause failed enough suffix
    cases read : reader buffer with
    | mk answer left =>
      cases answer with
      | ok value =>
        rw [ofWire_of_ok read] at failed
        cases failed
      | error reason =>
        rw [ofWire_of_error read] at failed
        cases failed
        refine ofWire_of_error (steady.fails read ?_ suffix)
        rintro ⟨needed, remaining⟩
        exact enough (.intro needed remaining)

end Unpacker

theorem Claim.steady_read : Steady Wire.Error.Truncated Claim.read :=
  Wire.steady_readWord32.bind fun _ => Wire.steady_readWord32.bind fun _ =>
    Wire.steady_readText.bind_pure _

theorem SignedClaim.steady_read : Steady Wire.Error.Truncated SignedClaim.read :=
  Claim.steady_read.bind fun _ => Wire.steady_readWord64.bind fun _ =>
    Wire.steady_readWord64.bind fun _ => Wire.steady_readBlock.bind fun _ =>
      Wire.steady_readBlock.bind_pure _

theorem Mechanism.steady_unpack (mechanism : Mechanism) :
    Steady AuthError.Truncated mechanism.unpack := by
  cases mechanism with
  | claimed => exact (Unpacker.steady_ofWire Claim.steady_read).bind_pure _
  | signed signer => exact (Unpacker.steady_ofWire SignedClaim.steady_read).bind_pure _
  | rehearsal setup => exact (Unpacker.steady_ofWire Claim.steady_read).bind_pure _
  | bearer setup => exact (Unpacker.steady_ofWire Wire.steady_readWord32).bind_pure _

theorem Envelope.steady_accept (envelope : Envelope) (provider : Provider) :
    Steady AuthError.Truncated (envelope.accept provider) := by
  cases envelope with
  | mechanismId =>
    simp only [accept]
    refine (Unpacker.steady_ofWire Wire.steady_readWord32).bind fun remote => ?_
    split
    · exact .throw _
    · exact .pure ()
  | mechanismName =>
    simp only [accept]
    refine (Unpacker.steady_ofWire Wire.steady_readBlock).bind fun octets => ?_
    split
    · exact .throw _
    · exact (Unpacker.steady_ofWire Wire.steady_readWord32).bind_pure _

namespace Provider

variable {provider : Provider}

/-- How a provider reads what it unpacks: the envelope and then the payload, if the version has an
envelope. -/
def reader (provider : Provider) (version : Version) : Unpacker Credential :=
  match version.envelope with
  | .ok envelope => envelope.accept provider >>= fun _ => provider.mechanism.unpack
  | .error cause => throw cause

theorem unpack_eq_reader (provider : Provider) (version : Version) (buffer : Bytes)
    (history : History) :
    (provider.unpack version buffer history).1 = provider.reader version buffer := by
  unfold unpack reader
  cases version.envelope with
  | error cause => rfl
  | ok envelope =>
    simp only [decode]
    rcases accepted : envelope.accept provider buffer with ⟨cause | done, rest⟩
    · exact (bind_of_error accepted).symm
    · rw [bind_of_ok accepted]
      rfl

theorem steady_reader (provider : Provider) (version : Version) :
    Steady AuthError.Truncated (provider.reader version) := by
  unfold reader
  cases version.envelope with
  | error cause => exact .throw cause
  | ok envelope =>
    exact (envelope.steady_accept provider).bind fun _ => provider.mechanism.steady_unpack

end Provider

namespace Site

variable {site later : Site} {provider : Provider}

theorem unpack_eq_reader (active : site.context.active = some provider) (version : Version)
    (buffer : Bytes) : (site.unpack version buffer).1 = provider.reader version buffer := by
  rw [unpack, dispatch_of_active active]
  exact provider.unpack_eq_reader version buffer site.history

/-- While a provider is active, what unpacking makes of a buffer does not depend on what follows: the
same credential is read off a longer one, and the same error found in it, unless the buffer was cut
short. The bytes that were taken make up the credential for themselves, and no fewer of them do. -/
theorem unpack_append (active : site.context.active = some provider)
    (still : later.context.active = some provider) (version : Version) (buffer : Bytes) :
    (∀ credential rest, (site.unpack version buffer).1 = (.ok credential, rest) →
      (∀ suffix, (later.unpack version (buffer ++ suffix)).1 = (.ok credential, rest ++ suffix)) ∧
      (∃ taken, buffer = taken ++ rest) ∧
      ∀ taken, buffer = taken ++ rest →
        (later.unpack version taken).1 = (.ok credential, []) ∧
        ∀ front back, taken = front ++ back → back ≠ [] →
          ∃ cause left, (later.unpack version front).1 = (.error cause, left) ∧
            cause.Truncated) ∧
    ∀ cause rest, (site.unpack version buffer).1 = (.error cause, rest) → ¬ cause.Truncated →
      ∀ suffix, (later.unpack version (buffer ++ suffix)).1 = (.error cause, rest ++ suffix) := by
  simp only [unpack_eq_reader active, unpack_eq_reader still]
  have steady := provider.steady_reader version
  constructor
  · intro credential rest unpacked
    refine ⟨steady.append unpacked, ?_, ?_⟩
    · obtain ⟨taken, same, -⟩ := steady.reads unpacked
      exact ⟨taken, same⟩
    · rintro taken rfl
      have reads := steady.reads_of_append unpacked
      constructor
      · simpa only [List.append_nil] using reads []
      · rintro front back rfl cut
        exact steady.short_of_cut reads cut
  · intro cause rest failed
    exact steady.fails failed

/-- A signed credential, and the envelope of a mechanism that is not active. -/
theorem unpack_append_sample :
    let signing : Provider := .ofMechanism (.signed Signed.sampleSigner)
    let site : Site := { context := .ofMechanism (.signed Signed.sampleSigner) }
    let packed := signing.packet .mechanismId Signed.sampleCredential
    (∀ suffix, (site.unpack .current (packed ++ suffix)).1 =
      (.ok (Signed.sampleCredential.received Signed.mechanismId), suffix)) ∧
    (∀ front back, packed = front ++ back → back ≠ [] →
      ∃ cause left, (site.unpack .current front).1 = (.error cause, left) ∧ cause.Truncated) ∧
    ∀ suffix, (site.unpack .current (Wire.word32 Claimed.mechanismId ++ suffix)).1 =
      (.error (.mismatch "100" "102"), suffix) := by
  intro signing site packed
  have active : site.context.active = some signing := rfl
  have admits : signing.Admits .current packed Signed.sampleCredential.state.payload :=
    ⟨_, _, .number (by decide), .number, rfl⟩
  have unpacked : (site.unpack .current packed).1 =
      (.ok (Signed.sampleCredential.received Signed.mechanismId), []) := by
    have own : Signed.sampleCredential.state.maker? = some signing.mechanism.kind := rfl
    have arrives := Mechanism.reads_unpack own Signed.fits_sample []
    rw [List.append_nil] at arrives
    rw [unpack_of_admits active admits]
    exact arrives
  have refused : (site.unpack .current (Wire.word32 Claimed.mechanismId)).1 =
      (.error (.mismatch "100" "102"), []) := rfl
  obtain ⟨extended, -, taken⟩ := (unpack_append active active .current packed).1 _ _ unpacked
  have whole : packed = packed ++ [] := (List.append_nil packed).symm
  refine ⟨extended, (taken packed whole).2, ?_⟩
  exact (unpack_append active active .current _).2 _ _ refused nofun

end Site

end Attest
