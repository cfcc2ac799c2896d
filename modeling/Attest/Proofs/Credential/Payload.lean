import Attest.Mechanism
import Attest.Proofs.Wire.Reading

/-!
What mechanisms write for a credential, and what they read back. What is written takes no account of
what a holder has learned about the credential, and none of it arrives.
-/

namespace Attest

namespace Claim

variable {claim : Claim} {buffer rest : Bytes}

theorem reads (fits : Wire.Fits claim.host) : Reads read claim.bytes claim := by
  rw [bytes, List.append_assoc]
  apply (Wire.reads_word32 claim.uid).bind
  apply (Wire.reads_word32 claim.gid).bind
  exact (Wire.reads_text fits).bind_pure _

theorem read_of_tooLong {host : String} (named : claim.host = some host)
    (long : Wire.maxBlockLength ≤ (Utf8.encode host).length)
    (declared : (Utf8.encode host).length + 1 < BigEndian.capacity 4) (rest : Bytes) :
    read (claim.bytes ++ rest) =
      (.error (.tooLong ((Utf8.encode host).length + 1) Wire.maxBlockLength),
        Utf8.encode host ++ [0] ++ rest) := by
  rw [bytes, named, List.append_assoc, List.append_assoc]
  unfold read
  rw [bind_of_ok (Wire.reads_word32 claim.uid _), bind_of_ok (Wire.reads_word32 claim.gid _)]
  exact bind_of_error (Wire.readText_of_tooLong long declared rest)

theorem ok_of_read (accepted : read buffer = (.ok claim, rest)) :
    ∃ afterUid afterGid, Wire.readWord32 buffer = (.ok claim.uid, afterUid) ∧
      Wire.readWord32 afterUid = (.ok claim.gid, afterGid) ∧
      Wire.readText afterGid = (.ok claim.host, rest) := by
  obtain ⟨uid, afterUid, readUid, accepted⟩ := ok_of_bind accepted
  obtain ⟨gid, afterGid, readGid, accepted⟩ := ok_of_bind accepted
  obtain ⟨host, afterHost, readHost, accepted⟩ := ok_of_bind accepted
  cases accepted
  exact ⟨afterUid, afterGid, readUid, readGid, readHost⟩

end Claim

namespace SignedClaim

/-- Its holder has learned nothing about the claim yet. -/
def received (signed : SignedClaim) : SignedClaim :=
  { signed with verified := false, lastError := 0 }

/-- All fields are within the limits of what is read. -/
structure Fits (signed : SignedClaim) : Prop where
  host : Wire.Fits signed.claim.host
  nonce : signed.nonce.length ≤ Wire.maxBlockLength
  signature : signed.signature.length ≤ Wire.maxBlockLength

variable {signed : SignedClaim} {buffer rest : Bytes}

theorem reads (fits : signed.Fits) : Reads read signed.bytes signed.received := by
  simp only [bytes, signedBytes, List.append_assoc]
  apply (Claim.reads fits.host).bind
  apply (Wire.reads_word64 signed.created).bind
  apply (Wire.reads_word64 signed.expires).bind
  apply (Wire.reads_block fits.nonce).bind
  exact (Wire.reads_block fits.signature).bind_pure _

theorem read_of_tooLong {host : String} (named : signed.claim.host = some host)
    (long : Wire.maxBlockLength ≤ (Utf8.encode host).length)
    (declared : (Utf8.encode host).length + 1 < BigEndian.capacity 4) (rest : Bytes) :
    ∃ left, read (signed.bytes ++ rest) =
      (.error (.tooLong ((Utf8.encode host).length + 1) Wire.maxBlockLength), left) := by
  simp only [bytes, signedBytes, List.append_assoc]
  exact ⟨_, bind_of_error (Claim.read_of_tooLong named long declared _)⟩

/-- What its holder would learn of a claim is not on the wire. -/
theorem ok_of_read (accepted : read buffer = (.ok signed, rest)) :
    signed.received = signed ∧
      ∃ afterClaim afterCreated afterExpires afterNonce,
        Claim.read buffer = (.ok signed.claim, afterClaim) ∧
        Wire.readWord64 afterClaim = (.ok signed.created, afterCreated) ∧
        Wire.readWord64 afterCreated = (.ok signed.expires, afterExpires) ∧
        Wire.readBlock afterExpires = (.ok signed.nonce, afterNonce) ∧
        Wire.readBlock afterNonce = (.ok signed.signature, rest) := by
  obtain ⟨claim, afterClaim, readClaim, accepted⟩ := ok_of_bind accepted
  obtain ⟨created, afterCreated, readCreated, accepted⟩ := ok_of_bind accepted
  obtain ⟨expires, afterExpires, readExpires, accepted⟩ := ok_of_bind accepted
  obtain ⟨nonce, afterNonce, readNonce, accepted⟩ := ok_of_bind accepted
  obtain ⟨signature, afterSignature, readSignature, accepted⟩ := ok_of_bind accepted
  cases accepted
  exact ⟨rfl, afterClaim, afterCreated, afterExpires, afterNonce, readClaim, readCreated,
    readExpires, readNonce, readSignature⟩

end SignedClaim

namespace Unpacker

variable {reader : Wire.Reader α} {buffer rest : Bytes}

theorem ofWire_of_ok {value : α} (read : reader buffer = (.ok value, rest)) :
    ofWire reader buffer = (.ok value, rest) := by
  change (match reader buffer with
    | (answer, left) => (answer.mapError AuthError.decode, left)) = (.ok value, rest)
  rw [read]
  rfl

theorem ofWire_of_error {cause : Wire.Error} (failed : reader buffer = (.error cause, rest)) :
    ofWire reader buffer = (.error (.decode cause), rest) := by
  change (match reader buffer with
    | (answer, left) => (answer.mapError AuthError.decode, left)) = (.error (.decode cause), rest)
  rw [failed]
  rfl

theorem ok_of_ofWire {value : α} (unpacked : ofWire reader buffer = (.ok value, rest)) :
    reader buffer = (.ok value, rest) := by
  cases read : reader buffer with
  | mk answer left =>
    cases answer with
    | error cause =>
      rw [ofWire_of_error read] at unpacked
      cases unpacked
    | ok other =>
      rw [ofWire_of_ok read] at unpacked
      cases unpacked
      rfl

theorem reads_ofWire {bytes : Bytes} {value : α} (reads : Reads reader bytes value) :
    Reads (ofWire reader) bytes value :=
  fun rest => ofWire_of_ok (reads rest)

end Unpacker

end Attest
