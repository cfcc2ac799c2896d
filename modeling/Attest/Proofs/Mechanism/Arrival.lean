import Attest.Proofs.Mechanism.Payload

/-!
Credentials that a mechanism has unpacked. They are of its own kind and carry its number, and their
fields are within the limits of reading; only a host that came without its terminator may be too long
to be written and read again.
-/

namespace Attest

namespace Mechanism

structure Arrived (mechanism : Mechanism) (credential : Credential) : Prop where
  received : credential.received mechanism.id = credential
  own : credential.state.maker? = some mechanism.kind
  fits : Wire.Fits credential.state.host? → credential.state.Fits
  limited : ∀ host, credential.state.host? = some host →
    (Utf8.encode host).length ≤ Wire.maxBlockLength

end Mechanism

theorem Claim.limited_of_read {claim : Claim} {buffer rest : Bytes}
    (accepted : read buffer = (.ok claim, rest)) {host : String} (named : claim.host = some host) :
    (Utf8.encode host).length ≤ Wire.maxBlockLength := by
  obtain ⟨_, afterGid, -, -, readHost⟩ := ok_of_read accepted
  rw [named] at readHost
  exact Wire.length_encode_le_of_readText readHost

/-- A claim's host is the only field of it that may not fit. -/
theorem SignedClaim.fits_of_read {signed : SignedClaim} {buffer rest : Bytes}
    (accepted : read buffer = (.ok signed, rest)) (host : Wire.Fits signed.claim.host) :
    signed.Fits := by
  obtain ⟨-, _, _, _, _, -, -, -, readNonce, readSignature⟩ := ok_of_read accepted
  exact {
    host := host
    nonce := (Wire.readBlock_ok_iff.1 readNonce).1
    signature := (Wire.readBlock_ok_iff.1 readSignature).1
  }

theorem Claimed.read_of_unpack {credential : Credential} {buffer rest : Bytes}
    (unpacked : unpack buffer = (.ok credential, rest)) :
    ∃ claim, credential = { mechanismId, state := .claimed claim } ∧
      Claim.read buffer = (.ok claim, rest) := by
  obtain ⟨claim, between, read, finished⟩ := ok_of_bind unpacked
  cases finished
  exact ⟨claim, rfl, Unpacker.ok_of_ofWire read⟩

theorem Rehearsal.read_of_unpack {setup : Rehearsal} {credential : Credential}
    {buffer rest : Bytes} (unpacked : setup.unpack buffer = (.ok credential, rest)) :
    ∃ claim, credential = { mechanismId := setup.mechanismId, state := .rehearsed claim } ∧
      Claim.read buffer = (.ok claim, rest) := by
  obtain ⟨claim, between, read, finished⟩ := ok_of_bind unpacked
  cases finished
  exact ⟨claim, rfl, Unpacker.ok_of_ofWire read⟩

theorem Bearer.bearer_of_unpack {setup : Bearer} {credential : Credential} {buffer rest : Bytes}
    (unpacked : setup.unpack buffer = (.ok credential, rest)) :
    ∃ uid, credential = { mechanismId := setup.mechanismId, state := .bearer uid } := by
  obtain ⟨uid, between, -, finished⟩ := ok_of_bind unpacked
  cases finished
  exact ⟨uid, rfl⟩

theorem Mechanism.arrived_of_unpack {mechanism : Mechanism} {credential : Credential}
    {buffer rest : Bytes} (unpacked : mechanism.unpack buffer = (.ok credential, rest)) :
    mechanism.Arrived credential := by
  cases mechanism with
  | claimed =>
    obtain ⟨claim, rfl, read⟩ := Claimed.read_of_unpack unpacked
    exact ⟨rfl, rfl, fun fits => fits, fun host => Claim.limited_of_read read⟩
  | signed signer =>
    obtain ⟨claim, rfl, read⟩ := Signed.read_of_unpack unpacked
    obtain ⟨received, afterClaim, _, _, _, readClaim, -⟩ := SignedClaim.ok_of_read read
    have same : (Credential.State.signed claim).received = .signed claim :=
      congrArg Credential.State.signed received
    refine ⟨?_, rfl, SignedClaim.fits_of_read read, fun host => Claim.limited_of_read readClaim⟩
    rw [Credential.received, same]
    rfl
  | rehearsal setup =>
    obtain ⟨claim, rfl, read⟩ := Rehearsal.read_of_unpack unpacked
    exact ⟨rfl, rfl, fun fits => fits, fun host => Claim.limited_of_read read⟩
  | bearer setup =>
    obtain ⟨uid, rfl⟩ := Bearer.bearer_of_unpack unpacked
    exact ⟨rfl, rfl, fun _ => trivial, nofun⟩

end Attest
