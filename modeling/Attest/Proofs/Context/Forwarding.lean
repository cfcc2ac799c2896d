import Attest.Proofs.Context.RoundTrip
import Attest.Proofs.Mechanism.Arrival

/-!
Packing what was unpacked. The reader takes a text with or without its terminator and the writer
always ends it with one, so a text that fills the limit of reading without it can be received and
packed, but what is packed is refused.
-/

namespace Attest

theorem Claim.reads_of_spells {uid gid : UInt32} {host : String} {octets : Bytes}
    (allowed : octets.length ≤ Wire.maxBlockLength)
    (spells : Wire.Spells octets (Utf8.encode host)) (filled : octets ≠ []) :
    Reads read (Wire.word32 uid ++ (Wire.word32 gid ++ Wire.block octets))
      { uid, gid, host := some host } := by
  apply (Wire.reads_word32 uid).bind
  apply (Wire.reads_word32 gid).bind
  exact (Wire.reads_text_of_spells allowed spells filled).bind_pure _

namespace Envelope

variable {provider : Provider} {envelope : Envelope} {front : Bytes}

/-- Where a name stands in the envelope, it leaves room for its terminator. -/
def HasRoom (envelope : Envelope) (provider : Provider) : Prop :=
  envelope = .mechanismName → (Utf8.encode provider.name).length ≠ Wire.maxBlockLength

theorem opens_own_header (opens : Opens provider envelope front)
    (room : envelope.HasRoom provider) : Opens provider envelope (envelope.header provider) := by
  cases opens with
  | number => exact .number
  | name named allowed spells width =>
    have most := Nat.le_trans (Wire.length_le_of_spells spells) allowed
    exact opens_header (.name named rfl) (Nat.lt_of_le_of_ne most (room rfl))

theorem refused_own_header (cramped : ¬ envelope.HasRoom provider) (payload : Bytes) :
    ∃ rest, Refused provider envelope (envelope.header provider ++ payload)
      (.decode (.tooLong (Wire.maxBlockLength + 1) Wire.maxBlockLength)) rest := by
  obtain ⟨rfl, full⟩ := Classical.not_imp.1 cramped
  have length := Classical.not_not.1 full
  have long : Wire.maxBlockLength < (UInt32.ofNat (Wire.maxBlockLength + 1)).toNat := by decide
  have written : header .mechanismName provider ++ payload =
      Wire.word32 (UInt32.ofNat (Wire.maxBlockLength + 1)) ++
        (Utf8.encode provider.name ++ [0] ++ Wire.word32 0 ++ payload) := by
    rw [header, Wire.text, length]
    simp only [List.append_assoc]
    rfl
  rw [written]
  exact ⟨_, .nameTooLong long⟩

end Envelope

namespace Provider

/-- Neither the name in the envelope of the version nor the host of the credential fills the limit of
reading, so both can be read again with their terminators. -/
structure Carries (provider : Provider) (version : Version) (credential : Credential) : Prop where
  name : version.number < Version.numbered.number →
    (Utf8.encode provider.name).length ≠ Wire.maxBlockLength
  host : ∀ host, credential.state.host? = some host →
    (Utf8.encode host).length ≠ Wire.maxBlockLength

theorem hasRoom_iff {provider : Provider} {version : Version} {envelope : Envelope}
    (selects : version.Selects envelope) :
    envelope.HasRoom provider ↔ (version.number < Version.numbered.number →
      (Utf8.encode provider.name).length ≠ Wire.maxBlockLength) := by
  cases selects with
  | number recent =>
    constructor
    · intro _ legacy
      exact absurd recent (UInt16.not_le.2 legacy)
    · intro _ same
      cases same
  | name supported legacy =>
    constructor
    · intro room _
      exact room rfl
    · intro room _
      exact room legacy

theorem full_of_not_carries {provider : Provider} {version : Version} {envelope : Envelope}
    {credential : Credential} (selects : version.Selects envelope)
    (room : envelope.HasRoom provider) (overfull : ¬ provider.Carries version credential) :
    ∃ host, credential.state.host? = some host ∧
      (Utf8.encode host).length = Wire.maxBlockLength := by
  refine Classical.byContradiction fun roomy => overfull ⟨(hasRoom_iff selects).1 room, ?_⟩
  intro host named full
  exact roomy ⟨host, named, full⟩

end Provider

namespace Site

variable {site later : Site} {provider : Provider} {version : Version} {credential : Credential}
  {buffer rest : Bytes}

/-- What a context has unpacked it has taken from behind an envelope that names its provider. -/
theorem arrived_of_unpack (active : site.context.active = some provider)
    (unpacked : (site.unpack version buffer).1 = (.ok credential, rest)) :
    ∃ envelope front, version.Selects envelope ∧ envelope.Opens provider front ∧
      provider.mechanism.Arrived credential := by
  rcases provider.admits_or_refuses version buffer with ⟨payload, admits⟩ | ⟨cause, left, refuses⟩
  · rw [unpack_of_admits active admits] at unpacked
    obtain ⟨envelope, front, selects, opens, -⟩ := admits
    exact ⟨envelope, front, selects, opens, Mechanism.arrived_of_unpack unpacked⟩
  · rw [unpack_of_refuses active refuses] at unpacked
    cases unpacked

variable {envelope : Envelope} {front : Bytes}

theorem unpack_own_packet (active : site.context.active = some provider)
    (selects : version.Selects envelope)
    (opens : envelope.Opens provider (envelope.header provider))
    (arrived : provider.mechanism.Arrived credential) (fits : credential.state.Fits)
    (trailing : Bytes) :
    (site.unpack version (provider.packet envelope credential ++ trailing)).1 =
      (.ok credential, trailing) := by
  obtain ⟨history, unpacked⟩ :=
    unpack_of_opens active selects.envelope_eq opens arrived.own fits trailing
  rw [unpacked, arrived.received]

theorem unpack_own_packet_of_full {host : String} (active : site.context.active = some provider)
    (selects : version.Selects envelope)
    (opens : envelope.Opens provider (envelope.header provider))
    (own : credential.state.maker? = some provider.mechanism.kind)
    (named : credential.state.host? = some host)
    (full : (Utf8.encode host).length = Wire.maxBlockLength) (trailing : Bytes) :
    ∃ left, (site.unpack version (provider.packet envelope credential ++ trailing)).1 =
      (.error (.decode (.tooLong (Wire.maxBlockLength + 1) Wire.maxBlockLength)), left) := by
  have declared : (Utf8.encode host).length + 1 < BigEndian.capacity 4 := by
    rw [full]
    decide
  have refused := unpack_of_opens_tooLong active selects.envelope_eq opens own named
    (Nat.le_of_eq full.symm) declared trailing
  rwa [full] at refused

/-- Whatever a context has unpacked it packs again, and what it packs it unpacks as the same
credential. The one exception is a text that had come without its terminator and has no room for it:
the host, or the name in an envelope that carries one, is then refused as too long. -/
theorem unpack_forwarded (active : site.context.active = some provider)
    (still : later.context.active = some provider)
    (unpacked : (site.unpack version buffer).1 = (.ok credential, rest)) :
    ∃ packed,
      (∀ output, (later.pack version credential output).1 = (.ok (), output ++ packed)) ∧
      ∀ trailing,
        (provider.Carries version credential →
          (later.unpack version (packed ++ trailing)).1 = (.ok credential, trailing)) ∧
        (¬ provider.Carries version credential →
          ∃ left, (later.unpack version (packed ++ trailing)).1 =
            (.error (.decode (.tooLong (Wire.maxBlockLength + 1) Wire.maxBlockLength)), left)) := by
  obtain ⟨envelope, front, selects, opens, arrived⟩ := arrived_of_unpack active unpacked
  refine ⟨provider.packet envelope credential, ?_, ?_⟩
  · intro output
    obtain ⟨history, packed⟩ := pack_of_maker still selects.envelope_eq arrived.own output
    rw [packed]
  · intro trailing
    constructor
    · rintro ⟨name, host⟩
      have header := Envelope.opens_own_header opens ((Provider.hasRoom_iff selects).2 name)
      have fits : credential.state.Fits := arrived.fits fun text named =>
        Nat.lt_of_le_of_ne (arrived.limited text named) (host text named)
      exact unpack_own_packet still selects header arrived fits trailing
    · intro overfull
      by_cases room : envelope.HasRoom provider
      · have header := Envelope.opens_own_header opens room
        obtain ⟨host, named, full⟩ := Provider.full_of_not_carries selects room overfull
        exact unpack_own_packet_of_full still selects header arrived.own named full trailing
      · obtain ⟨left, refused⟩ :=
          Envelope.refused_own_header room (credential.state.payload ++ trailing)
        refine ⟨left, ?_⟩
        rw [Provider.packet, List.append_assoc,
          unpack_of_refuses still (.sealed selects refused)]

/-- A claim that comes with a host as the octets, as the current version of `auth/none` has it. -/
def arrivingClaim (octets : Bytes) : Bytes :=
  Wire.word32 Claimed.mechanismId ++ (Wire.word32 7 ++ (Wire.word32 8 ++ Wire.block octets))

def arrivedClaim (host : String) : Credential where
  mechanismId := Claimed.mechanismId
  state := .claimed { uid := 7, gid := 8, host := some host }

theorem unpack_arrivingClaim {octets : Bytes} {host : String}
    (active : site.context.active = some (.ofMechanism .claimed))
    (allowed : octets.length ≤ Wire.maxBlockLength)
    (spells : Wire.Spells octets (Utf8.encode host)) (filled : octets ≠ []) :
    (site.unpack .current (arrivingClaim octets)).1 = (.ok (arrivedClaim host), []) := by
  have admits : (Provider.ofMechanism .claimed).Admits .current (arrivingClaim octets)
      (Wire.word32 7 ++ (Wire.word32 8 ++ Wire.block octets)) :=
    ⟨_, _, .number (by decide), .number, rfl⟩
  have reads : Reads Claimed.unpack (Wire.word32 7 ++ (Wire.word32 8 ++ Wire.block octets))
      (arrivedClaim host) :=
    (Unpacker.reads_ofWire (Claim.reads_of_spells allowed spells filled)).bind_pure _
  have arrived := reads []
  rw [List.append_nil] at arrived
  rw [unpack_of_admits active admits]
  exact arrived

/-- A host that came without its terminator is packed with it and arrives again. -/
theorem unpack_forwarded_sample :
    let site : Site := { context := .ofMechanism .claimed }
    let octets := Utf8.encode "node01"
    (site.unpack .current (arrivingClaim octets)).1 = (.ok (arrivedClaim "node01"), []) ∧
      ∃ packed, (∀ output, (site.pack .current (arrivedClaim "node01") output).1 =
          (.ok (), output ++ packed)) ∧
        ∀ trailing, (site.unpack .current (packed ++ trailing)).1 =
          (.ok (arrivedClaim "node01"), trailing) := by
  intro site octets
  have active : site.context.active = some (.ofMechanism .claimed) := rfl
  have arrived : (site.unpack .current (arrivingClaim octets)).1 =
      (.ok (arrivedClaim "node01"), []) :=
    unpack_arrivingClaim active (by decide +kernel) (.inr ⟨rfl, by decide +kernel⟩)
      (by decide +kernel)
  have carries : (Provider.ofMechanism .claimed).Carries .current (arrivedClaim "node01") := {
    name := fun legacy => absurd legacy (by decide)
    host := by
      rintro host ⟨⟩
      decide +kernel
  }
  obtain ⟨packed, packs, unpacks⟩ := unpack_forwarded active active arrived
  exact ⟨arrived, packed, packs, fun trailing => (unpacks trailing).1 carries⟩

theorem refused_of_full_host {host : String}
    (active : site.context.active = some (.ofMechanism .claimed))
    (full : (Utf8.encode host).length = Wire.maxBlockLength)
    (unended : (Utf8.encode host).getLast? ≠ some 0) :
    (site.unpack .current (arrivingClaim (Utf8.encode host))).1 = (.ok (arrivedClaim host), []) ∧
      ∃ packed left, (site.pack .current (arrivedClaim host) []).1 = (.ok (), packed) ∧
        [0, 0, 0, 100, 0, 0, 0, 7, 0, 0, 0, 8, 1, 0, 0, 1] <+: packed ∧
        (site.unpack .current packed).1 =
          (.error (.decode (.tooLong (Wire.maxBlockLength + 1) Wire.maxBlockLength)), left) := by
  have selects : Version.current.Selects .mechanismId := .number (by decide)
  have own : (arrivedClaim host).state.maker? =
      some (Provider.ofMechanism .claimed).mechanism.kind := rfl
  have filled : Utf8.encode host ≠ [] :=
    List.ne_nil_of_length_pos (Nat.lt_of_lt_of_eq (by decide) full.symm)
  constructor
  · exact unpack_arrivingClaim active (Nat.le_of_eq full) (.inr ⟨rfl, unended⟩) filled
  · obtain ⟨history, packed⟩ := pack_of_maker active selects.envelope_eq own []
    obtain ⟨left, refused⟩ := unpack_own_packet_of_full active selects .number own rfl full []
    rw [List.append_nil] at refused
    refine ⟨_, left, congrArg Prod.fst packed, ⟨Utf8.encode host ++ [0], ?_⟩, refused⟩
    have written : (arrivedClaim host).state.payload =
        Wire.word32 7 ++ Wire.word32 8 ++
          (Wire.lengthWord (Wire.maxBlockLength + 1) ++ Utf8.encode host ++ [0]) := by
      rw [← full]
      rfl
    rw [Provider.packet, written]
    rfl

theorem refused_of_full_name {setup : Bearer}
    (active : site.context.active = some (.ofMechanism (.bearer setup)))
    (full : (Utf8.encode setup.mechanismName).length = Wire.maxBlockLength)
    (unended : (Utf8.encode setup.mechanismName).getLast? ≠ some 0) (uid : UInt32) :
    let credential : Credential := { mechanismId := setup.mechanismId, state := .bearer uid }
    let envelope := Wire.block (Utf8.encode setup.mechanismName) ++ Wire.word32 0
    (site.unpack .oldest (envelope ++ Wire.word32 uid)).1 = (.ok credential, []) ∧
      ∃ packed left, (site.pack .oldest credential []).1 = (.ok (), packed) ∧
        (site.unpack .oldest packed).1 =
          (.error (.decode (.tooLong (Wire.maxBlockLength + 1) Wire.maxBlockLength)), left) := by
  intro credential envelope
  have selects : Version.oldest.Selects .mechanismName := .name (by decide) (by decide)
  have named : setup.mechanismName ≠ "" := by
    intro unnamed
    rw [unnamed] at full
    exact absurd full (by decide)
  constructor
  · have opens : Envelope.Opens (.ofMechanism (.bearer setup)) .mechanismName envelope :=
      .name named (Nat.le_of_eq full) (.inr ⟨rfl, unended⟩) rfl
    have reads : Reads (Bearer.unpack setup) (Wire.word32 uid) credential :=
      (Unpacker.reads_ofWire (Wire.reads_word32 uid)).bind_pure _
    have arrived := reads []
    rw [List.append_nil] at arrived
    rw [unpack_of_admits active ⟨_, _, selects, opens, rfl⟩]
    exact arrived
  · have own : credential.state.maker? =
        some (Provider.ofMechanism (.bearer setup)).mechanism.kind := rfl
    have cramped : ¬ Envelope.HasRoom .mechanismName (.ofMechanism (.bearer setup)) :=
      fun room => room rfl full
    obtain ⟨history, packed⟩ := pack_of_maker active selects.envelope_eq own []
    obtain ⟨left, refused⟩ := Envelope.refused_own_header cramped credential.state.payload
    refine ⟨_, left, congrArg Prod.fst packed, ?_⟩
    exact congrArg Prod.fst (unpack_of_refuses active (.sealed selects refused))

theorem unended_textOfLength (count : Nat) :
    (Utf8.encode (textOfLength count)).getLast? ≠ some 0 := by
  intro ended
  have member := List.mem_of_getLast? ended
  rw [encode_textOfLength] at member
  cases List.eq_of_mem_replicate member

/-- A credential that has arrived may be packed into bytes that are refused, for its host or for the
name of its mechanism. The length that a host is refused for stands at the front of them. -/
theorem arrived_not_forwarded :
    let longest := textOfLength Wire.maxBlockLength
    let site : Site := { context := .ofMechanism .claimed }
    let trusting : Site := {
      context := .ofMechanism (.bearer { mechanismId := 7, mechanismName := longest })
    }
    let borne : Credential := { mechanismId := 7, state := .bearer 7 }
    ((site.unpack .current (arrivingClaim (Utf8.encode longest))).1 =
        (.ok (arrivedClaim longest), []) ∧
      ∃ packed left, (site.pack .current (arrivedClaim longest) []).1 = (.ok (), packed) ∧
        [0, 0, 0, 100, 0, 0, 0, 7, 0, 0, 0, 8, 1, 0, 0, 1] <+: packed ∧
        (site.unpack .current packed).1 =
          (.error (.decode (.tooLong (Wire.maxBlockLength + 1) Wire.maxBlockLength)), left)) ∧
    (trusting.unpack .oldest
        (Wire.block (Utf8.encode longest) ++ Wire.word32 0 ++ Wire.word32 7)).1 =
        (.ok borne, []) ∧
      ∃ packed left, (trusting.pack .oldest borne []).1 = (.ok (), packed) ∧
        (trusting.unpack .oldest packed).1 =
          (.error (.decode (.tooLong (Wire.maxBlockLength + 1) Wire.maxBlockLength)), left) := by
  intro longest site trusting borne
  have full : (Utf8.encode longest).length = Wire.maxBlockLength := length_textOfLength _
  have unended : (Utf8.encode longest).getLast? ≠ some 0 := unended_textOfLength _
  have trusted : trusting.context.active =
      some (.ofMechanism (.bearer { mechanismId := 7, mechanismName := longest })) := rfl
  have refused := refused_of_full_name trusted full unended 7
  exact ⟨refused_of_full_host rfl full unended, refused⟩

end Site

end Attest
