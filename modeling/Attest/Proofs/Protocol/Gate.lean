import Attest.Proofs.Context.Dispatch
import Attest.Proofs.Protocol.Envelope
import Attest.Proofs.Wire.Text

/-!
The gate in front of a mechanism's decoder. `Opens` says which bytes open it, and `Refused` what is
answered, and what is left of a buffer, when none of them stand at its front.
-/

namespace Attest

namespace Version

/-- The envelope that a supported version calls for. -/
inductive Selects (version : Version) : Envelope → Prop where
  | number (recent : numbered.number ≤ version.number) : Selects version .mechanismId
  | name (supported : oldest.number ≤ version.number)
    (legacy : version.number < numbered.number) : Selects version .mechanismName

variable {version : Version} {envelope : Envelope}

theorem Selects.envelope_eq (selects : version.Selects envelope) :
    version.envelope = .ok envelope := by
  cases selects with
  | number recent => exact if_pos recent
  | name supported legacy => rw [Version.envelope, if_neg (UInt16.not_le.2 legacy), if_pos supported]

theorem envelope_of_old (old : version.number < oldest.number) :
    version.envelope = .error (.unsupportedVersion version.number) := by
  have legacy : ¬ version.number ≥ numbered.number :=
    UInt16.not_le.2 (UInt16.lt_trans old (by decide))
  rw [Version.envelope, if_neg legacy, if_neg (UInt16.not_le.2 old)]

theorem old_or_selects (version : Version) :
    version.number < oldest.number ∨ ∃ envelope, version.Selects envelope := by
  by_cases recent : numbered.number ≤ version.number
  · exact .inr ⟨_, .number recent⟩
  · by_cases supported : oldest.number ≤ version.number
    · exact .inr ⟨_, .name supported (UInt16.not_le.1 recent)⟩
    · exact .inl (UInt16.not_le.1 supported)

end Version

namespace Envelope

/-- What may stand in front of a payload for the provider. The reserved bytes do not matter. -/
inductive Opens (provider : Provider) : Envelope → Bytes → Prop where
  | number : Opens provider .mechanismId (Wire.word32 provider.id)
  | name {octets reserved : Bytes} (named : provider.name ≠ "")
    (allowed : octets.length ≤ Wire.maxBlockLength)
    (spells : Wire.Spells octets (Utf8.encode provider.name)) (width : reserved.length = 4) :
    Opens provider .mechanismName (Wire.block octets ++ reserved)

/-- Why a buffer that nothing opens is refused, and what is left of it. -/
inductive Refused (provider : Provider) : Envelope → Bytes → AuthError → Bytes → Prop where
  | numberMissing {buffer : Bytes} (short : buffer.length < 4) :
    Refused provider .mechanismId buffer (.decode (.truncated 4 buffer.length)) buffer
  | otherNumber {remote : UInt32} {rest : Bytes} (differs : remote ≠ provider.id) :
    Refused provider .mechanismId (Wire.word32 remote ++ rest)
      (.mismatch (toString remote.toNat) (toString provider.id.toNat)) rest
  | lengthMissing {buffer : Bytes} (short : buffer.length < 4) :
    Refused provider .mechanismName buffer (.decode (.truncated 4 buffer.length)) buffer
  | nameTooLong {count : UInt32} {rest : Bytes} (long : Wire.maxBlockLength < count.toNat) :
    Refused provider .mechanismName (Wire.word32 count ++ rest)
      (.decode (.tooLong count.toNat Wire.maxBlockLength)) rest
  | nameMissing {count : UInt32} {rest : Bytes} (allowed : count.toNat ≤ Wire.maxBlockLength)
    (short : rest.length < count.toNat) :
    Refused provider .mechanismName (Wire.word32 count ++ rest)
      (.decode (.truncated count.toNat rest.length)) rest
  | otherName {octets rest : Bytes} (allowed : octets.length ≤ Wire.maxBlockLength)
    (differs : provider.name ≠ "" → ¬ Wire.Spells octets (Utf8.encode provider.name)) :
    Refused provider .mechanismName (Wire.block octets ++ rest)
      (.mismatch (remoteName (Wire.dropTerminator octets)) provider.name) rest
  | reservedMissing {octets rest : Bytes} (named : provider.name ≠ "")
    (allowed : octets.length ≤ Wire.maxBlockLength)
    (spells : Wire.Spells octets (Utf8.encode provider.name)) (short : rest.length < 4) :
    Refused provider .mechanismName (Wire.block octets ++ rest)
      (.decode (.truncated 4 rest.length)) rest

variable {provider : Provider} {envelope : Envelope} {front buffer rest : Bytes}
  {cause : AuthError}

theorem matches_iff {octets : Bytes} :
    ¬((Wire.dropTerminator octets).isEmpty = true ∨
        Wire.dropTerminator octets ≠ Utf8.encode provider.name) ↔
      provider.name ≠ "" ∧ Wire.Spells octets (Utf8.encode provider.name) := by
  rw [← Wire.dropTerminator_eq_iff, List.isEmpty_iff]
  constructor
  · intro neither
    have same : Wire.dropTerminator octets = Utf8.encode provider.name :=
      Decidable.not_not.1 fun differs => neither (.inr differs)
    refine ⟨?_, same⟩
    intro unnamed
    rw [unnamed, Utf8.encode_empty] at same
    exact neither (.inl same)
  · rintro ⟨named, same⟩ (empty | differs)
    · exact Utf8.encode_ne_nil named (same.symm.trans empty)
    · exact differs same

theorem Opens.reads (opens : Opens provider envelope front) :
    Reads (envelope.accept provider) front () := by
  cases opens with
  | number =>
    intro rest
    simp only [accept]
    rw [bind_of_ok (Unpacker.reads_ofWire (Wire.reads_word32 provider.id) rest),
      if_neg (fun differs => differs rfl)]
    rfl
  | name named allowed spells width =>
    obtain ⟨value, rfl⟩ := Wire.exists_eq_word32 width
    simp only [accept]
    apply (Unpacker.reads_ofWire (Wire.reads_block allowed)).bind
    rw [if_neg (matches_iff.2 ⟨named, spells⟩)]
    exact (Unpacker.reads_ofWire (Wire.reads_word32 value)).bind_pure _

theorem Refused.accept_eq (refused : Refused provider envelope buffer cause rest) :
    envelope.accept provider buffer = (.error cause, rest) := by
  cases refused with
  | numberMissing short =>
    exact bind_of_error (Unpacker.ofWire_of_error (Wire.readWord32_of_short short))
  | otherNumber differs =>
    simp only [accept]
    rw [bind_of_ok (Unpacker.reads_ofWire (Wire.reads_word32 _) rest), if_pos differs]
    rfl
  | lengthMissing short =>
    exact bind_of_error (Unpacker.ofWire_of_error (Wire.readBlock_of_short short))
  | @nameTooLong count rest long =>
    exact bind_of_error (Unpacker.ofWire_of_error
      (Wire.readBlock_of_tooLong count.toNat_lt long rest))
  | nameMissing allowed short =>
    exact bind_of_error (Unpacker.ofWire_of_error (Wire.readBlock_of_truncated allowed short))
  | otherName allowed differs =>
    simp only [accept]
    rw [bind_of_ok (Unpacker.reads_ofWire (Wire.reads_block allowed) rest), if_pos]
    · rfl
    · refine Decidable.not_not.1 fun matching => ?_
      obtain ⟨named, spells⟩ := matches_iff.1 matching
      exact differs named spells
  | reservedMissing named allowed spells short =>
    simp only [accept]
    rw [bind_of_ok (Unpacker.reads_ofWire (Wire.reads_block allowed) rest),
      if_neg (matches_iff.2 ⟨named, spells⟩)]
    exact bind_of_error (Unpacker.ofWire_of_error (Wire.readWord32_of_short short))

theorem opens_or_refused (provider : Provider) (envelope : Envelope) (buffer : Bytes) :
    (∃ front payload, Opens provider envelope front ∧ buffer = front ++ payload) ∨
      ∃ cause rest, Refused provider envelope buffer cause rest := by
  cases envelope with
  | mechanismId =>
    by_cases short : buffer.length < 4
    · exact .inr ⟨_, _, .numberMissing short⟩
    obtain ⟨remote, rest, rfl⟩ := Wire.exists_word32 (Nat.not_lt.1 short)
    by_cases same : remote = provider.id
    · subst same
      exact .inl ⟨_, rest, .number, rfl⟩
    · exact .inr ⟨_, _, .otherNumber same⟩
  | mechanismName =>
    by_cases short : buffer.length < 4
    · exact .inr ⟨_, _, .lengthMissing short⟩
    obtain ⟨count, rest, rfl⟩ := Wire.exists_word32 (Nat.not_lt.1 short)
    by_cases long : Wire.maxBlockLength < count.toNat
    · exact .inr ⟨_, _, .nameTooLong long⟩
    by_cases missing : rest.length < count.toNat
    · exact .inr ⟨_, _, .nameMissing (Nat.not_lt.1 long) missing⟩
    obtain ⟨octets, after, width, block⟩ := Wire.exists_block (Nat.not_lt.1 missing)
    have allowed : octets.length ≤ Wire.maxBlockLength := width ▸ Nat.not_lt.1 long
    rw [block]
    by_cases matching : provider.name ≠ "" ∧ Wire.Spells octets (Utf8.encode provider.name)
    · obtain ⟨named, spells⟩ := matching
      by_cases unreserved : after.length < 4
      · exact .inr ⟨_, _, .reservedMissing named allowed spells unreserved⟩
      · have width : (after.take 4).length = 4 := List.length_take_of_le (Nat.not_lt.1 unreserved)
        refine .inl ⟨_, after.drop 4, .name named allowed spells width, ?_⟩
        rw [List.append_assoc, List.take_append_drop]
    · exact .inr ⟨_, _, .otherName allowed fun named spells => matching ⟨named, spells⟩⟩

/-- The receiver takes what the sender packs for its own. -/
inductive Recognizes (receiver sender : Provider) : Envelope → Prop where
  | number (same : sender.id = receiver.id) : Recognizes receiver sender .mechanismId
  | name (named : sender.name ≠ "") (same : sender.name = receiver.name) :
    Recognizes receiver sender .mechanismName

variable {sender receiver : Provider}

theorem opens_header (recognizes : Recognizes receiver sender envelope)
    (short : (Utf8.encode sender.name).length < Wire.maxBlockLength) :
    Opens receiver envelope (envelope.header sender) := by
  cases recognizes with
  | number same =>
    rw [header, same]
    exact .number
  | name named same =>
    rw [header, Wire.text_eq_block]
    apply Opens.name (same ▸ named)
    · rw [Wire.octets, List.length_append]
      exact short
    · rw [same]
      exact .inl rfl
    · rfl

/-- A header that is not recognized is read as far as it names its sender. -/
theorem refused_header (unrecognized : ¬ Recognizes receiver sender envelope)
    (short : (Utf8.encode sender.name).length < Wire.maxBlockLength) (payload : Bytes) :
    ∃ remote own rest,
      Refused receiver envelope (envelope.header sender ++ payload) (.mismatch remote own) rest := by
  cases envelope with
  | mechanismId =>
    exact ⟨_, _, _, .otherNumber fun same => unrecognized (.number same)⟩
  | mechanismName =>
    have allowed : (Wire.octets (some sender.name)).length ≤ Wire.maxBlockLength := by
      rw [Wire.octets, List.length_append]
      exact short
    rw [header, Wire.text_eq_block, List.append_assoc]
    refine ⟨_, _, _, .otherName allowed ?_⟩
    intro named spells
    have same : sender.name = receiver.name := by
      apply Utf8.encode_inj.1
      rw [← Wire.dropTerminator_eq_iff.2 spells, Wire.octets, Wire.dropTerminator_append_zero]
    exact unrecognized (.name (same ▸ named) same)

end Envelope

namespace Provider

/-- What follows an envelope that names the provider, in a buffer of the version. -/
def Admits (provider : Provider) (version : Version) (buffer payload : Bytes) : Prop :=
  ∃ envelope front, version.Selects envelope ∧ envelope.Opens provider front ∧
    buffer = front ++ payload

inductive Refuses (provider : Provider) (version : Version) (buffer : Bytes) :
    AuthError → Bytes → Prop where
  | unsupported (old : version.number < Version.oldest.number) :
    Refuses provider version buffer (.unsupportedVersion version.number) buffer
  | sealed {envelope : Envelope} {cause : AuthError} {rest : Bytes}
    (selects : version.Selects envelope)
    (refused : envelope.Refused provider buffer cause rest) :
    Refuses provider version buffer cause rest

variable {provider : Provider} {version : Version} {buffer payload rest : Bytes}
  {cause : AuthError}

theorem admits_or_refuses (provider : Provider) (version : Version) (buffer : Bytes) :
    (∃ payload, provider.Admits version buffer payload) ∨
      ∃ cause rest, provider.Refuses version buffer cause rest := by
  rcases version.old_or_selects with old | ⟨envelope, selects⟩
  · exact .inr ⟨_, _, .unsupported old⟩
  · rcases Envelope.opens_or_refused provider envelope buffer with
      ⟨front, payload, opens, same⟩ | ⟨cause, rest, refused⟩
    · exact .inl ⟨payload, envelope, front, selects, opens, same⟩
    · exact .inr ⟨cause, rest, .sealed selects refused⟩

theorem unpack_of_admits (admits : provider.Admits version buffer payload) (history : History) :
    provider.unpack version buffer history =
      (provider.mechanism.unpack payload, .asked provider.object .unpack :: history) := by
  obtain ⟨envelope, front, selects, opens, rfl⟩ := admits
  simp only [unpack, selects.envelope_eq, decode, opens.reads payload, ask]

theorem unpack_of_refuses (refuses : provider.Refuses version buffer cause rest)
    (history : History) :
    provider.unpack version buffer history = ((.error cause, rest), history) := by
  cases refuses with
  | unsupported old => simp only [unpack, Version.envelope_of_old old]
  | sealed selects refused =>
    simp only [unpack, selects.envelope_eq, decode, refused.accept_eq]

theorem ok_of_unpack {credential : Credential} {history : History}
    (unpacked : (provider.unpack version buffer history).1 = (.ok credential, rest)) :
    ∃ payload, provider.mechanism.unpack payload = (.ok credential, rest) := by
  rcases provider.admits_or_refuses version buffer with ⟨payload, admits⟩ | ⟨cause, left, refuses⟩
  · rw [unpack_of_admits admits] at unpacked
    exact ⟨payload, unpacked⟩
  · rw [unpack_of_refuses refuses] at unpacked
    cases unpacked

theorem maker_of_encode {envelope : Envelope} {credential : Credential} {history : History}
    (done : (provider.encode envelope credential buffer history).1.1 = .ok ()) :
    credential.state.maker? = some provider.mechanism.kind :=
  Mechanism.maker_of_pack ((Packer.answer_behind _ _ _).symm.trans done)

/-- Whatever a provider packs is a credential of its own kind, behind a header of its own. -/
theorem packet_of_pack {credential : Credential} {packed : Bytes} {history : History}
    (done : (provider.pack version credential buffer history).1 = (.ok (), buffer ++ packed)) :
    ∃ envelope, version.Selects envelope ∧
      credential.state.maker? = some provider.mechanism.kind ∧
      packed = provider.packet envelope credential := by
  rcases version.old_or_selects with old | ⟨envelope, selects⟩
  · simp only [pack, Version.envelope_of_old old] at done
    cases done
  · simp only [pack, selects.envelope_eq] at done
    have own : credential.state.maker? = some provider.mechanism.kind :=
      maker_of_encode (congrArg Prod.fst done)
    rw [encode_of_maker envelope own] at done
    exact ⟨envelope, selects, own, (List.append_cancel_left (congrArg Prod.snd done)).symm⟩

end Provider

namespace Site

/-- The site once the provider's mechanism has been asked. -/
def asking (site : Site) (provider : Provider) (operation : Operation) : Site :=
  { site with history := .asked provider.object operation :: site.history }

theorem count_asking (site : Site) (provider : Provider) (operation : Operation) :
    (site.asking provider operation).history.count provider.object operation =
      site.history.count provider.object operation + 1 :=
  List.count_cons_self

variable {site : Site} {provider : Provider}

theorem unpack_of_admits (active : site.context.active = some provider) {version : Version}
    {buffer payload : Bytes} (admits : provider.Admits version buffer payload) :
    site.unpack version buffer = (provider.mechanism.unpack payload, site.asking provider .unpack) := by
  rw [unpack, dispatch_of_active active, Provider.unpack_of_admits admits]
  rfl

theorem unpack_of_refuses (active : site.context.active = some provider) {version : Version}
    {buffer rest : Bytes} {cause : AuthError}
    (refuses : provider.Refuses version buffer cause rest) :
    site.unpack version buffer = ((.error cause, rest), site) := by
  rw [unpack, dispatch_of_active active, Provider.unpack_of_refuses refuses]

/-- The decoder of the active mechanism is handed what follows an envelope that names its provider,
once, and is not asked otherwise. What another provider packs reaches it if the two go by the same
number or, before numbers stood in envelopes, by the same name. -/
theorem unpack_gate (active : site.context.active = some provider) (version : Version) :
    (∀ buffer payload, provider.Admits version buffer payload →
      site.unpack version buffer =
        (provider.mechanism.unpack payload, site.asking provider .unpack)) ∧
    (∀ buffer, (∀ payload, ¬ provider.Admits version buffer payload) →
      ∃ cause rest, provider.Refuses version buffer cause rest ∧
        site.unpack version buffer = ((.error cause, rest), site)) ∧
    (∀ buffer,
      (site.unpack version buffer).2.history.count provider.object .unpack =
        site.history.count provider.object .unpack + 1 ↔
      ∃ payload, provider.Admits version buffer payload) ∧
    ∀ (origin : Site) (sender : Provider), origin.context.active = some sender →
      (Utf8.encode sender.name).length < Wire.maxBlockLength →
      ∀ credential buffer packed,
        (origin.pack version credential buffer).1 = (.ok (), buffer ++ packed) →
      ∃ envelope payload, version.Selects envelope ∧
        sender.mechanism.pack credential [] = (.ok (), payload) ∧
        ∀ trailing,
          (envelope.Recognizes provider sender →
            site.unpack version (packed ++ trailing) =
              (provider.mechanism.unpack (payload ++ trailing), site.asking provider .unpack)) ∧
          (¬ envelope.Recognizes provider sender →
            ∃ remote own rest,
              site.unpack version (packed ++ trailing) = ((.error (.mismatch remote own), rest), site)) := by
  refine ⟨?_, ?_, ?_, ?_⟩
  · intro buffer payload admits
    exact unpack_of_admits active admits
  · intro buffer sealed
    rcases provider.admits_or_refuses version buffer with ⟨payload, admits⟩ | ⟨cause, rest, refuses⟩
    · exact absurd admits (sealed payload)
    · exact ⟨cause, rest, refuses, unpack_of_refuses active refuses⟩
  · intro buffer
    constructor
    · intro asked
      rcases provider.admits_or_refuses version buffer with admits | ⟨cause, rest, refuses⟩
      · exact admits
      · rw [unpack_of_refuses active refuses] at asked
        exact absurd asked (Nat.ne_of_lt (Nat.lt_succ_self _))
    · rintro ⟨payload, admits⟩
      rw [unpack_of_admits active admits, count_asking]
  · intro origin sender packing short credential buffer packed done
    rw [pack, dispatch_of_active packing] at done
    obtain ⟨envelope, selects, own, rfl⟩ := Provider.packet_of_pack done
    refine ⟨envelope, credential.state.payload, selects, Mechanism.pack_of_maker own [], ?_⟩
    intro trailing
    rw [Provider.packet, List.append_assoc]
    constructor
    · intro recognizes
      exact unpack_of_admits active
        ⟨envelope, _, selects, Envelope.opens_header recognizes short, rfl⟩
    · intro unrecognized
      obtain ⟨remote, own, rest, refused⟩ :=
        Envelope.refused_header unrecognized short (credential.state.payload ++ trailing)
      exact ⟨remote, own, rest, unpack_of_refuses active (.sealed selects refused)⟩

/-- A name without its terminator, before a reserved word that is not zero. -/
theorem unpack_unterminated :
    let setup : Bearer := { mechanismId := 7, mechanismName := "trust-token" }
    let site : Site := { context := .ofMechanism (.bearer setup) }
    site.unpack .oldest
        (Wire.block (Utf8.encode "trust-token") ++ [1, 2, 3, 4] ++ Wire.word32 1000) =
      ((.ok { mechanismId := 7, state := .bearer 1000 }, []),
        site.asking (.ofMechanism (.bearer setup)) .unpack) := by
  intro setup site
  have selects : Version.oldest.Selects .mechanismName := .name (by decide) (by decide)
  have opens : Envelope.Opens (.ofMechanism (.bearer setup)) .mechanismName
      (Wire.block (Utf8.encode "trust-token") ++ [1, 2, 3, 4]) :=
    .name (by decide) (by decide) (.inr ⟨rfl, by decide⟩) rfl
  have admits : (Provider.ofMechanism (.bearer setup)).Admits .oldest
      (Wire.block (Utf8.encode "trust-token") ++ [1, 2, 3, 4] ++ Wire.word32 1000)
      (Wire.word32 1000) := ⟨_, _, selects, opens, rfl⟩
  have active : site.context.active = some (.ofMechanism (.bearer setup)) := rfl
  exact (unpack_gate active .oldest).1 _ _ admits

end Site

end Attest
