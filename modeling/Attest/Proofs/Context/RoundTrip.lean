import Attest.Proofs.Protocol.Gate

/-!
Credentials that one context packs, one after another, and a context of the same mechanism unpacks.
The limit on lengths holds for reading only, so a host above it can be packed and not be unpacked.
-/

namespace Attest

/-- Providers of mechanisms that know each other's credentials, under one number and name. -/
structure Provider.Peers (sender receiver : Provider) : Prop where
  kind : sender.mechanism.kind = receiver.mechanism.kind
  id : sender.id = receiver.id
  name : sender.name = receiver.name
  named : sender.name ≠ ""
  short : (Utf8.encode sender.name).length < Wire.maxBlockLength

theorem Provider.Peers.opens_header {sender receiver : Provider} (peers : sender.Peers receiver)
    (envelope : Envelope) : envelope.Opens receiver (envelope.header sender) := by
  apply Envelope.opens_header ?_ peers.short
  cases envelope with
  | mechanismId => exact .number peers.id
  | mechanismName => exact .name peers.named peers.name

namespace Site

/-- Packs credentials one after another; each answer is kept. -/
def packAll (version : Version) :
    List Credential → Bytes → Site → List (Except AuthError Unit) × Bytes
  | [], buffer, _ => ([], buffer)
  | credential :: rest, buffer, site =>
    let ((answer, buffer), site) := site.pack version credential buffer
    let (answers, buffer) := packAll version rest buffer site
    (answer :: answers, buffer)

def unpackAll (version : Version) :
    Nat → Bytes → Site → List (Except AuthError Credential) × Bytes
  | 0, buffer, _ => ([], buffer)
  | count + 1, buffer, site =>
    let ((answer, buffer), site) := site.unpack version buffer
    let (answers, buffer) := unpackAll version count buffer site
    (answer :: answers, buffer)

/-- A credential that the context has created, whatever its holder has learned about it since. -/
def Issued (site : Site) (credential : Credential) : Prop :=
  ∃ surroundings info original, surroundings.Drawn ∧
    (site.create surroundings info).1 = .ok original ∧
    credential.mechanismId = original.mechanismId ∧
    credential.state.received = original.state.received

variable {site sender receiver : Site} {provider source target : Provider} {version : Version}
  {envelope : Envelope} {credential : Credential} {credentials : List Credential}

theorem created_of_issued (active : site.context.active = some provider)
    (issued : site.Issued credential) :
    ∃ surroundings info original, surroundings.Drawn ∧
      provider.mechanism.create surroundings info = .ok original ∧
      credential.state.received = original.state.received := by
  obtain ⟨surroundings, info, original, drawn, created, -, same⟩ := issued
  rw [create, dispatch_of_active active] at created
  exact ⟨surroundings, info, original, drawn, created, same⟩

theorem maker_of_issued (active : site.context.active = some provider)
    (issued : site.Issued credential) :
    credential.state.maker? = some provider.mechanism.kind := by
  obtain ⟨surroundings, info, original, -, created, same⟩ := created_of_issued active issued
  rw [← Credential.State.maker?_received, same, Credential.State.maker?_received]
  exact Mechanism.maker_of_create created

theorem fits_of_issued (active : site.context.active = some provider)
    (issued : site.Issued credential) (host : Wire.Fits credential.state.host?) :
    credential.state.Fits := by
  obtain ⟨surroundings, info, original, drawn, created, same⟩ := created_of_issued active issued
  have sameHost : credential.state.host? = original.state.host? := by
    rw [← Credential.State.host?_received, same, Credential.State.host?_received]
  rw [← Credential.State.fits_received, same, Credential.State.fits_received]
  exact Mechanism.fits_of_create drawn created (sameHost ▸ host)

theorem pack_of_maker (active : site.context.active = some provider)
    (chosen : version.envelope = .ok envelope)
    (own : credential.state.maker? = some provider.mechanism.kind) (buffer : Bytes) :
    ∃ history, site.pack version credential buffer =
      ((.ok (), buffer ++ provider.packet envelope credential), { site with history }) := by
  refine ⟨(provider.pack version credential buffer site.history).2, ?_⟩
  rw [pack, dispatch_of_active active, Provider.pack, chosen]
  rw [Provider.encode_of_maker envelope own]

theorem packAll_of_maker (active : site.context.active = some provider)
    (chosen : version.envelope = .ok envelope)
    (own : ∀ credential ∈ credentials,
      credential.state.maker? = some provider.mechanism.kind) (buffer : Bytes) :
    site.packAll version credentials buffer =
      (List.replicate credentials.length (.ok ()),
        buffer ++ credentials.flatMap (provider.packet envelope)) := by
  induction credentials generalizing site buffer with
  | nil => simp [packAll]
  | cons credential rest ih =>
    obtain ⟨history, packed⟩ := pack_of_maker active chosen (own credential (by simp)) buffer
    have stillActive : ({ site with history } : Site).context.active = some provider := active
    have following := ih stillActive (fun other member => own other (by simp [member]))
      (buffer ++ provider.packet envelope credential)
    simp only [packAll, packed, following, List.length_cons, List.replicate_succ,
      List.flatMap_cons, List.append_assoc]

/-- A packet is unpacked by whoever its envelope opens for. -/
theorem unpack_of_opens (active : site.context.active = some target)
    (chosen : version.envelope = .ok envelope)
    (opens : envelope.Opens target (envelope.header source))
    (own : credential.state.maker? = some target.mechanism.kind) (fits : credential.state.Fits)
    (trailing : Bytes) :
    ∃ history, site.unpack version (source.packet envelope credential ++ trailing) =
      ((.ok (credential.received target.mechanism.id), trailing), { site with history }) := by
  have accepted := opens.reads (credential.state.payload ++ trailing)
  have decoded := Mechanism.reads_unpack own fits trailing
  refine ⟨(target.unpack version (source.packet envelope credential ++ trailing) site.history).2, ?_⟩
  rw [unpack, dispatch_of_active active, Provider.unpack, chosen]
  simp only [Provider.packet, List.append_assoc]
  rw [Provider.decode_of_accept accepted, decoded]
  rfl

theorem unpack_of_maker (active : site.context.active = some target)
    (chosen : version.envelope = .ok envelope) (peers : source.Peers target)
    (own : credential.state.maker? = some source.mechanism.kind) (fits : credential.state.Fits)
    (trailing : Bytes) :
    ∃ history, site.unpack version (source.packet envelope credential ++ trailing) =
      ((.ok (credential.received target.mechanism.id), trailing), { site with history }) := by
  rw [peers.kind] at own
  exact unpack_of_opens active chosen (peers.opens_header envelope) own fits trailing

theorem unpackAll_of_maker (active : site.context.active = some target)
    (chosen : version.envelope = .ok envelope) (peers : source.Peers target)
    (own : ∀ credential ∈ credentials,
      credential.state.maker? = some source.mechanism.kind ∧ credential.state.Fits)
    (trailing : Bytes) :
    site.unpackAll version credentials.length
        (credentials.flatMap (source.packet envelope) ++ trailing) =
      (credentials.map fun credential => .ok (credential.received target.mechanism.id),
        trailing) := by
  induction credentials generalizing site with
  | nil => rfl
  | cons credential rest ih =>
    obtain ⟨made, fits⟩ := own credential (by simp)
    obtain ⟨history, unpacked⟩ := unpack_of_maker active chosen peers made fits
      (rest.flatMap (source.packet envelope) ++ trailing)
    have stillActive : ({ site with history } : Site).context.active = some target := active
    have following := ih stillActive (fun other member => own other (by simp [member]))
    simp only [List.length_cons, List.flatMap_cons, List.append_assoc, unpackAll, unpacked,
      following, List.map_cons]

theorem unpack_of_opens_tooLong {host : String} (active : site.context.active = some target)
    (chosen : version.envelope = .ok envelope)
    (opens : envelope.Opens target (envelope.header source))
    (own : credential.state.maker? = some target.mechanism.kind)
    (named : credential.state.host? = some host)
    (long : Wire.maxBlockLength ≤ (Utf8.encode host).length)
    (declared : (Utf8.encode host).length + 1 < BigEndian.capacity 4) (trailing : Bytes) :
    ∃ left, (site.unpack version (source.packet envelope credential ++ trailing)).1 =
      (.error (.decode (.tooLong ((Utf8.encode host).length + 1) Wire.maxBlockLength)), left) := by
  have accepted := opens.reads (credential.state.payload ++ trailing)
  obtain ⟨left, refused⟩ := Mechanism.unpack_of_tooLong own named long declared trailing
  refine ⟨left, ?_⟩
  rw [unpack, dispatch_of_active active, Provider.unpack, chosen]
  simp only [Provider.packet, List.append_assoc]
  rw [Provider.decode_of_accept accepted, refused]

theorem unpack_of_tooLong {host : String} (active : site.context.active = some target)
    (chosen : version.envelope = .ok envelope) (peers : source.Peers target)
    (own : credential.state.maker? = some source.mechanism.kind)
    (named : credential.state.host? = some host)
    (long : Wire.maxBlockLength ≤ (Utf8.encode host).length)
    (declared : (Utf8.encode host).length + 1 < BigEndian.capacity 4) (trailing : Bytes) :
    (site.unpack version (source.packet envelope credential ++ trailing)).1.1 =
      .error (.decode (.tooLong ((Utf8.encode host).length + 1) Wire.maxBlockLength)) := by
  rw [peers.kind] at own
  obtain ⟨left, refused⟩ := unpack_of_opens_tooLong active chosen (peers.opens_header envelope) own
    named long declared trailing
  rw [refused]

/-- Credentials that a context has created arrive in their order at a context of the same mechanism,
and nothing of what follows them is taken. A host above the limit of reading is packed all the same,
and refused by the reader. -/
theorem unpackAll_packAll (sending : sender.context.active = some source)
    (receiving : receiver.context.active = some target) (peers : source.Peers target)
    (supported : Version.oldest.number ≤ version.number) :
    (∀ credentials : List Credential,
      (∀ credential ∈ credentials,
        sender.Issued credential ∧ Wire.Fits credential.state.host?) →
      ∃ packed,
        (∀ buffer, sender.packAll version credentials buffer =
          (List.replicate credentials.length (.ok ()), buffer ++ packed)) ∧
        ∀ trailing, receiver.unpackAll version credentials.length (packed ++ trailing) =
          (credentials.map fun credential => .ok (credential.received target.mechanism.id),
            trailing)) ∧
    ∀ credential host, sender.Issued credential → credential.state.host? = some host →
      Wire.maxBlockLength ≤ (Utf8.encode host).length →
      (Utf8.encode host).length + 1 < BigEndian.capacity 4 →
      ∃ packed,
        (∀ buffer, (sender.pack version credential buffer).1 = (.ok (), buffer ++ packed)) ∧
        ∀ trailing, (receiver.unpack version (packed ++ trailing)).1.1 =
          .error (.decode (.tooLong ((Utf8.encode host).length + 1) Wire.maxBlockLength)) := by
  obtain ⟨envelope, chosen⟩ := Version.exists_envelope supported
  constructor
  · intro credentials issued
    refine ⟨credentials.flatMap (source.packet envelope), ?_, ?_⟩
    · exact packAll_of_maker sending chosen fun credential member =>
        maker_of_issued sending (issued credential member).1
    · exact unpackAll_of_maker receiving chosen peers fun credential member =>
        ⟨maker_of_issued sending (issued credential member).1,
          fits_of_issued sending (issued credential member).1 (issued credential member).2⟩
  · intro credential host issued named long declared
    have own := maker_of_issued sending issued
    refine ⟨source.packet envelope credential, ?_, ?_⟩
    · intro buffer
      obtain ⟨history, packed⟩ := pack_of_maker sending chosen own buffer
      rw [packed]
    · exact unpack_of_tooLong receiving chosen peers own named long declared

def textOfLength (count : Nat) : String :=
  String.ofList (List.replicate count 'a')

theorem encode_textOfLength (count : Nat) :
    Utf8.encode (textOfLength count) = List.replicate count 97 := by
  have octet : String.utf8EncodeChar 'a' = [97] := by decide
  rw [textOfLength, Utf8.encode_ofList, List.flatMap_replicate, octet,
    List.flatten_replicate_singleton]

theorem length_textOfLength (count : Nat) : (Utf8.encode (textOfLength count)).length = count := by
  rw [encode_textOfLength, List.length_replicate]

/-- A signer whose credentials are on this host unless their options say otherwise. -/
def sampleSender (host : Option String) : Signed.Signer :=
  { Signed.sampleSigner with host }

/-- Another key does not matter for unpacking. -/
def sampleReceiver : Signed.Signer :=
  { Signed.sampleSigner with key := List.replicate 32 0x11 }

theorem peers_sample (host : Option String) :
    (Provider.ofMechanism (.signed (sampleSender host))).Peers
      (.ofMechanism (.signed sampleReceiver)) := by
  have named : Signed.mechanismName ≠ "" := by decide
  have short : (Utf8.encode Signed.mechanismName).length < Wire.maxBlockLength := by
    decide +kernel
  exact { kind := rfl, id := rfl, name := rfl, named, short }

def sampleSent (host : Option String) (info : String) : Credential where
  mechanismId := Signed.mechanismId
  state := .signed (Signed.issue Hmac.sha256 (sampleSender host) 1000
    (List.replicate Signed.nonceLength 7) (some info) { uid := 1000, gid := 100 })

def sampleInfos : List String :=
  ["user=alice", "user=alice,host=", "user=alice,host=a\x00b", "user=alice,host=node01"]

theorem host_sampleSent {given host : Option String} {info : String}
    (asked : (Options.parse (some info)).get? "host" = given) :
    (sampleSent host info).state.host? = given.or host := by
  rw [← asked]
  rfl

theorem issued_sampleSent {host : Option String} {info : String}
    (asked : (Options.parse (some info)).get? "user" = some "alice") :
    Issued { context := .ofMechanism (.signed (sampleSender host)) } (sampleSent host info) := by
  have known : Signed.sampleSigner.users.get? "alice" = some { uid := 1000, gid := 100 } := by
    decide +kernel
  have created : Mechanism.create (Signed.sampleSurroundings 1000) (some info)
      (.signed (sampleSender host)) = .ok (sampleSent host info) := by
    rw [Mechanism.create, Signed.create_ok_iff]
    exact ⟨"alice", _, asked, known, rfl⟩
  exact ⟨Signed.sampleSurroundings 1000, some info, _, rfl, created, rfl, rfl⟩

theorem sample_arrives :
    let sender (host : Option String) : Site :=
      { context := .ofMechanism (.signed (sampleSender host)) }
    let receiver : Site := { context := .ofMechanism (.signed sampleReceiver) }
    let credentials := sampleInfos.map (sampleSent none)
    let longest := textOfLength Wire.maxBlockLength
    credentials.map (·.state.host?) = [none, some "", some "a\x00b", some "node01"] ∧
    (∃ packed,
      (∀ buffer, (sender none).packAll .oldest credentials buffer =
        (List.replicate 4 (.ok ()), buffer ++ packed)) ∧
      ∀ trailing, receiver.unpackAll .oldest 4 (packed ++ trailing) =
        (credentials.map fun credential => .ok (credential.received Signed.mechanismId),
          trailing)) ∧
    ∃ packed,
      (∀ buffer, ((sender (some longest)).pack .oldest (sampleSent (some longest) "user=alice")
        buffer).1 = (.ok (), buffer ++ packed)) ∧
      ∀ trailing, (receiver.unpack .oldest (packed ++ trailing)).1.1 =
        .error (.decode (.tooLong (Wire.maxBlockLength + 1) Wire.maxBlockLength)) := by
  intro sender receiver credentials longest
  have sending (host : Option String) : (sender host).context.active =
      some (.ofMechanism (.signed (sampleSender host))) := rfl
  have receiving : receiver.context.active = some (.ofMechanism (.signed sampleReceiver)) := rfl
  have supported : Version.oldest.number ≤ Version.oldest.number := by decide
  have users : ∀ info ∈ sampleInfos,
      (Options.parse (some info)).get? "user" = some "alice" := by
    decide +kernel
  have hosts : credentials.map (·.state.host?) = [none, some "", some "a\x00b", some "node01"] := by
    decide +kernel
  have fit : ∀ host ∈ [none, some "", some "a\x00b", some "node01"], Wire.Fits host := by
    decide +kernel
  refine ⟨hosts, ?_, ?_⟩
  · apply (unpackAll_packAll (sending none) receiving (peers_sample none) supported).1 credentials
    intro credential member
    have fits : Wire.Fits credential.state.host? :=
      fit _ (hosts ▸ List.mem_map_of_mem member)
    obtain ⟨info, listed, rfl⟩ := List.mem_map.1 member
    exact ⟨issued_sampleSent (users info listed), fits⟩
  · have full : (Utf8.encode longest).length = Wire.maxBlockLength := length_textOfLength _
    have issued : (sender (some longest)).Issued (sampleSent (some longest) "user=alice") :=
      issued_sampleSent (users _ List.mem_cons_self)
    have unhosted : (Options.parse (some "user=alice")).get? "host" = none := by decide +kernel
    have host : (sampleSent (some longest) "user=alice").state.host? = some longest :=
      host_sampleSent unhosted
    have declared : (Utf8.encode longest).length + 1 < BigEndian.capacity 4 := by
      rw [full]
      decide
    obtain ⟨packed, packs, refused⟩ :=
      (unpackAll_packAll (sending _) receiving (peers_sample _) supported).2 _ _ issued host
        (Nat.le_of_eq full.symm) declared
    simp only [full] at refused
    exact ⟨packed, packs, refused⟩

end Site

end Attest
