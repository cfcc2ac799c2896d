import Attest.Proofs.Context.Absence
import Attest.Proofs.Protocol.Gate

/-!
Packing is all or nothing. The envelope is written before a mechanism can refuse a credential, and a
mechanism may fail in the middle of a payload; all that has been written by then is taken back.
-/

namespace Attest

namespace Packer

/-- Whatever comes of it, what stood in the buffer stays there, in front of what is written. -/
def Appends (packer : Packer) : Prop :=
  ∀ buffer, ∃ written, (packer buffer).2 = buffer ++ written

variable {packer : Packer}

/-- A packer that appends either completes behind the front, or what it has written is taken back
together with the front. -/
theorem Appends.behind (appends : packer.Appends) (front buffer : Bytes) :
    ∃ written,
      (packer (buffer ++ front) = (.ok (), buffer ++ front ++ written) ∧
        packer.behind front buffer = (.ok (), buffer ++ front ++ written)) ∨
      ∃ cause, packer (buffer ++ front) = (.error cause, buffer ++ front ++ written) ∧
        packer.behind front buffer = (.error cause, buffer) := by
  obtain ⟨written, same⟩ := appends (buffer ++ front)
  rcases outcome : packer (buffer ++ front) with ⟨cause | done, packed⟩
  · obtain rfl : packed = buffer ++ front ++ written := by rw [← same, outcome]
    exact ⟨written, .inr ⟨cause, rfl, behind_of_error outcome⟩⟩
  · obtain rfl : packed = buffer ++ front ++ written := by rw [← same, outcome]
    exact ⟨written, .inl ⟨rfl, behind_of_ok outcome⟩⟩

end Packer

namespace Mechanism

variable {mechanism : Mechanism} {credential : Credential}

/-- A foreign credential is refused before anything is written for it. -/
theorem pack_of_foreign (foreign : credential.state.maker? ≠ some mechanism.kind) :
    ∃ reason, ∀ buffer,
      mechanism.pack credential buffer = (.error (.badArgument reason), buffer) := by
  obtain ⟨mechanismId, state⟩ := credential
  cases mechanism <;> cases state <;> first | exact ⟨_, fun _ => rfl⟩ | exact absurd rfl foreign

end Mechanism

namespace Site

variable {site ready : Site} {provider : Provider} {version : Version} {envelope : Envelope}

theorem pack_of_old (present : site.Present provider ready)
    (old : version.number < Version.oldest.number) (credential : Credential) (buffer : Bytes) :
    site.pack version credential buffer =
      ((.error (.unsupportedVersion version.number), buffer), ready) := by
  rw [pack, present.dispatch_eq, dispatch_of_active (active_of_present present), Provider.pack,
    Version.envelope_of_old old]

theorem pack_of_selects (present : site.Present provider ready)
    (selects : version.Selects envelope) (credential : Credential) (buffer : Bytes) :
    site.pack version credential buffer =
      ((provider.mechanism.pack credential).behind (envelope.header provider) buffer,
        ready.asking provider .pack) := by
  rw [pack, present.dispatch_eq, dispatch_of_active (active_of_present present), Provider.pack,
    selects.envelope_eq]
  rfl

/-- What packs by appending either completes, behind the envelope, or leaves the buffer as it was,
whatever it had written. So a context appends the envelope and the payload of its provider, or fails
and appends nothing: for want of a mechanism, before the mechanism is asked if the version is too old,
or because the mechanism refuses the credential. -/
theorem pack_all_or_nothing :
    (∀ (packer : Packer) (front buffer : Bytes), packer.Appends → ∃ written,
      (packer (buffer ++ front) = (.ok (), buffer ++ front ++ written) ∧
        packer.behind front buffer = (.ok (), buffer ++ front ++ written)) ∨
      ∃ cause, packer (buffer ++ front) = (.error cause, buffer ++ front ++ written) ∧
        packer.behind front buffer = (.error cause, buffer)) ∧
    ∀ (site : Site) (version : Version) (credential : Credential) (buffer : Bytes),
      ((∃ cause, site.Absent cause) →
        site.pack version credential buffer = ((.error .noMechanism, buffer), site.tried)) ∧
      (¬ (∃ cause, site.Absent cause) → ∃ provider ready, site.Present provider ready ∧
        (version.number < Version.oldest.number →
          site.pack version credential buffer =
            ((.error (.unsupportedVersion version.number), buffer), ready)) ∧
        ∀ envelope, version.Selects envelope →
          site.pack version credential buffer =
            ((provider.mechanism.pack credential).behind (envelope.header provider) buffer,
              ready.asking provider .pack) ∧
          ((∃ payload,
              (∀ begun, provider.mechanism.pack credential begun = (.ok (), begun ++ payload)) ∧
              (site.pack version credential buffer).1 =
                (.ok (), buffer ++ envelope.header provider ++ payload)) ∨
            ∃ reason,
              (∀ begun,
                (provider.mechanism.pack credential begun).1 = .error (.badArgument reason)) ∧
              (site.pack version credential buffer).1 =
                (.error (.badArgument reason), buffer))) := by
  refine ⟨?_, fun site version credential buffer => ⟨?_, ?_⟩⟩
  · intro packer front buffer appends
    exact appends.behind front buffer
  · intro ⟨cause, absent⟩
    exact dispatch_of_absent absent _ _
  · intro supplied
    obtain absent | ⟨provider, ready, present⟩ := site.absent_or_present
    · exact absurd absent supplied
    refine ⟨provider, ready, present, fun old => pack_of_old present old credential buffer, ?_⟩
    intro envelope selects
    have packed := pack_of_selects present selects credential buffer
    refine ⟨packed, ?_⟩
    rw [packed]
    by_cases own : credential.state.maker? = some provider.mechanism.kind
    · have completes := Mechanism.pack_of_maker own
      exact .inl ⟨_, completes, Packer.behind_of_ok (completes _)⟩
    · obtain ⟨reason, refuses⟩ := Mechanism.pack_of_foreign own
      refine .inr ⟨reason, fun begun => congrArg Prod.fst (refuses begun), ?_⟩
      apply Packer.behind_of_error
      rw [refuses, List.append_nil]

/-- A foreign credential and an own one, a version that is too old, a context without a mechanism, and
a packer that gives up in the middle. -/
theorem pack_sample :
    let site : Site := { context := .ofMechanism .claimed }
    let foreign : Credential := { mechanismId := Claimed.mechanismId, state := .text "not ours" }
    let own : Credential :=
      { mechanismId := 0, state := .claimed { uid := 7, gid := 8, host := none } }
    let interrupted : Packer := fun buffer => (.error .memory, buffer ++ [9, 9])
    (site.pack .oldest foreign [1, 2, 3]).1 =
        (.error (.badArgument "credential not created by auth/none"), [1, 2, 3]) ∧
      (site.pack .current own [1, 2, 3]).1 =
        (.ok (), [1, 2, 3, 0, 0, 0, 100, 0, 0, 0, 7, 0, 0, 0, 8, 0, 0, 0, 0]) ∧
      (site.pack ⟨16⟩ own [1, 2, 3]).1 = (.error (.unsupportedVersion 16), [1, 2, 3]) ∧
      (sampleAbsent.pack .current own [1, 2, 3]).1 = (.error .noMechanism, [1, 2, 3]) ∧
      interrupted.behind [0, 0, 0, 100] [1, 2, 3] = (.error .memory, [1, 2, 3]) := by
  intro site foreign own interrupted
  obtain ⟨anyPacker, anySite⟩ := pack_all_or_nothing
  have supplied : ¬ ∃ cause, site.Absent cause := by
    intro ⟨cause, absent⟩
    cases absent.idle
  have absent : ∃ cause, sampleAbsent.Absent cause := ⟨_, rfl, .failing rfl rfl⟩
  have provided {provider : Provider} {ready : Site} (present : site.Present provider ready) :
      provider = .ofMechanism .claimed := by
    cases present with
    | active active => exact (Option.some.inj active).symm
    | loaded idle loads => cases idle
  refine ⟨?_, ?_, ?_, ?_, ?_⟩
  · obtain ⟨provider, ready, present, -, supported⟩ :=
      (anySite site .oldest foreign [1, 2, 3]).2 supplied
    obtain rfl := provided present
    obtain ⟨-, ⟨payload, packs, -⟩ | ⟨reason, refuses, packed⟩⟩ :=
      supported .mechanismName (.name (by decide) (by decide))
    · cases packs []
    · cases refuses []
      exact packed
  · obtain ⟨provider, ready, present, -, supported⟩ :=
      (anySite site .current own [1, 2, 3]).2 supplied
    obtain rfl := provided present
    obtain ⟨-, ⟨payload, packs, packed⟩ | ⟨reason, refuses, -⟩⟩ :=
      supported .mechanismId (.number (by decide))
    · cases packs []
      exact packed
    · cases refuses []
  · obtain ⟨provider, ready, -, old, -⟩ := (anySite site ⟨16⟩ own [1, 2, 3]).2 supplied
    rw [old (by decide)]
  · rw [(anySite sampleAbsent .current own [1, 2, 3]).1 absent]
  · obtain ⟨written, ⟨done, -⟩ | ⟨cause, failed, left⟩⟩ :=
      anyPacker interrupted [0, 0, 0, 100] [1, 2, 3] fun buffer => ⟨[9, 9], rfl⟩
    · cases done
    · cases failed
      exact left

end Site

end Attest
