import Attest.Proofs.Registry.Loading
import Attest.Proofs.Signed.Assertion
import Attest.Proofs.Text.Base64

/-!
Signing keys and their texts. A key has one text, but for white space around it, and a text that is
accepted stands for one key. All else that may stand in a configuration is refused, when the key is
decoded as well as when the mechanism is loaded.
-/

namespace Attest

namespace Signed.Config

open Blank (isBlankText trim)

variable {config left right : Config} {key other : Bytes}

/-- The text of the key stands for these bytes. White space around it does not count. -/
def Spells (config : Config) (key : Bytes) : Prop :=
  trim config.key = Base64.encode key

theorem spells_surrounded {before after : String} (blankBefore : isBlankText before = true)
    (blankAfter : isBlankText after = true) (config : Config) (key : Bytes) :
    { config with key := before ++ Base64.encode key ++ after }.Spells key :=
  Base64.decode?_eq_some_iff.1 (Base64.decode?_surrounded blankBefore blankAfter key)

theorem spells_ofKey (key : Bytes) : (ofKey key).Spells key := by
  have spells : { ofKey key with key := "" ++ Base64.encode key ++ "" }.Spells key :=
    spells_surrounded rfl rfl (ofKey key) key
  rwa [String.append_empty, String.empty_append] at spells

theorem Spells.unique (spells : config.Spells key) (again : config.Spells other) : key = other := by
  rw [Spells, ← Base64.decode?_eq_some_iff] at spells again
  exact Option.some.inj (spells.symm.trans again)

theorem decodeKey_of_spells (spells : config.Spells key) :
    config.decodeKey =
      if key.length < minKeyLength then .error (.keyTooShort key.length minKeyLength)
      else .ok key := by
  simp only [decodeKey, Base64.decode?_eq_some_iff.2 spells]

theorem decodeKey_of_unspelled (unspelled : ∀ key, ¬ config.Spells key) :
    config.decodeKey = .error (.keyEncoding "not standard base64 with padding") := by
  cases decoded : Base64.decode? (trim config.key) with
  | some key => exact absurd (Base64.decode?_eq_some_iff.1 decoded) (unspelled key)
  | none => simp only [decodeKey, decoded]

theorem decodeKey_ok_iff :
    config.decodeKey = .ok key ↔ minKeyLength ≤ key.length ∧ config.Spells key := by
  constructor
  · intro accepted
    by_cases spelled : ∃ spelt, config.Spells spelt
    · obtain ⟨spelt, spells⟩ := spelled
      rw [decodeKey_of_spells spells] at accepted
      split at accepted
      · cases accepted
      · rename_i long
        cases accepted
        exact ⟨Nat.le_of_not_lt long, spells⟩
    · rw [decodeKey_of_unspelled (not_exists.1 spelled)] at accepted
      cases accepted
  · intro ⟨long, spells⟩
    rw [decodeKey_of_spells spells, if_neg (Nat.not_lt.2 long)]

theorem decodeKey_keyEncoding_iff :
    (∃ reason, config.decodeKey = .error (.keyEncoding reason)) ↔ ∀ key, ¬ config.Spells key := by
  constructor
  · intro ⟨reason, refused⟩ key spells
    rw [decodeKey_of_spells spells] at refused
    split at refused <;> cases refused
  · intro unspelled
    exact ⟨_, decodeKey_of_unspelled unspelled⟩

/-- Texts of one key are the same but for white space around them. -/
theorem same_key_iff (accepted : left.decodeKey = .ok key) (also : right.decodeKey = .ok other) :
    key = other ↔ trim left.key = trim right.key := by
  obtain ⟨-, spells⟩ := decodeKey_ok_iff.1 accepted
  obtain ⟨-, spellsOther⟩ := decodeKey_ok_iff.1 also
  constructor
  · rintro rfl
    exact spells.trans spellsOther.symm
  · intro same
    exact spells.unique (same.trans spellsOther)

end Signed.Config

namespace Registry

open Signed (Clock Config ConfigError Signer)

variable {config : Config} {key : Bytes} {cause : ConfigError}

theorem load_registered (valid : config.decodeKey = .ok key) (registry : Registry) (label : Nat)
    (clock : Clock) (history : History) :
    ∃ provider, ((registry.register Signed.mechanismName
        { label, product := .signed config clock }).load Signed.mechanismName history).1 =
          .ok provider ∧ provider.mechanism = .signed (config.signer key clock) := by
  have made : ({ label, product := .signed config clock } : Factory).outcomeAs
      Signed.mechanismName (history.calls label) =
        .ok (.signed (config.signer key clock), .built label (history.calls label)) := by
    simp only [Factory.outcomeAs, Factory.outcome, Product.make,
      Signed.Signer.ofConfig_of_decodeKey valid]
    rfl
  refine ⟨_, congrArg Prod.fst (load_of_made ?_ made), rfl⟩
  rw [register, NameMap.get?_insert, if_pos rfl]

theorem load_registered_of_error (invalid : config.decodeKey = .error cause) (registry : Registry)
    (label : Nat) (clock : Clock) (history : History) :
    ((registry.register Signed.mechanismName { label, product := .signed config clock }).load
        Signed.mechanismName history).1 =
      .error (.loadFailed Signed.mechanismName cause.toAuthError.message) := by
  have failed : ({ label, product := .signed config clock } : Factory).outcomeAs
      Signed.mechanismName (history.calls label) =
        .error (.loadFailed Signed.mechanismName cause.toAuthError.message) := by
    simp only [Factory.outcomeAs, Factory.outcome, Product.make, Signer.ofConfig, invalid]
    rfl
  refine congrArg Prod.fst (load_of_failed ?_ failed)
  rw [register, NameMap.get?_insert, if_pos rfl]

end Registry

namespace Signed.Config

open Blank (isBlankText trim)

/-- Keys of 32 bytes and more, and the texts that are accepted, correspond one to one, but for white
space around a text. A shorter key is told from a text that is none, and the mechanism can be loaded
with the keys that are accepted and with no others. -/
theorem keys_correspond_to_texts :
    (∀ key : Bytes, (ofKey key).decodeKey =
      if key.length < 32 then .error (.keyTooShort key.length 32) else .ok key) ∧
    (∀ (config : Config) (key : Bytes) (before after : String), isBlankText before = true →
      isBlankText after = true →
      { config with key := before ++ (ofKey key).key ++ after }.decodeKey =
        if key.length < 32 then .error (.keyTooShort key.length 32) else .ok key) ∧
    (∀ (config : Config) (key : Bytes), config.decodeKey = .ok key ↔
      32 ≤ key.length ∧ trim config.key = Base64.encode key) ∧
    (∀ (left right : Config) (key other : Bytes), left.decodeKey = .ok key →
      right.decodeKey = .ok other → (key = other ↔ trim left.key = trim right.key)) ∧
    (∀ config : Config, (∃ reason, config.decodeKey = .error (.keyEncoding reason)) ↔
      ∀ key, trim config.key ≠ Base64.encode key) ∧
    ∀ (config : Config) (registry : Registry) (label : Nat) (clock : Clock) (history : History),
      let loaded := ((registry.register mechanismName
        { label, product := .signed config clock }).load mechanismName history).1
      ((∃ provider, loaded = .ok provider) ↔ ∃ key, config.decodeKey = .ok key) ∧
      (∀ key, config.decodeKey = .ok key → ∃ provider, loaded = .ok provider ∧
        provider.mechanism = .signed (config.signer key clock)) ∧
      ∀ cause, config.decodeKey = .error cause →
        loaded = .error (.loadFailed mechanismName cause.toAuthError.message) := by
  refine ⟨?_, ?_, fun _ _ => decodeKey_ok_iff, fun _ _ _ _ => same_key_iff,
    fun _ => decodeKey_keyEncoding_iff, ?_⟩
  · intro key
    exact decodeKey_of_spells (spells_ofKey key)
  · intro config key before after blankBefore blankAfter
    exact decodeKey_of_spells (spells_surrounded blankBefore blankAfter config key)
  · intro config registry label clock history loaded
    have brings (key : Bytes) (valid : config.decodeKey = .ok key) :=
      Registry.load_registered valid registry label clock history
    have refuses (cause : ConfigError) (invalid : config.decodeKey = .error cause) :=
      Registry.load_registered_of_error invalid registry label clock history
    refine ⟨⟨?_, ?_⟩, brings, refuses⟩
    · intro ⟨provider, brought⟩
      cases decoded : config.decodeKey with
      | ok key => exact ⟨key, rfl⟩
      | error cause => cases brought.symm.trans (refuses cause decoded)
    · intro ⟨key, valid⟩
      obtain ⟨provider, brought, -⟩ := brings key valid
      exact ⟨provider, brought⟩

/-- Padding that is missing or too much, bits that no byte uses, white space inside the text, and the
alphabet for file names are all refused. -/
theorem keys_correspond_to_texts_sample :
    let config : Config := { key := "\u2003" ++ (ofKey sampleSigner.key).key ++ "\n" }
    let registry := ({} : Registry).register mechanismName
      { label := 0, product := .signed config .wall }
    config.decodeKey = .ok sampleSigner.key ∧
    (∃ provider, (registry.load mechanismName []).1 = .ok provider) ∧
    (ofKey [0xFF]).decodeKey = .error (.keyTooShort 1 32) ∧
    ∀ text ∈ ["/w", "/w===", "/x==", "/ w==", "_w=="],
      ∃ reason, ({ key := text } : Config).decodeKey = .error (.keyEncoding reason) := by
  intro config registry
  obtain ⟨own, surrounded, -, -, refused, loads⟩ := keys_correspond_to_texts
  have valid : config.decodeKey = .ok sampleSigner.key :=
    surrounded config sampleSigner.key "\u2003" "\n" (by decide) (by decide)
  refine ⟨valid, (loads config {} 0 .wall []).1.2 ⟨_, valid⟩, own [0xFF], ?_⟩
  intro text member
  rw [refused]
  intro key spells
  have undecodable : ∀ text ∈ ["/w", "/w===", "/x==", "/ w==", "_w=="],
      Base64.decode? (trim text) = none := by decide +kernel
  exact absurd (Base64.decode?_eq_some_iff.2 spells) (by simp [undecodable text member])

end Signed.Config

end Attest
