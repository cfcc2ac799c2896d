import Attest.Proofs.Configuration.RoundTrip
import Attest.Proofs.Json.Fields

/-!
What the readers of configuration files overlook: the order of an object's members, members that are no
fields, white space, and how characters are written.
-/

namespace Attest

namespace Signed.Config

theorem readsFields : Json.ReadsFields fieldNames ofJson? where
  refused missing := by
    rw [ofJson?, missing]
    rfl
  sameFields left right same := by
    simp only [ofJson?, left, right, Json.required?, Json.withDefault?, same, Option.bind_eq_bind,
      Option.bind_some]

theorem toOption_ofFile (path text : String) :
    (ofFile path (.ofText text)).toOption = (Json.parse? text).bind ofJson? := by
  rw [ofFile, File.text_ofText, Except.bind, parse]
  cases (Json.parse? text).bind ofJson? <;> rfl

end Signed.Config

namespace Settings

theorem readsFields : Json.ReadsFields fieldNames ofJson? where
  refused missing := by
    rw [ofJson?, missing]
    rfl
  sameFields left right same := by
    simp only [ofJson?, left, right, Json.withDefault?, same, Option.bind_eq_bind,
      Option.bind_some]

/-- What has been read is kept if it is valid. -/
def validated? (settings : Settings) : Option Settings :=
  (settings.validate.map fun _ => settings).toOption

theorem toOption_ofFile (path text : String) :
    (ofFile path (.ofText text)).toOption =
      (Json.parse? text).bind fun json => (ofJson? json).bind validated? := by
  rw [ofFile, File.text_ofText, Except.bind, parse, ← Option.bind_assoc]
  cases (Json.parse? text).bind ofJson? with
  | none => rfl
  | some settings =>
    dsimp only [Option.bind_some, validated?]
    cases settings.validate <;> rfl

end Settings

/-- Both readers of configuration files go by the fields alone. No edit of anything else changes
whether a text is accepted or what it configures. An object in which a field is given twice is refused,
and so is one with a name that is no text. -/
theorem ofFile_overlooks (path : String) :
    Json.Overlooks Signed.Config.fieldNames
        (fun text => (Signed.Config.ofFile path (.ofText text)).toOption) ∧
      Json.Overlooks Settings.fieldNames
        (fun text => (Settings.ofFile path (.ofText text)).toOption) :=
  ⟨Signed.Config.readsFields.overlooks (Signed.Config.toOption_ofFile path),
    (Settings.readsFields.bind Settings.validated?).overlooks (Settings.toOption_ofFile path)⟩

def plainSample : String :=
  "\x7b\"key\":\"k\",\"ttl_secs\":5\x7d"

/-- The fields of the plain sample in the other order, with escapes and white space, and two members of
one other name. -/
def editedSample : String :=
  " \x7b\"ttl\\u005fsecs\" : 5, \"x\":[1e999,\x7b\"\\ud800\":null\x7d],\n \"x\":false, \"key\":\"\\u006b\"\x7d"

theorem spelledBy_plainSample :
    (Json.object [(some "key", .ofText "k"), (some "ttl_secs", .ofNat 5)]).SpelledBy plainSample := by
  decide +kernel

theorem edits_sample :
    Relation.EqvGen (Json.Edit Signed.Config.fieldNames) plainSample editedSample := by
  have permuted : (Json.object [(some "ttl_secs", .ofNat 5), (some "key", .ofText "k")]).SpelledBy
      "\x7b\"ttl_secs\":5,\"key\":\"k\"\x7d" := by decide +kernel
  have longer : (Json.object [(some "ttl_secs", .ofNat 5), (some "x", .bool false),
      (some "key", .ofText "k")]).SpelledBy
      "\x7b\"ttl_secs\":5,\"x\":false,\"key\":\"k\"\x7d" := by decide +kernel
  have edited : (Json.object [(some "ttl_secs", .ofNat 5),
      (some "x", .array [.number ['1', 'e', '9', '9', '9'], .object [(none, .null)]]),
      (some "x", .bool false), (some "key", .ofText "k")]).SpelledBy editedSample := by
    decide +kernel
  have unknown : "x" ∉ Signed.Config.fieldNames := by decide
  have swaps : Json.Edit Signed.Config.fieldNames plainSample _ :=
    .permute spelledBy_plainSample permuted (.swap _ _ _)
  have inserts : Json.Edit Signed.Config.fieldNames _ _ :=
    @Json.Edit.insert _ [(some "ttl_secs", .ofNat 5)] _ _ _ _ _ permuted longer unknown
  have respells : Json.Edit Signed.Config.fieldNames _ editedSample :=
    @Json.Edit.insert _ [(some "ttl_secs", .ofNat 5)] _ _ _ _ _ longer edited unknown
  exact .trans _ _ _ (.rel _ _ swaps) (.trans _ _ _ (.rel _ _ inserts) (.rel _ _ respells))

theorem ofFile_overlooks_sample :
    (Signed.Config.ofFile "hmac.json" (.ofText editedSample)).toOption =
        some { key := "k", lifetime := 5 } ∧
      (Signed.Config.ofFile "hmac.json"
        (.ofText "\x7b\"key\":\"k\",\"\\u006bey\":null\x7d")).toOption = none ∧
      (Settings.ofFile "auth.json" (.ofText "\x7b\"\\ud800\":1\x7d")).toOption = none := by
  have twice : (Json.object [(some "key", .ofText "k"), (some "key", .null)]).SpelledBy
      "\x7b\"key\":\"k\",\"\\u006bey\":null\x7d" := by decide +kernel
  have lone : (Json.object [(none, .number ['1'])]).SpelledBy "\x7b\"\\ud800\":1\x7d" := by
    decide +kernel
  refine ⟨?_, ?_, ?_⟩
  · rw [← (ofFile_overlooks "hmac.json").1.edits edits_sample, Signed.Config.toOption_ofFile,
      Json.parse?_eq_some_iff.2 spelledBy_plainSample]
    rfl
  · exact (ofFile_overlooks "hmac.json").1.twice twice (by decide) (.refl _)
  · exact (ofFile_overlooks "auth.json").2.lone lone (List.mem_singleton_self _)

/-- A name that is no text is none of the fields either, but it is not overlooked. -/
theorem ofFile_sees_lone_name :
    (Json.object []).SpelledBy "\x7b\x7d" ∧
      (Json.object [(none, .number ['1'])]).SpelledBy "\x7b\"\\ud800\":1\x7d" ∧
      Settings.ofFile "auth.json" (.ofText "\x7b\x7d") = .ok {} ∧
      ∀ settings, Settings.ofFile "auth.json" (.ofText "\x7b\"\\ud800\":1\x7d") ≠ .ok settings := by
  have empty : (Json.object []).SpelledBy "\x7b\x7d" := by decide +kernel
  have lone : (Json.object [(none, .number ['1'])]).SpelledBy "\x7b\"\\ud800\":1\x7d" := by
    decide +kernel
  refine ⟨empty, lone, by decide +kernel, fun settings accepted => ?_⟩
  have refused := Settings.toOption_ofFile "auth.json" "\x7b\"\\ud800\":1\x7d"
  rw [accepted, Json.parse?_eq_some_iff.2 lone] at refused
  cases refused

end Attest
