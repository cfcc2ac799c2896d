import Attest.Mechanism.Signed.Config
import Attest.Proofs.Json.RoundTrip
import Attest.Settings

/-!
Configurations that are printed as JSON and read back from a file. Every field, and every name of a
user, comes back as it was, whatever characters it holds.
-/

namespace Attest

namespace NameMap

variable {entries : List (String × α)} {name : String} {item : α}

theorem insertEntry_of_last (last : ∀ entry ∈ entries, entry.1 < name) :
    insertEntry name item entries = entries ++ [(name, item)] := by
  induction entries with
  | nil => rfl
  | cons head rest ih =>
    obtain ⟨other, kept⟩ := head
    obtain ⟨before, others⟩ := List.forall_mem_cons.1 last
    have notBefore : ¬ name < other := fun after => String.lt_irrefl _ (String.lt_trans before after)
    have different : name ≠ other := by
      rintro rfl
      exact String.lt_irrefl _ before
    rw [insertEntry, if_neg notBefore, if_neg different, ih others, List.cons_append]

/-- Items that are inserted in the order of their names are appended. -/
theorem entries_foldl_insert (map : NameMap α) {items : List (String × α)}
    (ascending : Ascending (map.entries ++ items)) :
    (items.foldl (fun map (name, item) => map.insert name item) map).entries =
      map.entries ++ items := by
  induction items generalizing map with
  | nil => exact (List.append_nil _).symm
  | cons head rest ih =>
    obtain ⟨name, item⟩ := head
    have last : ∀ entry ∈ map.entries, entry.1 < name := fun entry member =>
      (List.pairwise_append.1 ascending).2.2 entry member (name, item) List.mem_cons_self
    have inserted : (map.insert name item).entries = map.entries ++ [(name, item)] :=
      insertEntry_of_last last
    have following := ih (map.insert name item)
    rw [inserted, List.append_assoc] at following
    exact following ascending

/-- A map is made of its entries. -/
theorem ofList_entries (map : NameMap α) : ofList map.entries = map :=
  eq_of_entries (entries_foldl_insert empty map.ascending)

end NameMap

namespace Json

theorem natural?_ofNat {bound value : Nat} (small : value < bound) :
    (ofNat value).natural? bound = some value := by
  rw [ofNat, natural?, Decimal.digits?_toDigits]
  simp [small]

theorem optional?_ofOption_ofText (text : Option String) :
    optional? text? (ofOption ofText text) = some text := by
  cases text <;> rfl

theorem namedMembers?_map (members : List (String × Json)) :
    namedMembers? (members.map fun (name, value) => (some name, value)) = some members := by
  induction members with
  | nil => rfl
  | cons member members ih =>
    simp only [namedMembers?] at ih
    simp [namedMembers?, ih]

/-- All members are fields, and none is given twice. -/
theorem fields?_ofMembers {names : List String} {members : List (String × Json)}
    (known : ∀ member ∈ members, names.contains member.1 = true)
    (distinct : (members.map (·.1)).Nodup) : fields? names (ofMembers members) = some members := by
  have kept : members.filter (fun (name, _) => names.contains name) = members :=
    List.filter_eq_self.2 known
  simp only [fields?, ofMembers, namedMembers?_map, Option.bind_eq_bind, Option.bind_some, kept,
    if_pos distinct]

end Json

namespace File

/-- A file that the text has been written to. -/
def ofText (text : String) : File :=
  .ok (Utf8.encode text)

theorem text_ofText (text : String) : (ofText text).text = .ok text := by
  have present : Except.mapError Obstacle.message (ofText text) = .ok (Utf8.encode text) := rfl
  rw [File.text, present]
  simp only [bind, Except.bind, Utf8.decode?_encode]

end File

namespace Signed.Config

theorem word32?_ofNat (value : UInt32) : word32? (.ofNat value.toNat) = some value := by
  rw [word32?, Json.natural?_ofNat value.toNat_lt, Option.map_some, UInt32.ofNat_toNat]

theorem word64?_ofNat (value : UInt64) : word64? (.ofNat value.toNat) = some value := by
  rw [word64?, Json.natural?_ofNat value.toNat_lt, Option.map_some, UInt64.ofNat_toNat]

theorem whole_identityJson (identity : Identity) : (identityJson identity).Whole := by
  apply Json.Whole.ofMembers
  simp only [List.forall_mem_cons]
  exact ⟨.ofNat _, .ofNat _, nofun⟩

theorem identity?_identityJson (identity : Identity) :
    identity? (identityJson identity) = some identity := by
  have fields : (identityJson identity).fields? ["uid", "gid"] = _ :=
    Json.fields?_ofMembers (by simp) (by simp)
  simp [identity?, fields, Json.required?, List.lookup_cons, word32?_ofNat]

/-- The users of a configuration, each by its name. -/
def usersJson (users : NameMap Identity) : Json :=
  .ofMembers (users.entries.map fun (name, identity) => (name, identityJson identity))

theorem mapM_identity? (entries : List (String × Identity)) :
    (entries.map fun (name, identity) => (name, identityJson identity)).mapM
        (fun (name, json) => (identity? json).map (name, ·)) = some entries := by
  induction entries with
  | nil => rfl
  | cons entry entries ih => simp [identity?_identityJson, ih]

theorem users?_usersJson (users : NameMap Identity) : users? (usersJson users) = some users := by
  simp only [usersJson, Json.ofMembers, users?, Json.namedMembers?_map, Option.bind_eq_bind,
    Option.bind_some, mapM_identity?, NameMap.ofList_entries]
  rfl

theorem whole_toJson (config : Config) : config.toJson.Whole := by
  have users : (usersJson config.users).Whole := by
    apply Json.Whole.ofMembers
    intro member present
    obtain ⟨entry, -, rfl⟩ := List.mem_map.1 present
    exact whole_identityJson entry.2
  apply Json.Whole.ofMembers
  simp only [List.forall_mem_cons]
  exact ⟨.ofText _, users, .ofOption .ofText _, .ofNat _, nofun⟩

theorem ofJson?_toJson (config : Config) : ofJson? config.toJson = some config := by
  have fields : config.toJson.fields? fieldNames = _ :=
    Json.fields?_ofMembers (by simp [fieldNames]) (by simp)
  have users := users?_usersJson config.users
  have host := Json.optional?_ofOption_ofText config.host
  have lifetime := word64?_ofNat config.lifetime
  have key : Json.text? (.ofText config.key) = some config.key := rfl
  rw [usersJson] at users
  simp [ofJson?, fields, Json.required?, Json.withDefault?, List.lookup_cons, key, users, host,
    lifetime]

theorem ofFile_of_parse? {config : Config} {text : String}
    (parsed : Json.parse? text = some config.toJson) (path : String) :
    ofFile path (.ofText text) = .ok config := by
  have read : parse text = .ok config := by
    rw [parse, parsed, Option.bind_some, ofJson?_toJson]
  rw [ofFile, File.text_ofText, Except.bind, read]

end Signed.Config

namespace Settings

theorem whole_toJson (settings : Settings) : settings.toJson.Whole := by
  apply Json.Whole.ofMembers
  simp only [List.forall_mem_cons]
  exact ⟨.ofText _, .ofOption .ofText _, nofun⟩

theorem ofJson?_toJson (settings : Settings) : ofJson? settings.toJson = some settings := by
  have fields : settings.toJson.fields? fieldNames = _ :=
    Json.fields?_ofMembers (by simp [fieldNames]) (by simp)
  have type : Json.text? (.ofText settings.authType) = some settings.authType := rfl
  have info := Json.optional?_ofOption_ofText settings.authInfo
  simp [ofJson?, fields, Json.withDefault?, List.lookup_cons, type, info]

/-- What has been read is still to be validated. -/
theorem ofFile_of_parse? {settings : Settings} {text : String}
    (parsed : Json.parse? text = some settings.toJson) (path : String) :
    ofFile path (.ofText text) = settings.validate.map fun _ => settings := by
  have read : parse text = .ok settings := by
    rw [parse, parsed, Option.bind_some, ofJson?_toJson]
  rw [ofFile, File.text_ofText, Except.bind, read]
  rfl

theorem validate_cases (settings : Settings) :
    settings.validate = .ok () ∨ ∃ reason, settings.validate = .error (.configuration reason) := by
  unfold validate
  split
  · exact .inr ⟨_, rfl⟩
  · exact .inl rfl

end Settings

/-- A configuration is read back from a file that it has been printed to, on one line or on several.
Settings that are not valid are refused after they have been read. -/
theorem ofFile_printed (path : String) :
    (∀ config : Signed.Config,
      Signed.Config.ofFile path (.ofText config.toJson.compact) = .ok config ∧
      Signed.Config.ofFile path (.ofText config.toJson.pretty) = .ok config) ∧
    ∀ settings : Settings,
      (settings.validate = .ok () ∧
        Settings.ofFile path (.ofText settings.toJson.compact) = .ok settings ∧
        Settings.ofFile path (.ofText settings.toJson.pretty) = .ok settings) ∨
      ∃ reason, settings.validate = .error (.configuration reason) ∧
        Settings.ofFile path (.ofText settings.toJson.compact) =
          .error (.configuration reason) ∧
        Settings.ofFile path (.ofText settings.toJson.pretty) = .error (.configuration reason) := by
  constructor
  · intro config
    obtain ⟨compact, pretty⟩ := Json.parse?_printed config.whole_toJson
    exact ⟨Signed.Config.ofFile_of_parse? compact path, Signed.Config.ofFile_of_parse? pretty path⟩
  · intro settings
    obtain ⟨compact, pretty⟩ := Json.parse?_printed settings.whole_toJson
    have fromCompact := Settings.ofFile_of_parse? compact path
    have fromPretty := Settings.ofFile_of_parse? pretty path
    rcases settings.validate_cases with valid | ⟨reason, invalid⟩
    · rw [valid] at fromCompact fromPretty
      exact .inl ⟨valid, fromCompact, fromPretty⟩
    · rw [invalid] at fromCompact fromPretty
      exact .inr ⟨reason, invalid, fromCompact, fromPretty⟩

end Attest
