import Attest.AuthError
import Attest.Data.NameMap
import Attest.File
import Attest.Json.Printer
import Attest.Json.Reader
import Attest.Json.Record
import Attest.Text.Base64
import Attest.Text.Blank
import Attest.Text.Quoted

/-!
What `auth/hmac` is configured with: a signing key as Base64 text, the users that may create
credentials, the host recorded in them, and how long they last.
-/

namespace Attest.Signed

/-- The shortest signing key that is accepted, in bytes. -/
def minKeyLength : Nat := 32

structure Identity where
  uid : UInt32
  gid : UInt32
deriving Repr, DecidableEq

inductive ConfigError where
  /-- The key is no Base64 text. -/
  | keyEncoding (reason : String)
  | keyTooShort (length minimum : Nat)
  /-- The configuration cannot be read. -/
  | invalid (reason : String)
deriving Repr, DecidableEq

namespace ConfigError

def message : ConfigError → String
  | .keyEncoding reason => s!"invalid key encoding: {reason}"
  | .keyTooShort length minimum => s!"key too short: {length} bytes, need at least {minimum}"
  | .invalid reason => s!"invalid configuration: {reason}"

def toAuthError (e : ConfigError) : AuthError :=
  .configuration e.message

end ConfigError

structure Config where
  key : String
  users : NameMap Identity := {}
  host : Option String := none
  /-- The lifetime of a credential in seconds. -/
  lifetime : UInt64 := 300

namespace Config

def ofKey (key : Bytes) : Config :=
  { key := Base64.encode key }

/-- The bytes of the signing key. White space around its text does not matter. -/
def decodeKey (config : Config) : Except ConfigError Bytes :=
  match Base64.decode? (Blank.trim config.key) with
  | none => .error (.keyEncoding "not standard base64 with padding")
  | some key =>
    if key.length < minKeyLength then .error (.keyTooShort key.length minKeyLength) else .ok key

def identityJson (identity : Identity) : Json :=
  .ofMembers [("uid", .ofNat identity.uid.toNat), ("gid", .ofNat identity.gid.toNat)]

def toJson (config : Config) : Json :=
  let users := config.users.entries.map fun (name, identity) => (name, identityJson identity)
  .ofMembers [("key", .ofText config.key), ("users", .ofMembers users),
    ("host", .ofOption .ofText config.host), ("ttl_secs", .ofNat config.lifetime.toNat)]

def word32? (json : Json) : Option UInt32 :=
  (json.natural? UInt32.size).map UInt32.ofNat

def word64? (json : Json) : Option UInt64 :=
  (json.natural? UInt64.size).map UInt64.ofNat

def identity? (json : Json) : Option Identity := do
  let fields ← json.fields? ["uid", "gid"]
  let uid ← Json.required? fields "uid" word32?
  let gid ← Json.required? fields "gid" word32?
  return { uid, gid }

/-- An object with an identity for each user; of several under one name the last counts. -/
def users? : Json → Option (NameMap Identity)
  | .object members => do
    let named ← Json.namedMembers? members
    let users ← named.mapM fun (name, json) => (identity? json).map (name, ·)
    return NameMap.ofList users
  | _ => none

def fieldNames : List String := ["key", "users", "host", "ttl_secs"]

def ofJson? (json : Json) : Option Config := do
  let fields ← json.fields? fieldNames
  let key ← Json.required? fields "key" Json.text?
  let default : Config := { key }
  let users ← Json.withDefault? fields "users" default.users users?
  let host ← Json.withDefault? fields "host" default.host (Json.optional? Json.text?)
  let lifetime ← Json.withDefault? fields "ttl_secs" default.lifetime word64?
  return { key, users, host, lifetime }

def parse (text : String) : Except String Config :=
  match (Json.parse? text).bind ofJson? with
  | some config => .ok config
  | none => .error "not a valid configuration"

def ofFile (path : String) (file : File) : Except ConfigError Config :=
  match file.text.bind parse with
  | .ok config => .ok config
  | .error reason => .error (.invalid s!"{path}: {reason}")

/-- The configuration for a person to read, without the key. -/
def redacted (config : Config) : String :=
  let user := fun (entry : String × Identity) =>
    Quoted.quote entry.1 ++ ": Identity \x7b uid: " ++ toString entry.2.uid.toNat ++ ", gid: " ++
      toString entry.2.gid.toNat ++ " \x7d"
  "HmacConfig \x7b key: \"[REDACTED]\", users: \x7b" ++
    String.intercalate ", " (config.users.entries.map user) ++ "\x7d, host: " ++
    Quoted.optional (config.host.map Quoted.quote) ++ ", ttl_secs: " ++
    toString config.lifetime.toNat ++ " \x7d"

/-- Configurations that differ in nothing but the key look the same. -/
theorem redacted_of_rekeyed (config : Config) (key : String) :
    ({ config with key } : Config).redacted = config.redacted :=
  rfl

end Config

end Attest.Signed
