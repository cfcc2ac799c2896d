import Attest.Json.Basic
import Attest.Text.Decimal

/-!
Reading records off JSON. A record with named fields may be written as an object, where members
of other names are passed over and a field may be given once, or as an array of the fields' values
in their order, where the last ones may be left out.
-/

namespace Attest.Json

def text? : Json → Option String
  | .string text => text
  | _ => none

/-- A number below `bound` that is written with digits only. -/
def natural? (bound : Nat) : Json → Option Nat
  | .number literal => (Decimal.digits? literal).filter (· < bound)
  | _ => none

/-- A value, or `null` for none. -/
def optional? (read? : Json → Option α) : Json → Option (Option α)
  | .null => some none
  | json => (read? json).map some

/-- The members of an object, if each name is text. -/
def namedMembers? (members : List (Option String × Json)) : Option (List (String × Json)) :=
  members.mapM fun (name, value) => name.map (·, value)

/-- The fields that are given, each under its name. -/
def fields? (names : List String) : Json → Option (List (String × Json))
  | .object members => do
    let named ← namedMembers? members
    let known := named.filter fun (name, _) => names.contains name
    if (known.map (·.1)).Nodup then some known else none
  | .array items => if items.length ≤ names.length then some (names.zip items) else none
  | _ => none

/-- A field that must be given. -/
def required? (fields : List (String × Json)) (name : String) (read? : Json → Option α) : Option α :=
  match fields.lookup name with
  | none => none
  | some json => read? json

/-- A field that stands for `default` when it is not given. -/
def withDefault? (fields : List (String × Json)) (name : String) (default : α)
    (read? : Json → Option α) : Option α :=
  match fields.lookup name with
  | none => some default
  | some json => read? json

end Attest.Json
