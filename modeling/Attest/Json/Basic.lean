/-!
JSON values.

A number is kept as it is written. A string whose escapes leave half of a surrogate pair alone is
well-formed JSON, but there is no text that it stands for.
-/

namespace Attest

inductive Json where
  | null
  | bool (value : Bool)
  | number (literal : List Char)
  | string (text : Option String)
  | array (items : List Json)
  | object (members : List (Option String × Json))
deriving Inhabited

namespace Json

def ofText (text : String) : Json :=
  .string (some text)

def ofNat (value : Nat) : Json :=
  .number (Nat.toDigits 10 value)

def ofInt : Int → Json
  | .ofNat value => ofNat value
  | .negSucc value => .number ('-' :: Nat.toDigits 10 (value + 1))

def ofOption (toJson : α → Json) : Option α → Json
  | none => .null
  | some item => toJson item

/-- An object whose names are all text. -/
def ofMembers (members : List (String × Json)) : Json :=
  .object (members.map fun (name, value) => (some name, value))

end Json

end Attest
