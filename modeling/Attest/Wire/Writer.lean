import Attest.Text.Utf8

/-!
The bytes of wire fields. Numbers are big-endian; byte strings are preceded by their length, and
texts by the length of their octets and one zero byte that ends them. A length is kept modulo 2³².
-/

namespace Attest.Wire

def word16 (value : UInt16) : Bytes :=
  BigEndian.encode 2 value.toNat

def word32 (value : UInt32) : Bytes :=
  BigEndian.encode 4 value.toNat

def word64 (value : UInt64) : Bytes :=
  BigEndian.encode 8 value.toNat

def flag (value : Bool) : Bytes :=
  [if value then 1 else 0]

/-- The length of a field that holds `count` bytes, as the field declares it. -/
def lengthWord (count : Nat) : Bytes :=
  BigEndian.encode 4 count

def block (data : Bytes) : Bytes :=
  lengthWord data.length ++ data

/-- No text is written as the length zero, which no text has. -/
def text : Option String → Bytes
  | none => lengthWord 0
  | some value => lengthWord ((Utf8.encode value).length + 1) ++ Utf8.encode value ++ [0]

end Attest.Wire
