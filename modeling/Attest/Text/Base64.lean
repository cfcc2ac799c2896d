import Attest.Bytes.BigEndian

/-!
Base64 with the standard alphabet. Three bytes are written as four characters; one or two bytes
left over are padded with `=` to four. Reading accepts only what writing produces: the padding is
required and the bits that no byte uses are zero.
-/

namespace Attest.Base64

/-- The character of a six-bit value. -/
def digit (sextet : Nat) : Char :=
  if sextet < 26 then Char.ofNat ('A'.toNat + sextet)
  else if sextet < 52 then Char.ofNat ('a'.toNat + (sextet - 26))
  else if sextet < 62 then Char.ofNat ('0'.toNat + (sextet - 52))
  else if sextet = 62 then '+'
  else '/'

def sextet? (c : Char) : Option Nat :=
  if 'A' ≤ c ∧ c ≤ 'Z' then some (c.toNat - 'A'.toNat)
  else if 'a' ≤ c ∧ c ≤ 'z' then some (c.toNat - 'a'.toNat + 26)
  else if '0' ≤ c ∧ c ≤ '9' then some (c.toNat - '0'.toNat + 52)
  else if c = '+' then some 62
  else if c = '/' then some 63
  else none

def encodeChars : Bytes → List Char
  | [] => []
  | [a] => [digit (a.toNat / 4), digit (a.toNat % 4 * 16), '=', '=']
  | [a, b] =>
    [digit (a.toNat / 4), digit (a.toNat % 4 * 16 + b.toNat / 16), digit (b.toNat % 16 * 4), '=']
  | a :: b :: c :: rest =>
    digit (a.toNat / 4) :: digit (a.toNat % 4 * 16 + b.toNat / 16) ::
      digit (b.toNat % 16 * 4 + c.toNat / 64) :: digit (c.toNat % 64) :: encodeChars rest

/-- One byte from a padded group of two characters. -/
def decodeOne? (p q : Char) : Option Bytes := do
  let p ← sextet? p
  let q ← sextet? q
  if q % 16 = 0 then some [UInt8.ofNat (p * 4 + q / 16)] else none

/-- Two bytes from a padded group of three characters. -/
def decodeTwo? (p q r : Char) : Option Bytes := do
  let p ← sextet? p
  let q ← sextet? q
  let r ← sextet? r
  if r % 4 = 0 then some [UInt8.ofNat (p * 4 + q / 16), UInt8.ofNat (q % 16 * 16 + r / 4)] else none

def decodeThree? (p q r s : Char) : Option Bytes := do
  let p ← sextet? p
  let q ← sextet? q
  let r ← sextet? r
  let s ← sextet? s
  some [UInt8.ofNat (p * 4 + q / 16), UInt8.ofNat (q % 16 * 16 + r / 4),
    UInt8.ofNat (r % 4 * 64 + s)]

def decodeChars? : List Char → Option Bytes
  | [] => some []
  | [p, q, '=', '='] => decodeOne? p q
  | [p, q, r, '='] => decodeTwo? p q r
  | p :: q :: r :: s :: rest => do
    let group ← decodeThree? p q r s
    let bytes ← decodeChars? rest
    some (group ++ bytes)
  | _ => none

def encode (bytes : Bytes) : String :=
  String.ofList (encodeChars bytes)

def decode? (text : String) : Option Bytes :=
  decodeChars? text.toList

end Attest.Base64
