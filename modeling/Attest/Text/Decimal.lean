/-!
Whole numbers in decimal notation: the text of a number, and the numbers that a text may stand for
within given bounds. A sign may stand in front of the digits; leading zeros do not matter.
-/

namespace Attest.Decimal

def isDigit (c : Char) : Bool :=
  '0' ≤ c && c ≤ '9'

def digitValue (c : Char) : Nat :=
  c.toNat - '0'.toNat

/-- The value of a run of digits, the most significant first. -/
def value (digits : List Char) : Nat :=
  digits.foldl (fun number digit => 10 * number + digitValue digit) 0

/-- One digit or more, and nothing else. -/
def digits? (chars : List Char) : Option Nat :=
  if chars ≠ [] ∧ chars.all isDigit then some (value chars) else none

/-- A number below `bound`, with or without a plus sign. -/
def natural? (bound : Nat) (chars : List Char) : Option Nat :=
  let digits := match chars with
    | '+' :: rest => rest
    | _ => chars
  (digits? digits).filter (· < bound)

/-- A number from `low` to `high`, with or without a sign. -/
def integer? (low high : Int) (chars : List Char) : Option Int :=
  let signed : Option Int := match chars with
    | '-' :: rest => (digits? rest).map fun number => -(number : Int)
    | '+' :: rest => (digits? rest).map Int.ofNat
    | _ => (digits? chars).map Int.ofNat
  signed.filter fun number => low ≤ number ∧ number ≤ high

def word32? (text : String) : Option UInt32 :=
  (natural? UInt32.size text.toList).map UInt32.ofNat

end Attest.Decimal
