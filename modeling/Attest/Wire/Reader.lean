import Attest.Text.Utf8
import Attest.Wire.Error

/-!
Reading wire fields off the front of a buffer. A read that fails still leaves a buffer: a number
takes nothing, and a byte string or a text keeps what it had already taken, so that the reads that
follow start at a definite place.
-/

namespace Attest.Wire

/-- The longest byte string or text that is read. -/
def maxBlockLength : Nat := 16777216

abbrev Reader (α : Type) := ExceptT Error (StateM Bytes) α

/-- The first `count` bytes, or nothing if there are fewer. -/
def take (count : Nat) : Reader Bytes := fun buffer =>
  if count ≤ buffer.length then (.ok (buffer.take count), buffer.drop count)
  else (.error (.truncated count buffer.length), buffer)

def readWord16 : Reader UInt16 := do
  return UInt16.ofNat (BigEndian.decode (← take 2))

def readWord32 : Reader UInt32 := do
  return UInt32.ofNat (BigEndian.decode (← take 4))

def readWord64 : Reader UInt64 := do
  return UInt64.ofNat (BigEndian.decode (← take 8))

/-- Every byte but zero is true. -/
def readFlag : Reader Bool := do
  return BigEndian.decode (← take 1) != 0

def readBlock : Reader Bytes := do
  let length := (← readWord32).toNat
  if length > maxBlockLength then throw (.tooLong length maxBlockLength)
  take length

/-- A byte string without the zero byte at its end, if it has one there. -/
def dropTerminator (octets : Bytes) : Bytes :=
  if octets.getLast? = some 0 then octets.dropLast else octets

def readText : Reader (Option String) := do
  let octets ← readBlock
  if octets.isEmpty then return none
  match Utf8.decode? (dropTerminator octets) with
  | some value => return some value
  | none => throw .notUtf8

end Attest.Wire
