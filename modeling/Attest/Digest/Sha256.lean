import Attest.Bytes.BigEndian

/-!
The hash function SHA-256: a message is padded to whole blocks of 64 bytes, and each block is mixed
into eight words of 32 bits.
-/

namespace Attest.Sha256

/-- Lengths, in bytes, of a block and of a digest. -/
def blockLength : Nat := 64

def digestLength : Nat := 32

def roundConstants : List UInt32 :=
  [0x428a2f98, 0x71374491, 0xb5c0fbcf, 0xe9b5dba5, 0x3956c25b, 0x59f111f1, 0x923f82a4, 0xab1c5ed5,
   0xd807aa98, 0x12835b01, 0x243185be, 0x550c7dc3, 0x72be5d74, 0x80deb1fe, 0x9bdc06a7, 0xc19bf174,
   0xe49b69c1, 0xefbe4786, 0x0fc19dc6, 0x240ca1cc, 0x2de92c6f, 0x4a7484aa, 0x5cb0a9dc, 0x76f988da,
   0x983e5152, 0xa831c66d, 0xb00327c8, 0xbf597fc7, 0xc6e00bf3, 0xd5a79147, 0x06ca6351, 0x14292967,
   0x27b70a85, 0x2e1b2138, 0x4d2c6dfc, 0x53380d13, 0x650a7354, 0x766a0abb, 0x81c2c92e, 0x92722c85,
   0xa2bfe8a1, 0xa81a664b, 0xc24b8b70, 0xc76c51a3, 0xd192e819, 0xd6990624, 0xf40e3585, 0x106aa070,
   0x19a4c116, 0x1e376c08, 0x2748774c, 0x34b0bcb5, 0x391c0cb3, 0x4ed8aa4a, 0x5b9cca4f, 0x682e6ff3,
   0x748f82ee, 0x78a5636f, 0x84c87814, 0x8cc70208, 0x90befffa, 0xa4506ceb, 0xbef9a3f7, 0xc67178f2]

def rotateRight (word amount : UInt32) : UInt32 :=
  (word >>> amount) ||| (word <<< (32 - amount))

/-- The eight words that a block is mixed into. -/
structure State where
  a : UInt32
  b : UInt32
  c : UInt32
  d : UInt32
  e : UInt32
  f : UInt32
  g : UInt32
  h : UInt32
deriving Repr, DecidableEq

def State.initial : State :=
  ⟨0x6a09e667, 0xbb67ae85, 0x3c6ef372, 0xa54ff53a, 0x510e527f, 0x9b05688c, 0x1f83d9ab, 0x5be0cd19⟩

def State.add (left right : State) : State :=
  ⟨left.a + right.a, left.b + right.b, left.c + right.c, left.d + right.d,
   left.e + right.e, left.f + right.f, left.g + right.g, left.h + right.h⟩

def State.bytes (state : State) : Bytes :=
  [state.a, state.b, state.c, state.d, state.e, state.f, state.g, state.h].flatMap
    fun word => BigEndian.encode 4 word.toNat

def State.round (state : State) (constant word : UInt32) : State :=
  let sumE := rotateRight state.e 6 ^^^ rotateRight state.e 11 ^^^ rotateRight state.e 25
  let choice := (state.e &&& state.f) ^^^ (~~~state.e &&& state.g)
  let first := state.h + sumE + choice + constant + word
  let sumA := rotateRight state.a 2 ^^^ rotateRight state.a 13 ^^^ rotateRight state.a 22
  let majority := (state.a &&& state.b) ^^^ (state.a &&& state.c) ^^^ (state.b &&& state.c)
  ⟨first + (sumA + majority), state.a, state.b, state.c, state.d + first, state.e, state.f, state.g⟩

/-- The word that follows sixteen words of the schedule. -/
def nextWord (window : List UInt32) : UInt32 :=
  let early := window.getD 1 0
  let late := window.getD 14 0
  let small := rotateRight early 7 ^^^ rotateRight early 18 ^^^ (early >>> 3)
  let large := rotateRight late 17 ^^^ rotateRight late 19 ^^^ (late >>> 10)
  window.getD 0 0 + small + window.getD 9 0 + large

/-- The next `count` words of the schedule whose sixteen words to come are `window`. -/
def schedule : Nat → List UInt32 → List UInt32
  | 0, _ => []
  | count + 1, window => window.getD 0 0 :: schedule count (window.tail ++ [nextWord window])

/-- Consecutive stretches of `size + 1` bytes. -/
def chunks (size : Nat) : Bytes → List Bytes
  | [] => []
  | byte :: rest => (byte :: rest.take size) :: chunks size (rest.drop size)
termination_by bytes => bytes.length
decreasing_by
  simp only [List.length_cons, List.length_drop]
  omega

def blockWords (block : Bytes) : List UInt32 :=
  (chunks 3 block).map fun bytes => UInt32.ofNat (BigEndian.decode bytes)

def compress (state : State) (block : Bytes) : State :=
  let mixed := (roundConstants.zip (schedule 64 (blockWords block))).foldl
    (fun state (constant, word) => state.round constant word) state
  state.add mixed

/-- One bit, zeros, and the count of the message's bits, up to a whole number of blocks. -/
def padding (length : Nat) : Bytes :=
  let zeros := (blockLength + 55 - length % blockLength) % blockLength
  0x80 :: List.replicate zeros 0 ++ BigEndian.encode 8 (8 * length)

def digest (message : Bytes) : Bytes :=
  let padded := message ++ padding message.length
  ((chunks (blockLength - 1) padded).foldl compress State.initial).bytes

theorem length_digest (message : Bytes) : (digest message).length = digestLength := by
  simp [digest, State.bytes, digestLength]

end Attest.Sha256
