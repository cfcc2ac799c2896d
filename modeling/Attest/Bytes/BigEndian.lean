/-!
Whole numbers as a fixed count of bytes, the most significant first.

`decode_encode` says that a number is kept modulo the numbers of the width, and `encode_decode` that
the bytes read are the bytes that would be written.
-/

namespace Attest

/-- Bytes in the order in which they are sent. -/
abbrev Bytes := List UInt8

namespace BigEndian

/-- How many numbers `width` bytes can hold, which is what the byte before them counts in. -/
def capacity : Nat → Nat
  | 0 => 1
  | width + 1 => 256 * capacity width

/-- The lowest `width` bytes of a number. -/
def encode : Nat → Nat → Bytes
  | 0, _ => []
  | width + 1, number => UInt8.ofNat (number / capacity width) :: encode width number

def decode : Bytes → Nat
  | [] => 0
  | byte :: rest => byte.toNat * capacity rest.length + decode rest

theorem capacity_pos (width : Nat) : 0 < capacity width := by
  induction width with
  | zero => exact Nat.one_pos
  | succ width ih => exact Nat.mul_pos (by decide) ih

@[simp] theorem length_encode (width number : Nat) : (encode width number).length = width := by
  induction width with
  | zero => rfl
  | succ width ih => rw [encode, List.length_cons, ih]

theorem decode_encode (width number : Nat) :
    decode (encode width number) = number % capacity width := by
  induction width with
  | zero => rw [encode, decode, capacity, Nat.mod_one]
  | succ width ih =>
    have byte : (UInt8.ofNat (number / capacity width)).toNat = number / capacity width % 256 := by
      simp
    have split : number % capacity (width + 1) =
        number % capacity width + capacity width * (number / capacity width % 256) := by
      rw [capacity, Nat.mul_comm, Nat.mod_mul]
    rw [encode, decode, ih, length_encode, byte, split, Nat.mul_comm, Nat.add_comm]

theorem decode_encode_of_lt {width number : Nat} (fits : number < capacity width) :
    decode (encode width number) = number := by
  rw [decode_encode, Nat.mod_eq_of_lt fits]

theorem decode_lt (bytes : Bytes) : decode bytes < capacity bytes.length := by
  induction bytes with
  | nil => exact Nat.one_pos
  | cons byte rest ih =>
    have small : byte.toNat + 1 ≤ 256 := byte.toNat_lt
    have scaled := Nat.mul_le_mul_right (capacity rest.length) small
    rw [Nat.add_mul, Nat.one_mul] at scaled
    rw [decode, List.length_cons, capacity]
    omega

/-- Bytes above the width do not matter. -/
theorem encode_add_mul (width number extra : Nat) :
    encode width (extra * capacity width + number) = encode width number := by
  induction width generalizing extra with
  | zero => rfl
  | succ width ih =>
    have shifted : extra * capacity (width + 1) = extra * 256 * capacity width := by
      rw [capacity, Nat.mul_assoc]
    rw [encode, encode, shifted, ih, Nat.add_comm, Nat.add_mul_div_right _ _ (capacity_pos width)]
    congr 1
    apply UInt8.toNat_inj.1
    simp

theorem encode_decode (bytes : Bytes) : encode bytes.length (decode bytes) = bytes := by
  induction bytes with
  | nil => rfl
  | cons byte rest ih =>
    rw [List.length_cons, encode, decode, encode_add_mul, ih, Nat.add_comm,
      Nat.add_mul_div_right _ _ (capacity_pos rest.length), Nat.div_eq_of_lt (decode_lt rest),
      Nat.zero_add, UInt8.ofNat_toNat]

end BigEndian

end Attest
