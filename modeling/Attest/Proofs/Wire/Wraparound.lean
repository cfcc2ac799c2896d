import Attest.Proofs.Wire.Text

/-!
Blocks and texts of any length, packed and read back. A length is declared modulo 2³², so a field of
2³² bytes or more declares a shorter one. Unless the limit of reading refuses that length, the reader
takes the front of the field for all of it. Below 2³² bytes, the one that ends a text among them, a
field comes back as it was packed or is refused.
-/

namespace Attest.Wire

open BigEndian

/-- The length that a field of `count` bytes declares. -/
def declared (count : Nat) : Nat :=
  count % capacity 4

theorem declared_lt (count : Nat) : declared count < capacity 4 :=
  Nat.mod_lt _ (capacity_pos 4)

theorem declared_le (count : Nat) : declared count ≤ count :=
  Nat.mod_le _ _

theorem declared_of_lt {count : Nat} (fits : count < capacity 4) : declared count = count :=
  Nat.mod_eq_of_lt fits

theorem lengthWord_declared (count : Nat) : lengthWord (declared count) = lengthWord count := by
  have split := Nat.div_add_mod' count (capacity 4)
  calc
    lengthWord (declared count)
      = encode 4 (count / capacity 4 * capacity 4 + count % capacity 4) :=
        (encode_add_mul 4 _ _).symm
    _ = lengthWord count := by rw [split, lengthWord]

/-- A field that is too long to declare its length is a shorter one with bytes behind it. -/
theorem block_eq_front (data : Bytes) :
    block data =
      block (data.take (declared data.length)) ++ data.drop (declared data.length) := by
  have size : (data.take (declared data.length)).length = declared data.length :=
    List.length_take_of_le (declared_le data.length)
  rw [block, block, size, lengthWord_declared, List.append_assoc, List.take_append_drop]

section

variable {data : Bytes}

theorem readBlock_block_of_allowed (allowed : declared data.length ≤ maxBlockLength) :
    readBlock (block data) =
      (.ok (data.take (declared data.length)), data.drop (declared data.length)) := by
  have size : (data.take (declared data.length)).length = declared data.length :=
    List.length_take_of_le (declared_le data.length)
  rw [block_eq_front]
  apply reads_block
  rwa [size]

theorem readBlock_block_of_long (long : maxBlockLength < declared data.length) :
    readBlock (block data) =
      (.error (.tooLong (declared data.length) maxBlockLength), data) := by
  rw [block, ← lengthWord_declared]
  exact readBlock_of_tooLong (declared_lt data.length) long data

end

/-- The value comes back and nothing is left, or reading fails. -/
def Undistorted (value : α) (outcome : Except Error α × Bytes) : Prop :=
  outcome = (.ok value, []) ∨ ∃ cause, outcome.1 = .error cause

theorem undistorted_of_error {value : α} {cause : Error} {rest : Bytes} :
    Undistorted value (.error cause, rest) :=
  .inr ⟨cause, rfl⟩

/-- So many bytes declare another length than theirs, and one that is read. -/
structure Wraps (count : Nat) : Prop where
  undeclarable : capacity 4 ≤ count
  allowed : declared count ≤ maxBlockLength

theorem Wraps.declared_lt_self {count : Nat} (wraps : Wraps count) : declared count < count :=
  Nat.lt_of_lt_of_le (declared_lt count) wraps.undeclarable

theorem undistorted_block_iff (data : Bytes) :
    Undistorted data (readBlock (block data)) ↔ ¬ Wraps data.length := by
  by_cases allowed : declared data.length ≤ maxBlockLength
  · rw [readBlock_block_of_allowed allowed]
    by_cases undeclarable : capacity 4 ≤ data.length
    · have wraps : Wraps data.length := { undeclarable, allowed }
      refine ⟨fun undistorted => ?_, fun exact => absurd wraps exact⟩
      obtain same | ⟨cause, failed⟩ := undistorted
      · have nothing := congrArg (List.length ∘ Prod.snd) same
        simp only [Function.comp_apply, List.length_drop, List.length_nil] at nothing
        have shorter := wraps.declared_lt_self
        omega
      · cases failed
    · refine ⟨fun _ wraps => undeclarable wraps.undeclarable, fun _ => .inl ?_⟩
      rw [declared_of_lt (Nat.not_le.1 undeclarable), List.take_length, List.drop_length]
  · rw [readBlock_block_of_long (Nat.not_le.1 allowed)]
    exact ⟨fun _ wraps => allowed wraps.allowed, fun _ => undistorted_of_error⟩

section

variable {value : Option String}

theorem readText_text_of_wraps (wraps : Wraps (octets value).length) :
    ∃ rest, rest ≠ [] ∧ readText (text value) =
      (textOf ((octets value).take (declared (octets value).length)), rest) := by
  have taken := readBlock_block_of_allowed wraps.allowed
  refine ⟨_, ?_, by rw [text_eq_block, readText_of_readBlock taken]⟩
  intro nothing
  exact absurd wraps.declared_lt_self (Nat.not_lt.2 (List.drop_eq_nil_iff.1 nothing))

theorem undistorted_text_of_not_wraps (exact : ¬ Wraps (octets value).length) :
    Undistorted value (readText (text value)) := by
  rw [← undistorted_block_iff] at exact
  rw [text_eq_block]
  cases read : readBlock (block (octets value)) with
  | mk answer rest =>
    rw [read] at exact
    obtain same | ⟨cause, failed⟩ := exact
    · cases same
      left
      rw [readText_of_readBlock read, textOf_octets]
    · cases failed
      right
      exact ⟨cause, congrArg Prod.fst (readText_of_readBlock_error read)⟩

theorem undistorted_text_iff (value : Option String) :
    Undistorted value (readText (text value)) ↔
      ¬ (Wraps (octets value).length ∧
        ∃ front, (octets value).take (declared (octets value).length) = Utf8.encode front) := by
  by_cases wraps : Wraps (octets value).length
  · obtain ⟨rest, remains, read⟩ := readText_text_of_wraps wraps
    rw [read]
    constructor
    · rintro (same | ⟨cause, failed⟩) ⟨-, front, readable⟩
      · exact remains (congrArg Prod.snd same)
      · obtain ⟨other, said⟩ := exists_textOf front
        rw [readable, said] at failed
        cases failed
    · intro unreadable
      have broken : ∀ front,
          (octets value).take (declared (octets value).length) ≠ Utf8.encode front :=
        fun front readable => unreadable ⟨wraps, front, readable⟩
      rw [textOf_of_notUtf8 broken]
      exact undistorted_of_error
  · exact ⟨fun _ distorted => wraps distorted.1, fun _ => undistorted_text_of_not_wraps wraps⟩

end

/-- What is packed comes back exactly, with nothing left, or reading fails: whenever its length can be
declared, and beyond that unless the length that is declared instead is within the limit of reading.
If it is, a block comes back as its front, and a text is still refused if the front that is taken for
it is not UTF-8. -/
theorem undistorted_iff (data : Bytes) (value : Option String) :
    (Undistorted data (readBlock (block data)) ↔
      data.length < UInt32.size ∨ maxBlockLength < data.length % UInt32.size) ∧
    (readBlock (block data) =
      if data.length % UInt32.size ≤ maxBlockLength then
        (.ok (data.take (data.length % UInt32.size)), data.drop (data.length % UInt32.size))
      else (.error (.tooLong (data.length % UInt32.size) maxBlockLength), data)) ∧
    (Undistorted value (readText (text value)) ↔
      let size := (octets value).length
      size < UInt32.size ∨ maxBlockLength < size % UInt32.size ∨
        ∀ front, (octets value).take (size % UInt32.size) ≠ Utf8.encode front) := by
  have numbers : capacity 4 = UInt32.size := rfl
  have wraps_iff (count : Nat) :
      ¬ Wraps count ↔ count < UInt32.size ∨ maxBlockLength < count % UInt32.size := by
    rw [← numbers, ← Nat.not_le, ← Nat.not_le, ← Decidable.not_and_iff_not_or_not, not_congr]
    exact ⟨fun wraps => ⟨wraps.undeclarable, wraps.allowed⟩, fun ⟨least, most⟩ => ⟨least, most⟩⟩
  refine ⟨?_, ?_, ?_⟩
  · rw [undistorted_block_iff, wraps_iff]
  · rw [← numbers]
    by_cases allowed : declared data.length ≤ maxBlockLength
    · exact (readBlock_block_of_allowed allowed).trans (if_pos allowed).symm
    · exact (readBlock_block_of_long (Nat.not_le.1 allowed)).trans (if_neg allowed).symm
  · rw [undistorted_text_iff, Classical.not_and_iff_not_or_not, wraps_iff, not_exists, declared,
      numbers, or_assoc]

/-- A block of 2³² bytes comes back empty. -/
theorem readBlock_undeclarable :
    let data : Bytes := List.replicate (capacity 4) 0
    readBlock (block data) = (.ok [], data) ∧ ¬ Undistorted data (readBlock (block data)) := by
  intro data
  have size : data.length = capacity 4 := List.length_replicate
  have none : declared data.length = 0 := by rw [size, declared, Nat.mod_self]
  have wraps : Wraps data.length :=
    { undeclarable := Nat.le_of_eq size.symm, allowed := by rw [none]; exact Nat.zero_le _ }
  refine ⟨?_, fun undistorted => (undistorted_block_iff data).1 undistorted wraps⟩
  rw [readBlock_block_of_allowed wraps.allowed, none, List.take_zero, List.drop_zero]

end Attest.Wire
