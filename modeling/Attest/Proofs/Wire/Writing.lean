import Attest.Wire.Writer

/-!
What is written for fields. Fields can be told apart from whatever follows them: two of one shape that
begin the same bytes are the same field, as long as their lengths can be declared.
-/

namespace Attest

theorem BigEndian.encode_append_inj {width left right : Nat} {rest tail : Bytes}
    (leftFits : left < capacity width) (rightFits : right < capacity width)
    (same : encode width left ++ rest = encode width right ++ tail) :
    left = right ∧ rest = tail := by
  have widths : (encode width left).length = (encode width right).length := by
    rw [length_encode, length_encode]
  obtain ⟨number, following⟩ := List.append_inj same widths
  have decoded := congrArg decode number
  rw [decode_encode_of_lt leftFits, decode_encode_of_lt rightFits] at decoded
  exact ⟨decoded, following⟩

namespace Wire

open BigEndian

variable {rest tail : Bytes}

@[simp] theorem length_word32 (value : UInt32) : (word32 value).length = 4 :=
  length_encode 4 value.toNat

@[simp] theorem length_block (data : Bytes) : (block data).length = 4 + data.length := by
  rw [block, lengthWord, List.length_append, length_encode]

theorem word32_append_inj {left right : UInt32}
    (same : word32 left ++ rest = word32 right ++ tail) : left = right ∧ rest = tail := by
  obtain ⟨number, following⟩ := encode_append_inj left.toNat_lt right.toNat_lt same
  exact ⟨UInt32.toNat_inj.1 number, following⟩

theorem word64_append_inj {left right : UInt64}
    (same : word64 left ++ rest = word64 right ++ tail) : left = right ∧ rest = tail := by
  obtain ⟨number, following⟩ := encode_append_inj left.toNat_lt right.toNat_lt same
  exact ⟨UInt64.toNat_inj.1 number, following⟩

theorem block_append_inj {left right : Bytes} (leftFits : left.length < capacity 4)
    (rightFits : right.length < capacity 4)
    (same : block left ++ rest = block right ++ tail) : left = right ∧ rest = tail := by
  simp only [block, List.append_assoc] at same
  obtain ⟨length, following⟩ := encode_append_inj leftFits rightFits same
  exact List.append_inj following length

/-- A block by itself tells what it holds even where its length cannot be declared. -/
theorem block_inj {left right : Bytes} : block left = block right ↔ left = right := by
  constructor
  · intro same
    have lengths := congrArg List.length same
    simp only [block, lengthWord, List.length_append, length_encode] at lengths
    rw [block, block, Nat.add_left_cancel lengths] at same
    exact List.append_cancel_left same
  · intro same
    rw [same]

@[simp] theorem drop_block (data : Bytes) : (block data).drop 4 = data :=
  List.drop_left' (length_encode 4 data.length)

/-- The octets of a text field. A text has at least the one that ends it. -/
def octets : Option String → Bytes
  | none => []
  | some value => Utf8.encode value ++ [0]

theorem text_eq_block (value : Option String) : text value = block (octets value) := by
  cases value with
  | none => rfl
  | some value => simp [text, block, octets]

theorem octets_inj {left right : Option String} (same : octets left = octets right) :
    left = right := by
  cases left with
  | none =>
    cases right with
    | none => rfl
    | some value => simp [octets] at same
  | some value =>
    cases right with
    | none => simp [octets] at same
    | some other =>
      have encoded := (List.append_inj' same rfl).1
      rw [Utf8.encode_inj.1 encoded]

theorem text_append_inj {left right : Option String}
    (leftFits : (octets left).length < capacity 4) (rightFits : (octets right).length < capacity 4)
    (same : text left ++ rest = text right ++ tail) : left = right ∧ rest = tail := by
  rw [text_eq_block, text_eq_block] at same
  obtain ⟨written, following⟩ := block_append_inj leftFits rightFits same
  exact ⟨octets_inj written, following⟩

end Wire

end Attest
