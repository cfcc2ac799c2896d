import Attest.Proofs.Wire.Reading

/-!
Text fields and the octets that stand for a text. A zero byte may end them or be left out, so a text
has two spellings. The reader takes both and the writer uses the first, and neither knows any other.
-/

namespace Attest.Wire

/-- The octets stand for the name: ended by a zero byte, or as they are if no zero byte ends them. -/
def Spells (octets name : Bytes) : Prop :=
  octets = name ++ [0] ∨ (octets = name ∧ name.getLast? ≠ some 0)

theorem dropTerminator_eq_iff {octets name : Bytes} :
    dropTerminator octets = name ↔ Spells octets name := by
  unfold dropTerminator Spells
  by_cases ended : octets.getLast? = some 0
  · rw [if_pos ended]
    obtain ⟨front, rfl⟩ := List.getLast?_eq_some_iff.1 ended
    rw [List.dropLast_concat]
    constructor
    · rintro rfl
      exact .inl rfl
    · rintro (same | ⟨rfl, unended⟩)
      · exact List.append_cancel_right same
      · exact absurd ended unended
  · rw [if_neg ended]
    constructor
    · rintro rfl
      exact .inr ⟨rfl, ended⟩
    · rintro (rfl | ⟨same, -⟩)
      · exact absurd List.getLast?_concat ended
      · exact same

section

variable {octets : Bytes} {value : String}

theorem textOf_of_spells (spells : Spells octets (Utf8.encode value)) (filled : octets ≠ []) :
    textOf octets = .ok (some value) := by
  have nonempty : ¬ octets.isEmpty = true := fun empty => filled (List.isEmpty_iff.1 empty)
  rw [textOf, if_neg nonempty, dropTerminator_eq_iff.2 spells, Utf8.decode?_encode]

/-- Octets that are UTF-8 are readable, whether or not a zero octet ends them. -/
theorem exists_textOf (text : String) : ∃ value, textOf (Utf8.encode text) = .ok value := by
  by_cases empty : text = ""
  · exact ⟨none, by rw [empty]; rfl⟩
  · have filled := Utf8.encode_ne_nil empty
    by_cases ended : (Utf8.encode text).getLast? = some 0
    · obtain ⟨front, split⟩ := List.getLast?_eq_some_iff.1 ended
      obtain ⟨shorter, rfl⟩ := Utf8.exists_of_append_zero split
      exact ⟨some shorter, textOf_of_spells (.inl split) filled⟩
    · exact ⟨some text, textOf_of_spells (.inr ⟨rfl, ended⟩) filled⟩

theorem textOf_of_notUtf8 (unreadable : ∀ text, octets ≠ Utf8.encode text) :
    textOf octets = .error .notUtf8 := by
  have filled : ¬ octets.isEmpty = true := fun empty => unreadable "" (List.isEmpty_iff.1 empty)
  rw [textOf, if_neg filled]
  cases decoded : Utf8.decode? (dropTerminator octets) with
  | none => rfl
  | some text =>
    obtain ended | ⟨same, -⟩ := dropTerminator_eq_iff.1 (Utf8.decode?_eq_some_iff.1 decoded)
    · exact absurd (ended.trans (Utf8.encode_append text "\x00").symm) (unreadable _)
    · exact absurd same (unreadable text)

theorem reads_text_of_spells (allowed : octets.length ≤ maxBlockLength)
    (spells : Spells octets (Utf8.encode value)) (filled : octets ≠ []) :
    Reads readText (block octets) (some value) := by
  intro rest
  rw [readText_of_readBlock (reads_block allowed rest), textOf_of_spells spells filled]

theorem length_le_of_spells {name : Bytes} (spells : Spells octets name) :
    name.length ≤ octets.length := by
  rw [← dropTerminator_eq_iff.2 spells]
  exact length_dropTerminator_le octets

/-- A field without octets holds no text, and every other field holds one if it is readable. -/
theorem textOf_eq_none_iff : textOf octets = .ok none ↔ octets = [] := by
  constructor
  · intro said
    refine Decidable.byContradiction fun filled => ?_
    have nonempty : ¬ octets.isEmpty = true := fun empty => filled (List.isEmpty_iff.1 empty)
    rw [textOf, if_neg nonempty] at said
    cases decoded : Utf8.decode? (dropTerminator octets) with
    | none => simp only [decoded, reduceCtorEq] at said
    | some read => simp only [decoded, Except.ok.injEq, reduceCtorEq] at said
  · intro empty
    rw [empty]
    rfl

theorem textOf_eq_some_iff :
    textOf octets = .ok (some value) ↔ octets ≠ [] ∧ Spells octets (Utf8.encode value) := by
  constructor
  · intro said
    have filled : octets ≠ [] := by
      intro empty
      rw [textOf_eq_none_iff.2 empty] at said
      cases said
    have nonempty : ¬ octets.isEmpty = true := fun empty => filled (List.isEmpty_iff.1 empty)
    rw [textOf, if_neg nonempty] at said
    cases decoded : Utf8.decode? (dropTerminator octets) with
    | none => simp only [decoded, reduceCtorEq] at said
    | some read =>
      simp only [decoded, Except.ok.injEq, Option.some.injEq] at said
      rw [said] at decoded
      exact ⟨filled, dropTerminator_eq_iff.1 (Utf8.decode?_eq_some_iff.1 decoded)⟩
  · intro spelled
    exact textOf_of_spells spelled.2 spelled.1

end

section

variable {octets taken rest : Bytes} {value : Option String}

/-- The writer ends a text, so it writes the octets that were read if these were ended or none. -/
theorem octets_eq_iff (said : textOf octets = .ok value) :
    Wire.octets value = octets ↔ octets = [] ∨ octets.getLast? = some 0 := by
  cases value with
  | none =>
    have empty := textOf_eq_none_iff.1 said
    rw [empty]
    exact ⟨fun _ => .inl rfl, fun _ => rfl⟩
  | some value =>
    obtain ⟨filled, ended | ⟨same, unended⟩⟩ := textOf_eq_some_iff.1 said
    · rw [ended]
      exact ⟨fun _ => .inr List.getLast?_concat, fun _ => rfl⟩
    · rw [same] at filled ⊢
      constructor
      · intro written
        have longer := congrArg List.length written
        simp only [Wire.octets, List.length_append, List.length_singleton] at longer
        omega
      · intro closed
        exact absurd closed (not_or.2 ⟨filled, unended⟩)

/-- Whatever is read as a text is one block. -/
theorem block_of_readText (read : readText (taken ++ rest) = (.ok value, rest)) :
    ∃ octets : Bytes, octets.length ≤ maxBlockLength ∧ taken = block octets ∧
      textOf octets = .ok value := by
  obtain ⟨octets, block, said⟩ := readText_ok_iff.1 read
  obtain ⟨allowed, same⟩ := readBlock_ok_iff.1 block
  exact ⟨octets, allowed, List.append_cancel_right same, said⟩

end

/-- A text field that is read is four zero bytes for no text, or the length and the octets of a text,
ended or not ended by a zero byte. So a text has two spellings at most, of which the writer uses the
one that is ended, and a field that was read is packed as the bytes it was read from exactly if it was
empty or ended. -/
theorem readText_iff_spelled :
    (∀ buffer rest, readText buffer = (.ok none, rest) ↔ buffer = [0, 0, 0, 0] ++ rest) ∧
    (∀ value buffer rest, readText buffer = (.ok (some value), rest) ↔
      ∃ octets : Bytes, 0 < octets.length ∧ octets.length ≤ maxBlockLength ∧
        (octets = Utf8.encode value ++ [0] ∨
          octets = Utf8.encode value ∧ (Utf8.encode value).getLast? ≠ some 0) ∧
        buffer = BigEndian.encode 4 octets.length ++ octets ++ rest) ∧
    (∀ value spelling, Reads readText spelling (some value) →
      spelling = text (some value) ∨
        spelling = BigEndian.encode 4 (Utf8.encode value).length ++ Utf8.encode value) ∧
    (∀ value, text (some value) =
      BigEndian.encode 4 ((Utf8.encode value).length + 1) ++ (Utf8.encode value ++ [0])) ∧
    ∀ value taken rest, readText (taken ++ rest) = (.ok value, rest) →
      (text value = taken ↔ taken.drop 4 = [] ∨ (taken.drop 4).getLast? = some 0) := by
  refine ⟨?_, ?_, ?_, ?_, ?_⟩
  · intro buffer rest
    rw [readText_ok_iff]
    constructor
    · intro ⟨octets, read, said⟩
      rw [textOf_eq_none_iff.1 said] at read
      exact (readBlock_ok_iff.1 read).2
    · intro same
      exact ⟨[], readBlock_ok_iff.2 ⟨Nat.zero_le _, same⟩, textOf_eq_none_iff.2 rfl⟩
  · intro value buffer rest
    rw [readText_ok_iff]
    constructor
    · intro ⟨octets, read, said⟩
      obtain ⟨allowed, same⟩ := readBlock_ok_iff.1 read
      obtain ⟨filled, spells⟩ := textOf_eq_some_iff.1 said
      exact ⟨octets, List.length_pos_iff.2 filled, allowed, spells, same⟩
    · intro ⟨octets, filled, allowed, spells, same⟩
      refine ⟨octets, readBlock_ok_iff.2 ⟨allowed, same⟩, ?_⟩
      exact textOf_eq_some_iff.2 ⟨List.length_pos_iff.1 filled, spells⟩
  · intro value spelling reads
    obtain ⟨octets, -, rfl, said⟩ := block_of_readText (reads [])
    obtain ⟨-, ended | ⟨same, -⟩⟩ := textOf_eq_some_iff.1 said
    · left
      rw [ended, text_eq_block, Wire.octets]
    · right
      rw [same]
      rfl
  · intro value
    rw [text_eq_block, block, Wire.octets, List.length_append, List.length_singleton]
    rfl
  · intro value taken rest read
    obtain ⟨octets, -, rfl, said⟩ := block_of_readText read
    rw [text_eq_block, block_inj, drop_block]
    exact octets_eq_iff said

/-- A text of two octets that nothing ends, and a zero byte by itself, which is the empty text. -/
theorem readText_unended :
    readText ([0, 0, 0, 2, 0xC3, 0xA9] ++ [7]) = (.ok (some "é"), [7]) ∧
      text (some "é") ≠ [0, 0, 0, 2, 0xC3, 0xA9] ∧
      readText ([0, 0, 0, 1, 0] ++ []) = (.ok (some ""), []) ∧
      text (some "") = [0, 0, 0, 1, 0] := by
  obtain ⟨-, spelled, -, -, packed⟩ := readText_iff_spelled
  have unended : readText ([0, 0, 0, 2, 0xC3, 0xA9] ++ [7]) = (.ok (some "é"), [7]) :=
    (spelled "é" _ [7]).2 ⟨[0xC3, 0xA9], by decide, by decide, .inr ⟨by decide, by decide⟩, rfl⟩
  have alone : readText ([0, 0, 0, 1, 0] ++ []) = (.ok (some ""), []) :=
    (spelled "" _ []).2 ⟨[0], by decide, by decide, .inl rfl, rfl⟩
  refine ⟨unended, ?_, alone, (packed _ _ _ alone).2 (.inr rfl)⟩
  intro same
  exact absurd ((packed _ _ _ unended).1 same) (by decide)

end Attest.Wire
