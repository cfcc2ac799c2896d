import Attest.Text.Decimal

/-!
Which numbers a text stands for. Digits may have a plus sign and any number of zeros in front of them,
and nothing else may stand in the text; a number that does not fit is no number.
-/

namespace Attest.Decimal

/-- The text is the number in base ten, written with digits of ASCII. -/
def Denotes (text : String) (number : Nat) : Prop :=
  ∃ sign digits, (sign = [] ∨ sign = ['+']) ∧ digits ≠ [] ∧ (∀ c ∈ digits, '0' ≤ c ∧ c ≤ '9') ∧
    text.toList = sign ++ digits ∧ number = Nat.ofDigitChars 10 digits 0

variable {chars digits : List Char} {text : String} {bound number : Nat}

theorem digits?_eq_some_iff :
    digits? digits = some number ↔ digits ≠ [] ∧ (∀ c ∈ digits, '0' ≤ c ∧ c ≤ '9') ∧
      number = Nat.ofDigitChars 10 digits 0 := by
  have numeric : digits.all isDigit = true ↔ ∀ c ∈ digits, '0' ≤ c ∧ c ≤ '9' := by
    simp only [List.all_eq_true, isDigit, Bool.and_eq_true, decide_eq_true_eq]
  have positional : value digits = Nat.ofDigitChars 10 digits 0 := rfl
  unfold digits?
  split
  · rename_i written
    rw [Option.some.injEq, positional]
    constructor
    · rintro rfl
      exact ⟨written.1, numeric.1 written.2, rfl⟩
    · rintro ⟨-, -, rfl⟩
      rfl
  · rename_i unwritten
    constructor
    · intro impossible
      cases impossible
    · rintro ⟨filled, all, -⟩
      exact absurd ⟨filled, numeric.2 all⟩ unwritten

theorem natural?_eq_some_iff :
    natural? bound text.toList = some number ↔ Denotes text number ∧ number < bound := by
  unfold natural? Denotes
  rw [Option.filter_eq_some_iff, decide_eq_true_eq]
  refine and_congr_left fun _ => ?_
  split
  · rename_i rest signed
    rw [digits?_eq_some_iff]
    constructor
    · rintro ⟨filled, all, same⟩
      exact ⟨['+'], rest, .inr rfl, filled, all, signed, same⟩
    · rintro ⟨sign, digits, rfl | rfl, filled, all, written, same⟩
      · rw [signed, List.nil_append] at written
        subst written
        exact absurd (all '+' List.mem_cons_self).1 (by decide)
      · rw [signed] at written
        cases written
        exact ⟨filled, all, same⟩
  · rename_i unsigned
    rw [digits?_eq_some_iff]
    constructor
    · rintro ⟨filled, all, same⟩
      exact ⟨[], text.toList, .inl rfl, filled, all, rfl, same⟩
    · rintro ⟨sign, digits, rfl | rfl, filled, all, written, same⟩
      · rw [written]
        exact ⟨filled, all, same⟩
      · exact absurd written (unsigned digits)

theorem word32?_eq_some_iff {word : UInt32} :
    word32? text = some word ↔ Denotes text word.toNat := by
  rw [word32?, Option.map_eq_some_iff]
  constructor
  · rintro ⟨number, read, rfl⟩
    obtain ⟨denotes, small⟩ := natural?_eq_some_iff.1 read
    rwa [UInt32.toNat_ofNat_of_lt' small]
  · intro denotes
    exact ⟨word.toNat, natural?_eq_some_iff.2 ⟨denotes, word.toNat_lt⟩, UInt32.ofNat_toNat⟩

theorem word32?_eq_none_iff :
    word32? text = none ↔ ∀ number < UInt32.size, ¬ Denotes text number := by
  rw [Option.eq_none_iff_forall_ne_some]
  constructor
  · intro unread number small denotes
    refine unread (UInt32.ofNat number) (word32?_eq_some_iff.2 ?_)
    rwa [UInt32.toNat_ofNat_of_lt' small]
  · intro unfit word read
    exact unfit word.toNat word.toNat_lt (word32?_eq_some_iff.1 read)

end Attest.Decimal
