import Attest.Options
import Mathlib.Data.List.Forall2

/-!
Looking options up. A key is found whatever the case of its ASCII letters, and nothing else about it
may differ. The value is that of the last entry with the key.
-/

namespace Attest.Options

/-- The capital letters of ASCII, each beside the small one. -/
def letterCases : List (Char × Char) :=
  "ABCDEFGHIJKLMNOPQRSTUVWXYZ".toList.zip "abcdefghijklmnopqrstuvwxyz".toList

/-- The same character, or both cases of one letter of ASCII. -/
def SameLetter (left right : Char) : Prop :=
  left = right ∨ (left, right) ∈ letterCases ∨ (right, left) ∈ letterCases

def SameKey : List Char → List Char → Prop :=
  List.Forall₂ SameLetter

theorem lowerAscii_of_mem :
    ∀ pair ∈ letterCases, lowerAscii pair.1 = pair.2 ∧ lowerAscii pair.2 = pair.2 := by
  decide

theorem capital_inj :
    ∀ left ∈ letterCases, ∀ right ∈ letterCases, left.2 = right.2 → left.1 = right.1 := by
  decide

/-- A character is a capital letter beside its small one, or keeps its case. -/
theorem mem_or_lowerAscii_eq (c : Char) : (c, lowerAscii c) ∈ letterCases ∨ lowerAscii c = c := by
  by_cases capital : 'A' ≤ c ∧ c ≤ 'Z'
  · left
    have listed : ∀ index < 26,
        (Char.ofNat (65 + index), lowerAscii (Char.ofNat (65 + index))) ∈ letterCases := by
      decide
    have least : 65 ≤ c.toNat := capital.1
    have most : c.toNat ≤ 90 := capital.2
    have found := listed (c.toNat - 65) (by omega)
    rwa [Nat.add_sub_cancel' least, Char.ofNat_toNat] at found
  · right
    rw [lowerAscii, if_neg capital]

theorem lowerAscii_eq_iff {left right : Char} :
    lowerAscii left = lowerAscii right ↔ SameLetter left right := by
  constructor
  · intro same
    obtain leftCapital | leftKept := mem_or_lowerAscii_eq left
    · obtain rightCapital | rightKept := mem_or_lowerAscii_eq right
      · exact .inl (capital_inj _ leftCapital _ rightCapital same)
      · rw [same, rightKept] at leftCapital
        exact .inr (.inl leftCapital)
    · obtain rightCapital | rightKept := mem_or_lowerAscii_eq right
      · rw [← same, leftKept] at rightCapital
        exact .inr (.inr rightCapital)
      · rw [leftKept, rightKept] at same
        exact .inl same
  · rintro (rfl | listed | listed)
    · rfl
    · obtain ⟨capital, small⟩ := lowerAscii_of_mem _ listed
      exact capital.trans small.symm
    · obtain ⟨capital, small⟩ := lowerAscii_of_mem _ listed
      exact small.trans capital.symm

theorem sameKey_iff {left right : List Char} : sameKey left right = true ↔ SameKey left right := by
  have letters : SameLetter = fun left right => lowerAscii left = lowerAscii right := by
    funext left right
    exact propext lowerAscii_eq_iff.symm
  rw [sameKey, beq_iff_eq, ← List.forall₂_eq_eq_eq, List.forall₂_map_left_iff,
    List.forall₂_map_right_iff, SameKey, letters]

/-- The value stands under the key, and no later entry has the key. -/
def Last (options : Options) (key value : String) : Prop :=
  ∃ earlier name later, options.entries = earlier ++ (name, value.toList) :: later ∧
    SameKey name key.toList ∧ ∀ entry ∈ later, ¬ SameKey entry.1 key.toList

def Lacks (options : Options) (key : String) : Prop :=
  ∀ entry ∈ options.entries, ¬ SameKey entry.1 key.toList

variable {options : Options} {key value : String}

theorem get?_eq_some_iff : options.get? key = some value ↔ options.Last key value := by
  simp only [get?, Option.map_eq_some_iff, List.find?_eq_some_iff_append, sameKey_iff]
  constructor
  · rintro ⟨⟨name, chars⟩, ⟨same, later, earlier, reversed, others⟩, rfl⟩
    rw [List.reverse_eq_append_iff, List.reverse_cons, List.append_assoc] at reversed
    refine ⟨earlier.reverse, name, later.reverse, by simpa using reversed, same, ?_⟩
    intro entry member isKey
    have other := others entry (List.mem_reverse.1 member)
    rw [Bool.not_eq_true', sameKey_iff.2 isKey] at other
    cases other
  · rintro ⟨earlier, name, later, entries, same, others⟩
    refine ⟨(name, value.toList), ⟨same, later.reverse, earlier.reverse, ?_, ?_⟩, ?_⟩
    · rw [entries, List.reverse_append, List.reverse_cons, List.append_assoc, List.singleton_append]
    · intro entry member
      rw [Bool.not_eq_true', Bool.eq_false_iff, Ne, sameKey_iff]
      exact others entry (List.mem_reverse.1 member)
    · exact String.ofList_toList

theorem get?_eq_none_iff : options.get? key = none ↔ options.Lacks key := by
  simp only [get?, Option.map_eq_none_iff, List.find?_eq_none, List.mem_reverse, sameKey_iff, Lacks]

/-- Entries that are added behind hide those before them, key by key. -/
theorem get?_append (first second : Options) (key : String) :
    Options.get? ⟨first.entries ++ second.entries⟩ key =
      (second.get? key).or (first.get? key) := by
  simp only [get?, List.reverse_append, List.find?_append, Option.map_or]

end Attest.Options
