import Attest.Proofs.Options.Composition

/-!
What an option text gives for a key, read off the text between its commas. Items that say nothing of
the key have no part in it, and of those that do the last counts.
-/

namespace Attest.Options

/-- What a text between commas says of a key: a value behind the first mark, or nothing more than the
key itself. -/
inductive States (key : String) : List Char → String → Prop where
  | value {name value : List Char} (unmarked : '=' ∉ name)
    (named : SameKey (Blank.trimChars name) key.toList) :
    States key (name ++ '=' :: value) (String.ofList (Blank.trimChars value))
  | word {name : List Char} (unmarked : '=' ∉ name)
    (named : SameKey (Blank.trimChars name) key.toList) : States key name ""

/-- The texts between the commas. -/
def items (info : Option String) : List (List Char) :=
  Pieces.pieces ',' (info.getD "").toList

/-- The last item that says something of the key gives it the value. -/
def Gives (info : Option String) (key value : String) : Prop :=
  ∃ earlier item later, items info = earlier ++ item :: later ∧ States key item value ∧
    ∀ other ∈ later, ∀ value, ¬ States key other value

/-- No item says anything of the key. -/
def Omits (info : Option String) (key : String) : Prop :=
  ∀ item ∈ items info, ∀ value, ¬ States key item value

variable {info : Option String} {key value : String} {item : List Char}

theorem entries_parse (info : Option String) : (parse info).entries = (items info).filterMap said? :=
  entries_parseChars _

theorem states_iff (named : key ≠ "") :
    States key item value ↔ ∃ name, said? item = some (name, value.toList) ∧ SameKey name key.toList := by
  constructor
  · rintro (⟨unmarked, same⟩ | ⟨unmarked, same⟩)
    · exact ⟨_, by rw [said?_of_marked unmarked, String.toList_ofList], same⟩
    · have filled : Blank.trimChars item ≠ [] := by
        intro blank
        rw [blank] at same
        exact named (String.toList_eq_nil_iff.1 (List.forall₂_nil_left_iff.1 same))
      exact ⟨_, said?_of_unmarked unmarked filled, same⟩
  · rintro ⟨name, said, same⟩
    cases cut : Pieces.cut? '=' item with
    | some sides =>
      obtain ⟨before, after⟩ := sides
      obtain ⟨unmarked, rfl⟩ := Pieces.cut?_eq_some_iff.1 cut
      rw [said?_of_marked unmarked, Option.some.injEq, Prod.mk.injEq] at said
      obtain ⟨rfl, rest⟩ := said
      rw [← String.ofList_toList (s := value), ← rest]
      exact .value unmarked same
    | none =>
      have unmarked := Pieces.cut?_eq_none_iff.1 cut
      have filled : Blank.trimChars item ≠ [] := by
        intro blank
        rw [said?, if_pos blank] at said
        cases said
      rw [said?_of_unmarked unmarked filled, Option.some.injEq, Prod.mk.injEq] at said
      obtain ⟨rfl, rest⟩ := said
      rw [String.toList_eq_nil_iff.1 rest.symm]
      exact .word unmarked same

/-- What is kept of some items has nothing to do with a key exactly if none of them says anything of
it. -/
theorem unstated_iff (named : key ≠ "") (items : List (List Char)) :
    (∀ entry ∈ items.filterMap said?, ¬ SameKey entry.1 key.toList) ↔
      ∀ item ∈ items, ∀ value, ¬ States key item value := by
  constructor
  · intro unkept item member value stated
    obtain ⟨name, said, same⟩ := (states_iff named).1 stated
    exact unkept _ (List.mem_filterMap.2 ⟨item, member, said⟩) same
  · rintro unstated ⟨name, chars⟩ member same
    obtain ⟨item, inside, said⟩ := List.mem_filterMap.1 member
    refine unstated item inside (String.ofList chars) ((states_iff named).2 ⟨name, ?_, same⟩)
    rw [String.toList_ofList, said]

theorem gives_iff (named : key ≠ "") : Gives info key value ↔ (parse info).get? key = some value := by
  rw [get?_eq_some_iff, Last, entries_parse]
  constructor
  · rintro ⟨earlier, item, later, same, stated, unstated⟩
    obtain ⟨name, said, isKey⟩ := (states_iff named).1 stated
    refine ⟨earlier.filterMap said?, name, later.filterMap said?, ?_, isKey,
      (unstated_iff named later).2 unstated⟩
    rw [same, List.filterMap_append, List.filterMap_cons_some said]
  · rintro ⟨earlier, name, later, same, isKey, others⟩
    obtain ⟨front, back, split, -, found⟩ := List.filterMap_eq_append_iff.1 same
    obtain ⟨blank, item, rest, rfl, -, said, rfl⟩ := List.filterMap_eq_cons_iff.1 found
    refine ⟨front ++ blank, item, rest, ?_, (states_iff named).2 ⟨name, said, isKey⟩,
      (unstated_iff named rest).1 others⟩
    rw [split, List.append_assoc]

theorem omits_iff (named : key ≠ "") : Omits info key ↔ (parse info).get? key = none := by
  rw [get?_eq_none_iff, Lacks, entries_parse]
  exact (unstated_iff named _).symm

end Attest.Options
