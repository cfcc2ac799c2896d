import Mathlib.Data.List.Nodup
import Mathlib.Data.List.Perm.Basic
import Mathlib.Logic.Relation
import Attest.Data.NameMap
import Attest.Json.Record
import Attest.Proofs.Json.Reading

/-!
What a reader of an object's fields overlooks: the order of the members, members that are no fields,
and how the text is written. It does not overlook a field that is given twice or a name that is no
text.
-/

namespace Attest.Json

variable {names : List String} {name : String} {members others : List (Option String × Json)}
  {fields : List (String × Json)} {value : Json}

/-- A member, if its name is text. -/
def named? (member : Option String × Json) : Option (String × Json) :=
  member.1.map (·, member.2)

/-- The members that are fields. -/
def known (names : List String) (members : List (Option String × Json)) : List (String × Json) :=
  (members.filterMap named?).filter fun (name, _) => names.contains name

theorem namedMembers?_eq_some_iff {named : List (String × Json)} :
    namedMembers? members = some named ↔
      (∀ member ∈ members, member.1 ≠ none) ∧ named = members.filterMap named? := by
  induction members generalizing named with
  | nil => simp [namedMembers?, eq_comm]
  | cons member members ih =>
    obtain ⟨_ | name, value⟩ := member
    · simp [namedMembers?]
    · have others : namedMembers? ((some name, value) :: members) =
          (namedMembers? members).map ((name, value) :: ·) := by
        simp only [namedMembers?, List.mapM_cons, Option.map_eq_bind]
        rfl
      rw [others, Option.map_eq_some_iff]
      simp [ih, named?, eq_comm]

/-- An object is read if its names are text and no field is given twice. -/
theorem fields?_eq_some_iff :
    (object members).fields? names = some fields ↔
      ((∀ member ∈ members, member.1 ≠ none) ∧ ((known names members).map Prod.fst).Nodup) ∧
        fields = known names members := by
  simp only [fields?, Option.bind_eq_bind, Option.bind_eq_some_iff, namedMembers?_eq_some_iff]
  constructor
  · rintro ⟨named, ⟨text, rfl⟩, given⟩
    split at given
    · rename_i distinct
      cases given
      exact ⟨⟨text, distinct⟩, rfl⟩
    · cases given
  · rintro ⟨⟨text, distinct⟩, rfl⟩
    exact ⟨_, ⟨text, rfl⟩, if_pos distinct⟩

theorem fields?_of_lone (lone : (none, value) ∈ members) :
    (object members).fields? names = none := by
  refine Option.eq_none_iff_forall_ne_some.2 fun fields given => ?_
  exact (fields?_eq_some_iff.1 given).1.1 _ lone rfl

theorem fields?_of_twice {other : Json} (isField : name ∈ names)
    (twice : [(some name, value), (some name, other)].Sublist members) :
    (object members).fields? names = none := by
  refine Option.eq_none_iff_forall_ne_some.2 fun fields given => ?_
  have both : [(name, value), (name, other)].Sublist (known names members) := by
    have kept := (twice.filterMap named?).filter fun (name, _) => names.contains name
    simpa [known, named?, isField] using kept
  exact List.nodup_iff_sublist.1 (fields?_eq_some_iff.1 given).1.2 name (both.map Prod.fst)

theorem fields?_insert {first rest : List (Option String × Json)} (unknown : name ∉ names) :
    (object (first ++ (some name, value) :: rest)).fields? names =
      (object (first ++ rest)).fields? names := by
  have same : known names (first ++ (some name, value) :: rest) = known names (first ++ rest) := by
    simp [known, named?, unknown]
  ext fields
  simp only [fields?_eq_some_iff, same, List.forall_mem_append, List.forall_mem_cons, ne_eq,
    reduceCtorEq, not_false_eq_true, true_and]

theorem fields?_perm (same : members.Perm others)
    (given : (object members).fields? names = some fields) :
    ∃ permuted, (object others).fields? names = some permuted ∧ fields.Perm permuted ∧
      (fields.map Prod.fst).Nodup := by
  obtain ⟨⟨text, distinct⟩, rfl⟩ := fields?_eq_some_iff.1 given
  have permuted : (known names members).Perm (known names others) :=
    (same.filterMap named?).filter _
  refine ⟨_, fields?_eq_some_iff.2 ⟨⟨fun member present => ?_, ?_⟩, rfl⟩, permuted, distinct⟩
  · exact text member (same.mem_iff.2 present)
  · exact (permuted.map Prod.fst).nodup_iff.1 distinct

theorem lookup_eq_of_perm {permuted : List (String × Json)} (same : fields.Perm permuted)
    (distinct : (fields.map Prod.fst).Nodup) (name : String) :
    fields.lookup name = permuted.lookup name := by
  have also := (same.map Prod.fst).nodup_iff.1 distinct
  ext value
  rw [lookup_eq_some_iff_mem distinct, lookup_eq_some_iff_mem also, same.mem_iff]

/-- A change to the text of an object that leaves its fields as they are. -/
inductive Edit (names : List String) : String → String → Prop where
  /-- The same value is spelled with other white space between its tokens and with other escapes in
  its names and strings. -/
  | respell {json : Json} {left right : String} (before : json.SpelledBy left)
    (after : json.SpelledBy right) : Edit names left right
  /-- The same members stand in another order. -/
  | permute {members others : List (Option String × Json)} {left right : String}
    (before : (object members).SpelledBy left) (after : (object others).SpelledBy right)
    (same : members.Perm others) : Edit names left right
  /-- A member of any other name stands anywhere among the members, whatever its value. -/
  | insert {first rest : List (Option String × Json)} {name : String} {value : Json}
    {left right : String} (before : (object (first ++ rest)).SpelledBy left)
    (after : (object (first ++ (some name, value) :: rest)).SpelledBy right)
    (unknown : name ∉ names) : Edit names left right

/-- The reader of a text overlooks what is none of the fields. A field that is given twice is not
overlooked, nor is a member whose name is no text. -/
structure Overlooks (names : List String) (read : String → Option α) : Prop where
  edits : ∀ {left right : String}, Relation.EqvGen (Edit names) left right → read left = read right
  twice : ∀ {text name : String} {members : List (Option String × Json)} {value other : Json},
    (object members).SpelledBy text → name ∈ names →
      [(some name, value), (some name, other)].Sublist members → read text = none
  lone : ∀ {text : String} {members : List (Option String × Json)} {value : Json},
    (object members).SpelledBy text → (none, value) ∈ members → read text = none

/-- What is made of a JSON value depends on nothing but the fields, in whatever order they stand. -/
structure ReadsFields (names : List String) (fromJson : Json → Option α) : Prop where
  refused : ∀ {json : Json}, json.fields? names = none → fromJson json = none
  sameFields : ∀ {left right : Json} {fields others : List (String × Json)},
    left.fields? names = some fields → right.fields? names = some others →
      (∀ name, fields.lookup name = others.lookup name) → fromJson left = fromJson right

namespace ReadsFields

variable {fromJson : Json → Option α} {left right : Json}

theorem congr (reads : ReadsFields names fromJson)
    (same : left.fields? names = right.fields? names) : fromJson left = fromJson right := by
  cases given : right.fields? names with
  | none => rw [reads.refused given, reads.refused (same.trans given)]
  | some fields => exact reads.sameFields (same.trans given) given fun _ => rfl

theorem perm (reads : ReadsFields names fromJson) (same : members.Perm others) :
    fromJson (object members) = fromJson (object others) := by
  cases given : (object members).fields? names with
  | some fields =>
    obtain ⟨permuted, read, order, distinct⟩ := fields?_perm same given
    exact reads.sameFields given read (lookup_eq_of_perm order distinct)
  | none =>
    have missing : (object others).fields? names = none := by
      refine Option.eq_none_iff_forall_ne_some.2 fun fields read => ?_
      obtain ⟨permuted, found, -⟩ := fields?_perm same.symm read
      rw [given] at found
      cases found
    rw [reads.refused given, reads.refused missing]

theorem edit {before after : String} (reads : ReadsFields names fromJson)
    (edit : Edit names before after) :
    (parse? before).bind fromJson = (parse? after).bind fromJson := by
  cases edit with
  | respell before after =>
    rw [parse?_eq_some_iff.2 before, parse?_eq_some_iff.2 after]
  | permute before after same =>
    rw [parse?_eq_some_iff.2 before, parse?_eq_some_iff.2 after]
    exact reads.perm same
  | insert before after unknown =>
    rw [parse?_eq_some_iff.2 before, parse?_eq_some_iff.2 after]
    exact reads.congr (fields?_insert unknown).symm

/-- It stays so whatever is done with what has been read. -/
theorem bind (reads : ReadsFields names fromJson) (next : α → Option β) :
    ReadsFields names fun json => (fromJson json).bind next where
  refused missing := by
    rw [reads.refused missing]
    rfl
  sameFields left right same := by rw [reads.sameFields left right same]

theorem overlooks (reads : ReadsFields names fromJson) {read : String → Option α}
    (reader : ∀ text, read text = (parse? text).bind fromJson) : Overlooks names read where
  edits edited := by
    induction edited with
    | rel before after edit => rw [reader, reader, reads.edit edit]
    | refl => rfl
    | symm _ _ _ ih => exact ih.symm
    | trans _ _ _ _ _ first second => exact first.trans second
  twice spelled isField twice := by
    rw [reader, parse?_eq_some_iff.2 spelled]
    exact reads.refused (fields?_of_twice isField twice)
  lone spelled lone := by
    rw [reader, parse?_eq_some_iff.2 spelled]
    exact reads.refused (fields?_of_lone lone)

end ReadsFields

end Attest.Json
