/-!
Finite maps from names. The entries are kept in strictly increasing order of the names, so a name
has one entry at most and the order of insertion leaves no trace. `get?_insert` says what an insertion
does to the map that `get?` shows.
-/

namespace Attest

/-- Strictly increasing in the names. -/
def Ascending (entries : List (String × α)) : Prop :=
  entries.Pairwise fun left right => left.1 < right.1

/-- Under names that differ, what a name shows is what stands with it. -/
theorem lookup_eq_some_iff_mem {entries : List (String × α)} {name : String} {item : α}
    (distinct : (entries.map (·.1)).Nodup) :
    entries.lookup name = some item ↔ (name, item) ∈ entries := by
  rw [List.lookup_eq_some_iff]
  constructor
  · rintro ⟨before, after, rfl, -⟩
    exact List.mem_append_right _ List.mem_cons_self
  · intro member
    obtain ⟨before, after, rfl⟩ := List.append_of_mem member
    refine ⟨before, after, rfl, fun earlier inside => bne_iff_ne.2 ?_⟩
    rintro rfl
    rw [List.map_append, List.map_cons, List.nodup_append] at distinct
    exact distinct.2.2 _ (List.mem_map_of_mem inside) _ List.mem_cons_self rfl

structure NameMap (α : Type u) where
  entries : List (String × α)
  ascending : Ascending entries

namespace NameMap

def insertEntry (name : String) (item : α) : List (String × α) → List (String × α)
  | [] => [(name, item)]
  | (other, kept) :: rest =>
    if name < other then (name, item) :: (other, kept) :: rest
    else if name = other then (name, item) :: rest
    else (other, kept) :: insertEntry name item rest

theorem mem_insertEntry {name : String} {item : α} {entry : String × α}
    {entries : List (String × α)} (member : entry ∈ insertEntry name item entries) :
    entry = (name, item) ∨ entry ∈ entries := by
  induction entries with
  | nil => simpa [insertEntry] using member
  | cons head rest ih =>
    obtain ⟨other, kept⟩ := head
    rw [insertEntry] at member
    split at member
    · simpa using member
    · split at member
      · rcases List.mem_cons.1 member with rfl | inside
        · exact .inl rfl
        · exact .inr (List.mem_cons_of_mem _ inside)
      · rcases List.mem_cons.1 member with rfl | inside
        · exact .inr (List.mem_cons_self ..)
        · rcases ih inside with same | older
          · exact .inl same
          · exact .inr (List.mem_cons_of_mem _ older)

theorem ascending_insertEntry (name : String) (item : α) {entries : List (String × α)}
    (ascending : Ascending entries) : Ascending (insertEntry name item entries) := by
  induction entries with
  | nil => exact List.pairwise_singleton ..
  | cons head rest ih =>
    obtain ⟨other, kept⟩ := head
    obtain ⟨above, tail⟩ := List.pairwise_cons.1 ascending
    rw [insertEntry]
    split
    · rename_i before
      refine List.pairwise_cons.2 ⟨fun entry member => ?_, ascending⟩
      rcases List.mem_cons.1 member with rfl | inside
      · exact before
      · exact String.lt_trans before (above entry inside)
    · split
      · rename_i same
        subst same
        exact List.pairwise_cons.2 ⟨above, tail⟩
      · rename_i notBefore different
        refine List.pairwise_cons.2 ⟨fun entry member => ?_, ih tail⟩
        rcases mem_insertEntry member with rfl | older
        · refine Decidable.byContradiction fun notAfter => different ?_
          exact String.le_antisymm (String.not_lt.1 notAfter) (String.not_lt.1 notBefore)
        · exact above entry older

theorem eq_of_entries {left right : NameMap α} (same : left.entries = right.entries) :
    left = right := by
  cases left
  cases right
  cases same
  rfl

def empty : NameMap α :=
  ⟨[], List.Pairwise.nil⟩

instance : EmptyCollection (NameMap α) := ⟨empty⟩

instance : Inhabited (NameMap α) := ⟨empty⟩

/-- A later item under the same name takes the place of the earlier one. -/
def insert (map : NameMap α) (name : String) (item : α) : NameMap α :=
  ⟨insertEntry name item map.entries, ascending_insertEntry name item map.ascending⟩

def get? (map : NameMap α) (name : String) : Option α :=
  map.entries.lookup name

def contains (map : NameMap α) (name : String) : Bool :=
  (map.get? name).isSome

def names (map : NameMap α) : List String :=
  map.entries.map (·.1)

/-- Of several items under one name the last counts. -/
def ofList (items : List (String × α)) : NameMap α :=
  items.foldl (fun map (name, item) => map.insert name item) empty

theorem ascending_names (map : NameMap α) : map.names.Pairwise (· < ·) :=
  List.pairwise_map.2 map.ascending

theorem nodup_names (map : NameMap α) : map.names.Nodup := by
  refine map.ascending_names.imp ?_
  rintro name _ before rfl
  exact String.lt_irrefl _ before

theorem lookup_insertEntry (name sought : String) (item : α) (entries : List (String × α)) :
    (insertEntry name item entries).lookup sought =
      if sought = name then some item else entries.lookup sought := by
  induction entries with
  | nil =>
    by_cases same : sought = name
    · simp [insertEntry, same]
    · simp [insertEntry, List.lookup_cons, same, beq_false_of_ne same]
  | cons head rest ih =>
    obtain ⟨other, kept⟩ := head
    rw [insertEntry]
    split
    · by_cases same : sought = name
      · simp [same]
      · simp [List.lookup_cons, same, beq_false_of_ne same]
    · split
      · rename_i sameName
        subst sameName
        by_cases same : sought = name
        · simp [same]
        · simp [List.lookup_cons, same, beq_false_of_ne same]
      · rename_i different
        by_cases same : sought = other
        · subst same
          simp [Ne.symm different]
        · simp only [List.lookup_cons, beq_false_of_ne same, ih]

/-- A name stands in the entries once, so they are what `get?` shows. -/
theorem get?_eq_some_iff {map : NameMap α} {name : String} {item : α} :
    map.get? name = some item ↔ (name, item) ∈ map.entries :=
  lookup_eq_some_iff_mem map.nodup_names

theorem get?_eq_none_iff {map : NameMap α} {name : String} :
    map.get? name = none ↔ ∀ item, (name, item) ∉ map.entries := by
  simp only [Option.eq_none_iff_forall_ne_some, Ne, get?_eq_some_iff]

theorem get?_insert (map : NameMap α) (name sought : String) (item : α) :
    (map.insert name item).get? sought = if sought = name then some item else map.get? sought :=
  lookup_insertEntry name sought item map.entries

end NameMap

end Attest
