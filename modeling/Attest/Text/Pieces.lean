/-!
Cutting text at a character: at every occurrence (`pieces`), or once at the first (`cut?`).
-/

namespace Attest.Pieces

/-- The stretches between the occurrences of `mark`; there is one more of them than occurrences. -/
def pieces (mark : Char) : List Char → List (List Char)
  | [] => [[]]
  | c :: rest =>
    if c = mark then [] :: pieces mark rest
    else match pieces mark rest with
      | [] => [[c]]
      | piece :: more => (c :: piece) :: more

/-- What stands before and after the first occurrence of `mark`. -/
def cut? (mark : Char) : List Char → Option (List Char × List Char)
  | [] => none
  | c :: rest =>
    if c = mark then some ([], rest)
    else (cut? mark rest).map fun (before, after) => (c :: before, after)

theorem pieces_ne_nil (mark : Char) (chars : List Char) : pieces mark chars ≠ [] := by
  cases chars with
  | nil => simp [pieces]
  | cons c rest =>
    rw [pieces]
    split
    · simp
    · split <;> simp

theorem pieces_append_mark (mark : Char) (left right : List Char) :
    pieces mark (left ++ mark :: right) = pieces mark left ++ pieces mark right := by
  induction left with
  | nil => simp [pieces]
  | cons c rest ih =>
    by_cases isMark : c = mark
    · simp [pieces, isMark, ih]
    · obtain ⟨piece, more, nonempty⟩ := List.exists_cons_of_ne_nil (pieces_ne_nil mark rest)
      simp [pieces, isMark, ih, nonempty]

theorem notMem_of_mem_pieces {mark : Char} {chars piece : List Char}
    (found : piece ∈ pieces mark chars) : mark ∉ piece := by
  induction chars generalizing piece with
  | nil => simp_all [pieces]
  | cons c rest ih =>
    obtain ⟨first, more, nonempty⟩ := List.exists_cons_of_ne_nil (pieces_ne_nil mark rest)
    by_cases isMark : c = mark
    · simp only [pieces, isMark, if_true, List.mem_cons] at found
      rcases found with rfl | found
      · simp
      · exact ih found
    · simp only [pieces, isMark, if_false, nonempty, List.mem_cons] at found
      rcases found with rfl | found
      · have absent : mark ∉ first := ih (by simp [nonempty])
        simp [absent, Ne.symm isMark]
      · exact ih (by simp [nonempty, found])

theorem pieces_of_notMem {mark : Char} {chars : List Char} (absent : mark ∉ chars) :
    pieces mark chars = [chars] := by
  induction chars with
  | nil => rfl
  | cons c rest ih =>
    rw [List.mem_cons, not_or] at absent
    simp only [pieces, if_neg (Ne.symm absent.1), ih absent.2]

theorem length_pieces (mark : Char) (chars : List Char) :
    (pieces mark chars).length = chars.count mark + 1 := by
  induction chars with
  | nil => rfl
  | cons c rest ih =>
    by_cases isMark : c = mark
    · simp only [pieces, isMark, if_true, List.length_cons, ih, List.count_cons_self]
    · obtain ⟨piece, more, nonempty⟩ := List.exists_cons_of_ne_nil (pieces_ne_nil mark rest)
      rw [nonempty] at ih
      simp only [pieces, if_neg isMark, nonempty, List.length_cons, List.count_cons_of_ne isMark]
      exact ih

/-- With the mark behind each of them, the pieces make up the text with the mark behind it. -/
theorem flatMap_pieces (mark : Char) (chars : List Char) :
    (pieces mark chars).flatMap (· ++ [mark]) = chars ++ [mark] := by
  induction chars with
  | nil => rfl
  | cons c rest ih =>
    by_cases isMark : c = mark
    · simp only [pieces, isMark, if_true, List.flatMap_cons, ih, List.nil_append,
        List.cons_append]
    · obtain ⟨piece, more, nonempty⟩ := List.exists_cons_of_ne_nil (pieces_ne_nil mark rest)
      rw [nonempty] at ih
      simp only [pieces, if_neg isMark, nonempty, List.flatMap_cons, List.cons_append] at ih ⊢
      rw [ih]

/-- Items without the mark are the pieces of what they make up with the mark between them. -/
theorem pieces_intercalate {mark : Char} {items : List (List Char)} (filled : items ≠ [])
    (absent : ∀ item ∈ items, mark ∉ item) :
    pieces mark (List.intercalate [mark] items) = items := by
  induction items with
  | nil => exact absurd rfl filled
  | cons item rest ih =>
    obtain ⟨first, others⟩ := List.forall_mem_cons.1 absent
    cases rest with
    | nil => rw [List.intercalate_singleton, pieces_of_notMem first]
    | cons next more =>
      rw [List.intercalate_cons_cons, List.append_assoc, List.singleton_append,
        pieces_append_mark, pieces_of_notMem first, ih (List.cons_ne_nil next more) others,
        List.singleton_append]

theorem cut?_eq_some_iff {mark : Char} {chars before after : List Char} :
    cut? mark chars = some (before, after) ↔ mark ∉ before ∧ chars = before ++ mark :: after := by
  induction chars generalizing before with
  | nil => simp [cut?]
  | cons c rest ih =>
    by_cases isMark : c = mark
    · subst isMark
      cases before with
      | nil => simp [cut?, eq_comm]
      | cons b more =>
        simp only [cut?, if_true, Option.some.injEq, Prod.mk.injEq, List.mem_cons, List.cons_append,
          List.cons.injEq]
        constructor
        · rintro ⟨contradiction, -⟩
          cases contradiction
        · rintro ⟨absent, same, -⟩
          exact absurd (Or.inl same) absent
    · cases before with
      | nil => simp [cut?, isMark]
      | cons b more =>
        simp only [cut?, isMark, if_false, Option.map_eq_some_iff, Prod.exists, Prod.mk.injEq,
          List.cons.injEq, List.mem_cons, List.cons_append]
        constructor
        · rintro ⟨before, after, found, ⟨rfl, rfl⟩, rfl⟩
          obtain ⟨absent, rfl⟩ := ih.1 found
          exact ⟨by simp [absent, Ne.symm isMark], rfl, rfl⟩
        · rintro ⟨absent, rfl, rfl⟩
          exact ⟨more, after, ih.2 ⟨fun inside => absent (Or.inr inside), rfl⟩, ⟨rfl, rfl⟩, rfl⟩

theorem cut?_eq_none_iff {mark : Char} {chars : List Char} :
    cut? mark chars = none ↔ mark ∉ chars := by
  induction chars with
  | nil => simp [cut?]
  | cons c rest ih =>
    by_cases isMark : c = mark
    · simp [cut?, isMark]
    · simp [cut?, isMark, ih, Ne.symm isMark]

end Attest.Pieces
