/-!
White space in the sense of the Unicode property `White_Space`, and text without it at either end.
-/

namespace Attest

/-- The characters of the property `White_Space`. -/
def isBlank (c : Char) : Bool :=
  let code := c.toNat
  (0x09 ≤ code && code ≤ 0x0D) || code == 0x20 || code == 0x85 || code == 0xA0 || code == 0x1680 ||
  (0x2000 ≤ code && code ≤ 0x200A) || code == 0x2028 || code == 0x2029 || code == 0x202F ||
  code == 0x205F || code == 0x3000

namespace Blank

def trimStart (chars : List Char) : List Char :=
  chars.dropWhile isBlank

def trimEnd (chars : List Char) : List Char :=
  (trimStart chars.reverse).reverse

/-- The text between the first and the last character that is not blank. -/
def trimChars (chars : List Char) : List Char :=
  trimEnd (trimStart chars)

def trim (text : String) : String :=
  String.ofList (trimChars text.toList)

def isBlankText (text : String) : Bool :=
  text.toList.all isBlank

theorem trimStart_eq_nil_iff {chars : List Char} :
    trimStart chars = [] ↔ ∀ c ∈ chars, isBlank c = true := by
  induction chars with
  | nil => simp [trimStart]
  | cons c rest ih =>
    by_cases blank : isBlank c = true
    · rw [trimStart, List.dropWhile_cons_of_pos blank, List.forall_mem_cons]
      exact ⟨fun empty => ⟨blank, ih.1 empty⟩, fun all => ih.2 all.2⟩
    · simp [trimStart, blank]

theorem trimChars_eq_nil_iff {chars : List Char} :
    trimChars chars = [] ↔ ∀ c ∈ chars, isBlank c = true := by
  induction chars with
  | nil => simp [trimChars, trimEnd, trimStart]
  | cons c rest ih =>
    by_cases blank : isBlank c
    · have same : trimStart (c :: rest) = trimStart rest := by simp [trimStart, blank]
      simpa [trimChars, same, blank] using ih
    · have kept : trimStart (c :: rest) = c :: rest := by simp [trimStart, blank]
      rw [trimChars, kept, trimEnd, List.reverse_eq_nil_iff, trimStart_eq_nil_iff]
      simp only [List.mem_reverse]

theorem trim_eq_empty_iff {text : String} : trim text = "" ↔ isBlankText text = true := by
  rw [trim, isBlankText, List.all_eq_true, ← trimChars_eq_nil_iff]
  constructor
  · intro empty
    simpa using congrArg String.toList empty
  · intro empty
    rw [empty, String.ofList_nil]

variable {left middle right : List Char}

theorem trimStart_append (blank : ∀ c ∈ left, isBlank c = true) (rest : List Char) :
    trimStart (left ++ rest) = trimStart rest := by
  induction left with
  | nil => rfl
  | cons c left ih =>
    obtain ⟨first, others⟩ := List.forall_mem_cons.1 blank
    rw [List.cons_append, trimStart, List.dropWhile_cons_of_pos first, ← trimStart, ih others]

theorem trimEnd_append (blank : ∀ c ∈ right, isBlank c = true) (rest : List Char) :
    trimEnd (rest ++ right) = trimEnd rest := by
  have reversed : ∀ c ∈ right.reverse, isBlank c = true :=
    fun c member => blank c (List.mem_reverse.1 member)
  rw [trimEnd, List.reverse_append, trimStart_append reversed, ← trimEnd]

/-- White space around a text does not matter, whatever stands inside. -/
theorem trimChars_surrounded (before : ∀ c ∈ left, isBlank c = true)
    (after : ∀ c ∈ right, isBlank c = true) :
    trimChars (left ++ middle ++ right) = trimChars middle := by
  rw [trimChars, List.append_assoc, trimStart_append before, trimChars]
  cases inside : trimStart middle with
  | nil =>
    rw [trimStart_append (trimStart_eq_nil_iff.1 inside), trimStart_eq_nil_iff.2 after]
  | cons c rest =>
    have kept : trimStart (middle ++ right) = c :: rest ++ right := by
      rw [trimStart] at inside
      rw [trimStart, List.dropWhile_append, inside]
      rfl
    rw [kept, trimEnd_append after]

/-- No white space stands at either end. -/
structure Trimmed (chars : List Char) : Prop where
  first : ∀ c ∈ chars.head?, isBlank c = false
  last : ∀ c ∈ chars.getLast?, isBlank c = false

theorem trimmed_of_solid (solid : ∀ c ∈ middle, isBlank c = false) : Trimmed middle where
  first := fun c isFirst => solid c (List.mem_of_mem_head? isFirst)
  last := fun c isLast => solid c (List.mem_of_mem_getLast? isLast)

theorem trimStart_of_first (first : ∀ c ∈ middle.head?, isBlank c = false) :
    trimStart middle = middle := by
  cases middle with
  | nil => rfl
  | cons c rest => exact List.dropWhile_cons_of_neg (Bool.eq_false_iff.1 (first c rfl))

theorem trimEnd_of_last (last : ∀ c ∈ middle.getLast?, isBlank c = false) :
    trimEnd middle = middle := by
  rw [← List.head?_reverse] at last
  rw [trimEnd, trimStart_of_first last, List.reverse_reverse]

theorem trimChars_of_trimmed (trimmed : Trimmed middle) : trimChars middle = middle := by
  rw [trimChars, trimStart_of_first trimmed.first, trimEnd_of_last trimmed.last]

theorem first_trimStart (chars : List Char) :
    ∀ c ∈ (trimStart chars).head?, isBlank c = false := by
  intro c isFirst
  have found := List.head?_dropWhile_not isBlank chars
  rw [Option.mem_def, trimStart] at isFirst
  rwa [isFirst] at found

theorem exists_blank_trimStart (chars : List Char) :
    ∃ blank, (∀ c ∈ blank, isBlank c = true) ∧ chars = blank ++ trimStart chars := by
  refine ⟨chars.takeWhile isBlank, fun c member => ?_, List.takeWhile_append_dropWhile.symm⟩
  exact List.all_eq_true.1 List.all_takeWhile c member

theorem exists_trimEnd_blank (chars : List Char) :
    ∃ blank, (∀ c ∈ blank, isBlank c = true) ∧ chars = trimEnd chars ++ blank := by
  obtain ⟨blank, all, same⟩ := exists_blank_trimStart chars.reverse
  refine ⟨blank.reverse, fun c member => all c (List.mem_reverse.1 member), ?_⟩
  rw [trimEnd, ← List.reverse_append, ← same, List.reverse_reverse]

theorem trimmed_trimChars (chars : List Char) : Trimmed (trimChars chars) where
  first := by
    intro c isFirst
    obtain ⟨blank, -, same⟩ := exists_trimEnd_blank (trimStart chars)
    -- What begins the trimmed text begins the text that is only trimmed at its start.
    refine first_trimStart chars c ?_
    rw [Option.mem_def] at isFirst ⊢
    rw [same, List.head?_append, ← trimChars, isFirst, Option.some_or]
  last := by
    intro c isLast
    rw [trimChars, trimEnd, List.getLast?_reverse] at isLast
    exact first_trimStart _ c isLast

theorem trim_trim (text : String) : trim (trim text) = trim text := by
  simp only [trim, String.toList_ofList, trimChars_of_trimmed (trimmed_trimChars text.toList)]

theorem isBlankText_trim (text : String) : isBlankText (trim text) = isBlankText text := by
  rw [Bool.eq_iff_iff, ← trim_eq_empty_iff, ← trim_eq_empty_iff, trim_trim]

theorem trimChars_trimStart (chars : List Char) : trimChars (trimStart chars) = trimChars chars := by
  rw [trimChars, trimStart_of_first (first_trimStart chars), ← trimChars]

theorem trimChars_trimEnd (chars : List Char) : trimChars (trimEnd chars) = trimChars chars := by
  obtain ⟨blank, all, same⟩ := exists_trimEnd_blank chars
  have surrounded : trimChars ([] ++ trimEnd chars ++ blank) = trimChars (trimEnd chars) :=
    trimChars_surrounded nofun all
  rw [List.nil_append, ← same] at surrounded
  exact surrounded.symm

theorem mem_of_mem_trimStart {c : Char} {chars : List Char} (member : c ∈ trimStart chars) :
    c ∈ chars := by
  obtain ⟨blank, -, same⟩ := exists_blank_trimStart chars
  rw [same]
  exact List.mem_append_right blank member

theorem mem_of_mem_trimChars {c : Char} {chars : List Char} (member : c ∈ trimChars chars) :
    c ∈ chars := by
  obtain ⟨blank, -, same⟩ := exists_trimEnd_blank (trimStart chars)
  refine mem_of_mem_trimStart ?_
  rw [same]
  exact List.mem_append_left blank member

theorem trimStart_append_solid {c : Char} (solid : isBlank c = false) (left right : List Char) :
    trimStart (left ++ c :: right) = trimStart left ++ c :: right := by
  induction left with
  | nil => exact List.dropWhile_cons_of_neg (Bool.eq_false_iff.1 solid)
  | cons b left ih =>
    rw [List.cons_append, trimStart, trimStart]
    by_cases blank : isBlank b = true
    · rw [List.dropWhile_cons_of_pos blank, List.dropWhile_cons_of_pos blank]
      exact ih
    · rw [List.dropWhile_cons_of_neg blank, List.dropWhile_cons_of_neg blank, List.cons_append]

/-- Around a character that stays, either side is trimmed at its own end. -/
theorem trimChars_around {c : Char} (solid : isBlank c = false) (left right : List Char) :
    trimChars (left ++ c :: right) = trimStart left ++ c :: trimEnd right := by
  have reversed : (trimStart left ++ c :: right).reverse =
      right.reverse ++ c :: (trimStart left).reverse := by
    rw [List.reverse_append, List.reverse_cons, List.append_assoc, List.singleton_append]
  rw [trimChars, trimStart_append_solid solid, trimEnd, reversed, trimStart_append_solid solid,
    List.reverse_append, List.reverse_cons, List.reverse_reverse, List.append_assoc,
    List.singleton_append, ← trimEnd]

theorem trim_surrounded {left middle right : String} (before : isBlankText left = true)
    (after : isBlankText right = true) (solid : ∀ c ∈ middle.toList, isBlank c = false) :
    trim (left ++ middle ++ right) = middle := by
  rw [isBlankText, List.all_eq_true] at before after
  rw [trim, String.toList_append, String.toList_append, trimChars_surrounded before after,
    trimChars_of_trimmed (trimmed_of_solid solid), String.ofList_toList]

end Blank

end Attest
