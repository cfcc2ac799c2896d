import Attest.Proofs.Options.Lookup

/-!
Option texts, put together and taken apart. A comma between two texts puts their options one behind
the other. What is parsed is in a normal form, and any spelling of it, item by item with white space
and blank items wherever they may stand, is parsed to the same options.
-/

namespace Attest.Options

/-- What a text between commas says, unless it is blank. -/
def said? (item : List Char) : Option (List Char × List Char) :=
  if Blank.trimChars item = [] then none else some (entry (Blank.trimChars item))

theorem entries_parseChars (chars : List Char) :
    (parseChars chars).entries = (Pieces.pieces ',' chars).filterMap said? := by
  rw [parseChars]
  induction Pieces.pieces ',' chars with
  | nil => rfl
  | cons item rest ih =>
    by_cases blank : Blank.trimChars item = []
    · have none : said? item = none := if_pos blank
      rw [List.filterMap_cons_none none, ← ih, List.map_cons,
        List.filter_cons_of_neg (by simp [blank])]
    · have some : said? item = some (entry (Blank.trimChars item)) := if_neg blank
      rw [List.filterMap_cons_some some, ← ih, List.map_cons,
        List.filter_cons_of_pos (by simp [blank]), List.map_cons]

theorem parseChars_append_comma (left right : List Char) :
    parseChars (left ++ ',' :: right) =
      ⟨(parseChars left).entries ++ (parseChars right).entries⟩ := by
  have entries : (parseChars (left ++ ',' :: right)).entries =
      (parseChars left).entries ++ (parseChars right).entries := by
    rw [entries_parseChars, Pieces.pieces_append_mark, List.filterMap_append, ← entries_parseChars,
      ← entries_parseChars]
  rw [← entries]

theorem parse_append_comma (left right : String) :
    parse (some (left ++ "," ++ right)) =
      ⟨(parse (some left)).entries ++ (parse (some right)).entries⟩ := by
  have chars : (left ++ "," ++ right).toList = left.toList ++ ',' :: right.toList := by
    simp
  rw [parse, Option.getD_some, chars, parseChars_append_comma]
  rfl

/-- A key and a value as they are kept: without white space around them and without the marks that
would have ended them. -/
structure Normal (entry : List Char × List Char) : Prop where
  key : Blank.Trimmed entry.1
  value : Blank.Trimmed entry.2
  keyUncut : ',' ∉ entry.1 ∧ '=' ∉ entry.1
  valueUncut : ',' ∉ entry.2

section

variable {item : List Char} {found : List Char × List Char}

theorem said?_eq_none_iff : said? item = none ↔ ∀ c ∈ item, isBlank c = true := by
  rw [← Blank.trimChars_eq_nil_iff]
  simp [said?]

/-- The first mark ends the key, and white space around either side does not count. -/
theorem said?_of_marked {key value : List Char} (unmarked : '=' ∉ key) :
    said? (key ++ '=' :: value) = some (Blank.trimChars key, Blank.trimChars value) := by
  have trimmed : Blank.trimChars (key ++ '=' :: value) =
      Blank.trimStart key ++ '=' :: Blank.trimEnd value := Blank.trimChars_around (by decide) ..
  have cut : Pieces.cut? '=' (Blank.trimStart key ++ '=' :: Blank.trimEnd value) =
      some (Blank.trimStart key, Blank.trimEnd value) :=
    Pieces.cut?_eq_some_iff.2 ⟨fun inside => unmarked (Blank.mem_of_mem_trimStart inside), rfl⟩
  rw [said?, trimmed, if_neg (by simp), entry, cut]
  simp only [Blank.trimChars_trimStart, Blank.trimChars_trimEnd]

theorem said?_of_unmarked (unmarked : '=' ∉ item) (filled : Blank.trimChars item ≠ []) :
    said? item = some (Blank.trimChars item, []) := by
  have uncut : Pieces.cut? '=' (Blank.trimChars item) = none :=
    Pieces.cut?_eq_none_iff.2 fun inside => unmarked (Blank.mem_of_mem_trimChars inside)
  rw [said?, if_neg filled, entry, uncut]

theorem normal_entry (trimmed : Blank.Trimmed item) (uncut : ',' ∉ item) : Normal (entry item) := by
  rw [entry]
  cases cut : Pieces.cut? '=' item with
  | none =>
    exact {
      key := trimmed
      value := { first := nofun, last := nofun }
      keyUncut := ⟨uncut, Pieces.cut?_eq_none_iff.1 cut⟩
      valueUncut := List.not_mem_nil
    }
  | some sides =>
    obtain ⟨before, after⟩ := sides
    obtain ⟨unmarked, rfl⟩ := Pieces.cut?_eq_some_iff.1 cut
    rw [List.mem_append, List.mem_cons, not_or, not_or] at uncut
    exact {
      key := Blank.trimmed_trimChars before
      value := Blank.trimmed_trimChars after
      keyUncut := ⟨fun inside => uncut.1 (Blank.mem_of_mem_trimChars inside),
        fun inside => unmarked (Blank.mem_of_mem_trimChars inside)⟩
      valueUncut := fun inside => uncut.2.2 (Blank.mem_of_mem_trimChars inside)
    }

theorem normal_of_said? (uncut : ',' ∉ item) (said : said? item = some found) : Normal found := by
  unfold said? at said
  split at said
  · cases said
  · cases said
    exact normal_entry (Blank.trimmed_trimChars item)
      fun inside => uncut (Blank.mem_of_mem_trimChars inside)

theorem normal_of_mem_parse {info : Option String} (member : found ∈ (parse info).entries) :
    Normal found := by
  rw [parse, entries_parseChars, List.mem_filterMap] at member
  obtain ⟨item, piece, said⟩ := member
  exact normal_of_said? (Pieces.notMem_of_mem_pieces piece) said

/-- Nothing but white space. -/
def Blanks (chars : List Char) : Prop :=
  ∀ c ∈ chars, isBlank c = true

instance : DecidablePred Blanks :=
  fun chars => List.decidableBAll (fun c => isBlank c = true) chars

theorem Blanks.notMem {blanks : List Char} (blank : Blanks blanks) {c : Char}
    (solid : isBlank c = false) : c ∉ blanks := by
  intro member
  rw [blank c member] at solid
  cases solid

/-- The text with white space around it. -/
def Pads (text padded : List Char) : Prop :=
  ∃ before after, Blanks before ∧ Blanks after ∧ padded = before ++ text ++ after

theorem Pads.trimChars {text padded : List Char} (pads : Pads text padded)
    (trimmed : Blank.Trimmed text) : Blank.trimChars padded = text := by
  obtain ⟨before, after, blankBefore, blankAfter, rfl⟩ := pads
  rw [Blank.trimChars_surrounded blankBefore blankAfter, Blank.trimChars_of_trimmed trimmed]

theorem Pads.notMem {text padded : List Char} (pads : Pads text padded) {c : Char}
    (solid : isBlank c = false) (absent : c ∉ text) : c ∉ padded := by
  obtain ⟨before, after, blankBefore, blankAfter, rfl⟩ := pads
  rw [List.mem_append, List.mem_append, not_or, not_or]
  exact ⟨⟨blankBefore.notMem solid, absent⟩, blankAfter.notMem solid⟩

/-- The item spells the entry: its key and its value, with `=` between them. -/
def SpellsEntry (entry : List Char × List Char) (item : List Char) : Prop :=
  ∃ key value, Pads entry.1 key ∧ Pads entry.2 value ∧ item = key ++ '=' :: value

theorem said?_of_spellsEntry (normal : Normal found) (spells : SpellsEntry found item) :
    said? item = some found := by
  obtain ⟨key, value, padsKey, padsValue, rfl⟩ := spells
  have unmarked : '=' ∉ key := padsKey.notMem (by decide) normal.keyUncut.2
  rw [said?_of_marked unmarked, padsKey.trimChars normal.key, padsValue.trimChars normal.value]

theorem uncut_of_spellsEntry (normal : Normal found) (spells : SpellsEntry found item) :
    ',' ∉ item := by
  obtain ⟨key, value, padsKey, padsValue, rfl⟩ := spells
  have inKey := padsKey.notMem (by decide) normal.keyUncut.1
  have inValue := padsValue.notMem (by decide) normal.valueUncut
  simp [inKey, inValue]

end

/-- The items spell the entries, one after another, with any number of blank items around and between
them. -/
inductive Spells : List (List Char × List Char) → List (List Char) → Prop where
  | nil : Spells [] []
  | blank {entries : List (List Char × List Char)} {items : List (List Char)} {item : List Char}
    (blank : Blanks item) (rest : Spells entries items) : Spells entries (item :: items)
  | entry {entries : List (List Char × List Char)} {items : List (List Char)}
    {entry : List Char × List Char} {item : List Char} (spells : SpellsEntry entry item)
    (rest : Spells entries items) : Spells (entry :: entries) (item :: items)

section

variable {entries : List (List Char × List Char)} {items : List (List Char)}

theorem filterMap_of_spells (normal : ∀ entry ∈ entries, Normal entry)
    (spells : Spells entries items) : items.filterMap said? = entries := by
  induction spells with
  | nil => rfl
  | blank blank rest ih => rw [List.filterMap_cons_none (said?_eq_none_iff.2 blank), ih normal]
  | entry spelled rest ih =>
    obtain ⟨first, others⟩ := List.forall_mem_cons.1 normal
    rw [List.filterMap_cons_some (said?_of_spellsEntry first spelled), ih others]

theorem uncut_of_spells (normal : ∀ entry ∈ entries, Normal entry) (spells : Spells entries items) :
    ∀ item ∈ items, ',' ∉ item := by
  induction spells with
  | nil => nofun
  | blank blank rest ih => exact List.forall_mem_cons.2 ⟨blank.notMem (by decide), ih normal⟩
  | entry spelled rest ih =>
    obtain ⟨first, others⟩ := List.forall_mem_cons.1 normal
    exact List.forall_mem_cons.2 ⟨uncut_of_spellsEntry first spelled, ih others⟩

/-- Entries in normal form are parsed from whatever spells them. -/
theorem parseChars_of_spells (normal : ∀ entry ∈ entries, Normal entry)
    (spells : Spells entries items) :
    parseChars (List.intercalate [','] items) = ⟨entries⟩ := by
  have parsed := entries_parseChars (List.intercalate [','] items)
  by_cases filled : items = []
  · subst filled
    cases spells
    rfl
  · rw [Pieces.pieces_intercalate filled (uncut_of_spells normal spells),
      filterMap_of_spells normal spells] at parsed
    rw [← parsed]

end

theorem isEmpty_parse_iff (text : String) :
    (parse (some text)).isEmpty = true ↔
      ∀ item ∈ Pieces.pieces ',' text.toList, ∀ c ∈ item, isBlank c = true := by
  rw [isEmpty, List.isEmpty_iff, parse, Option.getD_some, entries_parseChars,
    List.filterMap_eq_nil_iff]
  exact forall₂_congr fun _ _ => said?_eq_none_iff

section

variable {left right : List Char}

theorem isBlank_of_sameLetter {first second : Char} (same : SameLetter first second) :
    isBlank first = isBlank second := by
  have solid : ∀ pair ∈ letterCases, isBlank pair.1 = isBlank pair.2 := by decide
  obtain rfl | listed | listed := same
  · rfl
  · exact solid (first, second) listed
  · exact (solid (second, first) listed).symm

theorem mem_iff_of_sameKey {mark : Char}
    (noLetter : ∀ pair ∈ letterCases, pair.1 ≠ mark ∧ pair.2 ≠ mark) (same : SameKey left right) :
    mark ∈ left ↔ mark ∈ right := by
  induction same with
  | nil => exact Iff.rfl
  | cons letter rest ih =>
    rw [List.mem_cons, List.mem_cons, ih]
    obtain rfl | listed | listed := letter
    · exact Iff.rfl
    · rw [iff_false_intro (noLetter _ listed).1.symm, iff_false_intro (noLetter _ listed).2.symm]
    · rw [iff_false_intro (noLetter _ listed).1.symm, iff_false_intro (noLetter _ listed).2.symm]

theorem first_of_sameKey (same : SameKey left right)
    (first : ∀ c ∈ left.head?, isBlank c = false) : ∀ c ∈ right.head?, isBlank c = false := by
  cases same with
  | nil => nofun
  | cons letter rest =>
    intro c isFirst
    cases isFirst
    rw [← isBlank_of_sameLetter letter]
    exact first _ rfl

theorem trimmed_of_sameKey (same : SameKey left right) (trimmed : Blank.Trimmed left) :
    Blank.Trimmed right where
  first := first_of_sameKey same trimmed.first
  last := by
    have last := trimmed.last
    rw [← List.head?_reverse] at last ⊢
    exact first_of_sameKey (List.forall₂_reverse_iff.2 same) last

end

/-- No option is kept under a key that parsing would have trimmed or cut. -/
theorem get?_parse_of_unkept {key : String} (info : Option String)
    (unkept : ¬ Blank.Trimmed key.toList ∨ ',' ∈ key.toList ∨ '=' ∈ key.toList) :
    (parse info).get? key = none := by
  rw [get?_eq_none_iff]
  intro entry member same
  have normal := normal_of_mem_parse member
  obtain untrimmed | comma | mark := unkept
  · exact untrimmed (trimmed_of_sameKey same normal.key)
  · exact normal.keyUncut.1 ((mem_iff_of_sameKey (by decide) same).2 comma)
  · exact normal.keyUncut.2 ((mem_iff_of_sameKey (by decide) same).2 mark)

/-- A comma between two texts puts their options one behind the other, so of each key the second text
says the value unless it has none; the key is compared up to the case of ASCII letters and the last
value counts. What a text says is in normal form, every spelling of it says the same, nothing is said
exactly by texts whose items are all blank, and no key that is not in normal form is ever found. -/
theorem parse_composes :
    (∀ left right : String,
      (parse (some (left ++ "," ++ right))).entries =
        (parse (some left)).entries ++ (parse (some right)).entries ∧
      ∀ key, (parse (some (left ++ "," ++ right))).get? key =
        ((parse (some right)).get? key).or ((parse (some left)).get? key)) ∧
    ∀ text : String,
      (∀ key value, (parse (some text)).get? key = some value ↔
        (parse (some text)).Last key value) ∧
      (∀ entry ∈ (parse (some text)).entries, Normal entry) ∧
      (∀ items, Spells (parse (some text)).entries items →
        parse (some (String.ofList (List.intercalate [','] items))) = parse (some text)) ∧
      ((parse (some text)).isEmpty = true ↔
        ∀ item ∈ Pieces.pieces ',' text.toList, ∀ c ∈ item, isBlank c = true) ∧
      ∀ key : String, ¬ Blank.Trimmed key.toList ∨ ',' ∈ key.toList ∨ '=' ∈ key.toList →
        (parse (some text)).get? key = none := by
  refine ⟨fun left right => ⟨?_, fun key => ?_⟩, fun text => ⟨?_, ?_, ?_, ?_, ?_⟩⟩
  · rw [parse_append_comma]
  · rw [parse_append_comma, get?_append]
  · exact fun _ _ => get?_eq_some_iff
  · exact fun _ => normal_of_mem_parse
  · intro items spells
    rw [parse, Option.getD_some, String.toList_ofList]
    exact parseChars_of_spells (fun _ => normal_of_mem_parse) spells
  · exact isEmpty_parse_iff text
  · exact fun _ => get?_parse_of_unkept (some text)

/-- A value with the mark inside, and a bare word that hides an earlier value of its key. -/
theorem parse_sample :
    let text := "User=alice, host = a=b,,USER"
    let items := ["\u3000User\u00A0= alice", "", "host=a=b ", "USER="].map String.toList
    Spells (parse (some text)).entries items ∧
      parse (some (String.ofList (List.intercalate [','] items))) = parse (some text) ∧
      (parse (some text)).get? "user" = some "" ∧ (parse (some text)).get? " user" = none := by
  intro text items
  have parsed : (parse (some text)).entries =
      [("User".toList, "alice".toList), ("host".toList, "a=b".toList), ("USER".toList, [])] := by
    decide +kernel
  have pads (before middle after : String) (blank : Blanks before.toList ∧ Blanks after.toList) :
      Pads middle.toList (before.toList ++ middle.toList ++ after.toList) :=
    ⟨before.toList, after.toList, blank.1, blank.2, rfl⟩
  have user : SpellsEntry ("User".toList, "alice".toList) "\u3000User\u00A0= alice".toList :=
    ⟨_, _, pads "\u3000" "User" "\u00A0" (by decide),
      pads " " "alice" "" (by decide), rfl⟩
  have host : SpellsEntry ("host".toList, "a=b".toList) "host=a=b ".toList :=
    ⟨_, _, pads "" "host" "" (by decide), pads "" "a=b" " " (by decide), rfl⟩
  have word : SpellsEntry ("USER".toList, []) "USER=".toList :=
    ⟨_, _, pads "" "USER" "" (by decide), pads "" "" "" (by decide), rfl⟩
  have spells : Spells (parse (some text)).entries items := by
    rw [parsed]
    exact .entry user (.blank nofun (.entry host (.entry word .nil)))
  obtain ⟨last, -, spelled, -, unkept⟩ := parse_composes.2 text
  refine ⟨spells, spelled items spells, (last _ _).2 ?_, unkept _ (.inl ?_)⟩
  · exact ⟨[_, _], "USER".toList, [], parsed, sameKey_iff.1 (by decide), nofun⟩
  · intro trimmed
    exact absurd (trimmed.first ' ' rfl) (by decide)

end Attest.Options
