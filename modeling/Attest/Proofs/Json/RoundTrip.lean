import Attest.Json.Reader
import Attest.Proofs.Json.Spelling

/-!
Values whose numbers are whole are read back from what is printed for them, on one line or on several.
The printer's characters spell the tokens of a value, and the reader puts the value together again.
-/

namespace Attest.Json

/-- What holds of a value when it holds of all that the value is made of holds of every value. -/
@[elab_as_elim]
theorem byParts {motive : Json → Prop} (null : motive .null) (bool : ∀ value, motive (.bool value))
    (number : ∀ literal, motive (.number literal)) (string : ∀ text, motive (.string text))
    (array : ∀ items, (∀ item ∈ items, motive item) → motive (.array items))
    (object : ∀ members, (∀ name item, (name, item) ∈ members → motive item) →
      motive (.object members)) (json : Json) : motive json := by
  match json with
  | .null => exact null
  | .bool value => exact bool value
  | .number literal => exact number literal
  | .string text => exact string text
  | .array items =>
    exact array items fun item member =>
      byParts null bool number string array object item
  | .object members =>
    exact object members fun name item member =>
      byParts null bool number string array object item
termination_by json
decreasing_by
  · have smaller := List.sizeOf_lt_of_mem member
    simp
    omega
  · have smaller := List.sizeOf_lt_of_mem member
    simp at smaller ⊢
    omega

namespace Reader

/-- Wherever a value may stand, its tokens lead to its end. -/
def Reads (json : Json) : Prop :=
  ∀ (frames : List Frame) (tokens : List Token),
    (json.tokens ++ tokens).foldlM step? ⟨frames, .value⟩ =
      tokens.foldlM step? ⟨frames, .ended json⟩

variable {frames : List Frame} {tokens : List Token}

theorem exists_tokens (json : Json) :
    ∃ first rest, json.tokens = first :: rest ∧ first ≠ .closeArray := by
  cases json <;> exact ⟨_, _, rfl, nofun⟩

/-- Unless the array ends at once, its first item starts. -/
theorem step?_itemOrEnd {token : Token} (other : token ≠ .closeArray) :
    step? ⟨frames, .itemOrEnd⟩ token = start? (.array [] :: frames) token := by
  cases token <;> first | rfl | exact absurd rfl other

theorem foldlM_itemOrEnd (json : Json) :
    (json.tokens ++ tokens).foldlM step? ⟨frames, .itemOrEnd⟩ =
      (json.tokens ++ tokens).foldlM step? ⟨.array [] :: frames, .value⟩ := by
  obtain ⟨first, rest, same, other⟩ := exists_tokens json
  rw [same, List.cons_append, List.foldlM_cons, List.foldlM_cons, step?_itemOrEnd other]
  rfl

theorem foldlM_itemTokens {item : Json} {items : List Json}
    (each : ∀ other ∈ item :: items, Reads other) (before : List Json) (frames : List Frame)
    (tokens : List Token) :
    (itemTokens (item :: items) ++ tokens).foldlM step? ⟨.array before :: frames, .value⟩ =
      tokens.foldlM step? ⟨frames, .ended (.array (before.reverse ++ item :: items))⟩ := by
  induction items generalizing item before with
  | nil =>
    have first := each item List.mem_cons_self
    rw [itemTokens, List.append_assoc, first, List.singleton_append, List.foldlM_cons]
    simp [step?, continue?]
  | cons next more ih =>
    have first := each item List.mem_cons_self
    have others := ih (fun other member => each other (List.mem_cons_of_mem _ member))
      (item :: before)
    rw [itemTokens, List.append_assoc, first, List.cons_append, List.foldlM_cons]
    simpa [step?, continue?] using others

/-- A name and its colon lead to the value of the member. -/
theorem foldlM_name (name : Option String) (before : List (Option String × Json)) :
    (.string name :: .colon :: tokens).foldlM step? ⟨frames, .name before⟩ =
      tokens.foldlM step? ⟨.object before name :: frames, .value⟩ :=
  rfl

theorem foldlM_memberTokens {name : Option String} {item : Json}
    {members : List (Option String × Json)}
    (each : ∀ other value, (other, value) ∈ (name, item) :: members → Reads value)
    (before : List (Option String × Json)) (frames : List Frame) (tokens : List Token) :
    (memberTokens ((name, item) :: members) ++ tokens).foldlM step? ⟨frames, .name before⟩ =
      tokens.foldlM step? ⟨frames, .ended (.object (before.reverse ++ (name, item) :: members))⟩ := by
  induction members generalizing name item before with
  | nil =>
    have first := each name item List.mem_cons_self
    simp only [memberTokens, List.cons_append, List.append_assoc]
    rw [foldlM_name, first, List.nil_append, List.foldlM_cons]
    simp [step?, continue?]
  | cons next more ih =>
    have first := each name item List.mem_cons_self
    have others := ih (fun other value member => each other value (List.mem_cons_of_mem _ member))
      ((name, item) :: before)
    simp only [memberTokens, List.cons_append, List.append_assoc]
    rw [foldlM_name, first, List.foldlM_cons]
    simpa [step?, continue?] using others

theorem reads (json : Json) : Reads json := by
  induction json using byParts with
  | array items each =>
    intro frames tokens
    cases items with
    | nil => rfl
    | cons item items =>
      obtain ⟨others, same⟩ : ∃ others, itemTokens (item :: items) = item.tokens ++ others := by
        cases items <;> exact ⟨_, rfl⟩
      have opened : (Json.array (item :: items)).tokens = .openArray :: (item.tokens ++ others) := by
        rw [Json.tokens, same]
      have read := foldlM_itemTokens each [] frames tokens
      rw [same, List.append_assoc, ← foldlM_itemOrEnd] at read
      rw [opened, List.cons_append, List.append_assoc]
      exact read
  | object members each =>
    intro frames tokens
    cases members with
    | nil => rfl
    | cons member members =>
      obtain ⟨name, item⟩ := member
      have read := foldlM_memberTokens each [] frames tokens
      have opened : (memberTokens ((name, item) :: members) ++ tokens).foldlM step?
            ⟨frames, .nameOrEnd⟩ =
          (memberTokens ((name, item) :: members) ++ tokens).foldlM step? ⟨frames, .name []⟩ := by
        cases members <;> rfl
      exact opened.trans read
  | _ =>
    intro frames tokens
    rfl

/-- A value is read off its tokens. -/
theorem ofTokens?_tokens (json : Json) : ofTokens? json.tokens = some json := by
  have read := reads json [] []
  rw [List.append_nil] at read
  rw [ofTokens?, State.initial, read]
  rfl

end Reader

theorem parse?_of_spells {json : Json} {text : String}
    (spells : Token.Spells json.tokens text.toList) : parse? text = some json := by
  rw [parse?, Token.ofChars?_of_spells spells]
  exact Reader.ofTokens?_tokens json

/-- All numbers in the value are whole. -/
inductive Whole : Json → Prop where
  | null : Whole .null
  | bool (value : Bool) : Whole (.bool value)
  | number {literal : List Char} (numeral : Token.Numeral literal) : Whole (.number literal)
  | string (text : Option String) : Whole (.string text)
  | array {items : List Json} (each : ∀ item ∈ items, Whole item) : Whole (.array items)
  | object {members : List (Option String × Json)}
    (each : ∀ name item, (name, item) ∈ members → Whole item) : Whole (.object members)

theorem Whole.ofText (text : String) : (ofText text).Whole := .string (some text)

theorem Whole.ofNat (value : Nat) : (ofNat value).Whole := .number (.natural value)

theorem Whole.ofInt (value : Int) : (ofInt value).Whole := by
  cases value with
  | ofNat value => exact .ofNat value
  | negSucc value => exact .number (.negative (value + 1))

theorem Whole.ofOption {toJson : α → Json} (each : ∀ item, (toJson item).Whole)
    (value : Option α) : (ofOption toJson value).Whole := by
  cases value with
  | none => exact .null
  | some item => exact each item

theorem Whole.ofMembers {members : List (String × Json)}
    (each : ∀ member ∈ members, member.2.Whole) : (ofMembers members).Whole := by
  refine .object fun name item present => ?_
  obtain ⟨member, inside, same⟩ := List.mem_map.1 present
  cases same
  exact each member inside

theorem ofNat_injective : Function.Injective ofNat := by
  intro value other same
  have read := congrArg Decimal.digits? (number.inj same)
  rw [Decimal.digits?_toDigits, Decimal.digits?_toDigits] at read
  exact Option.some.inj read

/-- A sign is no digit. -/
theorem ofNat_ne_negative (value : Nat) (digits : List Char) :
    ofNat value ≠ number ('-' :: digits) := by
  intro same
  have read := congrArg Decimal.digits? (number.inj same)
  rw [Decimal.digits?_toDigits] at read
  simp [Decimal.digits?, Decimal.isDigit] at read

theorem ofInt_injective : Function.Injective ofInt := by
  intro value other same
  cases value with
  | ofNat value =>
    cases other with
    | ofNat other => rw [ofNat_injective same]
    | negSucc other => exact absurd same (ofNat_ne_negative _ _)
  | negSucc value =>
    cases other with
    | ofNat other => exact absurd same.symm (ofNat_ne_negative _ _)
    | negSucc other =>
      have digits := (List.cons.inj (number.inj same)).2
      rw [Nat.succ.inj (ofNat_injective (congrArg number digits))]

theorem ofOption_ofText_injective : Function.Injective (ofOption ofText) := by
  intro text other same
  cases text <;> cases other <;> cases same <;> rfl

namespace Token

variable {tokens : List Token} {chars : List Char}

theorem ends_cons {c : Char} (stops : goesOn c = false) : Ends (c :: chars) := by
  rintro _ ⟨⟩
  exact stops

theorem ends_newline (depth : Nat) : Ends (Json.newline depth ++ chars) :=
  ends_cons (by decide)

theorem Spells.mark (token : Token) (other : ∀ literal, token ≠ .number literal)
    (rest : Spells tokens chars) : Spells (token :: tokens) (token.spell ++ chars) :=
  .token (writes_spell other) (fun literal same => absurd same (other literal)) rest

theorem Spells.newline (depth : Nat) (rest : Spells tokens chars) :
    Spells tokens (Json.newline depth ++ chars) := by
  refine .space (by decide) ?_
  generalize 2 * depth = width
  induction width with
  | zero => exact rest
  | succ width ih => exact .space (by decide) ih

theorem Spells.prettyName (depth : Nat) (name : Option String) (rest : Spells tokens chars) :
    Spells (.string name :: .colon :: tokens)
      (Json.newline depth ++ (spellString name ++ ':' :: ' ' :: chars)) := by
  have spaced : Spells tokens (' ' :: chars) := .space (by decide) rest
  have named := (spaced.mark .colon nofun).mark (.string name) nofun
  exact named.newline depth

end Token

open Token

variable {tokens : List Token} {chars : List Char}

/-- The layout spells the value in front of whatever does not go on with it. -/
def Prints (layout : List Char) (json : Json) : Prop :=
  ∀ ⦃tokens : List Token⦄ ⦃chars : List Char⦄, Ends chars → Spells tokens chars →
    Spells (json.tokens ++ tokens) (layout ++ chars)

theorem prints_mark {json : Json} (token : Token) (other : ∀ literal, token ≠ .number literal)
    (alone : json.tokens = [token]) : Prints token.spell json := by
  intro tokens chars _ rest
  rw [alone]
  exact rest.mark token other

theorem prints_number {literal : List Char} (numeral : Numeral literal) :
    Prints literal (.number literal) := by
  intro tokens chars ends rest
  exact .token (.number numeral.isNumber) (fun _ _ => ends) rest

section Compact

/-- The value is spelled by its tokens alone. -/
def PrintsCompact (json : Json) : Prop :=
  Prints (json.tokens.flatMap spell) json

theorem spells_itemTokens {items : List Json} (each : ∀ item ∈ items, PrintsCompact item)
    (rest : Spells tokens chars) :
    Spells (itemTokens items ++ tokens) ((itemTokens items).flatMap spell ++ chars) := by
  induction items with
  | nil => exact rest.mark .closeArray nofun
  | cons item items ih =>
    have first := each item List.mem_cons_self
    have others := ih fun other member => each other (List.mem_cons_of_mem _ member)
    cases items with
    | nil =>
      rw [itemTokens, List.flatMap_append, List.append_assoc, List.append_assoc]
      exact first (ends_cons (by decide)) (rest.mark .closeArray nofun)
    | cons next more =>
      rw [itemTokens, List.flatMap_append, List.append_assoc, List.append_assoc]
      exact first (ends_cons (by decide)) (others.mark .comma nofun)

theorem spells_memberTokens {members : List (Option String × Json)}
    (each : ∀ name item, (name, item) ∈ members → PrintsCompact item)
    (rest : Spells tokens chars) :
    Spells (memberTokens members ++ tokens) ((memberTokens members).flatMap spell ++ chars) := by
  induction members with
  | nil => exact rest.mark .closeObject nofun
  | cons member members ih =>
    obtain ⟨name, item⟩ := member
    have first := each name item List.mem_cons_self
    have others := ih fun other value member => each other value (List.mem_cons_of_mem _ member)
    cases members with
    | nil =>
      have value := first (ends_cons (by decide)) (rest.mark .closeObject nofun)
      simp only [memberTokens, List.flatMap_append, List.flatMap_cons, List.append_assoc,
        List.cons_append]
      exact (value.mark .colon nofun).mark (.string name) nofun
    | cons next more =>
      have value := first (ends_cons (by decide)) (others.mark .comma nofun)
      simp only [memberTokens, List.flatMap_append, List.flatMap_cons, List.append_assoc,
        List.cons_append]
      exact (value.mark .colon nofun).mark (.string name) nofun

theorem printsCompact_of_alone {json : Json} {token : Token} (alone : json.tokens = [token])
    (prints : Prints token.spell json) : PrintsCompact json := by
  rw [PrintsCompact, alone, List.flatMap_singleton]
  exact prints

theorem printsCompact_of_whole {json : Json} (whole : json.Whole) : PrintsCompact json := by
  induction whole with
  | null => exact printsCompact_of_alone rfl (prints_mark .null nofun rfl)
  | bool value => exact printsCompact_of_alone rfl (prints_mark (.bool value) nofun rfl)
  | number numeral => exact printsCompact_of_alone rfl (prints_number numeral)
  | string text => exact printsCompact_of_alone rfl (prints_mark (.string text) nofun rfl)
  | array each ih =>
    intro tokens chars _ rest
    exact (spells_itemTokens ih rest).mark .openArray nofun
  | object each ih =>
    intro tokens chars _ rest
    exact (spells_memberTokens ih rest).mark .openObject nofun

end Compact

section Pretty

def PrintsPretty (json : Json) : Prop :=
  ∀ depth, Prints (prettyChars depth json) json

/-- The items of an array, its last line and its closing bracket. -/
theorem spells_prettyItems {item : Json} {items : List Json}
    (each : ∀ other ∈ item :: items, PrintsPretty other) (depth outer : Nat)
    (rest : Spells tokens chars) :
    Spells (itemTokens (item :: items) ++ tokens)
      (prettyItems depth (item :: items) ++ (newline outer ++ ']' :: chars)) := by
  induction items generalizing item with
  | nil =>
    have first := each item List.mem_cons_self depth
    have closed := (rest.mark .closeArray nofun).newline outer
    rw [itemTokens, prettyItems, List.append_assoc, List.append_assoc]
    exact (first (ends_newline outer) closed).newline depth
  | cons next more ih =>
    have first := each item List.mem_cons_self depth
    have others := ih fun other member => each other (List.mem_cons_of_mem _ member)
    rw [itemTokens, prettyItems, List.append_assoc, List.append_assoc, List.append_assoc]
    exact (first (ends_cons (by decide)) (others.mark .comma nofun)).newline depth

/-- The members of an object, its last line and its closing brace. -/
theorem spells_prettyMembers {name : Option String} {item : Json}
    {members : List (Option String × Json)}
    (each : ∀ other value, (other, value) ∈ (name, item) :: members → PrintsPretty value)
    (depth outer : Nat) (rest : Spells tokens chars) :
    Spells (memberTokens ((name, item) :: members) ++ tokens)
      (prettyMembers depth ((name, item) :: members) ++ (newline outer ++ '\x7d' :: chars)) := by
  induction members generalizing name item with
  | nil =>
    have first := each name item List.mem_cons_self depth
    have closed := (rest.mark .closeObject nofun).newline outer
    have value := first (ends_newline outer) closed
    simp only [memberTokens, prettyMembers, List.append_assoc, List.cons_append, List.nil_append]
    exact value.prettyName depth name
  | cons next more ih =>
    have first := each name item List.mem_cons_self depth
    have others := ih fun other value member => each other value (List.mem_cons_of_mem _ member)
    have value := first (ends_cons (by decide)) (others.mark .comma nofun)
    simp only [memberTokens, prettyMembers, List.append_assoc, List.cons_append, List.nil_append]
    exact value.prettyName depth name

theorem printsPretty_of_whole {json : Json} (whole : json.Whole) : PrintsPretty json := by
  induction whole with
  | null => exact fun _ => prints_mark .null nofun rfl
  | bool value => exact fun _ => prints_mark (.bool value) nofun rfl
  | number numeral => exact fun _ => prints_number numeral
  | string text => exact fun _ => prints_mark (.string text) nofun rfl
  | @array items each ih =>
    intro depth tokens chars _ rest
    cases items with
    | nil => exact (rest.mark .closeArray nofun).mark .openArray nofun
    | cons item items =>
      have inside := spells_prettyItems ih (depth + 1) depth rest
      simp only [Json.tokens, prettyChars, List.append_assoc, List.cons_append]
      exact inside.mark .openArray nofun
  | @object members each ih =>
    intro depth tokens chars _ rest
    cases members with
    | nil => exact (rest.mark .closeObject nofun).mark .openObject nofun
    | cons member members =>
      have inside := spells_prettyMembers ih (depth + 1) depth rest
      simp only [Json.tokens, prettyChars, List.append_assoc, List.cons_append]
      exact inside.mark .openObject nofun

end Pretty

/-- A value whose numbers are whole is read back from either print of it. -/
theorem parse?_printed {json : Json} (whole : json.Whole) :
    parse? json.compact = some json ∧ parse? json.pretty = some json := by
  have ends : Ends [] := nofun
  have compact := printsCompact_of_whole whole ends .nothing
  have pretty := printsPretty_of_whole whole 0 ends .nothing
  rw [List.append_nil, List.append_nil] at compact pretty
  constructor
  · apply parse?_of_spells
    rw [Json.compact, String.toList_ofList]
    exact compact
  · apply parse?_of_spells
    rw [Json.pretty, String.toList_ofList]
    exact pretty

end Attest.Json
