import Attest.Json.Printer
import Attest.Proofs.Json.Number

/-!
The tokens of a text are those that it spells, and a text spells them in any of the ways that JSON
grants: with white space between any two, and with each character of a string as itself or as an
escape. What follows a number must not go on with it.
-/

namespace Attest.Json.Token

variable {chars body rest text : List Char} {parts : List Part}

/-- The ways in which a character of a string may be written: itself, unless it is a quotation mark,
a backslash or below U+0020, or an escape. -/
inductive WritesChar : Char → List Char → Prop where
  | plain {c : Char} (printable : ¬ c.toNat < 0x20) (unquoted : c ≠ '"') (unescaped : c ≠ '\\') :
    WritesChar c [c]
  | short {c letter : Char} (escape : shortEscape? letter = some c) : WritesChar c ['\\', letter]
  | unit {c p q r s : Char} (hex : hexUnit? p q r s = some c.toNat) :
    WritesChar c ['\\', 'u', p, q, r, s]
  /-- Both halves of a surrogate pair. -/
  | pair {p q r s p' q' r' s' : Char} {high low : Nat} (hexHigh : hexUnit? p q r s = some high)
    (isHigh : isHighSurrogate high = true) (hexLow : hexUnit? p' q' r' s' = some low)
    (isLow : isLowSurrogate low = true) :
    WritesChar (joinSurrogates high low)
      ['\\', 'u', p, q, r, s, '\\', 'u', p', q', r', s']

/-- The text is written character by character. -/
inductive WritesText : List Char → List Char → Prop where
  | nil : WritesText [] []
  | cons {c : Char} {text written more : List Char} (first : WritesChar c written)
    (others : WritesText text more) : WritesText (c :: text) (written ++ more)

/-- What may stand in a string, whether or not it is a text: a unit need not have the other half of
its pair beside it. -/
inductive WritesPart : Part → List Char → Prop where
  | plain {c : Char} (printable : ¬ c.toNat < 0x20) (unquoted : c ≠ '"') (unescaped : c ≠ '\\') :
    WritesPart (.char c) [c]
  | short {c letter : Char} (escape : shortEscape? letter = some c) :
    WritesPart (.char c) ['\\', letter]
  | unit {p q r s : Char} {code : Nat} (hex : hexUnit? p q r s = some code) :
    WritesPart (.unit code) ['\\', 'u', p, q, r, s]

inductive WritesParts : List Part → List Char → Prop where
  | nil : WritesParts [] []
  | cons {part : Part} {parts : List Part} {written more : List Char}
    (first : WritesPart part written) (others : WritesParts parts more) :
    WritesParts (part :: parts) (written ++ more)

/-- How a part is put in front of what has been found in the rest of a string. -/
def before (part : Part) (found : List Part × List Char) : List Part × List Char :=
  (part :: found.1, found.2)

theorem stringParts?_part {part : Part} {written : List Char} (writes : WritesPart part written)
    (chars : List Char) :
    stringParts? (written ++ chars) = (stringParts? chars).map (before part) := by
  cases writes with
  | @plain c printable unquoted unescaped =>
    rw [List.singleton_append, stringParts?, if_neg (not_or.2 ⟨printable, unescaped⟩)]
    · cases stringParts? chars <;> rfl
    · exact unquoted
    · intro a b c d rest same
      exact absurd same unescaped
    · intro c rest same
      exact absurd same unescaped
  | @short c letter escape =>
    have other : letter ≠ 'u' := by
      rintro rfl
      cases escape
    rw [List.cons_append, List.singleton_append, stringParts?, escape]
    · cases stringParts? chars <;> rfl
    · intro a b c d rest same
      exact absurd same other
  | unit hex =>
    simp only [List.cons_append, List.nil_append]
    rw [stringParts?, hex]
    cases stringParts? chars <;> rfl

theorem stringParts?_of_writes (writes : WritesParts parts body) (chars : List Char) :
    stringParts? (body ++ '"' :: chars) = some (parts, chars) := by
  induction writes with
  | nil => rfl
  | cons first others ih =>
    rw [List.append_assoc, stringParts?_part first, ih]
    rfl

theorem writes_of_stringParts? (found : stringParts? chars = some (parts, rest)) :
    ∃ body, WritesParts parts body ∧ chars = body ++ '"' :: rest := by
  fun_induction stringParts? chars generalizing parts with
  | case1 => cases found
  | case2 =>
    cases found
    exact ⟨[], .nil, rfl⟩
  | case3 p q r s tail ih =>
    simp only [Option.bind_eq_bind, Option.bind_eq_some_iff, Prod.exists, Option.some.injEq,
      Prod.mk.injEq] at found
    obtain ⟨code, hex, others, _, more, rfl, rfl⟩ := found
    obtain ⟨body, writes, rfl⟩ := ih more
    exact ⟨_, .cons (.unit hex) writes, rfl⟩
  | case4 letter tail _ ih =>
    simp only [Option.bind_eq_bind, Option.bind_eq_some_iff, Prod.exists, Option.some.injEq,
      Prod.mk.injEq] at found
    obtain ⟨c, escape, others, _, more, rfl, rfl⟩ := found
    obtain ⟨body, writes, rfl⟩ := ih more
    exact ⟨_, .cons (.short escape) writes, rfl⟩
  | case5 => cases found
  | case6 c tail unquoted notUnit notShort plain ih =>
    simp only [Option.bind_eq_bind, Option.bind_eq_some_iff, Prod.exists, Option.some.injEq,
      Prod.mk.injEq] at found
    obtain ⟨others, _, more, rfl, rfl⟩ := found
    obtain ⟨body, writes, rfl⟩ := ih more
    obtain ⟨printable, unescaped⟩ := not_or.1 plain
    exact ⟨_, .cons (.plain printable unquoted unescaped) writes, rfl⟩

/-- A string has its parts in one way only. -/
theorem WritesParts.unique {others : List Part} (writes : WritesParts parts body)
    (alsoWrites : WritesParts others body) : parts = others := by
  have found := stringParts?_of_writes writes []
  rw [stringParts?_of_writes alsoWrites []] at found
  exact (congrArg Prod.fst (Option.some.inj found)).symm

theorem WritesParts.append {others : List Part} {more : List Char}
    (writes : WritesParts parts body) (rest : WritesParts others more) :
    WritesParts (parts ++ others) (body ++ more) := by
  induction writes with
  | nil => exact rest
  | cons first _ ih =>
    rw [List.cons_append, List.append_assoc]
    exact .cons first ih

theorem hexDigit?_hexDigit : ∀ digit < 16, hexDigit? (hexDigit digit) = some digit := by
  decide

/-- The two last digits of a unit below 256 give it. -/
theorem hexUnit?_hexDigit {unit : Nat} (small : unit < 256) :
    hexUnit? '0' '0' (hexDigit (unit / 16)) (hexDigit (unit % 16)) = some unit := by
  have high := hexDigit?_hexDigit (unit / 16) (Nat.div_lt_of_lt_mul small)
  have low := hexDigit?_hexDigit (unit % 16) (Nat.mod_lt unit (by decide))
  have zero : hexDigit? '0' = some 0 := by decide
  simp only [hexUnit?, high, low, zero, Option.bind_eq_bind, Option.bind_some, Option.some.injEq]
  omega

theorem hexDigit?_lt {c : Char} {digit : Nat} (read : hexDigit? c = some digit) : digit < 16 := by
  unfold hexDigit? at read
  split at read
  · rename_i within
    have high : c.toNat ≤ '9'.toNat := within.2
    cases read
    simp only [Char.reduceToNat] at high ⊢
    omega
  · split at read
    · rename_i within
      have high : c.toNat ≤ 'f'.toNat := within.2
      cases read
      simp only [Char.reduceToNat] at high ⊢
      omega
    · split at read
      · rename_i within
        have high : c.toNat ≤ 'F'.toNat := within.2
        cases read
        simp only [Char.reduceToNat] at high ⊢
        omega
      · cases read

theorem hexUnit?_lt {p q r s : Char} {code : Nat} (hex : hexUnit? p q r s = some code) :
    code < 0x10000 := by
  simp only [hexUnit?, Option.bind_eq_bind, Option.bind_eq_some_iff, Option.some.injEq] at hex
  obtain ⟨a, readA, b, readB, c, readC, d, readD, rfl⟩ := hex
  have boundA := hexDigit?_lt readA
  have boundB := hexDigit?_lt readB
  have boundC := hexDigit?_lt readC
  have boundD := hexDigit?_lt readD
  omega

/-- No character is half of a surrogate pair. -/
theorem not_surrogate (c : Char) :
    isLowSurrogate c.toNat = false ∧ isHighSurrogate c.toNat = false := by
  have valid : c.toNat < 0xD800 ∨ 0xDFFF < c.toNat := c.valid.imp_right And.left
  constructor
  · simp only [isLowSurrogate, Bool.and_eq_false_iff, decide_eq_false_iff_not]
    omega
  · simp only [isHighSurrogate, Bool.and_eq_false_iff, decide_eq_false_iff_not]
    omega

theorem toNat_ofNat_of_not_surrogate {code : Nat} (small : code < 0x10000)
    (notLow : ¬ isLowSurrogate code = true) (notHigh : ¬ isHighSurrogate code = true) :
    (Char.ofNat code).toNat = code := by
  simp only [isLowSurrogate, isHighSurrogate, Bool.and_eq_true, decide_eq_true_eq] at notLow notHigh
  have valid : code.isValidChar := by
    unfold Nat.isValidChar
    omega
  rw [Char.ofNat, dif_pos valid]
  rfl

/-- The parts of a written character. -/
theorem exists_parts_of_char {c : Char} {written : List Char} (writes : WritesChar c written) :
    ∃ parts, WritesParts parts written ∧
      ∀ others, joinParts (parts ++ others) = (joinParts others).map (c :: ·) := by
  cases writes with
  | plain printable unquoted unescaped =>
    exact ⟨[.char c], .cons (.plain printable unquoted unescaped) .nil, fun _ => rfl⟩
  | short escape => exact ⟨[.char c], .cons (.short escape) .nil, fun _ => rfl⟩
  | unit hex =>
    obtain ⟨notLow, notHigh⟩ := not_surrogate c
    refine ⟨[.unit c.toNat], .cons (.unit hex) .nil, fun others => ?_⟩
    rw [List.singleton_append]
    conv =>
      lhs
      unfold joinParts
    rw [notLow, notHigh, Char.ofNat_toNat]
    rfl
  | @pair _ _ _ _ _ _ _ _ high low hexHigh isHigh hexLow isLow =>
    refine ⟨[.unit high, .unit low], .cons (.unit hexHigh) (.cons (.unit hexLow) .nil),
      fun others => ?_⟩
    have notLow : isLowSurrogate high = false := by
      simp only [isHighSurrogate, Bool.and_eq_true, decide_eq_true_eq] at isHigh
      simp only [isLowSurrogate, Bool.and_eq_false_iff, decide_eq_false_iff_not]
      omega
    simp [joinParts, notLow, isHigh, isLow]

theorem exists_parts_of_text (writes : WritesText text body) :
    ∃ parts, WritesParts parts body ∧ joinParts parts = some text := by
  induction writes with
  | nil => exact ⟨[], .nil, rfl⟩
  | cons first _ ih =>
    obtain ⟨parts, written, joins⟩ := exists_parts_of_char first
    obtain ⟨others, more, joined⟩ := ih
    refine ⟨parts ++ others, written.append more, ?_⟩
    rw [joins, joined]
    rfl

theorem writesText_of_joinParts (writes : WritesParts parts body)
    (joined : joinParts parts = some text) : WritesText text body := by
  fun_induction joinParts parts generalizing body text with
  | case1 =>
    cases writes
    cases joined
    exact .nil
  | case2 c others ih =>
    obtain ⟨text, later, rfl⟩ := Option.map_eq_some_iff.1 joined
    cases writes with
    | cons first writes =>
      refine .cons ?_ (ih writes later)
      cases first with
      | plain printable unquoted unescaped => exact .plain printable unquoted unescaped
      | short escape => exact .short escape
  | case3 => cases joined
  | case4 code notLow isHigh low others isLow ih =>
    obtain ⟨text, later, rfl⟩ := Option.map_eq_some_iff.1 joined
    cases writes with
    | cons first writes =>
      cases writes with
      | cons second writes =>
        cases first with
        | unit hexHigh =>
          cases second with
          | unit hexLow =>
            have both := WritesText.cons (.pair hexHigh isHigh hexLow isLow) (ih writes later)
            exact both
  | case5 => cases joined
  | case6 => cases joined
  | case7 code others notLow notHigh ih =>
    obtain ⟨text, later, rfl⟩ := Option.map_eq_some_iff.1 joined
    cases writes with
    | cons first writes =>
      cases first with
      | unit hex =>
        have same := toNat_ofNat_of_not_surrogate (hexUnit?_lt hex) notLow notHigh
        exact .cons (.unit (same.symm ▸ hex)) (ih writes later)

/-- A string that is well-formed but no text. -/
structure Lone (body : List Char) : Prop where
  formed : ∃ parts, WritesParts parts body
  noText : ∀ text, ¬ WritesText text body

theorem lone_of_joinParts (writes : WritesParts parts body) (unjoined : joinParts parts = none) :
    Lone body where
  formed := ⟨parts, writes⟩
  noText text written := by
    obtain ⟨others, alsoWrites, joined⟩ := exists_parts_of_text written
    rw [writes.unique alsoWrites, joined] at unjoined
    cases unjoined

theorem joinParts_of_lone (lone : Lone body) :
    ∃ parts, WritesParts parts body ∧ joinParts parts = none := by
  obtain ⟨parts, writes⟩ := lone.formed
  refine ⟨parts, writes, ?_⟩
  cases joined : joinParts parts with
  | none => rfl
  | some text => exact absurd (writesText_of_joinParts writes joined) (lone.noText text)

/-- The ways in which a token may be written. -/
inductive Writes : Token → List Char → Prop where
  | mark {token : Token} (noNumber : ∀ literal, token ≠ .number literal)
    (noString : ∀ text, token ≠ .string text) : Writes token token.spell
  | number {literal : List Char} (number : Number literal) : Writes (.number literal) literal
  | text {text body : List Char} (writes : WritesText text body) :
    Writes (.string (some (String.ofList text))) ('"' :: (body ++ ['"']))
  | lone {body : List Char} (lone : Lone body) : Writes (.string none) ('"' :: (body ++ ['"']))

/-- A number has to end where it is taken to end. -/
def Apart (token : Token) (chars : List Char) : Prop :=
  ∀ literal, token = .number literal → Ends chars

variable {token : Token} {written : List Char}

theorem next?_of_number {literal : List Char} (found : number? chars = some (literal, rest))
    {c : Char} (first : chars.head? = some c) (numeric : c = '-' ∨ Decimal.isDigit c = true) :
    next? chars = some (.number literal, rest) := by
  rw [next?, found]
  · rfl
  -- Every other kind of token starts with a character of its own.
  all_goals
    intro tail same
    rw [same] at first
    cases first
    exact absurd numeric (by decide)

theorem Number.head? {literal : List Char} (number : Number literal) :
    ∃ c, literal.head? = some c ∧ (c = '-' ∨ Decimal.isDigit c = true) := by
  cases number with
  | parts signed wholePart =>
    obtain ⟨digit, digits, rfl, numeric⟩ := wholePart.toDigits.head?
    rcases signed with rfl | rfl
    · exact ⟨digit, rfl, .inr numeric⟩
    · exact ⟨'-', rfl, .inl rfl⟩

theorem next?_of_writes (writes : token.Writes written) (apart : token.Apart chars) :
    next? (written ++ chars) = some (token, chars) := by
  cases writes with
  | mark noNumber noString =>
    cases token with
    | bool value => cases value <;> rfl
    | number literal => exact absurd rfl (noNumber literal)
    | string text => exact absurd rfl (noString text)
    | _ => rfl
  | number number =>
    obtain ⟨c, head, numeric⟩ := number.head?
    have first : (written ++ chars).head? = some c := by
      rw [List.head?_append, head]
      rfl
    exact next?_of_number (number?_append number (apart _ rfl)) first numeric
  | text writes =>
    obtain ⟨parts, formed, joined⟩ := exists_parts_of_text writes
    have found := stringParts?_of_writes formed chars
    simp [next?, found, joined]
  | lone lone =>
    obtain ⟨parts, formed, unjoined⟩ := joinParts_of_lone lone
    have found := stringParts?_of_writes formed chars
    simp [next?, found, unjoined]

theorem writes_of_next? (found : next? chars = some (token, rest)) :
    ∃ written, token.Writes written ∧ chars = written ++ rest ∧
      ∀ literal, token = .number literal → Halts rest := by
  unfold next? at found
  split at found
  case h_10 tail =>
    simp only [Option.bind_eq_bind, Option.bind_eq_some_iff, Prod.exists, Option.some.injEq,
      Prod.mk.injEq] at found
    obtain ⟨parts, _, more, rfl, rfl⟩ := found
    obtain ⟨body, writes, rfl⟩ := writes_of_stringParts? more
    refine ⟨'"' :: (body ++ ['"']), ?_, by simp, nofun⟩
    cases joined : joinParts parts with
    | none => exact .lone (lone_of_joinParts writes joined)
    | some text => exact .text (writesText_of_joinParts writes joined)
  case h_11 =>
    simp only [Option.bind_eq_bind, Option.bind_eq_some_iff, Prod.exists, Option.some.injEq,
      Prod.mk.injEq] at found
    obtain ⟨literal, _, more, rfl, rfl⟩ := found
    obtain ⟨same, number, halts⟩ := number_of_found more
    exact ⟨literal, .number number, same, fun _ _ => halts⟩
  all_goals
    cases found
    exact ⟨_, .mark nofun nofun, rfl, nofun⟩

/-- A token starts with a character that is no white space. -/
theorem exists_solid_of_writes (writes : token.Writes written) :
    ∃ c tail, written = c :: tail ∧ isSpace c = false := by
  cases writes with
  | mark noNumber noString =>
    cases token with
    | bool value => cases value <;> exact ⟨_, _, rfl, by decide⟩
    | number literal => exact absurd rfl (noNumber literal)
    | string text => exact absurd rfl (noString text)
    | _ => exact ⟨_, _, rfl, by decide⟩
  | number number =>
    obtain ⟨c, head, numeric⟩ := number.head?
    obtain ⟨tail, rfl⟩ := List.head?_eq_some_iff.1 head
    refine ⟨c, tail, rfl, Bool.eq_false_iff.2 fun blank => ?_⟩
    simp only [isSpace, Bool.or_eq_true, decide_eq_true_eq] at blank
    rcases blank with ((rfl | rfl) | rfl) | rfl <;> exact absurd numeric (by decide)
  | text | lone => exact ⟨_, _, rfl, by decide⟩

theorem ofChars?_of_space {c : Char} (blank : isSpace c = true) (chars : List Char) :
    ofChars? (c :: chars) = ofChars? chars := by
  rw [ofChars?, if_pos blank]

theorem ofChars?_of_next? {c : Char} (solid : isSpace c = false)
    (found : next? (c :: chars) = some (token, rest)) :
    ofChars? (c :: chars) = (ofChars? rest).map (token :: ·) := by
  rw [ofChars?, if_neg (Bool.eq_false_iff.1 solid)]
  split
  · rename_i missing
    rw [found] at missing
    cases missing
  · rename_i other
    rw [found] at other
    cases other
    rfl

/-- The characters spell the tokens, with white space between them. -/
inductive Spells : List Token → List Char → Prop where
  | nothing : Spells [] []
  | space {tokens : List Token} {c : Char} {chars : List Char} (blank : isSpace c = true)
    (rest : Spells tokens chars) : Spells tokens (c :: chars)
  | token {token : Token} {tokens : List Token} {written chars : List Char}
    (writes : token.Writes written) (apart : token.Apart chars) (rest : Spells tokens chars) :
    Spells (token :: tokens) (written ++ chars)

theorem ofChars?_of_spells {tokens : List Token} (spells : Spells tokens chars) :
    ofChars? chars = some tokens := by
  induction spells with
  | nothing => rw [ofChars?]
  | space blank rest ih => rw [ofChars?_of_space blank, ih]
  | token writes apart rest ih =>
    have found := next?_of_writes writes apart
    obtain ⟨c, tail, rfl, solid⟩ := exists_solid_of_writes writes
    rw [List.cons_append] at found ⊢
    rw [ofChars?_of_next? solid found, ih]
    rfl

/-- What starts a token does not go on with a number, unless it is a digit. -/
theorem ends_of_ofChars? {tokens : List Token} (halts : Halts chars)
    (read : ofChars? chars = some tokens) : Ends chars := by
  cases chars with
  | nil => nofun
  | cons c rest =>
    rintro _ ⟨⟩
    have noDigit := halts c rfl
    rw [Bool.eq_false_iff]
    intro goes
    simp only [goesOn, noDigit, Bool.false_or, Bool.or_eq_true, decide_eq_true_eq] at goes
    have missing : isSpace c = false ∧ next? (c :: rest) = none := by
      rcases goes with (rfl | rfl) | rfl <;> exact ⟨rfl, rfl⟩
    rw [ofChars?, if_neg (Bool.eq_false_iff.1 missing.1)] at read
    split at read
    · cases read
    · rename_i found
      rw [missing.2] at found
      cases found

theorem spells_of_ofChars? {tokens : List Token} (read : ofChars? chars = some tokens) :
    Spells tokens chars := by
  fun_induction ofChars? chars generalizing tokens with
  | case1 =>
    cases read
    exact .nothing
  | case2 c rest blank ih => exact .space blank (ih read)
  | case3 => cases read
  | case4 c rest solid token after found _ ih =>
    obtain ⟨others, later, rfl⟩ := Option.map_eq_some_iff.1 read
    obtain ⟨written, writes, same, halts⟩ := writes_of_next? found
    rw [same]
    exact .token writes (fun literal number => ends_of_ofChars? (halts literal number) later)
      (ih later)

/-- A text has the tokens that it spells. -/
theorem ofChars?_eq_some_iff {tokens : List Token} :
    ofChars? chars = some tokens ↔ Spells tokens chars :=
  ⟨spells_of_ofChars?, ofChars?_of_spells⟩

/-- How a printed character is escaped: by one more character, as a unit, or not at all. -/
theorem writesChar_escapeChar (c : Char) : WritesChar c (escapeChar c) := by
  unfold escapeChar
  split
  · rename_i itself
    rcases itself with rfl | rfl <;> exact .short (by decide)
  · rename_i unquoted
    obtain ⟨unquoted, unescaped⟩ := not_or.1 unquoted
    -- The named control characters, each with a letter of its own.
    repeat
      split
      · subst c
        exact .short (by decide)
    split
    · rename_i control
      exact .unit (hexUnit?_hexDigit (Nat.lt_trans control (by decide)))
    · rename_i printable
      exact .plain printable unquoted unescaped

theorem writesText_escaped (text : List Char) : WritesText text (text.flatMap escapeChar) := by
  induction text with
  | nil => exact .nil
  | cons c text ih => exact .cons (writesChar_escapeChar c) ih

theorem writes_spellString (text : Option String) :
    (Token.string text).Writes (spellString text) := by
  cases text with
  | none =>
    have hex : hexUnit? 'd' '8' '0' '0' = some 0xD800 := by decide
    exact .lone (lone_of_joinParts (.cons (.unit hex) .nil) (by decide))
  | some text =>
    have writes := Writes.text (writesText_escaped text.toList)
    rwa [String.ofList_toList] at writes

/-- What is printed for a token is one way of writing it. -/
theorem writes_spell (noNumber : ∀ literal, token ≠ .number literal) :
    token.Writes token.spell := by
  cases token with
  | number literal => exact absurd rfl (noNumber literal)
  | string text => exact writes_spellString text
  | _ => exact .mark nofun nofun

end Attest.Json.Token
