import Attest.Json.Basic
import Attest.Text.Decimal

/-!
The tokens of a JSON text: punctuation, words, numbers and strings. White space between tokens and
the way in which a character of a string is written leave no trace in them.
-/

namespace Attest.Json

inductive Token where
  | openArray
  | closeArray
  | openObject
  | closeObject
  | comma
  | colon
  | null
  | bool (value : Bool)
  | number (literal : List Char)
  | string (text : Option String)
deriving Repr, DecidableEq

namespace Token

/-- A part of a string: a character, or a unit of UTF-16 given by its number. -/
inductive Part where
  | char (c : Char)
  | unit (code : Nat)
deriving Repr, DecidableEq

def isHighSurrogate (unit : Nat) : Bool :=
  0xD800 ≤ unit && unit < 0xDC00

def isLowSurrogate (unit : Nat) : Bool :=
  0xDC00 ≤ unit && unit < 0xE000

def joinSurrogates (high low : Nat) : Char :=
  Char.ofNat (0x10000 + (high - 0xD800) * 0x400 + (low - 0xDC00))

/-- The text of a string, if each half of a surrogate pair stands beside the other half. -/
def joinParts : List Part → Option (List Char)
  | [] => some []
  | .char c :: rest => (joinParts rest).map (c :: ·)
  | .unit code :: rest =>
    if isLowSurrogate code then none
    else if isHighSurrogate code then
      match rest with
      | .unit low :: rest =>
        if isLowSurrogate low then (joinParts rest).map (joinSurrogates code low :: ·) else none
      | _ => none
    else (joinParts rest).map (Char.ofNat code :: ·)

def hexDigit? (c : Char) : Option Nat :=
  if '0' ≤ c ∧ c ≤ '9' then some (c.toNat - '0'.toNat)
  else if 'a' ≤ c ∧ c ≤ 'f' then some (c.toNat - 'a'.toNat + 10)
  else if 'A' ≤ c ∧ c ≤ 'F' then some (c.toNat - 'A'.toNat + 10)
  else none

def hexUnit? (a b c d : Char) : Option Nat := do
  let a ← hexDigit? a
  let b ← hexDigit? b
  let c ← hexDigit? c
  let d ← hexDigit? d
  some (((a * 16 + b) * 16 + c) * 16 + d)

/-- The character that a backslash and one more character stand for. -/
def shortEscape? (c : Char) : Option Char :=
  if c = '"' ∨ c = '\\' ∨ c = '/' then some c
  else if c = 'b' then some '\x08'
  else if c = 'f' then some '\x0c'
  else if c = 'n' then some '\n'
  else if c = 'r' then some '\r'
  else if c = 't' then some '\t'
  else none

/-- Parts up to the closing quotation mark, and what follows it. -/
def stringParts? : List Char → Option (List Part × List Char)
  | [] => none
  | '"' :: rest => some ([], rest)
  | '\\' :: 'u' :: a :: b :: c :: d :: rest => do
    let unit ← hexUnit? a b c d
    let (parts, rest) ← stringParts? rest
    some (.unit unit :: parts, rest)
  | '\\' :: c :: rest => do
    let c ← shortEscape? c
    let (parts, rest) ← stringParts? rest
    some (.char c :: parts, rest)
  | c :: rest =>
    if c.toNat < 0x20 ∨ c = '\\' then none
    else do
      let (parts, rest) ← stringParts? rest
      some (.char c :: parts, rest)

def takeDigits (chars : List Char) : List Char × List Char :=
  (chars.takeWhile Decimal.isDigit, chars.dropWhile Decimal.isDigit)

/-- `0`, or digits of which the first is not zero. -/
def wholePart? (chars : List Char) : Option (List Char × List Char) :=
  match takeDigits chars with
  | ([], _) => none
  | ('0' :: _ :: _, _) => none
  | found => some found

/-- A point and digits, if there is a point. -/
def fraction? : List Char → Option (List Char × List Char)
  | '.' :: rest =>
    match takeDigits rest with
    | ([], _) => none
    | (digits, rest) => some ('.' :: digits, rest)
  | chars => some ([], chars)

/-- The letter E, a sign or none, and digits, if there is the letter. -/
def exponent? : List Char → Option (List Char × List Char)
  | [] => some ([], [])
  | c :: rest =>
    if c = 'e' ∨ c = 'E' then
      let (sign, rest) := match rest with
        | '+' :: rest => (['+'], rest)
        | '-' :: rest => (['-'], rest)
        | _ => ([], rest)
      match takeDigits rest with
      | ([], _) => none
      | (digits, rest) => some (c :: sign ++ digits, rest)
    else some ([], c :: rest)

def number? (chars : List Char) : Option (List Char × List Char) := do
  let (sign, rest) := match chars with
    | '-' :: rest => (['-'], rest)
    | _ => ([], chars)
  let (whole, rest) ← wholePart? rest
  let (fraction, rest) ← fraction? rest
  let (exponent, rest) ← exponent? rest
  some (sign ++ whole ++ fraction ++ exponent, rest)

def isSpace (c : Char) : Bool :=
  c = ' ' || c = '\t' || c = '\n' || c = '\r'

/-- The token at the front of a text that does not start with white space. -/
def next? : List Char → Option (Token × List Char)
  | '[' :: rest => some (.openArray, rest)
  | ']' :: rest => some (.closeArray, rest)
  | '\x7b' :: rest => some (.openObject, rest)
  | '\x7d' :: rest => some (.closeObject, rest)
  | ',' :: rest => some (.comma, rest)
  | ':' :: rest => some (.colon, rest)
  | 'n' :: 'u' :: 'l' :: 'l' :: rest => some (.null, rest)
  | 't' :: 'r' :: 'u' :: 'e' :: rest => some (.bool true, rest)
  | 'f' :: 'a' :: 'l' :: 's' :: 'e' :: rest => some (.bool false, rest)
  | '"' :: rest => do
    let (parts, rest) ← stringParts? rest
    some (.string ((joinParts parts).map String.ofList), rest)
  | chars => do
    let (literal, rest) ← number? chars
    some (.number literal, rest)

theorem length_stringParts? {chars rest : List Char} {parts : List Part}
    (found : stringParts? chars = some (parts, rest)) : rest.length < chars.length := by
  fun_induction stringParts? chars generalizing parts with
  | case1 => simp at found
  | case2 => simp_all
  | case3 a b c d tail ih =>
    cases unit : hexUnit? a b c d <;> cases more : stringParts? tail <;>
      simp_all [Option.bind_eq_bind]
    obtain ⟨-, rfl⟩ := found
    have shorter := ih rfl
    omega
  | case4 c tail _ ih =>
    cases escaped : shortEscape? c <;> cases more : stringParts? tail <;>
      simp_all [Option.bind_eq_bind]
    obtain ⟨-, rfl⟩ := found
    have shorter := ih rfl
    omega
  | case5 => simp at found
  | case6 c tail _ _ _ _ ih =>
    cases more : stringParts? tail <;> simp_all [Option.bind_eq_bind]
    obtain ⟨-, rfl⟩ := found
    have shorter := ih rfl
    omega

theorem length_takeDigits (chars : List Char) :
    (takeDigits chars).1.length + (takeDigits chars).2.length = chars.length := by
  rw [← List.length_append, takeDigits, List.takeWhile_append_dropWhile]

theorem length_wholePart? {chars whole rest : List Char}
    (found : wholePart? chars = some (whole, rest)) : rest.length < chars.length := by
  have total := length_takeDigits chars
  unfold wholePart? at found
  split at found
  · cases found
  · cases found
  · rename_i notEmpty notZero
    have cut : takeDigits chars = (whole, rest) := Option.some.inj found
    have nonempty : whole ≠ [] := fun empty => notEmpty rest (by rw [cut, empty])
    have positive := List.length_pos_iff.2 nonempty
    rw [cut] at total
    dsimp only at total
    omega

theorem length_fraction? {chars fraction rest : List Char}
    (found : fraction? chars = some (fraction, rest)) : rest.length ≤ chars.length := by
  unfold fraction? at found
  split at found
  · rename_i tail
    have total := length_takeDigits tail
    split at found
    · cases found
    · cases found
      simp_all
      omega
  · cases found
    exact Nat.le_refl _

theorem length_exponent? {chars exponent rest : List Char}
    (found : exponent? chars = some (exponent, rest)) : rest.length ≤ chars.length := by
  unfold exponent? at found
  split at found
  · cases found
    exact Nat.le_refl _
  · rename_i c after
    split at found
    · split at found
      rename_i sign tail cut
      have total := length_takeDigits tail
      have shorter : tail.length ≤ after.length := by
        split at cut <;> cases cut <;> simp
      split at found
      · cases found
      · cases found
        simp_all
        omega
    · cases found
      exact Nat.le_refl _

theorem length_number? {chars literal rest : List Char}
    (found : number? chars = some (literal, rest)) : rest.length < chars.length := by
  unfold number? at found
  split at found
  rename_i sign tail cut
  have shorter : tail.length ≤ chars.length := by
    split at cut <;> cases cut <;> simp
  simp only [Option.bind_eq_bind, Option.bind_eq_some_iff, Prod.exists, Option.some.injEq,
    Prod.mk.injEq] at found
  obtain ⟨whole, afterWhole, wholeFound, fraction, afterFraction, fractionFound, exponent,
    afterExponent, exponentFound, -, rfl⟩ := found
  have first := length_wholePart? wholeFound
  have second := length_fraction? fractionFound
  have third := length_exponent? exponentFound
  omega

theorem length_next? {chars rest : List Char} {token : Token}
    (found : next? chars = some (token, rest)) : rest.length < chars.length := by
  unfold next? at found
  split at found <;> try (cases found; simp; try omega)
  · rename_i tail
    simp only [Option.bind_eq_bind, Option.bind_eq_some_iff, Prod.exists, Option.some.injEq,
      Prod.mk.injEq] at found
    obtain ⟨parts, after, partsFound, -, rfl⟩ := found
    have shorter := length_stringParts? partsFound
    simp
    omega
  · simp only [Option.bind_eq_bind, Option.bind_eq_some_iff, Prod.exists, Option.some.injEq,
      Prod.mk.injEq] at found
    obtain ⟨literal, after, numberFound, -, rfl⟩ := found
    exact length_number? numberFound

/-- All tokens of a text. -/
def ofChars? (chars : List Char) : Option (List Token) :=
  match chars with
  | [] => some []
  | c :: rest =>
    if isSpace c then ofChars? rest
    else match found : next? (c :: rest) with
      | none => none
      | some (token, after) =>
        have := length_next? found
        (ofChars? after).map (token :: ·)
termination_by chars.length
decreasing_by
  · exact Nat.lt_succ_self _
  · exact this

end Token

end Attest.Json
