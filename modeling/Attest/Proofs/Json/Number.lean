import Attest.Json.Token

/-!
Numbers as they stand in a JSON text: a sign or none, a whole part that has no leading zero, and a
fraction and an exponent or none. They are read to the longest, so what follows a number must not go
on with it.
-/

namespace Attest

namespace Decimal

variable {number : Nat}

theorem isDigit_of_mem_toDigits {c : Char} (member : c ∈ Nat.toDigits 10 number) :
    isDigit c = true := by
  have digit : c.isDigit = true :=
    Nat.isDigit_of_mem_toDigits (by decide) (by decide) member
  rw [Char.isDigit, Bool.and_eq_true, decide_eq_true_eq, decide_eq_true_eq] at digit
  rw [isDigit, Bool.and_eq_true, decide_eq_true_eq, decide_eq_true_eq]
  exact digit

/-- A number is the value of its digits. -/
theorem digits?_toDigits (number : Nat) : digits? (Nat.toDigits 10 number) = some number := by
  have all : (Nat.toDigits 10 number).all isDigit = true :=
    List.all_eq_true.2 fun _ member => isDigit_of_mem_toDigits member
  have same : value (Nat.toDigits 10 number) = number := Nat.ofDigitChars_ten_toDigits
  rw [digits?, if_pos ⟨Nat.toDigits_ne_nil, all⟩, same]

theorem digitChar_ne_zero : ∀ digit < 10, 0 < digit → Nat.digitChar digit ≠ '0' := by
  decide

theorem exists_first_digit (number : Nat) :
    ∃ digit digits, Nat.toDigits 10 number = digit :: digits ∧ isDigit digit = true := by
  obtain ⟨digit, digits, written⟩ :=
    List.exists_cons_of_ne_nil (Nat.toDigits_ne_nil (n := number) (b := 10))
  have member : digit ∈ Nat.toDigits 10 number := written ▸ List.mem_cons_self
  exact ⟨digit, digits, written, isDigit_of_mem_toDigits member⟩

/-- Only zero is written with a zero in front. -/
theorem toDigits_ne_zero_cons (positive : 0 < number) (rest : List Char) :
    Nat.toDigits 10 number ≠ '0' :: rest := by
  induction number using Nat.strongRecOn generalizing rest with
  | ind number ih =>
    by_cases small : number < 10
    · rw [Nat.toDigits_of_lt_base small]
      intro same
      exact digitChar_ne_zero number small positive (List.cons.inj same).1
    · have large := Nat.not_lt.1 small
      obtain ⟨digit, digits, first, -⟩ := exists_first_digit (number / 10)
      rw [Nat.toDigits_of_base_le (by decide) large, first, List.cons_append]
      intro same
      obtain ⟨rfl, -⟩ := List.cons.inj same
      exact ih (number / 10) (Nat.div_lt_self positive (by decide))
        (Nat.div_pos large (by decide)) digits first

end Decimal

namespace Json.Token

/-- Characters after which a number is another one. -/
def goesOn (c : Char) : Bool :=
  Decimal.isDigit c || c = '.' || c = 'e' || c = 'E'

/-- A number may end in front of the characters. -/
def Ends (chars : List Char) : Prop :=
  ∀ c ∈ chars.head?, goesOn c = false

/-- Digits may end in front of the characters. -/
def Halts (chars : List Char) : Prop :=
  ∀ c ∈ chars.head?, Decimal.isDigit c = false

/-- One digit or more. -/
structure Digits (digits : List Char) : Prop where
  nonempty : digits ≠ []
  all : ∀ c ∈ digits, Decimal.isDigit c = true

structure WholePart (digits : List Char) : Prop extends Digits digits where
  /-- A zero in front stands alone. -/
  leading : ∀ rest, digits = '0' :: rest → rest = []

inductive Fraction : List Char → Prop where
  | none : Fraction []
  | point {digits : List Char} (some : Digits digits) : Fraction ('.' :: digits)

inductive Exponent : List Char → Prop where
  | none : Exponent []
  | letter {letter : Char} {sign digits : List Char} (marks : letter = 'e' ∨ letter = 'E')
    (signed : sign = [] ∨ sign = ['+'] ∨ sign = ['-']) (some : Digits digits) :
    Exponent (letter :: (sign ++ digits))

inductive Number : List Char → Prop where
  | parts {sign whole fraction exponent : List Char} (signed : sign = [] ∨ sign = ['-'])
    (wholePart : WholePart whole) (fractional : Fraction fraction)
    (exponential : Exponent exponent) : Number (sign ++ (whole ++ (fraction ++ exponent)))

/-- A whole number, with or without a minus sign. -/
inductive Numeral : List Char → Prop where
  | natural (number : Nat) : Numeral (Nat.toDigits 10 number)
  | negative (number : Nat) : Numeral ('-' :: Nat.toDigits 10 number)

variable {digits chars literal rest whole fraction exponent : List Char}

theorem wholePart_toDigits (number : Nat) : WholePart (Nat.toDigits 10 number) where
  nonempty := Nat.toDigits_ne_nil
  all _ member := Decimal.isDigit_of_mem_toDigits member
  leading rest same := by
    rcases Nat.eq_zero_or_pos number with rfl | positive
    · cases same
      rfl
    · exact absurd same (Decimal.toDigits_ne_zero_cons positive rest)

theorem Numeral.isNumber (numeral : Numeral literal) : Number literal := by
  cases numeral with
  | natural number =>
    have parts := Number.parts (.inl rfl) (wholePart_toDigits number) .none .none
    simpa using parts
  | negative number =>
    have parts := Number.parts (.inr rfl) (wholePart_toDigits number) .none .none
    simpa using parts

theorem Ends.halts (ends : Ends chars) : Halts chars := by
  intro c first
  have stop := ends c first
  simp only [goesOn, Bool.or_eq_false_iff] at stop
  exact stop.1.1.1

theorem Digits.head? (some : Digits digits) :
    ∃ first others, digits = first :: others ∧ Decimal.isDigit first = true := by
  obtain ⟨first, others, rfl⟩ := List.exists_cons_of_ne_nil some.nonempty
  exact ⟨first, others, rfl, some.all first List.mem_cons_self⟩

/-- Digits are read to the longest. -/
theorem takeDigits_eq_iff :
    takeDigits chars = (digits, rest) ↔
      chars = digits ++ rest ∧ (∀ c ∈ digits, Decimal.isDigit c = true) ∧ Halts rest := by
  constructor
  · intro taken
    cases taken
    refine ⟨List.takeWhile_append_dropWhile.symm, fun c member => ?_, fun c first => ?_⟩
    · exact List.all_eq_true.1 List.all_takeWhile c member
    · have stop := List.head?_dropWhile_not Decimal.isDigit chars
      rw [first] at stop
      simpa using stop
  · rintro ⟨rfl, all, halts⟩
    have stops : takeDigits rest = ([], rest) := by
      cases rest with
      | nil => rfl
      | cons c rest =>
        have stop := halts c rfl
        simp [takeDigits, stop]
    obtain ⟨none, same⟩ := Prod.mk.inj stops
    rw [takeDigits, List.takeWhile_append_of_pos all, List.dropWhile_append_of_pos all, none, same,
      List.append_nil]

theorem wholePart?_eq_iff :
    wholePart? chars = some (whole, rest) ↔
      chars = whole ++ rest ∧ WholePart whole ∧ Halts rest := by
  constructor
  · intro found
    unfold wholePart? at found
    split at found
    · cases found
    · cases found
    · rename_i notEmpty notZero
      have taken : takeDigits chars = (whole, rest) := Option.some.inj found
      obtain ⟨same, all, halts⟩ := takeDigits_eq_iff.1 taken
      refine ⟨same, ⟨⟨?_, all⟩, ?_⟩, halts⟩
      · rintro rfl
        exact notEmpty _ taken
      · rintro (_ | ⟨next, others⟩) rfl
        · rfl
        · exact (notZero _ _ _ taken).elim
  · rintro ⟨same, part, halts⟩
    unfold wholePart?
    rw [takeDigits_eq_iff.2 ⟨same, part.all, halts⟩]
    split
    · rename_i empty
      exact absurd (Prod.mk.inj empty).1 part.nonempty
    · rename_i zero
      cases part.leading _ (Prod.mk.inj zero).1
    · rfl

theorem fraction?_append (fractional : Fraction fraction) (halts : Halts rest)
    (pointless : ∀ c ∈ rest.head?, c ≠ '.') :
    fraction? (fraction ++ rest) = some (fraction, rest) := by
  cases fractional with
  | none =>
    unfold fraction?
    split
    · rename_i tail same
      rw [List.nil_append] at same
      exact absurd rfl (pointless '.' (same ▸ rfl))
    · rfl
  | @point digits some =>
    rw [List.cons_append, fraction?, takeDigits_eq_iff.2 ⟨rfl, some.all, halts⟩]
    split
    · rename_i empty
      exact absurd (Prod.mk.inj empty).1 some.nonempty
    · rename_i same
      cases same
      rfl

theorem fraction_of_found (found : fraction? chars = some (fraction, rest)) (halts : Halts chars) :
    chars = fraction ++ rest ∧ Fraction fraction ∧ Halts rest := by
  unfold fraction? at found
  split at found
  · rename_i tail
    rcases taken : takeDigits tail with ⟨digits, after⟩
    obtain ⟨rfl, all, stops⟩ := takeDigits_eq_iff.1 taken
    rw [taken] at found
    cases digits with
    | nil => cases found
    | cons digit digits =>
      cases found
      exact ⟨rfl, .point ⟨List.cons_ne_nil _ _, all⟩, stops⟩
  · cases found
    exact ⟨rfl, .none, halts⟩

theorem exponent?_append (exponential : Exponent exponent) (ends : Ends rest) :
    exponent? (exponent ++ rest) = some (exponent, rest) := by
  cases exponential with
  | none =>
    cases rest with
    | nil => rfl
    | cons c rest =>
      have stop := ends c rfl
      simp only [goesOn, Bool.or_eq_false_iff, decide_eq_false_iff_not] at stop
      have other : ¬ (c = 'e' ∨ c = 'E') := not_or.2 ⟨stop.1.2, stop.2⟩
      rw [List.nil_append]
      unfold exponent?
      exact if_neg other
  | @letter letter sign digits marks signed some =>
    have taken : takeDigits (digits ++ rest) = (digits, rest) :=
      takeDigits_eq_iff.2 ⟨rfl, some.all, ends.halts⟩
    obtain ⟨first, others, rfl, numeric⟩ := some.head?
    unfold exponent?
    simp only [List.cons_append, List.append_assoc, if_pos marks]
    rw [List.cons_append] at taken
    rcases signed with rfl | rfl | rfl
    · have unsigned : first ≠ '+' ∧ first ≠ '-' := by
        constructor <;> rintro rfl <;> cases numeric
      simp [unsigned, taken]
    · simp only [List.cons_append, List.nil_append, taken]
    · simp only [List.cons_append, List.nil_append, taken]

theorem exponent_of_found (found : exponent? chars = some (exponent, rest)) (halts : Halts chars) :
    chars = exponent ++ rest ∧ Exponent exponent ∧ Halts rest := by
  unfold exponent? at found
  split at found
  · cases found
    exact ⟨rfl, .none, halts⟩
  · rename_i c after
    split at found
    · rename_i marks
      split at found
      rename_i sign tail cut
      have signed : (sign = [] ∨ sign = ['+'] ∨ sign = ['-']) ∧ after = sign ++ tail := by
        split at cut <;> cases cut <;> simp
      rcases taken : takeDigits tail with ⟨digits, left⟩
      obtain ⟨rfl, all, stops⟩ := takeDigits_eq_iff.1 taken
      rw [taken] at found
      cases digits with
      | nil => cases found
      | cons digit digits =>
        cases found
        refine ⟨?_, .letter marks signed.1 ⟨List.cons_ne_nil _ _, all⟩, stops⟩
        rw [signed.2]
        simp only [List.cons_append, List.append_assoc]
    · cases found
      exact ⟨rfl, .none, halts⟩

/-- What follows the whole part, or the whole part and a fraction. -/
theorem halts_exponent (exponential : Exponent exponent) (ends : Ends rest) :
    Halts (exponent ++ rest) ∧ ∀ c ∈ (exponent ++ rest).head?, c ≠ '.' := by
  cases exponential with
  | none =>
    refine ⟨ends.halts, fun c first => ?_⟩
    have stop := ends c first
    simp only [goesOn, Bool.or_eq_false_iff, decide_eq_false_iff_not] at stop
    exact stop.1.1.2
  | letter marks =>
    constructor
    · rintro _ ⟨⟩
      rcases marks with rfl | rfl <;> rfl
    · rintro _ ⟨⟩
      rcases marks with rfl | rfl <;> decide

theorem halts_fraction (fractional : Fraction fraction) (halts : Halts rest) :
    Halts (fraction ++ rest) := by
  cases fractional with
  | none => exact halts
  | point =>
    rintro _ ⟨⟩
    rfl

theorem number?_append (number : Number literal) (ends : Ends rest) :
    number? (literal ++ rest) = some (literal, rest) := by
  cases number with
  | @parts sign whole fraction exponent signed wholePart fractional exponential =>
    obtain ⟨halts, pointless⟩ := halts_exponent exponential ends
    have first := wholePart?_eq_iff.2 ⟨rfl, wholePart, halts_fraction fractional halts⟩
    have second := fraction?_append fractional halts pointless
    have third := exponent?_append exponential ends
    obtain ⟨digit, digits, rfl, numeric⟩ := wholePart.toDigits.head?
    have unsigned : digit ≠ '-' := by
      rintro rfl
      cases numeric
    rw [List.cons_append] at first
    unfold number?
    rcases signed with rfl | rfl <;>
      simp [unsigned, first, second, third]

theorem number_of_found (found : number? chars = some (literal, rest)) :
    chars = literal ++ rest ∧ Number literal ∧ Halts rest := by
  unfold number? at found
  split at found
  rename_i sign tail cut
  have signed : (sign = [] ∨ sign = ['-']) ∧ chars = sign ++ tail := by
    split at cut <;> cases cut <;> simp
  simp only [Option.bind_eq_bind, Option.bind_eq_some_iff, Prod.exists, Option.some.injEq,
    Prod.mk.injEq] at found
  obtain ⟨whole, _, wholeFound, fraction, _, fractionFound, exponent, _, exponentFound, rfl, rfl⟩ :=
    found
  obtain ⟨rfl, wholePart, halts⟩ := wholePart?_eq_iff.1 wholeFound
  obtain ⟨rfl, fractional, halts⟩ := fraction_of_found fractionFound halts
  obtain ⟨rfl, exponential, halts⟩ := exponent_of_found exponentFound halts
  refine ⟨?_, ?_, halts⟩
  · rw [signed.2]
    simp only [List.append_assoc]
  · simp only [List.append_assoc]
    exact .parts signed.1 wholePart fractional exponential

end Json.Token

end Attest
