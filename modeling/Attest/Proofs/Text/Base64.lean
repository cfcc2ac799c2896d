import Attest.Text.Base64
import Attest.Text.Blank

/-!
Reading Base64 text back. What is written holds no white space, so white space around it does not
matter. Nothing but what is written can be read, so that bytes and their texts correspond one to one.
-/

namespace Attest

namespace Base64

open Blank (isBlankText trim trim_surrounded)

/-- The characters that text is written with. -/
inductive Written : Char → Prop where
  | digit (sextet : Nat) (small : sextet < 64) : Written (digit sextet)
  | padding : Written '='

theorem sextet?_digit {sextet : Nat} (small : sextet < 64) : sextet? (digit sextet) = some sextet := by
  revert sextet
  decide

theorem digit_ne_padding {sextet : Nat} (small : sextet < 64) : digit sextet ≠ '=' := by
  revert sextet
  decide

/-- No white space, and nothing that an option of a command line begins with. -/
theorem Written.solid {c : Char} (written : Written c) : isBlank c = false ∧ c ≠ '-' := by
  cases written with
  | digit sextet small =>
    revert sextet
    decide
  | padding => decide

theorem written_encodeChars (bytes : Bytes) : ∀ c ∈ encodeChars bytes, Written c := by
  fun_induction encodeChars bytes with
  | case1 => nofun
  | case2 a =>
    have bound := a.toNat_lt
    simp only [List.forall_mem_cons]
    exact ⟨.digit _ (by omega), .digit _ (by omega), .padding, .padding, nofun⟩
  | case3 a b =>
    have boundA := a.toNat_lt
    have boundB := b.toNat_lt
    simp only [List.forall_mem_cons]
    exact ⟨.digit _ (by omega), .digit _ (by omega), .digit _ (by omega), .padding, nofun⟩
  | case4 a b c rest ih =>
    have boundA := a.toNat_lt
    have boundB := b.toNat_lt
    have boundC := c.toNat_lt
    simp only [List.forall_mem_cons]
    exact ⟨.digit _ (by omega), .digit _ (by omega), .digit _ (by omega), .digit _ (by omega), ih⟩

theorem decodeOne?_digits (a : UInt8) :
    decodeOne? (digit (a.toNat / 4)) (digit (a.toNat % 4 * 16)) = some [a] := by
  have bound := a.toNat_lt
  have unused : a.toNat % 4 * 16 % 16 = 0 := by omega
  have whole : a.toNat / 4 * 4 + a.toNat % 4 * 16 / 16 = a.toNat := by omega
  rw [decodeOne?, sextet?_digit (by omega), sextet?_digit (by omega)]
  simp only [Option.bind_eq_bind, Option.bind_some, if_pos unused, whole, UInt8.ofNat_toNat]

theorem decodeTwo?_digits (a b : UInt8) :
    decodeTwo? (digit (a.toNat / 4)) (digit (a.toNat % 4 * 16 + b.toNat / 16))
      (digit (b.toNat % 16 * 4)) = some [a, b] := by
  have boundA := a.toNat_lt
  have boundB := b.toNat_lt
  have unused : b.toNat % 16 * 4 % 4 = 0 := by omega
  have first : a.toNat / 4 * 4 + (a.toNat % 4 * 16 + b.toNat / 16) / 16 = a.toNat := by omega
  have second :
      (a.toNat % 4 * 16 + b.toNat / 16) % 16 * 16 + b.toNat % 16 * 4 / 4 = b.toNat := by omega
  rw [decodeTwo?, sextet?_digit (by omega), sextet?_digit (by omega), sextet?_digit (by omega)]
  simp only [Option.bind_eq_bind, Option.bind_some, if_pos unused, first, second,
    UInt8.ofNat_toNat]

theorem decodeThree?_digits (a b c : UInt8) :
    decodeThree? (digit (a.toNat / 4)) (digit (a.toNat % 4 * 16 + b.toNat / 16))
      (digit (b.toNat % 16 * 4 + c.toNat / 64)) (digit (c.toNat % 64)) = some [a, b, c] := by
  have boundA := a.toNat_lt
  have boundB := b.toNat_lt
  have boundC := c.toNat_lt
  have first : a.toNat / 4 * 4 + (a.toNat % 4 * 16 + b.toNat / 16) / 16 = a.toNat := by omega
  have second : (a.toNat % 4 * 16 + b.toNat / 16) % 16 * 16 +
      (b.toNat % 16 * 4 + c.toNat / 64) / 4 = b.toNat := by omega
  have third : (b.toNat % 16 * 4 + c.toNat / 64) % 4 * 64 + c.toNat % 64 = c.toNat := by omega
  rw [decodeThree?, sextet?_digit (by omega), sextet?_digit (by omega), sextet?_digit (by omega),
    sextet?_digit (by omega)]
  simp only [Option.bind_eq_bind, Option.bind_some, first, second, third, UInt8.ofNat_toNat]

theorem decodeChars?_encodeChars (bytes : Bytes) : decodeChars? (encodeChars bytes) = some bytes := by
  fun_induction encodeChars bytes with
  | case1 => rfl
  | case2 a => exact decodeOne?_digits a
  | case3 a b =>
    have boundB := b.toNat_lt
    have padless : digit (b.toNat % 16 * 4) ≠ '=' := digit_ne_padding (by omega)
    rw [decodeChars?]
    · exact decodeTwo?_digits a b
    · exact padless
  | case4 a b c rest ih =>
    have boundC := c.toNat_lt
    have padless : digit (c.toNat % 64) ≠ '=' := digit_ne_padding (by omega)
    rw [decodeChars?, decodeThree?_digits, ih]
    · rfl
    · intro _ padding
      exact absurd padding padless
    · intro padding
      exact absurd padding padless

@[simp] theorem decode?_encode (bytes : Bytes) : decode? (encode bytes) = some bytes := by
  rw [decode?, encode, String.toList_ofList, decodeChars?_encodeChars]

theorem ofNat_offset {c first : Char} (least : first ≤ c) :
    Char.ofNat (first.toNat + (c.toNat - first.toNat)) = c := by
  have least : first.toNat ≤ c.toNat := least
  rw [Nat.add_sub_cancel' least, Char.ofNat_toNat]

theorem digit_of_sextet? {c : Char} {sextet : Nat} (read : sextet? c = some sextet) :
    sextet < 64 ∧ digit sextet = c := by
  unfold sextet? at read
  split at read
  · rename_i capital
    have most : c.toNat - 'A'.toNat ≤ 25 := Nat.sub_le_sub_right capital.2 _
    cases read
    rw [digit, if_pos (by omega)]
    exact ⟨by omega, ofNat_offset capital.1⟩
  split at read
  · rename_i small
    have most : c.toNat - 'a'.toNat ≤ 25 := Nat.sub_le_sub_right small.2 _
    cases read
    rw [digit, if_neg (by omega), if_pos (by omega), Nat.add_sub_cancel]
    exact ⟨by omega, ofNat_offset small.1⟩
  split at read
  · rename_i numeral
    have most : c.toNat - '0'.toNat ≤ 9 := Nat.sub_le_sub_right numeral.2 _
    cases read
    rw [digit, if_neg (by omega), if_neg (by omega), if_pos (by omega), Nat.add_sub_cancel]
    exact ⟨by omega, ofNat_offset numeral.1⟩
  split at read
  · rename_i plus
    cases read
    subst plus
    decide
  split at read
  · rename_i slash
    cases read
    subst slash
    decide
  · cases read

variable {chars : List Char} {p q r s : Char} {bytes group : Bytes}

theorem toNat_firstByte {first second : Nat} (boundP : first < 64) (boundQ : second < 64) :
    (UInt8.ofNat (first * 4 + second / 16)).toNat = first * 4 + second / 16 := by
  have small : first * 4 + second / 16 < 256 := by omega
  exact UInt8.toNat_ofNat_of_lt small

theorem toNat_secondByte {third : Nat} (second : Nat) (boundR : third < 64) :
    (UInt8.ofNat (second % 16 * 16 + third / 4)).toNat = second % 16 * 16 + third / 4 := by
  have small : second % 16 * 16 + third / 4 < 256 := by omega
  exact UInt8.toNat_ofNat_of_lt small

theorem toNat_thirdByte {fourth : Nat} (third : Nat) (boundS : fourth < 64) :
    (UInt8.ofNat (third % 4 * 64 + fourth)).toNat = third % 4 * 64 + fourth := by
  have small : third % 4 * 64 + fourth < 256 := by omega
  exact UInt8.toNat_ofNat_of_lt small

theorem encodeChars_of_decodeOne? (decoded : decodeOne? p q = some bytes) :
    encodeChars bytes = [p, q, '=', '='] := by
  simp only [decodeOne?, Option.bind_eq_bind, Option.bind_eq_some_iff] at decoded
  obtain ⟨first, readP, second, readQ, decoded⟩ := decoded
  obtain ⟨boundP, rfl⟩ := digit_of_sextet? readP
  obtain ⟨boundQ, rfl⟩ := digit_of_sextet? readQ
  split at decoded
  · rename_i unused
    cases decoded
    have high : (first * 4 + second / 16) / 4 = first := by omega
    have low : (first * 4 + second / 16) % 4 * 16 = second := by omega
    rw [encodeChars, toNat_firstByte boundP boundQ, high, low]
  · cases decoded

theorem encodeChars_of_decodeTwo? (decoded : decodeTwo? p q r = some bytes) :
    encodeChars bytes = [p, q, r, '='] := by
  simp only [decodeTwo?, Option.bind_eq_bind, Option.bind_eq_some_iff] at decoded
  obtain ⟨first, readP, second, readQ, third, readR, decoded⟩ := decoded
  obtain ⟨boundP, rfl⟩ := digit_of_sextet? readP
  obtain ⟨boundQ, rfl⟩ := digit_of_sextet? readQ
  obtain ⟨boundR, rfl⟩ := digit_of_sextet? readR
  split at decoded
  · rename_i unused
    cases decoded
    have high : (first * 4 + second / 16) / 4 = first := by omega
    have middle : (first * 4 + second / 16) % 4 * 16 + (second % 16 * 16 + third / 4) / 16 =
        second := by omega
    have low : (second % 16 * 16 + third / 4) % 16 * 4 = third := by omega
    rw [encodeChars, toNat_firstByte boundP boundQ, toNat_secondByte second boundR, high, middle,
      low]
  · cases decoded

theorem encodeChars_of_decodeThree? (decoded : decodeThree? p q r s = some group)
    (rest : Bytes) : encodeChars (group ++ rest) = p :: q :: r :: s :: encodeChars rest := by
  simp only [decodeThree?, Option.bind_eq_bind, Option.bind_eq_some_iff] at decoded
  obtain ⟨first, readP, second, readQ, third, readR, fourth, readS, decoded⟩ := decoded
  obtain ⟨boundP, rfl⟩ := digit_of_sextet? readP
  obtain ⟨boundQ, rfl⟩ := digit_of_sextet? readQ
  obtain ⟨boundR, rfl⟩ := digit_of_sextet? readR
  obtain ⟨boundS, rfl⟩ := digit_of_sextet? readS
  cases decoded
  have high : (first * 4 + second / 16) / 4 = first := by omega
  have upper : (first * 4 + second / 16) % 4 * 16 + (second % 16 * 16 + third / 4) / 16 =
      second := by omega
  have lower : (second % 16 * 16 + third / 4) % 16 * 4 + (third % 4 * 64 + fourth) / 64 =
      third := by omega
  have low : (third % 4 * 64 + fourth) % 64 = fourth := by omega
  simp only [List.cons_append, List.nil_append]
  rw [encodeChars, toNat_firstByte boundP boundQ, toNat_secondByte second boundR,
    toNat_thirdByte third boundS, high, upper, lower, low]

theorem encodeChars_of_decodeChars? (decoded : decodeChars? chars = some bytes) :
    encodeChars bytes = chars := by
  fun_induction decodeChars? chars generalizing bytes with
  | case1 =>
    cases decoded
    rfl
  | case2 p q => exact encodeChars_of_decodeOne? decoded
  | case3 p q r => exact encodeChars_of_decodeTwo? decoded
  | case4 p q r s rest _ _ ih =>
    simp only [Option.bind_eq_bind, Option.bind_eq_some_iff] at decoded
    obtain ⟨group, read, later, decoded, joined⟩ := decoded
    cases joined
    rw [encodeChars_of_decodeThree? read, ih decoded]
  | case5 => cases decoded

theorem decode?_eq_some_iff {text : String} : decode? text = some bytes ↔ text = encode bytes := by
  constructor
  · intro decoded
    rw [encode, encodeChars_of_decodeChars? decoded, String.ofList_toList]
  · rintro rfl
    exact decode?_encode bytes

theorem decode?_surrounded {left right : String} (before : isBlankText left = true)
    (after : isBlankText right = true) (bytes : Bytes) :
    decode? (trim (left ++ encode bytes ++ right)) = some bytes := by
  rw [trim_surrounded before after, decode?_encode]
  intro c member
  rw [encode, String.toList_ofList] at member
  exact (written_encodeChars bytes c member).solid.1

theorem head?_surrounded {left right : String} (before : isBlankText left = true)
    (after : isBlankText right = true) (bytes : Bytes) :
    (left ++ encode bytes ++ right).toList.head? ≠ some '-' := by
  have blank {text : String} (blank : isBlankText text = true) : '-' ∉ text.toList := by
    intro member
    rw [isBlankText, List.all_eq_true] at blank
    exact absurd (blank '-' member) (by decide)
  intro begins
  have member := List.mem_of_head? begins
  simp only [String.toList_append, List.mem_append, encode, String.toList_ofList] at member
  obtain (member | member) | member := member
  · exact blank before member
  · exact (written_encodeChars bytes '-' member).solid.2 rfl
  · exact blank after member

end Base64

end Attest
