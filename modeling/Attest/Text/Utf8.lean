import Attest.Bytes.BigEndian

/-!
Text as UTF-8 octets. Strict decoding accepts exactly what encoding writes; lenient decoding puts
the replacement character for each longest start of a character that is not carried through. A zero
octet stands for the character zero and nothing else, so it can be taken off the end.
-/

namespace Attest.Utf8

def encode (text : String) : Bytes :=
  text.toByteArray.data.toList

def decode? (octets : Bytes) : Option String :=
  String.fromUTF8? octets.toByteArray

theorem decode?_eq_some_iff {octets : Bytes} {text : String} :
    decode? octets = some text ↔ octets = encode text := by
  unfold decode? encode String.fromUTF8?
  constructor
  · intro decoded
    split at decoded
    · rename_i valid
      cases decoded
      simp [String.fromUTF8]
    · cases decoded
  · rintro rfl
    have same : text.toByteArray.data.toList.toByteArray = text.toByteArray := by
      apply ByteArray.ext
      simp
    simp only [same]
    rw [dif_pos text.isValidUTF8]
    rfl

@[simp] theorem decode?_encode (text : String) : decode? (encode text) = some text :=
  decode?_eq_some_iff.2 rfl

theorem encode_inj {left right : String} : encode left = encode right ↔ left = right := by
  constructor
  · intro same
    have decoded := decode?_encode left
    rw [same, decode?_encode] at decoded
    exact (Option.some.inj decoded).symm
  · rintro rfl
    rfl

@[simp] theorem encode_empty : encode "" = [] := rfl

theorem encode_ne_nil {text : String} (nonempty : text ≠ "") : encode text ≠ [] := by
  intro empty
  exact nonempty (encode_inj.1 (empty.trans encode_empty.symm))

theorem encode_append (left right : String) :
    encode (left ++ right) = encode left ++ encode right := by
  simp [encode]

theorem encode_ofList (chars : List Char) :
    encode (String.ofList chars) = chars.flatMap String.utf8EncodeChar := by
  simp [encode, List.utf8Encode]

/-- A later character is written as octets that are greater at the first place where they differ,
and neither character begins with all of the other. -/
theorem encodeChar_lt {c d : Char} (earlier : c < d) (left right : Bytes) :
    String.utf8EncodeChar c ++ left < String.utf8EncodeChar d ++ right := by
  have below : c.val.toNat < d.val.toNat := earlier
  have bounded : d.val.toNat < 0x110000 := by
    obtain small | ⟨-, small⟩ := d.valid
    · exact Nat.lt_trans small (by decide)
    · exact small
  unfold String.utf8EncodeChar
  simp only
  repeat' split
  -- Characters of one length differ first where their numbers do, others in the lead octet.
  all_goals
    simp (disch := omega) only [List.cons_append, List.nil_append, List.cons_lt_cons_iff,
      UInt8.lt_iff_toNat_lt, ← UInt8.toNat_inj, UInt8.toNat_ofNat', Nat.mod_eq_of_lt]
    omega

theorem encode_ofList_lt {left right : List Char} (earlier : left < right) :
    encode (String.ofList left) < encode (String.ofList right) := by
  simp only [encode_ofList]
  induction earlier with
  | nil =>
    rename_i c rest
    obtain ⟨lead, tail, written⟩ :=
      List.exists_cons_of_ne_nil (String.utf8EncodeChar_ne_nil (c := c))
    rw [List.flatMap_nil, List.flatMap_cons, written]
    exact List.nil_lt_cons ..
  | rel less =>
    rw [List.flatMap_cons, List.flatMap_cons]
    exact encodeChar_lt less _ _
  | cons less ih =>
    rw [List.flatMap_cons, List.flatMap_cons]
    exact List.append_left_lt ih

/-- Texts are in the order of their octets. -/
theorem encode_lt {left right : String} (earlier : left < right) : encode left < encode right := by
  rw [← left.ofList_toList, ← right.ofList_toList]
  exact encode_ofList_lt earlier

theorem encodeChar_of_ended {c : Char} (ended : (String.utf8EncodeChar c).getLast? = some 0) :
    String.utf8EncodeChar c = [0] := by
  -- The last octet of a character of several octets is one of these.
  have above : ∀ number < 64, UInt8.ofNat (number + 128) ≠ 0 := by decide
  have tail := above (c.val.toNat % 64) (Nat.mod_lt _ (by decide))
  unfold String.utf8EncodeChar at ended ⊢
  simp only at ended ⊢
  split at ended
  · rename_i ascii
    rw [if_pos ascii]
    simpa using ended
  · split at ended
    · exact absurd (by simpa using ended) tail
    · split at ended <;> exact absurd (by simpa using ended) tail

/-- What stands before a zero octet at the end of a text is a text too. -/
theorem exists_of_append_zero {text : String} {front : Bytes}
    (ended : encode text = front ++ [0]) : ∃ shorter, front = encode shorter := by
  rw [← text.ofList_toList, encode_ofList] at ended
  obtain empty | ⟨init, c, last⟩ := List.eq_nil_or_concat text.toList
  · simp [empty] at ended
  · rw [last, List.concat_eq_append, List.flatMap_append, List.flatMap_singleton] at ended
    have zero : (String.utf8EncodeChar c).getLast? = some 0 := by
      have lasts := congrArg List.getLast? ended
      have found := List.getLast?_eq_some_getLast (String.utf8EncodeChar_ne_nil (c := c))
      rwa [List.getLast?_append, List.getLast?_concat, found, Option.some_or, ← found] at lasts
    rw [encodeChar_of_ended zero] at ended
    exact ⟨String.ofList init, by rw [encode_ofList, List.append_cancel_right ended]⟩

/-- For each octet that must follow a lead octet, the range that is well-formed there. -/
def continuations (lead : UInt8) : Option (List (UInt8 × UInt8)) :=
  let anyTail : UInt8 × UInt8 := (0x80, 0xBF)
  if lead ≤ 0x7F then some []
  else if lead < 0xC2 then none
  else if lead ≤ 0xDF then some [anyTail]
  else if lead = 0xE0 then some [(0xA0, 0xBF), anyTail]
  else if lead = 0xED then some [(0x80, 0x9F), anyTail]
  else if lead ≤ 0xEF then some [anyTail, anyTail]
  else if lead = 0xF0 then some [(0x90, 0xBF), anyTail, anyTail]
  else if lead ≤ 0xF3 then some [anyTail, anyTail, anyTail]
  else if lead = 0xF4 then some [(0x80, 0x8F), anyTail, anyTail]
  else none

/-- How many octets at the front lie in the given ranges, one after another. -/
def tailLength : List (UInt8 × UInt8) → Bytes → Nat
  | (low, high) :: ranges, octet :: rest =>
    if low ≤ octet ∧ octet ≤ high then tailLength ranges rest + 1 else 0
  | _, _ => 0

/-- The character of a lead octet and the octets after it. -/
def scalar (lead : UInt8) (tail : Bytes) : Char :=
  let payload := match tail.length with
    | 0 => lead.toNat
    | 1 => lead.toNat % 32
    | 2 => lead.toNat % 16
    | _ => lead.toNat % 8
  Char.ofNat (tail.foldl (fun code octet => code * 64 + octet.toNat % 64) payload)

def replacement : Char := Char.ofNat 0xFFFD

/-- Every octet belongs to a whole character or to a replaced start of one. -/
def lenientChars : Bytes → List Char
  | [] => []
  | lead :: rest =>
    match continuations lead with
    | none => replacement :: lenientChars rest
    | some ranges =>
      let length := tailLength ranges rest
      let char := if length = ranges.length then scalar lead (rest.take length) else replacement
      char :: lenientChars (rest.drop length)
termination_by octets => octets.length
decreasing_by
  all_goals
    simp only [List.length_cons, List.length_drop]
    omega

def decodeLenient (octets : Bytes) : String :=
  String.ofList (lenientChars octets)

end Attest.Utf8
