import Attest.Proofs.Wire.Writing
import Attest.Wire.Reader

/-!
What readers take off the front of a buffer. A reader that `Reads` some bytes takes exactly these,
whatever follows them, so fields that are read one after another take their bytes one after another.
-/

namespace Attest

variable {ε α β : Type}

section

variable {reader : ExceptT ε (StateM Bytes) α} {next : α → ExceptT ε (StateM Bytes) β}

theorem bind_of_ok {buffer rest : Bytes} {value : α} (read : reader buffer = (.ok value, rest)) :
    (reader >>= next) buffer = next value rest := by
  change (match reader buffer with
    | (answer, left) => ExceptT.bindCont next answer left) = next value rest
  rw [read]
  rfl

theorem bind_of_error {buffer rest : Bytes} {cause : ε}
    (failed : reader buffer = (.error cause, rest)) :
    (reader >>= next) buffer = (.error cause, rest) := by
  change (match reader buffer with
    | (answer, left) => ExceptT.bindCont next answer left) = (.error cause, rest)
  rw [failed]
  rfl

theorem ok_of_bind {buffer rest : Bytes} {result : β}
    (completed : (reader >>= next) buffer = (.ok result, rest)) :
    ∃ value between, reader buffer = (.ok value, between) ∧
      next value between = (.ok result, rest) := by
  cases first : reader buffer with
  | mk answer between =>
    cases answer with
    | error cause =>
      rw [bind_of_error first] at completed
      cases completed
    | ok value =>
      rw [bind_of_ok first] at completed
      exact ⟨value, between, rfl, completed⟩

end

/-- The reader takes exactly these bytes, whatever follows them, and answers the value. -/
def Reads (reader : ExceptT ε (StateM Bytes) α) (bytes : Bytes) (value : α) : Prop :=
  ∀ rest, reader (bytes ++ rest) = (.ok value, rest)

namespace Reads

theorem pure (value : α) : Reads (pure value : ExceptT ε (StateM Bytes) α) [] value := by
  intro rest
  rfl

theorem bind {reader : ExceptT ε (StateM Bytes) α} {next : α → ExceptT ε (StateM Bytes) β}
    {front back : Bytes} {value : α} {result : β}
    (first : Reads reader front value) (second : Reads (next value) back result) :
    Reads (reader >>= next) (front ++ back) result := by
  intro rest
  rw [List.append_assoc, bind_of_ok (first (back ++ rest))]
  exact second rest

/-- The last step of a reader takes nothing more. -/
theorem bind_pure {reader : ExceptT ε (StateM Bytes) α} {bytes : Bytes} {value : α}
    (reads : Reads reader bytes value) (finish : α → β) :
    Reads (reader >>= fun value => Pure.pure (finish value)) bytes (finish value) := by
  have completed : Reads (reader >>= fun value => Pure.pure (finish value)) (bytes ++ [])
      (finish value) := reads.bind (pure (finish value))
  rwa [List.append_nil] at completed

end Reads

namespace Wire

open BigEndian

theorem reads_take (bytes : Bytes) : Reads (take bytes.length) bytes bytes := by
  intro rest
  have enough : bytes.length ≤ (bytes ++ rest).length := by
    rw [List.length_append]
    omega
  rw [take, if_pos enough, List.take_left, List.drop_left]

/-- A number is read modulo the numbers of its width. -/
theorem reads_number (width number : Nat) (finish : Nat → α) :
    Reads (take width >>= fun bytes => return finish (decode bytes)) (encode width number)
      (finish (number % capacity width)) := by
  have reads := reads_take (encode width number)
  rw [length_encode] at reads
  rw [← decode_encode]
  exact reads.bind_pure fun bytes => finish (decode bytes)

theorem reads_word16 (value : UInt16) : Reads readWord16 (word16 value) value := by
  have fits : value.toNat < capacity 2 := value.toNat_lt
  have reads := reads_number 2 value.toNat UInt16.ofNat
  rwa [Nat.mod_eq_of_lt fits, UInt16.ofNat_toNat] at reads

theorem reads_word32 (value : UInt32) : Reads readWord32 (word32 value) value := by
  have fits : value.toNat < capacity 4 := value.toNat_lt
  have reads := reads_number 4 value.toNat UInt32.ofNat
  rwa [Nat.mod_eq_of_lt fits, UInt32.ofNat_toNat] at reads

theorem reads_word64 (value : UInt64) : Reads readWord64 (word64 value) value := by
  have fits : value.toNat < capacity 8 := value.toNat_lt
  have reads := reads_number 8 value.toNat UInt64.ofNat
  rwa [Nat.mod_eq_of_lt fits, UInt64.ofNat_toNat] at reads

theorem reads_flag (value : Bool) : Reads readFlag (flag value) value := by
  have reads := (reads_take (flag value)).bind_pure fun bytes => decode bytes != 0
  cases value <;> exact reads

theorem reads_lengthWord {count : Nat} (fits : count < capacity 4) :
    Reads readWord32 (lengthWord count) (UInt32.ofNat count) := by
  have reads := reads_number 4 count UInt32.ofNat
  rwa [Nat.mod_eq_of_lt fits] at reads

theorem toNat_lengthWord {count : Nat} (fits : count < capacity 4) :
    (UInt32.ofNat count).toNat = count :=
  UInt32.toNat_ofNat_of_lt' fits

theorem lt_capacity_of_le_maxBlockLength {count : Nat} (short : count ≤ maxBlockLength) :
    count < capacity 4 :=
  Nat.lt_of_le_of_lt short (by decide)

theorem reads_block {data : Bytes} (short : data.length ≤ maxBlockLength) :
    Reads readBlock (block data) data := by
  have fits := lt_capacity_of_le_maxBlockLength short
  apply (reads_lengthWord fits).bind
  simp only [toNat_lengthWord fits]
  rw [if_neg (Nat.not_lt.2 short)]
  exact reads_take data

/-- A length above the limit is refused before any byte after it is taken. -/
theorem readBlock_of_tooLong {count : Nat} (fits : count < capacity 4)
    (long : maxBlockLength < count) (rest : Bytes) :
    readBlock (lengthWord count ++ rest) = (.error (.tooLong count maxBlockLength), rest) := by
  have declared := reads_lengthWord fits rest
  unfold readBlock
  rw [bind_of_ok declared]
  simp only [toNat_lengthWord fits]
  rw [if_pos long]
  rfl

@[simp] theorem dropTerminator_append_zero (octets : Bytes) :
    dropTerminator (octets ++ [0]) = octets := by
  simp [dropTerminator]

def textOf (octets : Bytes) : Except Error (Option String) :=
  if octets.isEmpty then .ok none
  else match Utf8.decode? (dropTerminator octets) with
    | some value => .ok (some value)
    | none => .error .notUtf8

/-- A text is a byte string that is looked at after it has been taken. -/
theorem readText_of_readBlock {buffer rest octets : Bytes}
    (read : readBlock buffer = (.ok octets, rest)) : readText buffer = (textOf octets, rest) := by
  unfold readText
  rw [bind_of_ok read, textOf]
  by_cases empty : octets.isEmpty
  · simp only [empty, if_true]
    rfl
  · simp only [empty, Bool.false_eq_true, if_false]
    cases Utf8.decode? (dropTerminator octets) <;> rfl

theorem readText_of_readBlock_error {buffer rest : Bytes} {cause : Error}
    (failed : readBlock buffer = (.error cause, rest)) :
    readText buffer = (.error cause, rest) :=
  bind_of_error failed

@[simp] theorem textOf_octets (value : Option String) : textOf (octets value) = .ok value := by
  cases value with
  | none => rfl
  | some value => simp [textOf, octets]

/-- The length of a text together with its terminator is within the limit. -/
def Fits (value : Option String) : Prop :=
  ∀ text, value = some text → (Utf8.encode text).length < maxBlockLength

instance : DecidablePred Fits
  | none => isTrue nofun
  | some text => decidable_of_iff ((Utf8.encode text).length < maxBlockLength) <| by
      simp only [Fits, Option.some.injEq, forall_eq']

theorem length_octets_le {value : Option String} (fits : Fits value) :
    (octets value).length ≤ maxBlockLength := by
  cases value with
  | none => exact Nat.zero_le _
  | some value =>
    rw [octets, List.length_append]
    exact fits value rfl

theorem reads_text {value : Option String} (fits : Fits value) :
    Reads readText (text value) value := by
  intro rest
  rw [text_eq_block, readText_of_readBlock (reads_block (length_octets_le fits) rest), textOf_octets]

/-- A text that does not fit is refused once its length has been taken. -/
theorem readText_of_tooLong {value : String}
    (long : maxBlockLength ≤ (Utf8.encode value).length)
    (declared : (Utf8.encode value).length + 1 < capacity 4) (rest : Bytes) :
    readText (text (some value) ++ rest) =
      (.error (.tooLong ((Utf8.encode value).length + 1) maxBlockLength),
        Utf8.encode value ++ [0] ++ rest) := by
  have refused := readBlock_of_tooLong declared (Nat.lt_succ_of_le long)
    (Utf8.encode value ++ [0] ++ rest)
  simpa only [text, List.append_assoc] using readText_of_readBlock_error refused

theorem take_ok_iff {count : Nat} {buffer bytes rest : Bytes} :
    take count buffer = (.ok bytes, rest) ↔ bytes.length = count ∧ buffer = bytes ++ rest := by
  constructor
  · intro taken
    unfold take at taken
    split at taken
    · rename_i enough
      cases taken
      exact ⟨List.length_take_of_le enough, (List.take_append_drop count buffer).symm⟩
    · cases taken
  · rintro ⟨rfl, rfl⟩
    exact reads_take bytes rest

theorem readWord32_ok_iff {buffer rest : Bytes} {value : UInt32} :
    readWord32 buffer = (.ok value, rest) ↔ buffer = word32 value ++ rest := by
  constructor
  · intro read
    obtain ⟨bytes, between, taken, finished⟩ := ok_of_bind read
    obtain ⟨width, rfl⟩ := take_ok_iff.1 taken
    cases finished
    have small : decode bytes < capacity 4 := width ▸ decode_lt bytes
    rw [word32, UInt32.toNat_ofNat_of_lt' small, ← width, encode_decode]
  · rintro rfl
    exact reads_word32 value rest

theorem readBlock_ok_iff {buffer rest data : Bytes} :
    readBlock buffer = (.ok data, rest) ↔
      data.length ≤ maxBlockLength ∧ buffer = block data ++ rest := by
  constructor
  · intro read
    obtain ⟨count, between, declared, taken⟩ := ok_of_bind read
    by_cases long : count.toNat > maxBlockLength
    · simp only [if_pos long] at taken
      cases taken
    · simp only [if_neg long] at taken
      obtain ⟨width, rfl⟩ := take_ok_iff.1 taken
      rw [readWord32_ok_iff.1 declared, block, width, List.append_assoc]
      exact ⟨Nat.not_lt.1 long, rfl⟩
  · rintro ⟨short, rfl⟩
    exact reads_block short rest

theorem take_of_short {count : Nat} {buffer : Bytes} (short : buffer.length < count) :
    take count buffer = (.error (.truncated count buffer.length), buffer) := by
  rw [take, if_neg (Nat.not_le.2 short)]

theorem readWord32_of_short {buffer : Bytes} (short : buffer.length < 4) :
    readWord32 buffer = (.error (.truncated 4 buffer.length), buffer) :=
  bind_of_error (take_of_short short)

theorem exists_word32 {buffer : Bytes} (enough : 4 ≤ buffer.length) :
    ∃ value rest, buffer = word32 value ++ rest := by
  have taken : take 4 buffer = (.ok (buffer.take 4), buffer.drop 4) := by
    rw [take, if_pos enough]
  exact ⟨_, _, readWord32_ok_iff.1 (bind_of_ok taken)⟩

theorem exists_eq_word32 {bytes : Bytes} (width : bytes.length = 4) :
    ∃ value, bytes = word32 value := by
  obtain ⟨value, rest, rfl⟩ := exists_word32 (Nat.le_of_eq width.symm)
  have empty : rest = [] := by
    rw [List.length_append, word32, length_encode] at width
    exact List.eq_nil_of_length_eq_zero (by omega)
  exact ⟨value, by rw [empty, List.append_nil]⟩

/-- A length that is there in full makes a block. -/
theorem exists_block {count : UInt32} {rest : Bytes} (enough : count.toNat ≤ rest.length) :
    ∃ data after, data.length = count.toNat ∧ word32 count ++ rest = block data ++ after := by
  have width : (rest.take count.toNat).length = count.toNat := List.length_take_of_le enough
  refine ⟨rest.take count.toNat, rest.drop count.toNat, width, ?_⟩
  rw [block, width, List.append_assoc, List.take_append_drop]
  rfl

theorem readBlock_of_short {buffer : Bytes} (short : buffer.length < 4) :
    readBlock buffer = (.error (.truncated 4 buffer.length), buffer) :=
  bind_of_error (readWord32_of_short short)

theorem readBlock_of_truncated {count : UInt32} {rest : Bytes}
    (allowed : count.toNat ≤ maxBlockLength) (short : rest.length < count.toNat) :
    readBlock (word32 count ++ rest) =
      (.error (.truncated count.toNat rest.length), rest) := by
  unfold readBlock
  rw [bind_of_ok (reads_word32 count rest)]
  simp only [if_neg (Nat.not_lt.2 allowed)]
  exact take_of_short short

theorem readText_ok_iff {buffer rest : Bytes} {value : Option String} :
    readText buffer = (.ok value, rest) ↔
      ∃ octets, readBlock buffer = (.ok octets, rest) ∧ textOf octets = .ok value := by
  constructor
  · intro read
    obtain ⟨octets, between, taken, -⟩ := ok_of_bind read
    rw [readText_of_readBlock taken] at read
    cases said : textOf octets with
    | error cause =>
      rw [said] at read
      cases read
    | ok other =>
      rw [said] at read
      cases read
      exact ⟨octets, taken, said⟩
  · rintro ⟨octets, taken, said⟩
    rw [readText_of_readBlock taken, said]

theorem length_dropTerminator_le (octets : Bytes) :
    (dropTerminator octets).length ≤ octets.length := by
  unfold dropTerminator
  split
  · rw [List.length_dropLast]
    omega
  · exact Nat.le_refl _

theorem length_encode_le_of_textOf {octets : Bytes} {value : String}
    (said : textOf octets = .ok (some value)) :
    (Utf8.encode value).length ≤ octets.length := by
  unfold textOf at said
  split at said
  · cases said
  · split at said
    · rename_i decoded
      cases said
      rw [← Utf8.decode?_eq_some_iff.1 decoded]
      exact length_dropTerminator_le octets
    · cases said

theorem length_encode_le_of_readText {buffer rest : Bytes} {value : String}
    (read : readText buffer = (.ok (some value), rest)) :
    (Utf8.encode value).length ≤ maxBlockLength := by
  obtain ⟨octets, taken, said⟩ := readText_ok_iff.1 read
  have short := (readBlock_ok_iff.1 taken).1
  exact Nat.le_trans (length_encode_le_of_textOf said) short

end Wire

end Attest
