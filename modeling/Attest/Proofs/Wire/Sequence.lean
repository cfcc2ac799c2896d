import Attest.Proofs.Wire.Reading
import Attest.Wire.Field

/-!
Fields that are packed one after another. Reading them in the same order gives them back, and every
read takes exactly what was written for its field, as long as all fields are within the limits of
reading; it fails as soon as one of them is not.
-/

namespace Attest

theorem Reads.map {ε α β : Type} {reader : ExceptT ε (StateM Bytes) α} {bytes : Bytes} {value : α}
    (reads : Reads reader bytes value) (f : α → β) : Reads (f <$> reader) bytes (f value) := by
  rw [map_eq_pure_bind]
  exact reads.bind_pure f

theorem map_of_ok {ε α β : Type} {reader : ExceptT ε (StateM Bytes) α} {f : α → β}
    {buffer rest : Bytes} {value : α} (read : reader buffer = (.ok value, rest)) :
    (f <$> reader) buffer = (.ok (f value), rest) := by
  rw [map_eq_pure_bind]
  exact bind_of_ok read

theorem map_of_error {ε α β : Type} {reader : ExceptT ε (StateM Bytes) α} {f : α → β}
    {buffer rest : Bytes} {cause : ε} (failed : reader buffer = (.error cause, rest)) :
    (f <$> reader) buffer = (.error cause, rest) := by
  rw [map_eq_pure_bind]
  exact bind_of_error failed

theorem ok_of_map {ε α β : Type} {reader : ExceptT ε (StateM Bytes) α} {f : α → β}
    {buffer rest : Bytes} {result : β} (completed : (f <$> reader) buffer = (.ok result, rest)) :
    ∃ value, reader buffer = (.ok value, rest) ∧ f value = result := by
  rw [map_eq_pure_bind] at completed
  obtain ⟨value, between, read, finished⟩ := ok_of_bind completed
  cases finished
  exact ⟨value, read, rfl⟩

namespace Wire.Field

/-- The field is within the limits of what is read. -/
def Fits : Field → Prop
  | .block data => data.length ≤ maxBlockLength
  | .text value => Wire.Fits value
  | .word16 _ | .word32 _ | .word64 _ | .flag _ => True

instance : DecidablePred Fits
  | .block data => inferInstanceAs (Decidable (data.length ≤ maxBlockLength))
  | .text value => inferInstanceAs (Decidable (Wire.Fits value))
  | .word16 _ | .word32 _ | .word64 _ | .flag _ => isTrue trivial

variable {field : Field} {fields : List Field} {trailing : Bytes}

theorem reads_bytes (fits : field.Fits) : Reads field.kind.read field.bytes field := by
  cases field with
  | word16 value => exact (reads_word16 value).map Field.word16
  | word32 value => exact (reads_word32 value).map Field.word32
  | word64 value => exact (reads_word64 value).map Field.word64
  | flag value => exact (reads_flag value).map Field.flag
  | block data => exact (reads_block fits).map Field.block
  | text value => exact (reads_text fits).map Field.text

theorem fits_of_readText {value : Option String} {rest left : Bytes}
    (read : readText (Wire.text value ++ rest) = (.ok value, left)) : Wire.Fits value := by
  rintro said rfl
  have allowed := length_encode_le_of_readText read
  refine Nat.lt_of_not_le fun long => ?_
  -- One byte more than the limit, since the terminator counts.
  have declared : (Utf8.encode said).length + 1 < BigEndian.capacity 4 :=
    Nat.lt_of_le_of_lt (Nat.succ_le_succ allowed) (by decide)
  rw [readText_of_tooLong long declared] at read
  cases read

/-- A field that comes back as it was packed is within the limits. -/
theorem fits_of_read {rest left : Bytes}
    (read : field.kind.read (field.bytes ++ rest) = (.ok field, left)) : field.Fits := by
  cases field with
  | word16 | word32 | word64 | flag => trivial
  | block data =>
    obtain ⟨taken, read, same⟩ := ok_of_map read
    cases same
    exact (readBlock_ok_iff.1 read).1
  | text value =>
    obtain ⟨taken, read, same⟩ := ok_of_map read
    cases same
    exact fits_of_readText read

theorem readAll_cons (kind : Kind) (kinds : List Kind) :
    readAll (kind :: kinds) = (do
      let field ← kind.read
      let rest ← readAll kinds
      return field :: rest) :=
  List.mapM_cons

theorem reads_readAll (fits : ∀ field ∈ fields, field.Fits) :
    Reads (readAll (fields.map kind)) (fields.flatMap bytes) fields := by
  induction fields with
  | nil => exact .pure []
  | cons field rest ih =>
    obtain ⟨first, others⟩ := List.forall_mem_cons.1 fits
    rw [List.map_cons, readAll_cons, List.flatMap_cons]
    exact (reads_bytes first).bind ((ih others).bind_pure _)

theorem fits_of_readAll
    (read : readAll (fields.map kind) (fields.flatMap bytes ++ trailing) = (.ok fields, trailing)) :
    ∀ field ∈ fields, field.Fits := by
  induction fields with
  | nil => nofun
  | cons field rest ih =>
    rw [List.map_cons, readAll_cons, List.flatMap_cons, List.append_assoc] at read
    obtain ⟨taken, between, first, following⟩ := ok_of_bind read
    obtain ⟨others, left, later, finished⟩ := ok_of_bind following
    cases finished
    have fits := fits_of_read first
    rw [reads_bytes fits] at first
    cases first
    exact List.forall_mem_cons.2 ⟨fits, ih later⟩

/-- Every field as it was packed, beside the bytes that were packed after it. -/
def arrivals : List Field → Bytes → List (Except Error Field × Bytes)
  | [], _ => []
  | field :: rest, trailing =>
    (.ok field, rest.flatMap bytes ++ trailing) :: arrivals rest trailing

theorem readEach_cons {kind : Kind} {buffer left : Bytes} {answer : Except Error Field}
    (read : kind.read buffer = (answer, left)) (kinds : List Kind) :
    readEach (kind :: kinds) buffer = (answer, left) :: readEach kinds left := by
  rw [readEach, read]

theorem readEach_eq_arrivals (fits : ∀ field ∈ fields, field.Fits) (trailing : Bytes) :
    readEach (fields.map kind) (fields.flatMap bytes ++ trailing) = arrivals fields trailing := by
  induction fields with
  | nil => rfl
  | cons field rest ih =>
    obtain ⟨first, others⟩ := List.forall_mem_cons.1 fits
    rw [List.map_cons, List.flatMap_cons, List.append_assoc, readEach_cons (reads_bytes first _),
      ih others, arrivals]

theorem fits_of_readEach
    (read : readEach (fields.map kind) (fields.flatMap bytes ++ trailing) =
      arrivals fields trailing) : ∀ field ∈ fields, field.Fits := by
  induction fields with
  | nil => nofun
  | cons field rest ih =>
    rw [List.map_cons, List.flatMap_cons, List.append_assoc] at read
    obtain ⟨first, others⟩ := List.cons.inj read
    have fits := fits_of_read first
    rw [congrArg Prod.snd first] at others
    exact List.forall_mem_cons.2 ⟨fits, ih others⟩

/-- Packing fields appends one stretch of bytes, whatever stands in the buffer before. From that
stretch, whatever follows it, reading the same shapes gives back exactly the fields and leaves exactly
what follows, and each read leaves what was packed after its field. The limits of reading are the only
ones, and a field above them does not come back. -/
theorem readAll_pack_iff (fields : List Field) :
    ∃ packed, (∀ buffer, pack buffer fields = buffer ++ packed) ∧
      ∀ trailing,
        (readAll (fields.map kind) (packed ++ trailing) = (.ok fields, trailing) ↔
          ∀ field ∈ fields, field.Fits) ∧
        (readEach (fields.map kind) (packed ++ trailing) = arrivals fields trailing ↔
          ∀ field ∈ fields, field.Fits) := by
  refine ⟨fields.flatMap bytes, fun _ => rfl, fun trailing => ⟨⟨?_, ?_⟩, ⟨?_, ?_⟩⟩⟩
  · exact fits_of_readAll
  · intro fits
    exact reads_readAll fits trailing
  · exact fits_of_readEach
  · intro fits
    exact readEach_eq_arrivals fits trailing

/-- No text, an empty text, and texts with zero bytes inside and at their ends. -/
def sampleFields : List Field :=
  [.word16 20, .text none, .text (some ""), .flag true, .text (some "a\x00b\x00"), .block [0, 0],
    .word64 1700000000, .block [], .text (some "\x00"), .word32 102]

theorem readAll_pack_sample :
    (∀ field ∈ sampleFields, field.Fits) ∧
      ∃ packed, (∀ buffer, pack buffer sampleFields = buffer ++ packed) ∧
        ∀ trailing, readAll (sampleFields.map kind) (packed ++ trailing) =
          (.ok sampleFields, trailing) := by
  have fits : ∀ field ∈ sampleFields, field.Fits := by decide +kernel
  obtain ⟨packed, appended, comes⟩ := readAll_pack_iff sampleFields
  exact ⟨fits, packed, appended, fun trailing => (comes trailing).1.2 fits⟩

end Wire.Field

end Attest
