import Attest.Proofs.Wire.Sequence
import Attest.Proofs.Wire.Text

/-!
Reading that goes on after failures. A field that cannot be read has one fault, which settles the
error and how many bytes are gone with it: a number takes nothing, and a block or a text what it had
taken when the fault was found. So the next read starts at a definite place, whatever came before it.
-/

namespace Attest.Wire.Field

/-- How many bytes a number takes. Blocks and texts say themselves how long they are. -/
def Kind.width? : Kind → Option Nat
  | .word16 => some 2
  | .word32 => some 4
  | .word64 => some 8
  | .flag => some 1
  | .block | .text => none

/-- What is wrong with the field at the front of a buffer, and how many bytes are gone when that is
found. A length above the limit is refused even if the buffer ends before it. -/
inductive Fault : Kind → Bytes → Error → Nat → Prop where
  | short {kind : Kind} {width : Nat} {buffer : Bytes} (fixed : kind.width? = some width)
    (short : buffer.length < width) : Fault kind buffer (.truncated width buffer.length) 0
  | undeclared {kind : Kind} {buffer : Bytes} (counted : kind.width? = none)
    (short : buffer.length < 4) : Fault kind buffer (.truncated 4 buffer.length) 0
  | tooLong {kind : Kind} {count : UInt32} {rest : Bytes} (counted : kind.width? = none)
    (long : maxBlockLength < count.toNat) :
    Fault kind (Wire.word32 count ++ rest) (.tooLong count.toNat maxBlockLength) 4
  | overrun {kind : Kind} {count : UInt32} {rest : Bytes} (counted : kind.width? = none)
    (allowed : count.toNat ≤ maxBlockLength) (short : rest.length < count.toNat) :
    Fault kind (Wire.word32 count ++ rest) (.truncated count.toNat rest.length) 4
  | notUtf8 {octets rest : Bytes} (allowed : octets.length ≤ maxBlockLength)
    (unreadable : ∀ text, octets ≠ Utf8.encode text) :
    Fault .text (Wire.block octets ++ rest) .notUtf8 (4 + octets.length)

section

variable {kind : Kind} {width : Nat} {buffer rest : Bytes} {cause : Error} {taken : Nat}

theorem Kind.read_of_short (fixed : kind.width? = some width) (short : buffer.length < width) :
    kind.read buffer = (.error (.truncated width buffer.length), buffer) := by
  cases kind with
  | word16 | word32 | word64 | flag =>
    cases fixed
    exact map_of_error (bind_of_error (take_of_short short))
  | block | text => cases fixed

theorem Kind.exists_read_of_enough (fixed : kind.width? = some width)
    (enough : width ≤ buffer.length) :
    ∃ field, kind.read buffer = (.ok field, buffer.drop width) := by
  have taken : take width buffer = (.ok (buffer.take width), buffer.drop width) := by
    rw [take, if_pos enough]
  cases kind with
  | word16 | word32 | word64 | flag =>
    cases fixed
    exact ⟨_, map_of_ok (bind_of_ok taken)⟩
  | block | text => cases fixed

/-- A text is refused for whatever its block is refused for. -/
theorem Kind.read_of_readBlock_error (counted : kind.width? = none)
    (failed : readBlock buffer = (.error cause, rest)) :
    kind.read buffer = (.error cause, rest) := by
  cases kind with
  | block => exact map_of_error failed
  | text => exact map_of_error (readText_of_readBlock_error failed)
  | word16 | word32 | word64 | flag => cases counted

theorem read_of_fault (fault : Fault kind buffer cause taken) :
    kind.read buffer = (.error cause, buffer.drop taken) := by
  cases fault with
  | short fixed short => exact Kind.read_of_short fixed short
  | undeclared counted short => exact Kind.read_of_readBlock_error counted (readBlock_of_short short)
  | @tooLong _ count rest counted long =>
    rw [List.drop_left' (length_word32 count)]
    exact Kind.read_of_readBlock_error counted (readBlock_of_tooLong count.toNat_lt long rest)
  | @overrun _ count rest counted allowed short =>
    rw [List.drop_left' (length_word32 count)]
    exact Kind.read_of_readBlock_error counted (readBlock_of_truncated allowed short)
  | @notUtf8 octets rest allowed unreadable =>
    rw [List.drop_left' (length_block octets)]
    have refused : readText (Wire.block octets ++ rest) = (.error .notUtf8, rest) := by
      rw [readText_of_readBlock (reads_block allowed rest), textOf_of_notUtf8 unreadable]
    exact map_of_error refused

/-- A block that is there in full is read, and so is a text unless its octets are not UTF-8. -/
theorem fault_or_reads_of_block (counted : kind.width? = none) {octets : Bytes}
    (allowed : octets.length ≤ maxBlockLength) (rest : Bytes) :
    (∃ cause taken, Fault kind (Wire.block octets ++ rest) cause taken) ∨
      ∃ field, kind.read (Wire.block octets ++ rest) = (.ok field, rest) := by
  have read := reads_block allowed rest
  cases kind with
  | block => exact .inr ⟨_, map_of_ok read⟩
  | text =>
    by_cases readable : ∃ text, octets = Utf8.encode text
    · obtain ⟨text, rfl⟩ := readable
      obtain ⟨value, said⟩ := exists_textOf text
      have answered : readText (Wire.block (Utf8.encode text) ++ rest) = (.ok value, rest) := by
        rw [readText_of_readBlock read, said]
      exact .inr ⟨_, map_of_ok answered⟩
    · exact .inl ⟨_, _, .notUtf8 allowed (not_exists.1 readable)⟩
  | word16 | word32 | word64 | flag => cases counted

theorem fault_or_reads (kind : Kind) (buffer : Bytes) :
    (∃ cause taken, Fault kind buffer cause taken) ∨
      ∃ field rest, kind.read buffer = (.ok field, rest) ∧ rest <:+ buffer := by
  cases fixed : kind.width? with
  | some width =>
    by_cases short : buffer.length < width
    · exact .inl ⟨_, _, .short fixed short⟩
    · obtain ⟨field, read⟩ := Kind.exists_read_of_enough fixed (Nat.not_lt.1 short)
      exact .inr ⟨field, _, read, List.drop_suffix width buffer⟩
  | none =>
    by_cases short : buffer.length < 4
    · exact .inl ⟨_, _, .undeclared fixed short⟩
    obtain ⟨count, rest, rfl⟩ := exists_word32 (Nat.not_lt.1 short)
    by_cases long : maxBlockLength < count.toNat
    · exact .inl ⟨_, _, .tooLong fixed long⟩
    have allowed := Nat.not_lt.1 long
    by_cases missing : rest.length < count.toNat
    · exact .inl ⟨_, _, .overrun fixed allowed missing⟩
    obtain ⟨octets, after, size, same⟩ := exists_block (Nat.not_lt.1 missing)
    rw [← size] at allowed
    rw [same]
    obtain faulty | ⟨field, read⟩ := fault_or_reads_of_block fixed allowed after
    · exact .inl faulty
    · exact .inr ⟨field, after, read, List.suffix_append (Wire.block octets) after⟩

/-- A read fails exactly for the fault of its field, and takes exactly what that fault takes. -/
theorem read_eq_error_iff :
    kind.read buffer = (.error cause, rest) ↔
      ∃ taken, Fault kind buffer cause taken ∧ rest = buffer.drop taken := by
  constructor
  · intro failed
    obtain ⟨reason, taken, fault⟩ | ⟨field, left, read, -⟩ := fault_or_reads kind buffer
    · rw [read_of_fault fault] at failed
      cases failed
      exact ⟨taken, fault, rfl⟩
    · rw [read] at failed
      cases failed
  · rintro ⟨taken, fault, rfl⟩
    exact read_of_fault fault

theorem suffix_read (kind : Kind) (buffer : Bytes) : (kind.read buffer).2 <:+ buffer := by
  obtain ⟨cause, taken, fault⟩ | ⟨field, rest, read, suffix⟩ := fault_or_reads kind buffer
  · rw [read_of_fault fault]
    exact List.drop_suffix taken buffer
  · rw [read]
    exact suffix

/-- Bytes are missing only where there are too few, and those that are there are left. -/
theorem Fault.remaining {needed remaining : Nat}
    (fault : Fault kind buffer (.truncated needed remaining) taken) :
    remaining < needed ∧ remaining = (buffer.drop taken).length := by
  cases fault with
  | short _ short => exact ⟨short, rfl⟩
  | undeclared _ short => exact ⟨short, rfl⟩
  | @overrun _ count rest _ _ short =>
    rw [List.drop_left' (length_word32 count)]
    exact ⟨short, rfl⟩

end

/-- What the answers leave of the buffer: all of it, or what stands beside the last of them. -/
def left (buffer : Bytes) (answers : List (Except Error Field × Bytes)) : Bytes :=
  (answers.map Prod.snd).getLastD buffer

theorem readEach_append (first second : List Kind) (buffer : Bytes) :
    readEach (first ++ second) buffer =
      readEach first buffer ++ readEach second (left buffer (readEach first buffer)) := by
  induction first generalizing buffer with
  | nil => rfl
  | cons kind first ih =>
    have found : kind.read buffer = ((kind.read buffer).1, (kind.read buffer).2) := rfl
    have stops : left buffer (readEach (kind :: first) buffer) =
        left (kind.read buffer).2 (readEach first (kind.read buffer).2) := by
      rw [readEach_cons found, left, List.map_cons, List.getLastD_cons, left]
    rw [stops, List.cons_append, readEach_cons found, readEach_cons found, ih, List.cons_append]

/-- Each read goes on where the one before it stopped, and what it leaves is the end of what it found.
It fails exactly if the field that it finds there is at fault, with the error and the loss of that
fault. Where bytes are missing, the error counts exactly those that are left, which are too few. -/
theorem readEach_resumes (earlier later : List Kind) (kind : Kind) (buffer : Bytes) :
    let before := left buffer (readEach earlier buffer)
    ∃ answer after,
      readEach (earlier ++ kind :: later) buffer =
        readEach earlier buffer ++ (answer, after) :: readEach later after ∧
      after <:+ before ∧
      (∀ cause, answer = .error cause ↔
        ∃ taken, Fault kind before cause taken ∧ after = before.drop taken) ∧
      ∀ needed remaining, answer = .error (.truncated needed remaining) →
        remaining < needed ∧ remaining = after.length := by
  intro before
  have fails (cause : Error) : (kind.read before).1 = .error cause ↔
      ∃ taken, Fault kind before cause taken ∧ (kind.read before).2 = before.drop taken := by
    rw [← read_eq_error_iff]
    constructor
    · intro failed
      exact Prod.ext failed rfl
    · intro failed
      rw [failed]
  refine ⟨(kind.read before).1, (kind.read before).2, ?_, suffix_read kind before, fails, ?_⟩
  · rw [readEach_append]
    rfl
  · intro needed remaining failed
    obtain ⟨taken, fault, after⟩ := (fails _).1 failed
    rw [after]
    exact fault.remaining

/-- A length that is both too long and past the end is too long. A text that is not UTF-8 is gone as a
whole, and what follows it is read as if nothing had happened. -/
example :
    readEach [.block, .text, .word32, .flag] ([1, 0, 0, 1] ++ [0, 0, 0, 2, 0xC3, 0x28] ++ [7]) =
      [(.error (.tooLong 16777217 16777216), [0, 0, 0, 2, 0xC3, 0x28, 7]),
        (.error .notUtf8, [7]), (.error (.truncated 4 1), [7]), (.ok (.flag true), [])] := by
  cbv

end Attest.Wire.Field
