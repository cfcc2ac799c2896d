import Attest.Proofs.Wire.Reading

/-!
Reading when more bytes follow. A steady reader looks at no byte beyond those it takes, so more input
changes neither its answer nor what it takes, unless it had run out of bytes. Fields are read
steadily, and so is whatever is read field by field.
-/

namespace Attest

variable {ε α β : Type}

/-- What the reader answers and takes stays the same when more follows; only a failure in which it
runs `short` of bytes may turn into another answer. -/
structure Steady (short : ε → Prop) (reader : ExceptT ε (StateM Bytes) α) : Prop where
  reads : ∀ {buffer rest : Bytes} {value : α}, reader buffer = (.ok value, rest) →
    ∃ taken, buffer = taken ++ rest ∧ Reads reader taken value
  fails : ∀ {buffer rest : Bytes} {cause : ε}, reader buffer = (.error cause, rest) →
    ¬ short cause → ∀ suffix, reader (buffer ++ suffix) = (.error cause, rest ++ suffix)

namespace Steady

variable {short : ε → Prop} {reader : ExceptT ε (StateM Bytes) α}
  {next : α → ExceptT ε (StateM Bytes) β} {buffer rest taken front back : Bytes} {value : α}

theorem pure (value : α) : Steady short (Pure.pure value : ExceptT ε (StateM Bytes) α) where
  reads := by
    intro buffer rest value read
    cases read
    exact ⟨[], rfl, .pure value⟩
  fails := by
    intro buffer rest cause failed
    cases failed

theorem throw (cause : ε) : Steady short (throw cause : ExceptT ε (StateM Bytes) α) where
  reads := by
    intro buffer rest value read
    cases read
  fails := by
    intro buffer rest cause failed _ suffix
    cases failed
    rfl

theorem bind (first : Steady short reader) (second : ∀ value, Steady short (next value)) :
    Steady short (reader >>= next) where
  reads := by
    intro buffer rest result completed
    obtain ⟨value, between, read, finished⟩ := ok_of_bind completed
    obtain ⟨front, rfl, reads⟩ := first.reads read
    obtain ⟨back, rfl, readsOn⟩ := (second value).reads finished
    exact ⟨front ++ back, (List.append_assoc ..).symm, reads.bind readsOn⟩
  fails := by
    intro buffer rest cause failed enough suffix
    cases read : reader buffer with
    | mk answer between =>
      cases answer with
      | error reason =>
        rw [bind_of_error read] at failed
        cases failed
        exact bind_of_error (first.fails read enough suffix)
      | ok value =>
        rw [bind_of_ok read] at failed
        obtain ⟨taken, rfl, reads⟩ := first.reads read
        rw [List.append_assoc, bind_of_ok (reads (between ++ suffix))]
        exact (second value).fails failed enough suffix

theorem bind_pure (steady : Steady short reader) (finish : α → β) :
    Steady short (reader >>= fun value => Pure.pure (finish value)) :=
  steady.bind fun value => .pure (finish value)

/-- What has been read is read again, with more behind it. -/
theorem append (steady : Steady short reader) (read : reader buffer = (.ok value, rest))
    (suffix : Bytes) : reader (buffer ++ suffix) = (.ok value, rest ++ suffix) := by
  obtain ⟨taken, rfl, reads⟩ := steady.reads read
  rw [List.append_assoc]
  exact reads (rest ++ suffix)

theorem reads_of_append (steady : Steady short reader)
    (read : reader (taken ++ rest) = (.ok value, rest)) : Reads reader taken value := by
  obtain ⟨front, same, reads⟩ := steady.reads read
  rwa [← List.append_cancel_right same] at reads

/-- Bytes that are cut off are missed: the reader can neither do without them nor find another
fault in those before them. -/
theorem short_of_cut (steady : Steady short reader) (reads : Reads reader (front ++ back) value)
    (cut : back ≠ []) : ∃ cause left, reader front = (.error cause, left) ∧ short cause := by
  have whole : reader (front ++ back) = (.ok value, []) := by
    simpa only [List.append_nil] using reads []
  cases read : reader front with
  | mk answer left =>
    cases answer with
    | ok other =>
      rw [steady.append read back] at whole
      have empty : left ++ back = [] := congrArg Prod.snd whole
      exact absurd (List.append_eq_nil_iff.1 empty).2 cut
    | error cause =>
      refine ⟨cause, left, rfl, Classical.byContradiction fun enough => ?_⟩
      rw [steady.fails read enough back] at whole
      cases whole

end Steady

namespace Wire

/-- The buffer ends before the field does. -/
inductive Error.Truncated : Error → Prop where
  | intro (needed remaining : Nat) : Truncated (.truncated needed remaining)

theorem steady_take (count : Nat) : Steady Error.Truncated (take count) where
  reads := by
    intro buffer rest bytes taken
    obtain ⟨rfl, rfl⟩ := take_ok_iff.1 taken
    exact ⟨bytes, rfl, reads_take bytes⟩
  fails := by
    intro buffer rest cause failed enough
    unfold take at failed
    split at failed
    · cases failed
    · cases failed
      exact absurd (.intro count buffer.length) enough

theorem steady_readWord32 : Steady Error.Truncated readWord32 :=
  (steady_take 4).bind_pure _

theorem steady_readWord64 : Steady Error.Truncated readWord64 :=
  (steady_take 8).bind_pure _

theorem steady_readBlock : Steady Error.Truncated readBlock := by
  unfold readBlock
  refine steady_readWord32.bind fun count => ?_
  by_cases long : count.toNat > maxBlockLength
  · simp only [if_pos long]
    exact .throw _
  · simp only [if_neg long]
    exact steady_take count.toNat

theorem steady_readText : Steady Error.Truncated readText := by
  unfold readText
  refine steady_readBlock.bind fun octets => ?_
  by_cases empty : octets.isEmpty
  · simp only [if_pos empty]
    exact .pure none
  · simp only [if_neg empty]
    cases Utf8.decode? (dropTerminator octets) with
    | some value => exact .pure (some value)
    | none => exact .throw Error.notUtf8

end Wire

end Attest
