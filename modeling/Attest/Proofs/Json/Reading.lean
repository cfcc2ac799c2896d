import Attest.Proofs.Json.RoundTrip

/-!
A text is read as the one value that it spells, and a text that spells no value is not read. The open
arrays and objects and the position among them, which are all that the reader holds, are written out
again as exactly the tokens that it has read.
-/

namespace Attest.Json

/-- An item of an array and the comma after it. -/
def itemPrefix (item : Json) : List Token :=
  item.tokens ++ [.comma]

/-- A member of an object and the comma after it. -/
def memberPrefix (member : Option String × Json) : List Token :=
  .string member.1 :: .colon :: member.2.tokens ++ [.comma]

theorem itemTokens_append (items : List Json) (last : Json) :
    itemTokens (items ++ [last]) = items.flatMap itemPrefix ++ (last.tokens ++ [.closeArray]) := by
  induction items with
  | nil => rfl
  | cons item items ih =>
    obtain ⟨next, more, same⟩ := List.exists_cons_of_ne_nil
      (List.append_ne_nil_of_right_ne_nil items (List.cons_ne_nil last []))
    rw [List.flatMap_cons, itemPrefix, List.append_assoc, List.append_assoc, ← ih, List.cons_append,
      same]
    rfl

theorem memberTokens_append (members : List (Option String × Json)) (last : Option String × Json) :
    memberTokens (members ++ [last]) =
      members.flatMap memberPrefix ++
        (.string last.1 :: .colon :: last.2.tokens ++ [.closeObject]) := by
  induction members with
  | nil => rfl
  | cons member members ih =>
    obtain ⟨next, more, same⟩ := List.exists_cons_of_ne_nil
      (List.append_ne_nil_of_right_ne_nil members (List.cons_ne_nil last []))
    rw [List.flatMap_cons, memberPrefix, List.append_assoc, List.append_assoc, ← ih,
      List.cons_append, same]
    simp [memberTokens]

namespace Reader

def Frame.tokens : Frame → List Token
  | .array items => .openArray :: items.reverse.flatMap itemPrefix
  | .object members name =>
    .openObject :: members.reverse.flatMap memberPrefix ++ [.string name, .colon]

def Position.tokens : Position → List Token
  | .value => []
  | .itemOrEnd => [.openArray]
  | .nameOrEnd => [.openObject]
  | .name members => .openObject :: members.reverse.flatMap memberPrefix
  | .colon members last => .openObject :: members.reverse.flatMap memberPrefix ++ [.string last]
  | .ended json => json.tokens

/-- What is open, from the outermost array or object to the innermost. -/
def openTokens (frames : List Frame) : List Token :=
  frames.reverse.flatMap Frame.tokens

/-- All that has been read. -/
def State.tokens (state : State) : List Token :=
  openTokens state.frames ++ state.position.tokens

variable {state next final : State} {frames : List Frame} {token : Token} {tokens : List Token}
  {value json : Json}

theorem openTokens_cons (frame : Frame) (frames : List Frame) :
    openTokens (frame :: frames) = openTokens frames ++ frame.tokens := by
  simp [openTokens]

theorem tokens_of_start? (started : start? frames token = some next) :
    next.tokens = openTokens frames ++ [token] := by
  cases token <;> cases started <;> simp [State.tokens, Position.tokens, Json.tokens]

theorem tokens_of_continue? (continued : continue? value frames token = some next) :
    next.tokens = openTokens frames ++ value.tokens ++ [token] := by
  unfold continue? at continued
  split at continued <;> cases continued <;>
    simp [State.tokens, Position.tokens, openTokens_cons, Frame.tokens, itemPrefix, memberPrefix,
      Json.tokens, itemTokens_append, memberTokens_append]

/-- A token is put behind all that has been read before it. -/
theorem tokens_of_step? (moved : step? state token = some next) :
    next.tokens = state.tokens ++ [token] := by
  obtain ⟨frames, position⟩ := state
  cases position with
  | value =>
    rw [tokens_of_start? moved]
    simp [State.tokens, Position.tokens]
  | itemOrEnd =>
    -- A token that does not close the array is read as if the array were on the stack already.
    by_cases closes : token = .closeArray
    · subst closes
      cases moved
      simp [State.tokens, Position.tokens, Json.tokens, itemTokens]
    · rw [step?_itemOrEnd closes] at moved
      rw [tokens_of_start? moved, openTokens_cons]
      simp [State.tokens, Position.tokens, Frame.tokens]
  | nameOrEnd | name | colon =>
    cases token <;> cases moved <;>
      simp [State.tokens, Position.tokens, openTokens_cons, Frame.tokens, Json.tokens, memberTokens]
  | ended => exact tokens_of_continue? moved

theorem tokens_of_foldlM (read : tokens.foldlM step? state = some final) :
    final.tokens = state.tokens ++ tokens := by
  induction tokens generalizing state with
  | nil =>
    cases read
    exact (List.append_nil _).symm
  | cons token tokens ih =>
    rw [List.foldlM_cons] at read
    obtain ⟨next, moved, rest⟩ := Option.bind_eq_some_iff.1 read
    rw [ih rest, tokens_of_step? moved, List.append_assoc, List.singleton_append]

theorem ofTokens?_eq_some_iff : ofTokens? tokens = some json ↔ tokens = json.tokens := by
  constructor
  · intro read
    obtain ⟨final, ran, result⟩ := Option.bind_eq_some_iff.1 read
    have written := tokens_of_foldlM ran
    unfold State.result? at result
    split at result
    · cases result
      exact written.symm
    · cases result
  · rintro rfl
    exact ofTokens?_tokens json

end Reader

/-- The text is one of the ways of writing the value. -/
def SpelledBy (json : Json) (text : String) : Prop :=
  Token.Spells json.tokens text.toList

instance (json : Json) (text : String) : Decidable (json.SpelledBy text) :=
  decidable_of_iff (Token.ofChars? text.toList = some json.tokens) Token.ofChars?_eq_some_iff

/-- A text is read as the value that it spells, and is not read when it spells none. -/
theorem parse?_eq_some_iff {text : String} {json : Json} :
    parse? text = some json ↔ json.SpelledBy text := by
  constructor
  · intro read
    obtain ⟨tokens, spelled, built⟩ := Option.bind_eq_some_iff.1 read
    obtain rfl := Reader.ofTokens?_eq_some_iff.1 built
    exact Token.ofChars?_eq_some_iff.1 spelled
  · exact parse?_of_spells

end Attest.Json
