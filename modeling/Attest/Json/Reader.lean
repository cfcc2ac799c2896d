import Attest.Json.Token

/-!
Reading a JSON value off its tokens. The reader keeps the arrays and objects that are still open on
a stack, so a value may be nested to any depth.
-/

namespace Attest.Json

namespace Reader

/-- An array or an object that waits for the end of a value; what it holds is kept latest first. -/
inductive Frame where
  | array (items : List Json)
  | object (members : List (Option String × Json)) (name : Option String)

/-- What the tokens read so far lead up to. -/
inductive Position where
  | value
  | itemOrEnd
  | nameOrEnd
  | name (members : List (Option String × Json))
  | colon (members : List (Option String × Json)) (name : Option String)
  | ended (value : Json)

structure State where
  frames : List Frame
  position : Position

def State.initial : State := ⟨[], .value⟩

/-- A token where a value has to start. -/
def start? (frames : List Frame) : Token → Option State
  | .null => some ⟨frames, .ended .null⟩
  | .bool value => some ⟨frames, .ended (.bool value)⟩
  | .number literal => some ⟨frames, .ended (.number literal)⟩
  | .string text => some ⟨frames, .ended (.string text)⟩
  | .openArray => some ⟨frames, .itemOrEnd⟩
  | .openObject => some ⟨frames, .nameOrEnd⟩
  | _ => none

/-- A token after the end of a value. -/
def continue? (value : Json) : List Frame → Token → Option State
  | .array items :: frames, .comma => some ⟨.array (value :: items) :: frames, .value⟩
  | .array items :: frames, .closeArray =>
    some ⟨frames, .ended (.array (value :: items).reverse)⟩
  | .object members name :: frames, .comma => some ⟨frames, .name ((name, value) :: members)⟩
  | .object members name :: frames, .closeObject =>
    some ⟨frames, .ended (.object ((name, value) :: members).reverse)⟩
  | _, _ => none

def step? (state : State) (token : Token) : Option State :=
  match state.position, token with
  | .value, token => start? state.frames token
  | .itemOrEnd, .closeArray => some ⟨state.frames, .ended (.array [])⟩
  | .itemOrEnd, token => start? (.array [] :: state.frames) token
  | .nameOrEnd, .closeObject => some ⟨state.frames, .ended (.object [])⟩
  | .nameOrEnd, .string name => some ⟨state.frames, .colon [] name⟩
  | .name members, .string name => some ⟨state.frames, .colon members name⟩
  | .colon members name, .colon => some ⟨.object members name :: state.frames, .value⟩
  | .ended value, token => continue? value state.frames token
  | _, _ => none

/-- The value of a text that has been read to its end. -/
def State.result? : State → Option Json
  | ⟨[], .ended value⟩ => some value
  | _ => none

def ofTokens? (tokens : List Token) : Option Json := do
  let state ← tokens.foldlM step? State.initial
  state.result?

end Reader

/-- The value of a JSON text. -/
def parse? (text : String) : Option Json := do
  let tokens ← Token.ofChars? text.toList
  Reader.ofTokens? tokens

end Attest.Json
