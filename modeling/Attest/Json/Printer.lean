import Attest.Json.Token

/-!
Writing JSON: on one line without white space, or with each item and member on a line of its own.
A string escapes the quotation mark, the backslash and the characters below U+0020, nothing else.
-/

namespace Attest.Json

mutual

/-- The tokens of a value, in order. -/
def tokens : Json → List Token
  | .null => [.null]
  | .bool value => [.bool value]
  | .number literal => [.number literal]
  | .string text => [.string text]
  | .array items => .openArray :: itemTokens items
  | .object members => .openObject :: memberTokens members

/-- The items of an array and its closing bracket. -/
def itemTokens : List Json → List Token
  | [] => [.closeArray]
  | [item] => tokens item ++ [.closeArray]
  | item :: next :: rest => tokens item ++ .comma :: itemTokens (next :: rest)

/-- The members of an object and its closing brace. -/
def memberTokens : List (Option String × Json) → List Token
  | [] => [.closeObject]
  | [(name, value)] => .string name :: .colon :: tokens value ++ [.closeObject]
  | (name, value) :: next :: rest =>
    .string name :: .colon :: tokens value ++ .comma :: memberTokens (next :: rest)

end

namespace Token

def hexDigit (value : Nat) : Char :=
  if value < 10 then Char.ofNat ('0'.toNat + value) else Char.ofNat ('a'.toNat + (value - 10))

def escapeChar (c : Char) : List Char :=
  if c = '"' ∨ c = '\\' then ['\\', c]
  else if c = '\x08' then ['\\', 'b']
  else if c = '\x0c' then ['\\', 'f']
  else if c = '\n' then ['\\', 'n']
  else if c = '\r' then ['\\', 'r']
  else if c = '\t' then ['\\', 't']
  else if c.toNat < 0x20 then
    ['\\', 'u', '0', '0', hexDigit (c.toNat / 16), hexDigit (c.toNat % 16)]
  else [c]

/-- A string between quotation marks. One that has no text is written as a lone surrogate. -/
def spellString : Option String → List Char
  | some text => '"' :: text.toList.flatMap escapeChar ++ ['"']
  | none => ['"', '\\', 'u', 'd', '8', '0', '0', '"']

def spell : Token → List Char
  | .openArray => ['[']
  | .closeArray => [']']
  | .openObject => ['\x7b']
  | .closeObject => ['\x7d']
  | .comma => [',']
  | .colon => [':']
  | .null => ['n', 'u', 'l', 'l']
  | .bool true => ['t', 'r', 'u', 'e']
  | .bool false => ['f', 'a', 'l', 's', 'e']
  | .number literal => literal
  | .string text => spellString text

end Token

def compact (json : Json) : String :=
  String.ofList (json.tokens.flatMap Token.spell)

def newline (depth : Nat) : List Char :=
  '\n' :: List.replicate (2 * depth) ' '

mutual

/-- The lines of a value that stands `depth` levels deep. -/
def prettyChars (depth : Nat) : Json → List Char
  | .array (item :: items) => '[' :: prettyItems (depth + 1) (item :: items) ++ newline depth ++ [']']
  | .object (member :: members) =>
    '\x7b' :: prettyMembers (depth + 1) (member :: members) ++ newline depth ++ ['\x7d']
  | .array [] => ['[', ']']
  | .object [] => ['\x7b', '\x7d']
  | .null => Token.spell .null
  | .bool value => Token.spell (.bool value)
  | .number literal => literal
  | .string text => Token.spellString text

def prettyItems (depth : Nat) : List Json → List Char
  | [] => []
  | [item] => newline depth ++ prettyChars depth item
  | item :: next :: rest =>
    newline depth ++ prettyChars depth item ++ ',' :: prettyItems depth (next :: rest)

def prettyMembers (depth : Nat) : List (Option String × Json) → List Char
  | [] => []
  | [(name, value)] =>
    newline depth ++ Token.spellString name ++ [':', ' '] ++ prettyChars depth value
  | (name, value) :: next :: rest =>
    newline depth ++ Token.spellString name ++ [':', ' '] ++ prettyChars depth value ++
      ',' :: prettyMembers depth (next :: rest)

end

def pretty (json : Json) : String :=
  String.ofList (prettyChars 0 json)

end Attest.Json
