import Attest.Text.Hidden

/-!
Text shown between quotation marks for a person to read: what would end or blur the quotation is
written as an escape.
-/

namespace Attest.Quoted

def escape (c : Char) : List Char :=
  if c = '"' then ['\\', '"']
  else if c = '\\' then ['\\', '\\']
  else if c = '\n' then ['\\', 'n']
  else if c = '\r' then ['\\', 'r']
  else if c = '\t' then ['\\', 't']
  else if c.toNat = 0 then ['\\', '0']
  else if Hidden.isHidden c then
    ['\\', 'u', '\x7b'] ++ Nat.toDigits 16 c.toNat ++ ['\x7d']
  else [c]

def quote (text : String) : String :=
  String.ofList ('"' :: text.toList.flatMap escape ++ ['"'])

/-- A value that may be missing. -/
def optional (shown : Option String) : String :=
  match shown with
  | none => "None"
  | some text => "Some(" ++ text ++ ")"

end Attest.Quoted
