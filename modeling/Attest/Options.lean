import Attest.Text.Blank
import Attest.Text.Pieces
import Attest.Text.Decimal

/-!
The options handed to a mechanism: items between commas, each a key and a value with `=` between
them. A word without `=` is a key whose value is empty. White space around keys, values and items
does not matter, and items of nothing else are passed over.
-/

namespace Attest

structure Options where
  entries : List (List Char × List Char)
deriving Repr, DecidableEq

namespace Options

/-- An item that has no white space at its ends. -/
def entry (item : List Char) : List Char × List Char :=
  match Pieces.cut? '=' item with
  | some (key, value) => (Blank.trimChars key, Blank.trimChars value)
  | none => (item, [])

def parseChars (chars : List Char) : Options :=
  let items := (Pieces.pieces ',' chars).map Blank.trimChars
  ⟨(items.filter fun item => !item.isEmpty).map entry⟩

/-- Nothing given is no options. -/
def parse (info : Option String) : Options :=
  parseChars (info.getD "").toList

def isEmpty (options : Options) : Bool :=
  options.entries.isEmpty

def lowerAscii (c : Char) : Char :=
  if 'A' ≤ c ∧ c ≤ 'Z' then Char.ofNat (c.toNat + 32) else c

/-- Equality up to the case of ASCII letters. -/
def sameKey (left right : List Char) : Bool :=
  left.map lowerAscii == right.map lowerAscii

/-- The value of the last item with the key. -/
def get? (options : Options) (key : String) : Option String :=
  (options.entries.reverse.find? fun (other, _) => sameKey other key.toList).map
    fun (_, value) => String.ofList value

/-- The value as a number of 32 bits. An item that is no such number hides those before it. -/
def word32? (options : Options) (key : String) : Option UInt32 :=
  (options.get? key).bind Decimal.word32?

end Options

end Attest
