import Attest.Wire.Reader
import Attest.Wire.Writer

/-!
Wire fields as values, so that a sequence of fields can be packed and read as a whole.
-/

namespace Attest.Wire

inductive Field where
  | word16 (value : UInt16)
  | word32 (value : UInt32)
  | word64 (value : UInt64)
  | flag (value : Bool)
  | block (data : Bytes)
  | text (value : Option String)
deriving Repr, DecidableEq

namespace Field

/-- The shape of a field, which the reader has to know beforehand. -/
inductive Kind where
  | word16
  | word32
  | word64
  | flag
  | block
  | text
deriving Repr, DecidableEq

def kind : Field → Kind
  | .word16 _ => .word16
  | .word32 _ => .word32
  | .word64 _ => .word64
  | .flag _ => .flag
  | .block _ => .block
  | .text _ => .text

def bytes : Field → Bytes
  | .word16 value => Wire.word16 value
  | .word32 value => Wire.word32 value
  | .word64 value => Wire.word64 value
  | .flag value => Wire.flag value
  | .block data => Wire.block data
  | .text value => Wire.text value

def Kind.read : Kind → Reader Field
  | .word16 => Field.word16 <$> readWord16
  | .word32 => Field.word32 <$> readWord32
  | .word64 => Field.word64 <$> readWord64
  | .flag => Field.flag <$> readFlag
  | .block => Field.block <$> readBlock
  | .text => Field.text <$> readText

/-- What packing fields one after another leaves in a buffer. -/
def pack (buffer : Bytes) (fields : List Field) : Bytes :=
  buffer ++ fields.flatMap bytes

/-- The lengths of the buffer after each field. -/
def ends (start : Nat) : List Field → List Nat
  | [] => []
  | field :: rest =>
    let stop := start + field.bytes.length
    stop :: ends stop rest

/-- Reads each field in order, whether or not the reads before it failed. Every answer stands beside
what it leaves of the buffer. -/
def readEach : List Kind → Bytes → List (Except Error Field × Bytes)
  | [], _ => []
  | kind :: rest, buffer =>
    let (answer, left) := kind.read buffer
    (answer, left) :: readEach rest left

/-- Reads all fields, up to the first that fails. -/
def readAll (kinds : List Kind) : Reader (List Field) :=
  kinds.mapM Kind.read

end Field

end Attest.Wire
