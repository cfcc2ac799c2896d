import Attest.Text.Utf8

/-!
Files as they are handed over for reading: their bytes, or what stands in the way of them.
-/

namespace Attest

/-- Why there is nothing to read under a path. -/
inductive File.Obstacle where
  | missing
  /-- The path goes on after a file. -/
  | notDirectory
  /-- The path ends at a directory. -/
  | isDirectory
  | nameTooLong
  | other (reason : String)
deriving Repr, DecidableEq

abbrev File := Except File.Obstacle Bytes

namespace File

def Obstacle.message : Obstacle → String
  | .missing => "No such file or directory (os error 2)"
  | .notDirectory => "Not a directory (os error 20)"
  | .isDirectory => "Is a directory (os error 21)"
  | .nameTooLong => "File name too long (os error 36)"
  | .other reason => reason

def text (file : File) : Except String String := do
  let bytes ← file.mapError Obstacle.message
  match Utf8.decode? bytes with
  | some text => .ok text
  | none => .error "stream did not contain valid UTF-8"

end File

end Attest
