/-!
The numeric codes of errors. The generic codes have one meaning for every mechanism; any other
value belongs to the mechanism that reports it.
-/

namespace Attest

inductive ErrorCode where
  | success
  | generalFailure
  | noMechanism
  | badArgument
  | memory
  | noSuchUser
  | invalidCredential
  | mismatch
  | unsupportedVersion
  | mechanism (code : Int32)
deriving Repr, DecidableEq

namespace ErrorCode

/-- The first value that mechanisms use for errors of their own. -/
def firstOfMechanism : Int32 := 8

def raw : ErrorCode → Int32
  | .success => 0
  | .generalFailure => -1
  | .noMechanism => 1
  | .badArgument => 2
  | .memory => 3
  | .noSuchUser => 4
  | .invalidCredential => 5
  | .mismatch => 6
  | .unsupportedVersion => 7
  | .mechanism code => code

/-- The generic code with the value, or a mechanism's own. -/
def ofRaw (value : Int32) : ErrorCode :=
  if value = 0 then .success
  else if value = -1 then .generalFailure
  else if value = 1 then .noMechanism
  else if value = 2 then .badArgument
  else if value = 3 then .memory
  else if value = 4 then .noSuchUser
  else if value = 5 then .invalidCredential
  else if value = 6 then .mismatch
  else if value = 7 then .unsupportedVersion
  else .mechanism value

def isGeneric : ErrorCode → Bool
  | .mechanism _ => false
  | _ => true

def genericTexts : List (ErrorCode × String) :=
  [(.success, "no error"),
   (.generalFailure, "unknown error"),
   (.noMechanism, "no authentication plugin installed"),
   (.badArgument, "bad argument to plugin function"),
   (.memory, "memory management error"),
   (.noSuchUser, "no such user"),
   (.invalidCredential, "authentication credential invalid"),
   (.mismatch, "authentication type mismatch"),
   (.unsupportedVersion, "authentication version too old")]

/-- The description of a value that belongs to a generic code. -/
def genericText? (value : Int32) : Option String :=
  (genericTexts.find? fun (code, _) => code.raw == value).map (·.2)

/-- What a description answers when no mechanism can be loaded. -/
def initFailureText : String := "authentication initialization failure"

theorem ofRaw_raw_of_isGeneric {code : ErrorCode} (generic : code.isGeneric = true) :
    ofRaw code.raw = code := by
  cases code with
  | mechanism => cases generic
  | _ => rfl

theorem raw_ofRaw (value : Int32) : (ofRaw value).raw = value := by
  unfold ofRaw
  repeat' split
  all_goals simp_all [raw]

theorem ofRaw_eq_mechanism {value code : Int32} (own : ofRaw value = .mechanism code) :
    value = code ∧ ∀ entry ∈ genericTexts, entry.1.raw ≠ value := by
  unfold ofRaw at own
  repeat' split at own
  all_goals cases own
  simp [genericTexts, raw, eq_comm, *]

theorem genericText?_eq_some_iff {value : Int32} {text : String} :
    genericText? value = some text ↔ (ofRaw value, text) ∈ genericTexts := by
  cases read : ofRaw value with
  | mechanism code =>
    obtain ⟨rfl, absent⟩ := ofRaw_eq_mechanism read
    have missing : genericText? value = none := by
      simpa [genericText?] using absent
    rw [missing]
    simp [genericTexts]
  | _ =>
    have known := raw_ofRaw value
    rw [read] at known
    subst known
    simp [genericText?, genericTexts, raw, eq_comm]

/-- Exactly the generic codes have a generic text. -/
theorem exists_genericText?_iff {value : Int32} :
    (∃ text, genericText? value = some text) ↔ (ofRaw value).isGeneric = true := by
  simp only [genericText?_eq_some_iff]
  cases ofRaw value <;> simp [genericTexts, isGeneric]

end ErrorCode

end Attest
