/-
# Errors

Only conditions that keep a structurally valid model from being produced are errors; anything less
is an issue on the model.  `ConvertError` lists the causes, `message` gives each its wording,
`exitCode` the exit code of a program that ends with it, and `detailed` the wording together with
the chain of causes below it.
-/
import SchemaBridge.Text.Pattern

namespace SchemaBridge

/-- Verification state of an expression. -/
inductive VerificationStatus
  | unverified
  | verified
  | rejected
  deriving DecidableEq, Repr, Inhabited

namespace VerificationStatus

/-- The status's name in sessions and reports. -/
def name : VerificationStatus → String
  | unverified => "unverified"
  | verified => "verified"
  | rejected => "rejected"

/-- The status of a name. -/
def ofName? : String → Option VerificationStatus
  | "unverified" => some unverified
  | "verified" => some verified
  | "rejected" => some rejected
  | _ => none

/-- A status is found again by its name. -/
theorem ofName?_name (s : VerificationStatus) : ofName? s.name = some s := by cases s <;> rfl

/-- The name a state has in messages. -/
def title : VerificationStatus → String
  | unverified => "Unverified"
  | verified => "Verified"
  | rejected => "Rejected"

end VerificationStatus

/-- Why a conversion cannot go on. -/
inductive ConvertError
  /-- The configuration, an identifier or a dialect name is unusable. -/
  | config (text : String)
  /-- A source object is malformed. -/
  | sourceParse (object text : String)
  /-- The source database refused a request. -/
  | sourceDatabase (text : String)
  /-- No connection could be had. -/
  | pool (text context : String)
  /-- A session has a newer format than this one. -/
  | formatVersion (found supported : Nat)
  /-- A session is structurally invalid. -/
  | corruptSession (text : String)
  /-- A partial model was offered where a complete one is needed. -/
  | partialSession (text : String)
  /-- The verification target could not be reached. -/
  | targetUnavailable (text : String)
  /-- An expression that already has a verdict was given another. -/
  | invalidTransition (origin goal : VerificationStatus)
  /-- A file could not be read or written. -/
  | file (text : String)
  | yaml (text : String)
  | json (text : String)
  | cancelled
  /-- The program itself fails, as it does at a slice that ends before it begins. -/
  | crash
  deriving DecidableEq, Repr, Inhabited

namespace ConvertError

/-- What a user is told of an error. -/
def message : ConvertError → String
  | config t => "Configuration error: " ++ t
  | sourceParse o t => "Source parse error in " ++ o ++ ": " ++ t
  | sourceDatabase t => "Source database error: " ++ t
  | pool t c => "Pool error: " ++ t ++ "\n  Context: " ++ c
  | formatVersion f s =>
    "Session format version " ++ Text.decimal f ++ " is newer than supported version "
      ++ Text.decimal s
  | corruptSession t => "Corrupt session file: " ++ t
  | partialSession t => "Partial session: " ++ t
  | targetUnavailable t => "Target unavailable: " ++ t
  | invalidTransition a b =>
    "Invalid verification transition from " ++ a.title ++ " to " ++ b.title
  | file t => "IO error: " ++ t
  | yaml t => "YAML error: " ++ t
  | json t => "JSON error: " ++ t
  | cancelled => "Conversion cancelled"
  | crash => "The program failed"

/-- Exit code of a program that ends with the error. -/
def exitCode : ConvertError → Nat
  | config _ | yaml _ => 1
  | sourceParse _ _ | sourceDatabase _ | pool _ _ => 2
  | formatVersion _ _ | corruptSession _ | partialSession _ => 3
  | targetUnavailable _ => 4
  | cancelled => 5
  | file _ => 7
  | invalidTransition _ _ | json _ => 10
  | crash => 101

/-- The causes below an error, nearest first. -/
def causes : ConvertError → List String
  | sourceDatabase t | file t | yaml t | json t => [t]
  | _ => []

/-- The message followed by the numbered chain of causes. -/
def detailed (e : ConvertError) : String :=
  "Error: " ++ e.message ++ "\n" ++
    String.join (e.causes.mapIdx fun i c =>
      "\nCaused by:\n  " ++ Text.decimal (i + 1) ++ ": " ++ c)

/-- A file or directory that is not there. -/
def missingFile : ConvertError := .file "No such file or directory (os error 2)"

end ConvertError

/-- A result, or the error that prevented it. -/
abbrev Outcome := Except ConvertError

end SchemaBridge
