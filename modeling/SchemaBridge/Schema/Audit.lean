/-
# Run metadata

What is recorded of a run beside the model: who asked for it, what was read, when it began and
ended, and how many issues it left; and the version of the tool that makes the run.  Moments are
counted in seconds and nanoseconds of Universal Time; the clock is given to the functions that need
it.
-/
import SchemaBridge.Schema.Issue
import SchemaBridge.Schema.Word

namespace SchemaBridge

/-- The version of the tool, as it is written into sessions and scripts. -/
def toolVersion : String := "0.1.0"

/-- A moment: seconds since the beginning of 1970, and nanoseconds on top.  During a leap second
the nanoseconds go beyond one second. -/
structure Instant where
  seconds : Int
  nanos : Nat
  deriving DecidableEq, Repr, Inhabited

/-- Whole milliseconds from one moment to a later one; 0 if it is not later. -/
def Instant.millisecondsUntil (a b : Instant) : Nat :=
  let nanos : Int := (b.seconds - a.seconds) * 1000000000 + ((b.nanos : Int) - a.nanos)
  (nanos / 1000000).toNat

/-- Metadata of a run. -/
structure Audit where
  /-- Identity of the request that produced the model. -/
  requestId : String
  /-- Digest of the configuration used. -/
  configFingerprint : Option String
  /-- Digest of the file the schema was read from. -/
  sourceDigest : Option String
  /-- Bytes read from that file. -/
  bytesRead : Nat
  startedAt : Instant
  completedAt : Option Instant
  durationMs : Option Nat
  /-- The session the run resumed from. -/
  resumedFrom : Option String
  /-- Number of verification passes over the model, a word. -/
  verificationRuns : Nat
  issueCounts : List (IssueCategory × Nat)
  deriving DecidableEq, Repr, Inhabited

namespace Audit

/-- Metadata at the start of a request. -/
def start (requestId : String) (now : Instant) : Audit :=
  { requestId
    configFingerprint := none
    sourceDigest := none
    bytesRead := 0
    startedAt := now
    completedAt := none
    durationMs := none
    resumedFrom := none
    verificationRuns := 0
    issueCounts := [] }

/-- Begin a new request on a model that was loaded from a session. -/
def restart (a : Audit) (requestId : String) (now : Instant) (session : String) : Audit :=
  { a with
    requestId
    startedAt := now
    completedAt := none
    durationMs := none
    resumedFrom := some session }

/-- Count one more verification pass. -/
def verifiedAgain (a : Audit) : Audit := { a with verificationRuns := nextWord a.verificationRuns }

/-- Note the end of a run and its issue counts. -/
def finish (a : Audit) (now : Instant) (counts : List (IssueCategory × Nat)) : Audit :=
  { a with
    durationMs := some (a.startedAt.millisecondsUntil now)
    completedAt := some now
    issueCounts := counts }

end Audit

end SchemaBridge
