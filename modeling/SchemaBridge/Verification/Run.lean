/-
# Verification of a model

Every expression is written for the target and submitted to it.  Accepted ones are verified,
refused ones rejected with an issue; the others stay unverified, with an issue that says why.  A run
forgets what an earlier one found.  Whatever the order in which answers come, they are applied in
the order of the model.
-/
import SchemaBridge.Verification.Pool
import SchemaBridge.Verification.Translate

namespace SchemaBridge.Verification

/-- Number of expressions of each outcome. -/
structure Summary where
  verified : Nat
  rejected : Nat
  skipped : Nat
  deriving DecidableEq, Repr, Inhabited

/-- Nothing is counted yet. -/
def Summary.zero : Summary := ⟨0, 0, 0⟩

/-- An issue of the verifier. -/
def issue (c : IssueCategory) (target : IssueTarget) (detail : String) : Issue :=
  .raise c .verifier target detail

/-! ## Before the run -/

/-- The slots of all expressions. -/
def slots (m : Model) : List ExpressionSlot := m.expressions.map (·.1)

/-- Forget what an earlier run found, and count the new one. -/
def prepare (m : Model) : Model :=
  let m := m.clearIssues .verifier
  let m := (slots m).foldl (fun m s => m.modifyExpression s (·.reset)) m
  { m with audit := m.audit.verifiedAgain }

/-- The type an expression has to have: that of its column, or a truth value for a check. -/
def expectedType (t : Table) : ExpressionSlot → TargetType
  | .check _ _ => .scalar .bool
  | .default _ c | .generated _ c => ((t.column? c).bind (·.targetType)).getD (.string none)

/-- The mapped columns of a table with their types. -/
def typedColumns (t : Table) : List (String × TargetType) :=
  t.columns.filterMap fun c => c.targetType.map fun type => (c.name, type)

/-- The request for the expression in a slot. -/
def requestFor? (m : Model) (slot : ExpressionSlot) : Option Request := do
  let t ← m.table? slot.table
  let e ← m.expression? slot
  return {
    dialect := m.target
    text := translate m.source m.target t e.source
    kind := slot.kind
    expected := expectedType t slot
    table := t.name
    columns := typedColumns t }

/-- The requests for a model, with the slots they are about. -/
def requests (m : Model) : List (ExpressionSlot × Request) :=
  (slots m).filterMap fun s => (requestFor? m s).map fun r => (s, r)

/-! ## After the run -/

/-- Record that an expression was not verified. -/
def skip (m : Model) (slot : ExpressionSlot) (reason : String) : Model :=
  let target := slot.issueTarget
  m.addIssue (issue .verificationSkipped target
    (m.describe target ++ ": not verified (" ++ reason ++ ")"))

/-- A model whose answers are being applied. -/
structure Settling where
  model : Model
  summary : Summary
  /-- Number of expressions that were not verified because the run was cancelled. -/
  missed : Nat
  deriving Repr, Inhabited

namespace Settling

/-- A model before any answer has been applied. -/
def start (m : Model) : Settling := ⟨m, .zero, 0⟩

/-- An expression is skipped, and this is counted. -/
def skipped (s : Settling) (slot : ExpressionSlot) (reason : String) : Settling :=
  { s with
    model := skip s.model slot reason
    summary := { s.summary with skipped := s.summary.skipped + 1 } }

/-- Give the expression in a slot its verdict.  There has to be none yet. -/
def judge (s : Settling) (slot : ExpressionSlot) (verdict : Expression → Outcome Expression)
    (count : Summary → Summary) : Outcome Settling :=
  match s.model.expression? slot with
  | none => .ok s
  | some e => do
    let e ← verdict e
    return { s with
      model := s.model.modifyExpression slot fun _ => e
      summary := count s.summary }

/-- Apply the answer to the request for one expression. -/
def apply (seconds : Nat) (s : Settling) (slot : ExpressionSlot) :
    Option (Request × Answer) → Outcome Settling
  | none =>
    let s := s.skipped slot "cancelled"
    .ok { s with missed := s.missed + 1 }
  | some (r, .accepted) =>
    s.judge slot (·.markVerified r.text) fun k => { k with verified := k.verified + 1 }
  | some (r, .rejected message) => do
    let target := slot.issueTarget
    let s ← s.judge slot (·.markRejected r.text message) fun k => { k with rejected := k.rejected + 1 }
    return { s with
      model := s.model.addIssue (issue .expressionRejected target
        (s.model.describe target ++ " rejected by target: " ++ message)) }
  | some (_, .failed e) => .ok (s.skipped slot e.message)
  | some (_, .timedOut) => .ok (s.skipped slot ("timed out after " ++ Text.decimal seconds ++ "s"))

/-- Apply completions, which are in the order of their positions, to expressions from a position on.
With an error comes what was done before it. -/
def applyAll (seconds : Nat) (s : Settling) :
    Nat → List Completion → List ExpressionSlot → Outcome Unit × Settling
  | _, _, [] => (.ok (), s)
  | position, ks, slot :: rest =>
    let (next, ks) := nextIf position ks
    match s.apply seconds slot (next.bind (·.finished?)) with
    | .ok s => s.applyAll seconds (position + 1) ks rest
    | .error e => (.error e, s)

end Settling

/-- Apply what a run collected. -/
def settle (seconds : Nat) (m : Model) (c : Collection) : Outcome Summary × Model :=
  let order := (requests m).map (·.1)
  match (Settling.start m).applyAll seconds 0 c.inOrder order with
  | (.error e, s) => (.error e, s.model)
  | (.ok (), s) =>
    if c.aborted then
      (.ok s.summary, s.model.addIssue (issue .aborted .schema
        ("Verification cancelled after " ++ Text.decimal (order.length - s.missed) ++ " of "
          ++ Text.decimal order.length ++ " expressions")))
    else (.ok s.summary, s.model)

/-! ## The run -/

/-- How a run asks the target. -/
structure Limits where
  /-- Number of requests under way at a time. -/
  workers : Nat
  /-- How long an answer may take. -/
  timeoutMilliseconds : Nat
  deriving DecidableEq, Repr, Inhabited

/-- The target, or why there is none to ask. -/
inductive Endpoint
  | missing (reason : String)
  | channel (respond : Request → Response)

/-- The reason when no endpoint is configured. -/
def notConfigured : String := "no verification endpoint configured"

/-- What comes of the requests for a model. -/
inductive Exchange
  /-- There was no one to ask. -/
  | missing (reason : String)
  | collected (c : Collection)
  deriving DecidableEq, Repr, Inhabited

/-- Verify every expression of a model by what came of the requests for it. -/
def conclude (seconds : Nat) (exchange : Exchange) (m : Model) : Outcome Summary × Model :=
  let m := prepare m
  let ss := slots m
  if ss.isEmpty then (.ok .zero, m)
  else
    match exchange with
    | .missing reason => (.ok ⟨0, 0, ss.length⟩, ss.foldl (fun m s => skip m s reason) m)
    | .collected c => settle seconds m c

/-- What comes of a run. -/
structure Result where
  summary : Outcome Summary
  model : Model
  /-- Whether the run was cancelled, before it began or while it went on. -/
  cancelled : Bool
  /-- The requests that were sent. -/
  sent : List Request

/-- Verify every expression of a model. -/
def verify (limits : Limits) (endpoint : Endpoint) (cancelled : Bool) (m : Model) : Result :=
  let seconds := limits.timeoutMilliseconds / 1000
  match endpoint with
  | .missing reason =>
    let (summary, model) := conclude seconds (.missing reason) m
    { summary, model, cancelled, sent := [] }
  | .channel respond =>
    let (pool, collected) :=
      Pool.runAll limits.workers respond cancelled ((requests (prepare m)).map (·.2))
    let (summary, model) := conclude seconds (.collected collected) m
    { summary, model, cancelled := pool.cancelled, sent := pool.sent.reverse }

end SchemaBridge.Verification
