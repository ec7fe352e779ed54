/-
# Planners

A planner compiles the check query of a request without running it.  One kind speaks the PostgreSQL
protocol and is asked to prepare the query; the other is reached by a URL.
-/
import SchemaBridge.Verification.Request

namespace SchemaBridge.Verification

/-- What a server says of a query that it was asked to prepare. -/
inductive Preparation
  | prepared
  /-- The server refused the query. -/
  | refused (code message : String)
  deriving DecidableEq, Repr, Inhabited

/-- A query that can be prepared is accepted, and one that is refused is rejected with the code. -/
def Preparation.answer : Preparation → Answer
  | prepared => .accepted
  | refused code message => .rejected (code ++ ": " ++ message)

/-- The answer of a server that prepares queries.  A request without a query is not sent. -/
def preparingAnswer (prepare : String → Preparation) (r : Request) : Answer :=
  match r.query with
  | .error e => .failed e
  | .ok q => (prepare q).answer

/-- The answer when nothing can be sent to the planner at a URL.  A request without a query is not
sent. -/
def unreachableAnswer (url : String) (r : Request) : Answer :=
  match r.query with
  | .error e => .failed e
  | .ok _ => .failed (.targetUnavailable (url ++ ": error sending request"))

end SchemaBridge.Verification
