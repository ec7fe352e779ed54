/-
# Requests in flight

Requests are sent in order, a limited number at a time, and their answers are collected as they come.
A request that gets no answer holds its place until its time is up.  Once the run is cancelled, no
more requests are sent, and it ends with the next completion.
-/
import SchemaBridge.Verification.Request

namespace SchemaBridge.Verification

/-- What the target does with a request. -/
structure Response where
  /-- The answer; none if it never comes. -/
  answer : Option Answer
  /-- Whether the run is cancelled while the request is under way. -/
  cancels : Bool
  deriving DecidableEq, Repr, Inhabited

/-- Requests in flight. -/
structure Pool where
  /-- Requests that wait for a free place. -/
  waiting : List (Nat × Request)
  /-- Requests with a place whose turn has not come. -/
  ready : List (Nat × Request)
  /-- Requests that were sent and get no answer, in the order in which they were sent. -/
  hanging : List (Nat × Request)
  /-- Requests whose time is up. -/
  overdue : List (Nat × Request)
  cancelled : Bool
  /-- Requests that were sent, last first. -/
  sent : List Request
  /-- What was collected, last first. -/
  completions : List Completion
  deriving Repr, Inhabited

namespace Pool

/-- A pool before any request has been sent. -/
def start (cancelled : Bool) (requests : List Request) : Pool :=
  { waiting := requests.zipIdx.map fun (r, i) => (i, r)
    ready := []
    hanging := []
    overdue := []
    cancelled
    sent := []
    completions := [] }

/-- Number of places taken. -/
def inFlight (p : Pool) : Nat := p.ready.length + p.hanging.length + p.overdue.length

/-- Give the free places to waiting requests. -/
def fill (workers : Nat) (p : Pool) : Pool :=
  let free := workers - p.inFlight
  { p with ready := p.ready ++ p.waiting.take free, waiting := p.waiting.drop free }

/-- Collect a completion. -/
def complete (p : Pool) (position : Nat) (r : Request) (answer : Option Answer) : Pool :=
  { p with completions := ⟨position, r, answer⟩ :: p.completions }

/-- Send a request, if the run is not cancelled; it is told whether it is done with. -/
def send (respond : Request → Response) (p : Pool) (position : Nat) (r : Request) : Bool × Pool :=
  if p.cancelled then (true, p.complete position r none)
  else
    let response := respond r
    let p := { p with sent := r :: p.sent, cancelled := p.cancelled || response.cancels }
    match response.answer with
    | some a => (true, p.complete position r (some a))
    | none => (false, { p with hanging := p.hanging ++ [(position, r)] })

/-- What was collected so far. -/
def collection (p : Pool) (aborted : Bool) : Collection := ⟨p.completions.reverse, aborted⟩

/-- Take turns until every request is done with or the run is cancelled; `fuel` bounds the number of
turns. -/
def run (workers : Nat) (respond : Request → Response) : Nat → Pool → Pool × Collection
  | 0, p => (p, p.collection p.cancelled)
  | fuel + 1, p =>
    let p := p.fill workers
    match p.overdue, p.ready, p.hanging with
    | (i, r) :: overdue, _, _ =>
      let p := { p with overdue }.complete i r (some .timedOut)
      if p.cancelled then (p, p.collection true) else run workers respond fuel p
    | [], (i, r) :: ready, _ =>
      let (done, p) := { p with ready }.send respond i r
      if done && p.cancelled then (p, p.collection true) else run workers respond fuel p
    | [], [], [] => (p, p.collection false)
    | [], [], hanging => run workers respond fuel { p with hanging := [], overdue := hanging }

/-- Send requests and collect their answers.  Every request takes three turns at most. -/
def runAll (workers : Nat) (respond : Request → Response) (cancelled : Bool)
    (requests : List Request) : Pool × Collection :=
  run (max workers 1) respond (3 * requests.length + 1) (start cancelled requests)

end Pool

end SchemaBridge.Verification
