/-
# Every order of answers

What can be collected of the requests of a run, whatever the number of workers, the order in which
answers come and the moment at which the run is cancelled.  A request gets a place, is sent, and is
done with once; the collector looks whether the run was cancelled after each completion.

## Key statements

* `Flight.Step.perm_tickets`, `Flight.perm_tickets_of_steps`: a request is never lost, doubled or
  changed.
* `Collects.nodup`, `Collects.own`: what holds of everything that can be collected.
* `collects_runAll`: the pool collects in one of these ways.
-/
import Mathlib.Data.List.Perm.Basic
import Mathlib.Data.List.Nodup
import Mathlib.Logic.Relation
import SchemaBridge.Verification.Pool

namespace SchemaBridge.Verification

/-- Requests of a run with their positions. -/
structure Flight where
  /-- Requests that wait for a free place. -/
  waiting : List (Nat × Request)
  /-- Requests with a place that were not sent yet. -/
  placed : List (Nat × Request)
  /-- Requests that were sent and have no answer yet. -/
  sent : List (Nat × Request)
  cancelled : Bool
  /-- What was collected, in order. -/
  completions : List Completion
  /-- Whether the collector has a completion in hand and has not looked for a cancellation since. -/
  holding : Bool

namespace Flight

/-- Requests with their positions. -/
def numbered (requests : List Request) : List (Nat × Request) :=
  requests.zipIdx.map fun (r, i) => (i, r)

/-- A flight before any request has been sent. -/
def start (cancelled : Bool) (requests : List Request) : Flight :=
  { waiting := numbered requests
    placed := []
    sent := []
    cancelled
    completions := []
    holding := false }

/-- What can happen next.  While the collector has a completion in hand, only a cancellation can
come between. -/
inductive Step (workers : Nat) : Flight → Flight → Prop
  | place {f : Flight} {q : Nat × Request} {rest : List (Nat × Request)} (h : f.holding = false)
      (hwaiting : f.waiting = q :: rest) (hfree : f.placed.length + f.sent.length < workers) :
      Step workers f { f with waiting := rest, placed := f.placed ++ [q] }
  | send {f : Flight} {q : Nat × Request} {a b : List (Nat × Request)} (h : f.holding = false)
      (hcancelled : f.cancelled = false) (hplaced : f.placed = a ++ q :: b) :
      Step workers f { f with placed := a ++ b, sent := f.sent ++ [q] }
  | drop {f : Flight} {q : Nat × Request} {a b : List (Nat × Request)} (h : f.holding = false)
      (hcancelled : f.cancelled = true) (hplaced : f.placed = a ++ q :: b) :
      Step workers f
        { f with
          placed := a ++ b
          completions := f.completions ++ [⟨q.1, q.2, none⟩]
          holding := true }
  | answer {f : Flight} {q : Nat × Request} {a b : List (Nat × Request)} (answer : Answer)
      (h : f.holding = false) (hsent : f.sent = a ++ q :: b) :
      Step workers f
        { f with
          sent := a ++ b
          completions := f.completions ++ [⟨q.1, q.2, some answer⟩]
          holding := true }
  | cancel (f : Flight) : Step workers f { f with cancelled := true }
  | goOn {f : Flight} (h : f.holding = true) (hcancelled : f.cancelled = false) :
      Step workers f { f with holding := false }

/-- Any number of steps. -/
abbrev Steps (workers : Nat) : Flight → Flight → Prop := Relation.ReflTransGen (Step workers)

/-- How a run ends: it was cancelled, or every request is done with. -/
inductive Ends (f : Flight) : Collection → Prop
  | aborted (h : f.holding = true) (hcancelled : f.cancelled = true) : Ends f ⟨f.completions, true⟩
  | through (h : f.holding = false) (hwaiting : f.waiting = []) (hplaced : f.placed = [])
      (hsent : f.sent = []) : Ends f ⟨f.completions, false⟩

/-- The requests of a run at every place where they can be. -/
def tickets (f : Flight) : List (Nat × Request) :=
  f.waiting ++ (f.placed ++ (f.sent ++ f.completions.map fun k => (k.position, k.request)))

/-- A step moves requests and does nothing else to them. -/
theorem Step.perm_tickets {workers : Nat} {f f' : Flight} (h : Step workers f f') :
    f'.tickets.Perm f.tickets := by
  rw [List.perm_iff_count]
  intro x
  cases h with
  | place h hwaiting hfree =>
    simp only [Flight.tickets, hwaiting, List.count_append, List.count_cons, List.count_nil]
    omega
  | send h hcancelled hplaced =>
    simp only [Flight.tickets, hplaced, List.count_append, List.count_cons, List.count_nil]
    omega
  | drop h hcancelled hplaced =>
    simp only [Flight.tickets, hplaced, List.map_append, List.map_cons, List.map_nil,
      List.count_append, List.count_cons, List.count_nil, Prod.eta]
    omega
  | answer a h hsent =>
    simp only [Flight.tickets, hsent, List.map_append, List.map_cons, List.map_nil,
      List.count_append, List.count_cons, List.count_nil, Prod.eta]
    omega
  | cancel | goOn => rfl

/-- Nor does a whole run. -/
theorem perm_tickets_of_steps {workers : Nat} {f f' : Flight} (h : Steps workers f f') :
    f'.tickets.Perm f.tickets := by
  induction h with
  | refl => exact List.Perm.refl _
  | tail _ hstep ih => exact hstep.perm_tickets.trans ih

end Flight

/-- What can be collected of some requests. -/
def Collects (workers : Nat) (cancelled : Bool) (requests : List Request) (c : Collection) : Prop :=
  ∃ f, Flight.Steps workers (Flight.start cancelled requests) f ∧ f.Ends c

namespace Collects

variable {workers : Nat} {cancelled : Bool} {requests : List Request} {c : Collection}

/-- The completed requests are some of those of the run, each under its own position. -/
theorem subperm (h : Collects workers cancelled requests c) :
    (c.completions.map fun k => (k.position, k.request)).Subperm (Flight.numbered requests) := by
  obtain ⟨f, hsteps, hends⟩ := h
  have hstart : (Flight.start cancelled requests).tickets = Flight.numbered requests := by
    simp [Flight.tickets, Flight.start]
  have hperm := Flight.perm_tickets_of_steps hsteps
  rw [hstart] at hperm
  have hsub : (f.completions.map fun k => (k.position, k.request)).Sublist f.tickets :=
    (List.sublist_append_right _ _).trans ((List.sublist_append_right _ _).trans
      (List.sublist_append_right _ _))
  cases hends with
  | aborted | through => exact hsub.subperm.trans hperm.subperm

/-- Requests are numbered from 0 on. -/
theorem map_fst_numbered (requests : List Request) :
    (Flight.numbered requests).map (·.1) = List.range requests.length := by
  unfold Flight.numbered
  rw [List.map_map, List.range_eq_range']
  exact List.zipIdx_map_snd 0 requests

/-- No position is collected twice. -/
theorem nodup (h : Collects workers cancelled requests c) :
    (c.completions.map (·.position)).Nodup := by
  obtain ⟨l, hperm, hsub⟩ := h.subperm
  have hl : (l.map (·.1)).Nodup := by
    refine (hsub.map (·.1)).nodup ?_
    rw [map_fst_numbered]
    exact List.nodup_range
  have hpositions := (hperm.map (·.1)).nodup hl
  rwa [List.map_map] at hpositions

/-- What is collected under a position is about the request that has it. -/
theorem own (h : Collects workers cancelled requests c) :
    ∀ k ∈ c.completions, requests[k.position]? = some k.request := by
  intro k hk
  have hmem : (k.position, k.request) ∈ Flight.numbered requests :=
    h.subperm.subset (List.mem_map_of_mem hk)
  obtain ⟨⟨r, i⟩, hr, heq⟩ := List.mem_map.1 hmem
  cases heq
  exact List.mem_zipIdx_iff_getElem?.1 hr

end Collects

/-! ## The pool -/

namespace Pool

/-- A pool as it is between two turns. -/
def flight (p : Pool) : Flight :=
  { waiting := p.waiting
    placed := p.ready
    sent := p.hanging ++ p.overdue
    cancelled := p.cancelled
    completions := p.completions.reverse
    holding := false }

/-- Bound on the number of turns that are left. -/
def potential (p : Pool) : Nat :=
  3 * (p.waiting.length + p.ready.length) + 2 * p.hanging.length + p.overdue.length

variable {workers : Nat} {respond : Request → Response}

/-- Waiting requests are placed while there are workers. -/
theorem steps_place (p : Pool) {n : Nat} (h : n ≤ workers - p.inFlight) :
    Flight.Steps workers p.flight
      { p with ready := p.ready ++ p.waiting.take n, waiting := p.waiting.drop n }.flight := by
  induction n with
  | zero =>
    rw [List.take_zero, List.append_nil, List.drop_zero]
  | succ n ih =>
    refine (ih (by omega)).trans ?_
    have htake : p.waiting.take (n + 1) = p.waiting.take n ++ (p.waiting.drop n).head?.toList := by
      rw [List.take_add_one, List.head?_drop]
    have hdrop : p.waiting.drop (n + 1) = (p.waiting.drop n).tail := List.tail_drop.symm
    rw [htake, hdrop]
    cases hrest : p.waiting.drop n with
    | nil => simpa using Relation.ReflTransGen.refl
    | cons q rest =>
      have hfree : (p.ready ++ p.waiting.take n).length + (p.hanging ++ p.overdue).length
          < workers := by
        simp only [List.length_append, List.length_take, inFlight] at h ⊢
        omega
      have hstep : Flight.Step workers
          { p with ready := p.ready ++ p.waiting.take n, waiting := q :: rest }.flight _ :=
        .place rfl rfl hfree
      simpa [flight] using Relation.ReflTransGen.single hstep

/-- Filling a pool is made of steps. -/
theorem steps_fill (workers : Nat) (p : Pool) :
    Flight.Steps workers p.flight (p.fill workers).flight :=
  steps_place p (Nat.le_refl _)

theorem potential_fill (workers : Nat) (p : Pool) :
    (p.fill workers).potential = p.potential := by
  simp only [potential, fill, List.length_append, List.length_take, List.length_drop]
  omega

/-- When there is nothing to do after places were given, no request waits. -/
theorem waiting_fill_eq_nil (hworkers : 0 < workers) (p : Pool)
    (hready : (p.fill workers).ready = []) (hhanging : (p.fill workers).hanging = [])
    (hoverdue : (p.fill workers).overdue = []) : (p.fill workers).waiting = [] := by
  simp only [fill, inFlight] at hready hhanging hoverdue ⊢
  obtain ⟨hready, htake⟩ := List.append_eq_nil_iff.1 hready
  rw [hready, hhanging, hoverdue] at htake ⊢
  rcases List.take_eq_nil_iff.1 htake with hzero | hnil
  · simp at hzero
    omega
  · rw [hnil, List.drop_nil]

/-- A flight that ends as a pool does: with the same collection, and cancelled if the pool is. -/
def EndsAs (f : Flight) (x : Pool × Collection) : Prop := f.Ends x.2 ∧ f.cancelled = x.1.cancelled

/-- After a completion the collector stops, or goes on when the run was not cancelled. -/
theorem steps_holding {f : Flight} {p : Pool} {fuel : Nat}
    (h : Flight.Steps workers f { p.flight with holding := true })
    (hrun : ∃ g, Flight.Steps workers p.flight g ∧ EndsAs g (run workers respond fuel p)) :
    ∃ g, Flight.Steps workers f g
      ∧ EndsAs g (if p.cancelled then (p, p.collection true) else run workers respond fuel p) := by
  by_cases hcancelled : p.cancelled = true
  · rw [if_pos hcancelled]
    exact ⟨_, h, .aborted rfl hcancelled, rfl⟩
  · obtain ⟨g, hsteps, hends⟩ := hrun
    rw [if_neg hcancelled]
    have hgo : Flight.Step workers { p.flight with holding := true } p.flight :=
      .goOn rfl (eq_false_of_ne_true hcancelled)
    exact ⟨g, (h.tail hgo).trans hsteps, hends⟩

/-- A request of a cancelled run gets no answer. -/
theorem send_cancelled {p : Pool} {i : Nat} {r : Request} (h : p.cancelled = true) :
    p.send respond i r = (true, p.complete i r none) := by
  unfold send
  rw [if_pos h]

/-- A request whose answer comes at once. -/
theorem send_answered {p : Pool} {i : Nat} {r : Request} {a : Answer} (h : p.cancelled = false)
    (ha : (respond r).answer = some a) : p.send respond i r
      = (true, { p with
          sent := r :: p.sent
          cancelled := p.cancelled || (respond r).cancels }.complete i r (some a)) := by
  unfold send
  simp only [h, ha]
  rfl

/-- A request that hangs. -/
theorem send_unanswered {p : Pool} {i : Nat} {r : Request} (h : p.cancelled = false)
    (ha : (respond r).answer = none) : p.send respond i r
      = (false, { p with
          sent := r :: p.sent
          cancelled := p.cancelled || (respond r).cancels
          hanging := p.hanging ++ [(i, r)] }) := by
  unfold send
  simp only [h, ha]
  rfl

/-- A pool that has sent a request, in place of those that were ready. -/
def sending (q : Pool) (i : Nat) (r : Request) (ready : List (Nat × Request)) (cancels : Bool) :
    Pool :=
  { q with
    ready
    sent := r :: q.sent
    cancelled := q.cancelled || cancels
    hanging := q.hanging ++ [(i, r)] }

/-- A request whose turn comes is sent, and the run may be cancelled meanwhile. -/
theorem steps_sending {q : Pool} {i : Nat} {r : Request} {ready : List (Nat × Request)}
    (hoverdue : q.overdue = []) (hready : q.ready = (i, r) :: ready)
    (hcancelled : q.cancelled = false) (cancels : Bool) :
    Flight.Steps workers q.flight (q.sending i r ready cancels).flight := by
  have hsplit : q.flight.placed = [] ++ (i, r) :: ready := hready
  have hsend : Flight.Step workers q.flight _ := .send rfl hcancelled hsplit
  refine (Relation.ReflTransGen.single hsend).trans ?_
  cases cancels with
  | false => simpa [flight, sending, hoverdue] using Relation.ReflTransGen.refl
  | true =>
    have hcancel : Flight.Step workers
        { q.flight with placed := ready, sent := q.flight.sent ++ [(i, r)] } _ := .cancel _
    simpa [flight, sending, hoverdue] using Relation.ReflTransGen.single hcancel

/-- A request that is answered at once. -/
theorem steps_answered {q : Pool} {i : Nat} {r : Request} {ready : List (Nat × Request)}
    (hoverdue : q.overdue = []) (hready : q.ready = (i, r) :: ready)
    (hcancelled : q.cancelled = false) (cancels : Bool) (a : Answer) :
    Flight.Steps workers q.flight
      { (({ q.sending i r ready cancels with hanging := q.hanging }).complete i r
          (some a)).flight with holding := true } := by
  have hsplit : (q.sending i r ready cancels).flight.sent = q.hanging ++ (i, r) :: [] := by
    simp [flight, sending, hoverdue]
  have hanswer : Flight.Step workers (q.sending i r ready cancels).flight _ :=
    .answer a rfl hsplit
  refine (steps_sending hoverdue hready hcancelled cancels).tail ?_
  simpa [flight, sending, complete, hoverdue] using hanswer

/-- The turn of a request that has a place: it is dropped, or sent and perhaps answered. -/
theorem steps_turn {q : Pool} {i : Nat} {r : Request} {ready : List (Nat × Request)} {fuel : Nat}
    (hoverdue : q.overdue = []) (hready : q.ready = (i, r) :: ready) (h : q.potential < fuel + 1)
    (hrun : ∀ p : Pool, p.potential < fuel →
      ∃ g, Flight.Steps workers p.flight g ∧ EndsAs g (run workers respond fuel p))
    {x : Bool × Pool} (hx : { q with ready }.send respond i r = x) :
    ∃ g, Flight.Steps workers q.flight g
      ∧ EndsAs g (if x.1 && x.2.cancelled then (x.2, x.2.collection true)
        else run workers respond fuel x.2) := by
  have hsplit : q.flight.placed = [] ++ (i, r) :: ready := hready
  subst hx
  by_cases hcancelled : q.cancelled = true
  · rw [send_cancelled (p := { q with ready }) hcancelled]
    have hdrop : Flight.Step workers q.flight
        { ({ q with ready }.complete i r none).flight with holding := true } := by
      have hstep : Flight.Step workers q.flight _ := .drop rfl hcancelled hsplit
      simpa [flight, complete] using hstep
    simp only [Bool.true_and]
    refine steps_holding (Relation.ReflTransGen.single hdrop) (hrun _ ?_)
    simp only [potential, complete, hready, List.length_cons] at h ⊢
    omega
  have hactive : q.cancelled = false := eq_false_of_ne_true hcancelled
  cases hanswer : (respond r).answer with
  | some a =>
    rw [send_answered (p := { q with ready }) hactive hanswer]
    simp only [Bool.true_and]
    refine steps_holding (steps_answered hoverdue hready hactive (respond r).cancels a) (hrun _ ?_)
    simp only [potential, complete, hready, List.length_cons] at h ⊢
    omega
  | none =>
    -- a request without an answer takes two more turns, one for it and one for those that hang
    rw [send_unanswered (p := { q with ready }) hactive hanswer]
    simp only [Bool.false_and]
    have hless : (q.sending i r ready (respond r).cancels).potential < fuel := by
      simp only [potential, sending, hready, List.length_append, List.length_cons,
        List.length_nil] at h ⊢
      omega
    obtain ⟨g, hsteps, hends⟩ := hrun _ hless
    have hsent : Flight.Steps workers q.flight _ :=
      steps_sending hoverdue hready hactive (respond r).cancels
    exact ⟨g, hsent.trans hsteps, hends⟩

/-- A pool with enough turns collects in one of the possible ways. -/
theorem steps_run (respond : Request → Response) (hworkers : 0 < workers) {fuel : Nat} {p : Pool}
    (h : p.potential < fuel) :
    ∃ f, Flight.Steps workers p.flight f ∧ EndsAs f (run workers respond fuel p) := by
  induction fuel generalizing p with
  | zero => omega
  | succ fuel ih =>
    have hfill := steps_fill workers p
    have hpotential := potential_fill workers p
    have hnone := waiting_fill_eq_nil hworkers p
    unfold run
    generalize p.fill workers = q at hfill hpotential hnone ⊢
    rw [← hpotential] at h
    dsimp only
    split
    · -- the time of a request is up
      rename_i i r overdue hoverdue
      have hsplit : q.flight.sent = q.hanging ++ (i, r) :: overdue :=
        congrArg (q.hanging ++ ·) hoverdue
      have hanswer : Flight.Step workers q.flight
          { ({ q with overdue }.complete i r (some .timedOut)).flight with holding := true } := by
        have hstep : Flight.Step workers q.flight _ := .answer .timedOut rfl hsplit
        simpa [flight, complete] using hstep
      refine steps_holding (hfill.tail hanswer) (ih ?_)
      simp only [potential, complete, hoverdue, List.length_cons] at h ⊢
      omega
    · rename_i i r ready hoverdue hready
      obtain ⟨g, hsteps, hends⟩ := steps_turn hoverdue hready h (fun p hp => ih hp) rfl
      exact ⟨g, hfill.trans hsteps, hends⟩
    · rename_i hoverdue hready hhanging
      refine ⟨q.flight, hfill, .through rfl (hnone hready hhanging hoverdue) hready ?_, rfl⟩
      show q.hanging ++ q.overdue = []
      rw [hhanging, hoverdue]
      rfl
    · -- the time of all requests that hang is up; nothing happens to them yet
      rename_i hoverdue hready hhanging
      have hsame : ({ q with hanging := [], overdue := q.hanging } : Pool).flight = q.flight := by
        simp [flight, hoverdue]
      have hless : ({ q with hanging := [], overdue := q.hanging } : Pool).potential < fuel := by
        have hpos : 0 < q.hanging.length := List.length_pos_iff.2 hhanging
        simp only [potential, List.length_nil] at h ⊢
        omega
      obtain ⟨g, hsteps, hends⟩ := ih hless
      rw [hsame] at hsteps
      exact ⟨g, hfill.trans hsteps, hends⟩

/-- What a pool makes of requests can come of them step by step. -/
theorem steps_runAll (workers : Nat) (respond : Request → Response) (cancelled : Bool)
    (requests : List Request) :
    ∃ f, Flight.Steps (max workers 1) (Flight.start cancelled requests) f
      ∧ EndsAs f (runAll workers respond cancelled requests) := by
  have hpotential : (start cancelled requests).potential < 3 * requests.length + 1 := by
    simp [potential, start]
  have hworkers : 0 < max workers 1 := Nat.lt_of_lt_of_le Nat.zero_lt_one (Nat.le_max_right _ _)
  exact steps_run respond hworkers hpotential

/-- What a pool collects is one of the things that can be collected. -/
theorem collects_runAll (workers : Nat) (respond : Request → Response) (cancelled : Bool)
    (requests : List Request) :
    Collects (max workers 1) cancelled requests (runAll workers respond cancelled requests).2 := by
  obtain ⟨f, hsteps, hends, -⟩ := steps_runAll workers respond cancelled requests
  exact ⟨f, hsteps, hends⟩

end Pool

end SchemaBridge.Verification
