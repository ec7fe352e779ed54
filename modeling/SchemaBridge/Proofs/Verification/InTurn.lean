/-
# The order of answers does not matter

When a run is not broken off and the target's answer to a request depends on the request alone, every
request gets its answer, and what is made of the answers is the same for every number of workers and
every order in which they come: it is what comes of asking about one expression after another.

## Key statements

* `Gathers.finishedAt`: under each position the answer to its own request is collected.
* `isSteady_run`: a pool whose channel never cancels collects in such a way.
* `verifies_iff`: a verification that is not broken off ends like one that asks in turn.
* `verify_eq_checkInTurn`: so neither the number of workers nor the order of the answers matters.
-/
import SchemaBridge.Proofs.Verification.Unjudged

namespace SchemaBridge.Verification

/-! ## Runs that are not broken off -/

namespace Flight

/-- What is done with has an answer. -/
def IsAnswered (f : Flight) : Prop := ∀ k ∈ f.completions, k.answer.isSome = true

variable {workers : Nat} {cancelled : Bool} {requests : List Request} {f f' : Flight}

/-- A request is dropped only in a cancelled run, and then the collector goes no further. -/
theorem Step.isAnswered (h : Step workers f f')
    (hf : f.IsAnswered ∨ f.holding = true ∧ f.cancelled = true) :
    f'.IsAnswered ∨ f'.holding = true ∧ f'.cancelled = true := by
  -- only a collector that still waits drops a request
  cases h with
  | place hfree | send hfree =>
    rcases hf with hf | ⟨hholding, -⟩
    · exact .inl hf
    · rw [hfree] at hholding
      cases hholding
  | drop _ hcancelled _ => exact .inr ⟨rfl, hcancelled⟩
  | answer a hfree =>
    rcases hf with hf | ⟨hholding, -⟩
    · left
      intro k hk
      rcases List.mem_append.1 hk with hk | hk
      · exact hf k hk
      · rw [List.mem_singleton.1 hk]
        rfl
    · rw [hfree] at hholding
      cases hholding
  | cancel =>
    rcases hf with hf | ⟨hholding, -⟩
    · exact .inl hf
    · exact .inr ⟨hholding, rfl⟩
  | goOn _ hactive =>
    rcases hf with hf | ⟨-, hcancelled⟩
    · exact .inl hf
    · rw [hactive] at hcancelled
      cases hcancelled

/-- In a run that goes on, everything that is done with has an answer. -/
theorem isAnswered_of_steps (h : Steps workers (start cancelled requests) f)
    (hholding : f.holding = false) : f.IsAnswered := by
  have hall : f.IsAnswered ∨ f.holding = true ∧ f.cancelled = true := by
    clear hholding
    induction h with
    | refl => exact .inl (List.forall_mem_nil _)
    | tail _ hstep ih => exact hstep.isAnswered ih
  rcases hall with hall | ⟨hbroken, -⟩
  · exact hall
  · rw [hholding] at hbroken
    cases hbroken

/-- A run that nobody cancels is not broken off. -/
theorem Ends.aborted_eq_false {c : Collection} (h : f.Ends c) (hactive : f.cancelled = false) :
    c.aborted = false := by
  cases h with
  | aborted _ hcancelled =>
    rw [hactive] at hcancelled
    cases hcancelled
  | through => rfl

end Flight

/-- What can be collected of a run that is not broken off, when the target answers by `respond`.  A
run that nobody cancels is not broken off; a cancellation may come when everything is done with. -/
structure Gathers (workers : Nat) (cancelled : Bool) (respond : Request → Answer)
    (requests : List Request) (c : Collection) : Prop where
  collects : Collects workers cancelled requests c
  aborted : c.aborted = false
  replies : ∀ k ∈ c.completions, ∀ a, k.answer = some a → a = respond k.request

namespace Gathers

variable {workers : Nat} {cancelled : Bool} {respond : Request → Answer} {requests : List Request}
  {c : Collection}

/-- Every request is done with in the end, and has its answer. -/
theorem through (h : Gathers workers cancelled respond requests c) :
    (c.completions.map fun k => (k.position, k.request)).Perm (Flight.numbered requests)
      ∧ ∀ k ∈ c.completions, k.answer = some (respond k.request) := by
  obtain ⟨⟨f, hsteps, hends⟩, haborted, hreplies⟩ := h
  have hperm := Flight.perm_tickets_of_steps hsteps
  cases hends with
  | aborted => cases haborted
  | through hholding hwaiting hplaced hsent =>
    constructor
    · simpa [Flight.tickets, Flight.start, hwaiting, hplaced, hsent] using hperm
    · intro k hk
      obtain ⟨a, ha⟩ := Option.isSome_iff_exists.1 (Flight.isAnswered_of_steps hsteps hholding k hk)
      rw [ha, hreplies k hk a ha]

/-- Under each position the answer to its own request is collected. -/
theorem finishedAt (h : Gathers workers cancelled respond requests c) (i : Nat) :
    finishedAt c.completions i = requests[i]?.map fun r => (r, respond r) := by
  obtain ⟨hperm, hanswers⟩ := h.through
  unfold Verification.finishedAt
  cases hr : requests[i]? with
  | none =>
    have hnone : c.completions.find? (·.position = i) = none := by
      refine List.find?_eq_none.2 fun k hk => ?_
      have hown := h.collects.own k hk
      simp only [decide_eq_true_eq]
      rintro rfl
      rw [hr] at hown
      cases hown
    rw [hnone]
    rfl
  | some r =>
    -- every position is that of one request, and its answer came
    have hnumbered : (i, r) ∈ Flight.numbered requests :=
      List.mem_map.2 ⟨(r, i), List.mem_zipIdx_iff_getElem?.2 hr, rfl⟩
    obtain ⟨k, hk, hkir⟩ := List.mem_map.1 (hperm.symm.subset hnumbered)
    cases hkir
    rw [find?_of_mem h.collects.nodup hk]
    show k.finished? = _
    unfold Completion.finished?
    rw [hanswers k hk]
    rfl

end Gathers

/-! ## A pool that nobody disturbs -/

/-- What comes of a request in the end: if no answer comes, its time is up. -/
def Response.reply (x : Response) : Answer := x.answer.getD .timedOut

/-- A channel that never cancels a run and replies by `respond`. -/
def Replies (channel : Request → Response) (respond : Request → Answer) : Prop :=
  ∀ r, (channel r).cancels = false ∧ (channel r).reply = respond r

namespace Pool

/-- A pool that was not cancelled, with the replies of its channel; what hangs gets no answer. -/
structure IsSteady (channel : Request → Response) (p : Pool) : Prop where
  active : p.cancelled = false
  replies : ∀ k ∈ p.completions, ∀ a, k.answer = some a → a = (channel k.request).reply
  hangs : ∀ q ∈ p.hanging, (channel q.2).answer = none
  late : ∀ q ∈ p.overdue, (channel q.2).answer = none

variable {channel : Request → Response} {p : Pool}

/-- A reply of the channel keeps a pool steady. -/
theorem IsSteady.complete (h : p.IsSteady channel) (i : Nat) {r : Request} {a : Answer}
    (ha : a = (channel r).reply) : (p.complete i r (some a)).IsSteady channel where
  active := h.active
  replies := by
    intro k hk b hb
    rcases List.mem_cons.1 hk with rfl | hk
    · cases hb
      exact ha
    · exact h.replies k hk b hb
  hangs := h.hangs
  late := h.late

/-- A request whose turn comes is answered, or hangs. -/
theorem IsSteady.send (h : p.IsSteady channel) (hcalm : ∀ r, (channel r).cancels = false) (i : Nat)
    (r : Request) : (p.send channel i r).2.IsSteady channel := by
  have hcancelled : (p.cancelled || (channel r).cancels) = false := by
    rw [h.active, hcalm r]
    rfl
  cases hanswer : (channel r).answer with
  | some a =>
    have hsent : ({ p with
        sent := r :: p.sent
        cancelled := p.cancelled || (channel r).cancels } : Pool).IsSteady channel :=
      ⟨hcancelled, h.replies, h.hangs, h.late⟩
    rw [send_answered h.active hanswer]
    refine hsent.complete i ?_
    rw [Response.reply, hanswer]
    rfl
  | none =>
    rw [send_unanswered h.active hanswer]
    refine ⟨hcancelled, h.replies, ?_, h.late⟩
    intro q hq
    rcases List.mem_append.1 hq with hq | hq
    · exact h.hangs q hq
    · rw [List.mem_singleton.1 hq]
      exact hanswer

/-- A pool whose channel never cancels stays as it is, turn after turn, and hands over what it has
collected. -/
theorem isSteady_run (hcalm : ∀ r, (channel r).cancels = false) (workers fuel : Nat)
    (h : p.IsSteady channel) : (run workers channel fuel p).1.IsSteady channel
      ∧ (run workers channel fuel p).2.completions
        = (run workers channel fuel p).1.completions.reverse := by
  induction fuel generalizing p with
  | zero => exact ⟨h, rfl⟩
  | succ fuel ih =>
    have hfill : (p.fill workers).IsSteady channel := ⟨h.active, h.replies, h.hangs, h.late⟩
    unfold run
    -- a pool that is filled has sent nothing yet, and the rest is about any such pool
    generalize p.fill workers = q at hfill ⊢
    dsimp only
    split
    · rename_i i r overdue hoverdue
      have hlate : ∀ x ∈ (i, r) :: overdue, (channel x.2).answer = none := hoverdue ▸ hfill.late
      have hrest : ({ q with overdue } : Pool).IsSteady channel :=
        ⟨hfill.active, hfill.replies, hfill.hangs, fun x hx => hlate x (List.mem_cons_of_mem _ hx)⟩
      have hdone : (({ q with overdue } : Pool).complete i r (some .timedOut)).IsSteady channel := by
        refine hrest.complete i ?_
        rw [Response.reply, hlate (i, r) List.mem_cons_self]
        rfl
      rw [hdone.active]
      exact ih hdone
    · rename_i i r ready _ _
      have hrest : ({ q with ready } : Pool).IsSteady channel :=
        ⟨hfill.active, hfill.replies, hfill.hangs, hfill.late⟩
      have hsent := hrest.send hcalm i r
      rw [hsent.active, Bool.and_false]
      exact ih hsent
    · exact ⟨hfill, rfl⟩
    · rename_i hoverdue _ _
      exact ih ⟨hfill.active, hfill.replies, List.forall_mem_nil _, hfill.hangs⟩

/-- A pool is steady before it begins. -/
theorem isSteady_start (channel : Request → Response) (requests : List Request) :
    (start false requests).IsSteady channel where
  active := rfl
  replies := List.forall_mem_nil _
  hangs := List.forall_mem_nil _
  late := List.forall_mem_nil _

theorem isSteady_runAll (hcalm : ∀ r, (channel r).cancels = false) (workers : Nat)
    (requests : List Request) : (runAll workers channel false requests).1.IsSteady channel
      ∧ (runAll workers channel false requests).2.completions
        = (runAll workers channel false requests).1.completions.reverse := by
  unfold runAll
  exact isSteady_run hcalm _ _ (isSteady_start channel requests)

end Pool

/-- A pool whose channel is steady gathers the channel's replies. -/
theorem gathers_runAll {channel : Request → Response} {respond : Request → Answer}
    (h : Replies channel respond) (workers : Nat) (requests : List Request) :
    Gathers (max workers 1) false respond requests
      (Pool.runAll workers channel false requests).2 := by
  have hcalm : ∀ r, (channel r).cancels = false := fun r => (h r).1
  obtain ⟨hsteady, hcollected⟩ := Pool.isSteady_runAll hcalm workers requests
  have hsteps := Pool.steps_runAll workers channel false requests
  generalize Pool.runAll workers channel false requests = x at hsteady hcollected hsteps ⊢
  obtain ⟨f, hsteps, hends, hcancelled⟩ := hsteps
  refine ⟨⟨f, hsteps, hends⟩, hends.aborted_eq_false (hcancelled.trans hsteady.active), ?_⟩
  intro k hk a ha
  rw [hcollected] at hk
  rw [← (h k.request).2]
  exact hsteady.replies k (List.mem_reverse.1 hk) a ha

/-! ## Asking in turn -/

namespace Settling

/-- Ask about one expression after another, each time of the model as it is then, and apply each
answer before the next request is made. -/
def inTurn (seconds : Nat) (respond : Request → Answer) (s : Settling) :
    List ExpressionSlot → Outcome Unit × Settling
  | [] => (.ok (), s)
  | slot :: rest =>
    match requestFor? s.model slot with
    | none => s.inTurn seconds respond rest
    | some r =>
      match s.apply seconds slot (some (r, respond r)) with
      | .ok s => s.inTurn seconds respond rest
      | .error e => (.error e, s)

end Settling

/-- Verify the expressions of a model one at a time, in the order of the model. -/
def checkInTurn (seconds : Nat) (respond : Request → Answer) (m : Model) :
    Outcome Summary × Model :=
  match (Settling.start (prepare m)).inTurn seconds respond (slots m) with
  | (.ok (), s) => (.ok s.summary, s.model)
  | (.error e, s) => (.error e, s.model)

/-- Requests with their answers, by the slots they are about. -/
def answersTo (respond : Request → Answer) (asked : List (ExpressionSlot × Request)) :
    List (ExpressionSlot × Option (Request × Answer)) :=
  asked.map fun x => (x.1, some (x.2, respond x.2))

/-- A request does not depend on verdicts. -/
theorem requestFor?_of_unjudged {m m' : Model} (h : m'.unjudged = m.unjudged)
    (s : ExpressionSlot) : requestFor? m' s = requestFor? m s := by
  rw [← requestFor?_unjudged, h, requestFor?_unjudged]

/-- No answer changes a request, so that they might as well all be made at the beginning. -/
theorem Settling.inTurn_eq (seconds : Nat) (respond : Request → Answer) {s : Settling}
    (hkeys : (s.model.tables.map (·.1)).Nodup) (ss : List ExpressionSlot) :
    s.inTurn seconds respond ss = s.applyEach seconds (answersTo respond
      (ss.filterMap fun t => (requestFor? s.model t).map fun r => (t, r))) := by
  induction ss generalizing s with
  | nil => rfl
  | cons slot rest ih =>
    unfold inTurn
    cases hr : requestFor? s.model slot with
    | none =>
      rw [List.filterMap_cons_none (by rw [hr]; rfl)]
      exact ih hkeys
    | some r =>
      rw [List.filterMap_cons_some (by rw [hr]; rfl)]
      dsimp only
      unfold answersTo
      rw [List.map_cons]
      unfold applyEach
      dsimp only
      cases happly : s.apply seconds slot (some (r, respond r)) with
      | error e => rfl
      | ok s' =>
        -- an answer changes verdicts only, and no request is made of those
        have hstep := unjudged_apply hkeys happly
        have hsame : (fun t => (requestFor? s'.model t).map fun r => (t, r))
            = fun t => (requestFor? s.model t).map fun r => (t, r) := by
          funext t
          rw [requestFor?_of_unjudged hstep]
        dsimp only
        rw [ih (keys_of_unjudged hstep hkeys), hsame]
        rfl

/-- What was gathered meets the expressions as the answers to their requests. -/
theorem Gathers.matched_eq {workers : Nat} {cancelled : Bool} {respond : Request → Answer}
    {asked : List (ExpressionSlot × Request)} {c : Collection}
    (h : Gathers workers cancelled respond (asked.map (·.2)) c) :
    Settling.matched c.completions 0 (asked.map (·.1)) = answersTo respond asked := by
  refine List.ext_getElem? fun i => ?_
  rw [Settling.getElem?_matched, h.finishedAt, answersTo, List.getElem?_map, List.getElem?_map,
    List.getElem?_map]
  cases asked[i]? <;> rfl

/-- What was gathered is applied slot by slot. -/
theorem applyAll_gathered (seconds : Nat) {workers : Nat} {cancelled : Bool}
    {respond : Request → Answer} {m : Model} {c : Collection}
    (h : Gathers workers cancelled respond ((requests m).map (·.2)) c) :
    (Settling.start m).applyAll seconds 0 c.inOrder ((requests m).map (·.1))
      = (Settling.start m).applyEach seconds (answersTo respond (requests m)) := by
  rw [Settling.applyAll_eq seconds _ (ascending_inOrder h.collects.nodup), ← h.matched_eq]
  refine congrArg _ (List.map_congr_left fun x _ => ?_)
  rw [finishedAt_perm (perm_inOrder c) h.collects.nodup]

/-- Asking in turn comes down to the answers to the requests that are made at the beginning. -/
theorem inTurn_prepare (seconds : Nat) (respond : Request → Answer) {m : Model}
    (hm : m.HasDistinctParts) : (Settling.start (prepare m)).inTurn seconds respond (slots m)
      = (Settling.start (prepare m)).applyEach seconds
        (answersTo respond (requests (prepare m))) := by
  have hkeys : ((prepare m).tables.map (·.1)).Nodup := (hm.of_sameBare (sameBare_prepare m)).keys
  rw [Settling.inTurn_eq seconds respond hkeys, ← (sameBare_prepare m).slots]
  rfl

/-- However the answers came, they make of a model what asking in turn makes of it. -/
theorem conclude_gathered (seconds : Nat) {workers : Nat} {cancelled : Bool}
    {respond : Request → Answer} {m : Model} (hm : m.HasDistinctParts) {c : Collection}
    (h : Gathers workers cancelled respond ((requests (prepare m)).map (·.2)) c) :
    conclude seconds (.collected c) m = checkInTurn seconds respond m := by
  unfold checkInTurn
  by_cases hempty : slots m = []
  · rw [conclude_of_slots_eq_nil hempty, hempty]
    rfl
  · rw [conclude_collected hempty, inTurn_prepare seconds respond hm]
    unfold settle
    simp only [h.aborted, Bool.false_eq_true, if_false]
    rw [applyAll_gathered seconds h]
    cases (Settling.start (prepare m)).applyEach seconds
      (answersTo respond (requests (prepare m))) with
    | mk done s => cases done <;> rfl

/-! ## Verifications that are not broken off -/

/-- What a verification can end in that is not broken off, when the target answers by `respond`. -/
def Verifies (seconds workers : Nat) (respond : Request → Answer) (m : Model)
    (x : Outcome Summary × Model) : Prop :=
  ∃ cancelled c, Gathers (max workers 1) cancelled respond ((requests (prepare m)).map (·.2)) c
    ∧ x = conclude seconds (.collected c) m

/-- A verification over a steady channel is not broken off. -/
theorem verifies_verify {channel : Request → Response} {respond : Request → Answer}
    (h : Replies channel respond) (limits : Limits) (m : Model) :
    Verifies (limits.timeoutMilliseconds / 1000) limits.workers respond m
      ((verify limits (.channel channel) false m).summary,
        (verify limits (.channel channel) false m).model) :=
  ⟨_, _, gathers_runAll h limits.workers _, rfl⟩

/-- The channel that replies as told. -/
def steadyChannel (respond : Request → Answer) (r : Request) : Response := ⟨some (respond r), false⟩

/-- A steady channel replies as it should. -/
theorem replies_steadyChannel (respond : Request → Answer) :
    Replies (steadyChannel respond) respond := fun _ => ⟨rfl, rfl⟩

/-- A verification that is not broken off ends like one that asks in turn, and it can end so. -/
theorem verifies_iff {m : Model} (hm : m.HasDistinctParts) (seconds workers : Nat)
    (respond : Request → Answer) (x : Outcome Summary × Model) :
    Verifies seconds workers respond m x ↔ x = checkInTurn seconds respond m := by
  constructor
  · rintro ⟨cancelled, c, hc, rfl⟩
    exact conclude_gathered seconds hm hc
  · rintro rfl
    have hgathers := gathers_runAll (replies_steadyChannel respond) workers
      ((requests (prepare m)).map (·.2))
    exact ⟨_, _, hgathers, (conclude_gathered seconds hm hgathers).symm⟩

/-- **The order of answers does not matter.**  Take a valid model, a target whose answers depend on
the request alone, and a run that is not broken off, as none is that nobody cancels.  Whatever the
number of workers and the order in which the requests are done with, the run ends without an error,
with the summary and the model that come of asking about one expression after another. -/
theorem verify_eq_checkInTurn {m : Model} (hvalid : m.validate = .ok ()) (seconds : Nat)
    (respond : Request → Answer) :
    (∃ summary after, checkInTurn seconds respond m = (.ok summary, after))
      ∧ (∀ workers x, Verifies seconds workers respond m x ↔ x = checkInTurn seconds respond m)
      ∧ (∀ workers workers' x x', Verifies seconds workers respond m x →
        Verifies seconds workers' respond m x' → x = x')
      ∧ ∀ (limits : Limits) (channel : Request → Response),
        limits.timeoutMilliseconds / 1000 = seconds → Replies channel respond →
        ((verify limits (.channel channel) false m).summary,
          (verify limits (.channel channel) false m).model) = checkInTurn seconds respond m := by
  have hm := ((Model.validate_eq_ok_iff m).1 hvalid).hasDistinctParts
  have hiff := fun workers x => verifies_iff hm seconds workers respond x
  refine ⟨?_, hiff, ?_, ?_⟩
  · obtain ⟨cancelled, c, hc, hx⟩ := (hiff 1 _).2 rfl
    have hpossible : (Exchange.collected c).IsPossible 1 cancelled m := hc.collects
    obtain ⟨summary, after, hconclude, -⟩ := conclude_accounts hvalid seconds 1 cancelled hpossible
    exact ⟨summary, after, hx.trans hconclude⟩
  · intro workers workers' x x' hx hx'
    rw [(hiff workers x).1 hx, (hiff workers' x').1 hx']
  · rintro limits channel rfl hreplies
    exact (hiff limits.workers _).1 (verifies_verify hreplies limits m)

/-- The check is accepted at once; the time of everything else runs out. -/
def onlyChecks (r : Request) : Answer := if r.kind = .check then .accepted else .timedOut

/-- The run with the late answers is a verification. -/
theorem verifies_lateAnswers :
    Verifies 30 2 onlyChecks checkedModel (conclude 30 (.collected lateAnswers) checkedModel) := by
  have hreplies : Replies (fun r => ⟨if r.kind = .check then some .accepted else none, false⟩)
      onlyChecks := by
    intro r
    unfold onlyChecks Response.reply
    cases decEq r.kind .check <;> simp [*]
  exact ⟨false, lateAnswers, gathers_runAll hreplies 2 _, rfl⟩

/-- With two workers the answer about the check comes first, with one worker that about the
default. -/
theorem verify_eq_checkInTurn_lateAnswers :
    checkedModel.validate = .ok () ∧ lateAnswers.completions.map (·.position) = [1, 0]
      ∧ conclude 30 (.collected lateAnswers) checkedModel = checkInTurn 30 onlyChecks checkedModel
      ∧ ∀ x, Verifies 30 1 onlyChecks checkedModel x →
        x = conclude 30 (.collected lateAnswers) checkedModel := by
  have hvalid : checkedModel.validate = .ok () := by decide
  obtain ⟨-, hiff, hsame, -⟩ := verify_eq_checkInTurn hvalid 30 onlyChecks
  exact ⟨hvalid, by decide, (hiff 2 _).1 verifies_lateAnswers,
    fun x hx => hsame 1 2 x _ hx verifies_lateAnswers⟩

end SchemaBridge.Verification
