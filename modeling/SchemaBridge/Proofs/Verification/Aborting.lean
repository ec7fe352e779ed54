/-
# When a verification is flagged as broken off

A run that is cancelled says so with one issue, and a model with this issue is not saved as a complete
one.  Whatever was left without an answer is reported too, and nothing is left without one unless the
run was cancelled, so a model with gaps is always flagged.  The converse fails in one case: the
collector looks for a cancellation after every completion, the last one included, and a run that was
cancelled when all its answers were there is flagged although nothing is missing.

## Key statements

* `Collects.isSome_finishedAt`: a run that was not cancelled has an answer at every position.
* `missed_applyEach`: how many expressions are counted as left out.
* `conclude_tells`, `verify_isTold`: what a run tells about its end, for everything that can come of
  its requests.
* `exists_isLate`: the exception is there for every model with an expression.
-/
import SchemaBridge.Proofs.Verification.InTurn
import SchemaBridge.Session.Envelope

namespace SchemaBridge.Verification

/-! ## What is missing -/

/-- The expressions that were left unchecked by a run that was cancelled. -/
def Exchange.unchecked (m : Model) : Exchange → List ExpressionSlot
  | .missing _ => []
  | .collected c =>
    ((slots m).zipIdx.filter fun x => (finishedAt c.completions x.2).isNone).map (·.1)

/-- Whether a run ended because it was found to be cancelled. -/
def Exchange.stopped : Exchange → Bool
  | .missing _ => false
  | .collected c => c.aborted

/-- The run was found to be cancelled when every request had its answer. -/
def Exchange.IsLate (m : Model) (exchange : Exchange) : Prop :=
  exchange.stopped = true ∧ slots m ≠ [] ∧ exchange.unchecked m = []

/-- The issues that say that a verification was cancelled. -/
def abortFlags (m : Model) : List Issue :=
  m.issues.filter fun i => i.stage = .verifier ∧ i.category = .aborted

/-- What the model tells about the end of a run. -/
structure Tells (m : Model) (exchange : Exchange) (after : Model) : Prop where
  /-- What was left unchecked is reported and has no verdict. -/
  reported : ∀ slot ∈ exchange.unchecked m, skipIssue m slot "cancelled" ∈ after.issues
    ∧ (after.expression? slot).map (·.status) = some .unverified
  /-- A run that stopped is flagged once, with the number of expressions that were checked. -/
  flags : abortFlags after
    = abortIssues (exchange.stopped && !(slots m).isEmpty) (exchange.unchecked m).length
      (slots m).length
  /-- Something is missing only if the run stopped. -/
  gaps : exchange.unchecked m ≠ [] → exchange.stopped = true

variable {workers : Nat} {cancelled : Bool} {asked : List Request} {c : Collection} {m : Model}

/-- When every request is done with and has an answer, there is one at every position. -/
theorem isSome_finishedAt {ks : List Completion}
    (hall : (ks.map fun k => (k.position, k.request)).Perm (Flight.numbered asked))
    (hanswered : ∀ k ∈ ks, k.answer.isSome = true) {i : Nat} (hi : i < asked.length) :
    (finishedAt ks i).isSome = true := by
  have hnumbered : (i, asked[i]) ∈ Flight.numbered asked :=
    List.mem_map.2 ⟨(asked[i], i),
      List.mem_zipIdx_iff_getElem?.2 (List.getElem?_eq_getElem hi), rfl⟩
  obtain ⟨k, hk, hki⟩ := List.mem_map.1 (hall.symm.subset hnumbered)
  have hposition : k.position = i := congrArg Prod.fst hki
  have hfound : (ks.find? (·.position = i)).isSome = true :=
    List.find?_isSome.2 ⟨k, hk, decide_eq_true hposition⟩
  obtain ⟨k', hk'⟩ := Option.isSome_iff_exists.1 hfound
  have hanswer := hanswered k' (List.mem_of_find?_eq_some hk')
  unfold finishedAt
  rw [hk']
  show (k'.answer.map fun a => (k'.request, a)).isSome = true
  rw [Option.isSome_map]
  exact hanswer

/-- A run that was not cancelled has an answer at every position. -/
theorem Collects.isSome_finishedAt (h : Collects workers cancelled asked c)
    (hgoes : c.aborted = false) {i : Nat} (hi : i < asked.length) :
    (finishedAt c.completions i).isSome = true := by
  obtain ⟨f, hsteps, hends⟩ := h
  cases hends with
  | aborted => cases hgoes
  | through hholding hwaiting hplaced hsent =>
    -- all requests have come to the collector, and it dropped none of them
    have hperm := Flight.perm_tickets_of_steps hsteps
    refine Verification.isSome_finishedAt ?_ (Flight.isAnswered_of_steps hsteps hholding) hi
    simpa [Flight.tickets, Flight.start, hwaiting, hplaced, hsent] using hperm

/-- Where nothing is missing, every expression has an answer. -/
theorem unchecked_eq_nil_iff :
    (Exchange.collected c).unchecked m = []
      ↔ ∀ i < (slots m).length, (finishedAt c.completions i).isSome = true := by
  unfold Exchange.unchecked
  rw [List.map_eq_nil_iff, List.filter_eq_nil_iff]
  constructor
  · intro h i hi
    have hmem : ((slots m)[i], i) ∈ (slots m).zipIdx :=
      List.mem_zipIdx_iff_getElem?.2 (List.getElem?_eq_getElem hi)
    simpa [Option.isSome_iff_ne_none] using h _ hmem
  · rintro h ⟨slot, i⟩ hx
    rw [List.mem_zipIdx_iff_getElem?] at hx
    obtain ⟨hi, -⟩ := List.getElem?_eq_some_iff.1 hx
    simpa [Option.isSome_iff_ne_none] using h i hi

/-! ## Counting what is missing -/

namespace Settling

/-- A verdict is no gap. -/
theorem missed_judge {s s' : Settling} {slot : ExpressionSlot}
    {verdict : Expression → Outcome Expression} {count : Summary → Summary}
    (h : s.judge slot verdict count = .ok s') : s'.missed = s.missed := by
  unfold judge at h
  split at h
  · cases h
    rfl
  · obtain ⟨e, -, h⟩ := bind_eq_ok_iff.1 h
    cases h
    rfl

/-- An expression is counted as left out when there is no answer for it. -/
theorem missed_apply {seconds : Nat} {s s' : Settling} {slot : ExpressionSlot}
    {a : Option (Request × Answer)} (h : s.apply seconds slot a = .ok s') :
    s'.missed = s.missed + if a.isNone then 1 else 0 := by
  rcases a with _ | ⟨r, _ | message | e | _⟩
  · cases h
    rfl
  · have hjudge : s.judge slot (·.markVerified r.text)
        (fun k => { k with verified := k.verified + 1 }) = .ok s' := h
    exact missed_judge hjudge
  · obtain ⟨s₁, hs₁, h⟩ := bind_eq_ok_iff.1 h
    have hmissed := missed_judge hs₁
    cases h
    exact hmissed
  · cases h
    rfl
  · cases h
    rfl

/-- The gaps are the slots without an answer. -/
theorem missed_applyEach {seconds : Nat} {s s' : Settling}
    {answers : List (ExpressionSlot × Option (Request × Answer))}
    (h : s.applyEach seconds answers = (.ok (), s')) :
    s'.missed = s.missed + answers.countP (·.2.isNone) := by
  induction answers generalizing s with
  | nil =>
    cases h
    rfl
  | cons x answers ih =>
    unfold applyEach at h
    split at h
    · rename_i s₁ hs₁
      rw [ih h, missed_apply hs₁, List.countP_cons]
      omega
    · cases h

/-- The expressions without an answer are those that are left out. -/
theorem countP_matched (m : Model) (c : Collection) :
    (matched c.completions 0 (slots m)).countP (·.2.isNone)
      = ((Exchange.collected c).unchecked m).length := by
  unfold matched Exchange.unchecked
  rw [List.countP_map, List.length_map, List.countP_eq_length_filter]
  rfl

end Settling

/-! ## What a run tells -/

/-- The issues of an expression are no flags. -/
theorem not_flag_of_mem_verdictIssues {seconds : Nat} {slot : ExpressionSlot}
    {a : Option (Request × Answer)} {i : Issue} (h : i ∈ verdictIssues seconds m slot a) :
    ¬ (i.stage = .verifier ∧ i.category = .aborted) := by
  rintro ⟨-, haborted⟩
  rcases a with _ | ⟨r, _ | message | e | _⟩
  · rw [List.mem_singleton.1 h] at haborted
    cases haborted
  · cases h
  all_goals
    rw [List.mem_singleton.1 h] at haborted
    cases haborted

/-- Flags are what is neither of another stage nor about an expression. -/
theorem abortFlags_eq (m : Model) {after : Model} {own : List Issue} {aborted : Bool}
    {missed all : Nat}
    (hown : ∀ i ∈ own, ¬ (i.stage = .verifier ∧ i.category = .aborted))
    (hissues : after.issues = (m.issues.filter fun i => i.stage ≠ .verifier) ++ own
      ++ abortIssues aborted missed all) :
    abortFlags after = abortIssues aborted missed all := by
  have hothers : (m.issues.filter fun i => i.stage ≠ .verifier).filter
      (fun i => i.stage = .verifier ∧ i.category = .aborted) = [] := by
    rw [List.filter_eq_nil_iff]
    intro i hi
    have hstage : i.stage ≠ .verifier := by simpa using (List.mem_filter.1 hi).2
    simp [hstage]
  have hnone : own.filter (fun i => i.stage = .verifier ∧ i.category = .aborted) = [] := by
    rw [List.filter_eq_nil_iff]
    intro i hi
    simpa using hown i hi
  have hlast : (abortIssues aborted missed all).filter
      (fun i => i.stage = .verifier ∧ i.category = .aborted) = abortIssues aborted missed all := by
    cases aborted <;> rfl
  unfold abortFlags
  rw [hissues, List.filter_append, List.filter_append, hothers, hnone, hlast, List.nil_append,
    List.nil_append]

/-- An expression without an answer is reported, and stays without a verdict. -/
theorem reported_of_applied (hm : m.HasDistinctParts) {seconds : Nat} {s : Settling}
    (happlied : Applied seconds (.start (prepare m)) s
      (Settling.matched c.completions 0 (slots m))) {slot : ExpressionSlot}
    (hslot : slot ∈ (Exchange.collected c).unchecked m) :
    skipIssue m slot "cancelled" ∈ s.model.issues
      ∧ (s.model.expression? slot).map (·.status) = some .unverified := by
  obtain ⟨⟨slot, i⟩, hx, rfl⟩ := List.mem_map.1 hslot
  obtain ⟨hx, hnone⟩ := List.mem_filter.1 hx
  rw [Option.isNone_iff_eq_none] at hnone
  -- it is matched with no answer, and so it is skipped
  have hmatched : (slot, none) ∈ Settling.matched c.completions 0 (slots m) := by
    rw [← hnone]
    exact List.mem_map_of_mem hx
  constructor
  · have hissues := happlied.issues
    simp only [Settling.start, verdictIssues_of_sameBare seconds (sameBare_prepare m)] at hissues
    rw [hissues]
    exact List.mem_append_right _ (List.mem_flatMap.2 ⟨_, hmatched, List.mem_singleton.2 rfl⟩)
  · have hmem : slot ∈ slots m := List.mem_of_getElem? (List.mem_zipIdx_iff_getElem?.1 hx)
    obtain ⟨-, e, -, -, hfresh⟩ := expression_of_mem_slots hm hmem
    have hjudged : s.model.expression? slot
        = ((prepare m).expression? slot).map fun e => judged e none :=
      happlied.judged _ hmatched
    show (s.model.expression? slot).map (·.status) = _
    rw [hjudged, hfresh]
    rfl

/-- What was collected is told, and what is missing as well. -/
theorem tells_collected (hm : m.HasDistinctParts) (hslots : slots m ≠ []) (seconds : Nat)
    (h : Collects workers cancelled ((requests (prepare m)).map (·.2)) c) :
    ∃ summary after, conclude seconds (.collected c) m = (.ok summary, after)
      ∧ Tells m (.collected c) after := by
  obtain ⟨s, hs, happlied, hsettle⟩ := settle_each hm seconds h.nodup
  have hmissed : s.missed = ((Exchange.collected c).unchecked m).length := by
    rw [Settling.missed_applyEach hs, Settling.countP_matched]
    exact Nat.zero_add _
  rw [hmissed] at hsettle
  refine ⟨s.summary, _, (conclude_collected hslots seconds c).trans hsettle, ?_, ?_, ?_⟩
  · intro slot hslot
    obtain ⟨hissue, hstatus⟩ := reported_of_applied hm happlied hslot
    exact ⟨List.mem_append_left _ hissue, hstatus⟩
  · have hsome : (slots m).isEmpty = false := by simpa using hslots
    have hissues := happlied.issues
    simp only [Settling.start, issues_prepare] at hissues
    rw [hsome, Bool.not_false, Bool.and_true]
    refine abortFlags_eq m ?_ (congrArg (· ++ _) hissues)
    intro i hi
    obtain ⟨x, -, hi⟩ := List.mem_flatMap.1 hi
    exact not_flag_of_mem_verdictIssues hi
  · -- a run that went through has all its answers
    intro hgaps
    by_contra hgoes
    refine hgaps (unchecked_eq_nil_iff.2 fun i hi => ?_)
    exact h.isSome_finishedAt (eq_false_of_ne_true hgoes) (length_requests_prepare hm ▸ hi)

/-- Without anyone to ask nothing is told of a cancellation, and nothing is missing because of one. -/
theorem tells_missing (seconds : Nat) (reason : String) (m : Model) :
    ∃ summary after, conclude seconds (.missing reason) m = (.ok summary, after)
      ∧ Tells m (.missing reason) after := by
  have hskip := (skip_each (prepare m) (slots (prepare m)) reason).2.2
  have hnone : Tells m (.missing reason)
      ((slots (prepare m)).foldl (fun m s => skip m s reason) (prepare m)) := by
    refine ⟨by exact nofun, ?_, fun h => (h rfl).elim⟩
    have hown : ∀ i ∈ (slots (prepare m)).map fun s => skipIssue (prepare m) s reason,
        ¬ (i.stage = .verifier ∧ i.category = .aborted) := by
      intro i hi
      obtain ⟨s, -, rfl⟩ := List.mem_map.1 hi
      rintro ⟨-, haborted⟩
      cases haborted
    refine abortFlags_eq m hown ?_
    rw [hskip, issues_prepare]
    exact (List.append_nil _).symm
  unfold conclude
  dsimp only
  split
  · rename_i hslots
    rw [List.isEmpty_iff] at hslots
    rw [hslots] at hnone
    exact ⟨_, _, rfl, hnone⟩
  · exact ⟨_, _, rfl, hnone⟩

/-- Whatever came of the requests for a valid model, the end of the run is told. -/
theorem conclude_tells (hvalid : m.validate = .ok ()) (seconds : Nat) {exchange : Exchange}
    (h : exchange.IsPossible workers cancelled m) :
    ∃ summary after, conclude seconds exchange m = (.ok summary, after)
      ∧ Tells m exchange after := by
  have hm := ((Model.validate_eq_ok_iff m).1 hvalid).hasDistinctParts
  cases exchange with
  | missing reason => exact tells_missing seconds reason m
  | collected c =>
    by_cases hslots : slots m = []
    · refine ⟨_, _, conclude_of_slots_eq_nil hslots seconds _, ?_, ?_, ?_⟩
      · intro slot hslot
        simp [Exchange.unchecked, hslots] at hslot
      · rw [hslots, List.isEmpty_nil, Bool.not_true, Bool.and_false]
        refine abortFlags_eq m (List.forall_mem_nil _) ?_
        rw [issues_prepare, List.append_nil]
        exact (List.append_nil _).symm
      · intro hgaps
        simp [Exchange.unchecked, hslots] at hgaps
    · exact tells_collected hm hslots seconds h

/-! ## Cancelled at the last moment -/

namespace Flight

/-- A flight whose collector goes on, or has the completion in hand that came last. -/
def between (waiting : List (Nat × Request)) (completions : List Completion) (holding : Bool) :
    Flight :=
  { waiting, placed := [], sent := [], cancelled := false, completions, holding }

/-- A request that was accepted. -/
def accepted (q : Nat × Request) : Completion := ⟨q.1, q.2, some .accepted⟩

/-- A request gets a place, is sent and is accepted. -/
theorem steps_accepted (hworkers : 0 < workers) (q : Nat × Request) (rest : List (Nat × Request))
    (done : List Completion) :
    Steps workers (between (q :: rest) done false) (between rest (done ++ [accepted q]) true) := by
  have hplace : Step workers (between (q :: rest) done false)
      { between rest done false with placed := [q] } := .place rfl rfl hworkers
  have hsend : Step workers { between rest done false with placed := [q] }
      { between rest done false with sent := [q] } :=
    .send (a := []) (b := []) rfl rfl rfl
  have hanswer : Step workers { between rest done false with sent := [q] }
      (between rest (done ++ [accepted q]) true) :=
    .answer (a := []) (b := []) .accepted rfl rfl
  exact ((Relation.ReflTransGen.single hplace).tail hsend).tail hanswer

/-- One request after another is accepted, and nobody has looked for a cancellation since the last. -/
theorem steps_allAccepted (hworkers : 0 < workers) {waiting : List (Nat × Request)}
    (hwaiting : waiting ≠ []) (done : List Completion) :
    Steps workers (between waiting done false)
      (between [] (done ++ waiting.map accepted) true) := by
  induction waiting generalizing done with
  | nil => exact (hwaiting rfl).elim
  | cons q rest ih =>
    have hfirst := steps_accepted hworkers q rest done
    cases rest with
    | nil => exact hfirst
    | cons q' rest =>
      have hgo : Step workers (between (q' :: rest) (done ++ [accepted q]) true)
          (between (q' :: rest) (done ++ [accepted q]) false) := .goOn rfl rfl
      have hlater := ih (List.cons_ne_nil _ _) (done ++ [accepted q])
      rw [List.append_assoc] at hlater
      exact (hfirst.tail hgo).trans hlater

end Flight

/-- Every run can be cancelled when all its answers are there. -/
theorem exists_isLate (hm : m.HasDistinctParts) (hslots : slots m ≠ []) (workers : Nat) :
    ∃ exchange : Exchange, exchange.IsPossible workers false m ∧ exchange.IsLate m := by
  have hlength := length_requests_prepare hm
  generalize hasked : (requests (prepare m)).map (·.2) = asked at hlength
  have hwaiting : Flight.numbered asked ≠ [] := by
    intro hnil
    have hzero := congrArg List.length hnil
    rw [Flight.numbered, List.length_map, List.length_zipIdx, hlength] at hzero
    exact hslots (List.length_eq_zero_iff.1 hzero)
  have hworkers : 0 < max workers 1 := Nat.lt_of_lt_of_le Nat.zero_lt_one (Nat.le_max_right _ _)
  have hsteps := Flight.steps_allAccepted hworkers hwaiting []
  rw [List.nil_append] at hsteps
  -- the cancellation comes between the last answer and the look that follows it
  have hcancel : Flight.Step (max workers 1) _ _ :=
    .cancel (Flight.between [] ((Flight.numbered asked).map Flight.accepted) true)
  refine ⟨.collected ⟨(Flight.numbered asked).map Flight.accepted, true⟩, ?_, rfl, hslots, ?_⟩
  · show Collects _ _ ((requests (prepare m)).map (·.2)) _
    rw [hasked]
    exact ⟨_, hsteps.tail hcancel, .aborted rfl rfl⟩
  · refine unchecked_eq_nil_iff.2 fun i hi => ?_
    have hall : (((Flight.numbered asked).map Flight.accepted).map
        fun k => (k.position, k.request)).Perm (Flight.numbered asked) := by
      rw [List.map_map]
      exact List.Perm.of_eq (List.map_id _)
    have hanswered : ∀ k ∈ (Flight.numbered asked).map Flight.accepted,
        k.answer.isSome = true := by
      intro k hk
      obtain ⟨q, -, rfl⟩ := List.mem_map.1 hk
      rfl
    exact isSome_finishedAt hall hanswered (hlength ▸ hi)

/-! ## Whole runs -/

/-- What comes of the requests for a model when the pool puts them to an endpoint. -/
def Endpoint.exchange (workers : Nat) (cancelled : Bool) (m : Model) : Endpoint → Exchange
  | .missing reason => .missing reason
  | .channel respond =>
    .collected (Pool.runAll workers respond cancelled ((requests (prepare m)).map (·.2))).2

/-- What an endpoint exchanges is possible. -/
theorem Endpoint.isPossible_exchange (endpoint : Endpoint) (workers : Nat) (cancelled : Bool)
    (m : Model) : (endpoint.exchange workers cancelled m).IsPossible workers cancelled m := by
  cases endpoint with
  | missing reason => trivial
  | channel respond => exact Pool.collects_runAll workers respond cancelled _

/-- A verification concludes what its endpoint exchanges. -/
theorem verify_exchange (limits : Limits) (endpoint : Endpoint) (cancelled : Bool) (m : Model) :
    ((verify limits endpoint cancelled m).summary, (verify limits endpoint cancelled m).model)
      = conclude (limits.timeoutMilliseconds / 1000)
        (endpoint.exchange limits.workers cancelled m) m := by
  cases endpoint <;> rfl

/-- How a run is told in full: it is flagged when something is missing, and when it was found to be
cancelled too late for that. -/
structure IsTold (m : Model) (exchange : Exchange) (after : Model) : Prop
    extends Tells m exchange after where
  once : (abortFlags after).length ≤ 1
  flagged : abortFlags after ≠ [] ↔ exchange.unchecked m ≠ [] ∨ exchange.IsLate m
  /-- A model that is flagged late is complete, and is not saved. -/
  late : exchange.IsLate m → abortFlags after = abortIssues true 0 (slots m).length
    ∧ ∀ now, ∃ detail, Session.encodeComplete after now = .error (.partialSession detail)

/-- A run says once at most that it was broken off. -/
theorem length_abortIssues (aborted : Bool) (missed all : Nat) :
    (abortIssues aborted missed all).length = aborted.toNat := by
  cases aborted <;> rfl

/-- A model with a flag is partial. -/
theorem isPartial_of_abortFlags {after : Model} (h : abortFlags after ≠ []) :
    after.isPartial = true := by
  obtain ⟨i, hi⟩ := List.exists_mem_of_ne_nil _ h
  obtain ⟨hi, hflag⟩ := List.mem_filter.1 hi
  exact List.any_eq_true.2 ⟨i, hi, decide_eq_true (of_decide_eq_true hflag).2⟩

/-- What tells of a run is as the model tells it. -/
theorem Tells.isTold {exchange : Exchange} {after : Model} (h : Tells m exchange after) :
    IsTold m exchange after := by
  have hlength := congrArg List.length h.flags
  rw [length_abortIssues] at hlength
  -- there is something to flag exactly if there was something to ask
  have hflagged : abortFlags after ≠ [] ↔ exchange.stopped = true ∧ slots m ≠ [] := by
    rw [← List.length_pos_iff, hlength]
    cases exchange.stopped <;> cases hslots : slots m <;> simp
  refine { h with once := ?_, flagged := ?_, late := ?_ }
  · rw [hlength]
    exact Bool.toNat_le _
  · rw [hflagged]
    constructor
    · rintro ⟨hstopped, hslots⟩
      by_cases hgaps : exchange.unchecked m = []
      · exact .inr ⟨hstopped, hslots, hgaps⟩
      · exact .inl hgaps
    · rintro (hgaps | ⟨hstopped, hslots, -⟩)
      · refine ⟨h.gaps hgaps, fun hslots => hgaps ?_⟩
        cases exchange <;> simp [Exchange.unchecked, hslots]
      · exact ⟨hstopped, hslots⟩
  · rintro ⟨hstopped, hslots, hgaps⟩
    have hpartial := isPartial_of_abortFlags (hflagged.2 ⟨hstopped, hslots⟩)
    constructor
    · have hsome : (slots m).isEmpty = false := by simpa using hslots
      rw [h.flags, hstopped, hsome, hgaps]
      rfl
    · intro now
      unfold Session.encodeComplete
      rw [if_pos hpartial]
      exact ⟨_, rfl⟩

/-- **A model with gaps is flagged.**  Whether there is no one to ask, or answers are collected of the
requests for a valid model, in whatever order and up to whatever cancellation, a run that leaves
something unchecked because it was cancelled reports it and is flagged once.  Beside that a run is
flagged in one case only: it was found to be cancelled when nothing was missing, which can happen to
every model with an expression. -/
theorem verify_isTold (hvalid : m.validate = .ok ()) (limits : Limits) (cancelled : Bool) :
    (∀ exchange : Exchange, exchange.IsPossible limits.workers cancelled m →
      ∃ summary after,
        conclude (limits.timeoutMilliseconds / 1000) exchange m = (.ok summary, after)
          ∧ IsTold m exchange after)
      ∧ (∀ endpoint : Endpoint, ∃ summary,
        (verify limits endpoint cancelled m).summary = .ok summary
          ∧ IsTold m (endpoint.exchange limits.workers cancelled m)
            (verify limits endpoint cancelled m).model)
      ∧ (slots m ≠ [] →
        ∃ exchange : Exchange, exchange.IsPossible limits.workers false m ∧ exchange.IsLate m) := by
  refine ⟨?_, ?_, ?_⟩
  · intro exchange h
    obtain ⟨summary, after, hconclude, htells⟩ := conclude_tells hvalid _ h
    exact ⟨summary, after, hconclude, htells.isTold⟩
  · intro endpoint
    have hpossible := endpoint.isPossible_exchange limits.workers cancelled m
    obtain ⟨summary, after, hconclude, htells⟩ := conclude_tells hvalid
      (limits.timeoutMilliseconds / 1000) hpossible
    -- a whole run is the conclusion of the answers that its channel gave
    have hverify := verify_exchange limits endpoint cancelled m
    rw [hconclude] at hverify
    obtain ⟨hsummary, hmodel⟩ := Prod.mk.inj hverify
    exact ⟨summary, hsummary, hmodel ▸ htells.isTold⟩
  · intro hslots
    have hm := ((Model.validate_eq_ok_iff m).1 hvalid).hasDistinctParts
    exact exists_isLate hm hslots limits.workers

theorem verify_isTold_checkedModel :
    checkedModel.validate = .ok () ∧ slots checkedModel = [.default ⟨1⟩ ⟨2⟩, .check ⟨1⟩ ⟨3⟩]
      ∧ (Exchange.collected lateAnswers).IsPossible 2 false checkedModel
      ∧ ∃ summary after, conclude 30 (.collected lateAnswers) checkedModel = (.ok summary, after)
        ∧ IsTold checkedModel (.collected lateAnswers) after := by
  have hvalid : checkedModel.validate = .ok () := by decide
  have hpossible : (Exchange.collected lateAnswers).IsPossible 2 false checkedModel :=
    Pool.collects_runAll 2 _ false _
  exact ⟨hvalid, by decide, hpossible, (verify_isTold hvalid ⟨2, 30000⟩ false).1 _ hpossible⟩

/-- A target that accepts everything; the run is cancelled while it looks at a check. -/
def lastMoment (r : Request) : Response := ⟨some .accepted, r.kind = .check⟩

/-- The check comes last, so everything has its answer when the run is found to be cancelled. -/
def lastAnswers : Collection :=
  (Pool.runAll 1 lastMoment false ((requests (prepare checkedModel)).map (·.2))).2

/-- A run that is cancelled at the last moment leaves nothing unchecked, and the model that comes of it
is flagged and not saved. -/
theorem lastMoment_flagged :
    (verify ⟨1, 30000⟩ (.channel lastMoment) false checkedModel).summary = .ok ⟨2, 0, 0⟩
      ∧ ((Endpoint.channel lastMoment).exchange 1 false checkedModel).unchecked checkedModel = []
      ∧ abortFlags (verify ⟨1, 30000⟩ (.channel lastMoment) false checkedModel).model
        = [issue .aborted .schema "Verification cancelled after 2 of 2 expressions"]
      ∧ Session.encodeComplete (verify ⟨1, 30000⟩ (.channel lastMoment) false checkedModel).model
          ⟨0, 0⟩
        = .error (.partialSession
          "model is incomplete (run was aborted); use save_partial to keep it") := by
  have horder : lastAnswers.inOrder = lastAnswers.completions :=
    List.mergeSort_of_pairwise (by decide +kernel)
  have hverify := (verify_exchange ⟨1, 30000⟩ (.channel lastMoment) false checkedModel).trans
    (conclude_collected (by decide) 30 lastAnswers)
  obtain ⟨hsummary, hmodel⟩ := Prod.ext_iff.1 hverify
  dsimp only at hsummary hmodel
  rw [hsummary, hmodel]
  unfold settle
  rw [horder]
  decide +kernel

end SchemaBridge.Verification
