/-
# Verdicts are accounted for

Whatever is collected of the requests for a valid model, every expression ends in one of three
states, by the answer to its own request: verified, rejected, or neither, with an issue that says
why.  The counts of the summary are those of the states.

## Key statements

* `applyAll_eq`: completions meet the expressions whose requests they answer.
* `applyEach_spec`: what a run over distinct slots does to each of them.
* `conclude_accounts`, `verify_accounts`: every expression of a valid model is accounted for.
-/
import SchemaBridge.Proofs.Verification.Expressions
import SchemaBridge.Proofs.Verification.Schedules

namespace SchemaBridge.Verification

/-! ## Completions by their positions -/

/-- The request and the answer that were collected under a position. -/
def finishedAt (ks : List Completion) (i : Nat) : Option (Request × Answer) :=
  (ks.find? (·.position = i)).bind (·.finished?)

/-- Completions in strictly ascending order, from a position on. -/
structure Ascending (i : Nat) (ks : List Completion) : Prop where
  ordered : ks.Pairwise fun a b => a.position < b.position
  from_start : ∀ k ∈ ks, i ≤ k.position

/-- Of ascending completions, the first is the one at the position if there is one, and the others
are left. -/
theorem nextIf_spec {i : Nat} {ks : List Completion} (h : Ascending i ks) :
    (nextIf i ks).1 = ks.find? (·.position = i) ∧ Ascending (i + 1) (nextIf i ks).2
      ∧ ∀ j, i < j → (nextIf i ks).2.find? (·.position = j) = ks.find? (·.position = j) := by
  cases ks with
  | nil => exact ⟨rfl, ⟨List.Pairwise.nil, fun k hk => by cases hk⟩, fun j _ => rfl⟩
  | cons k r =>
    obtain ⟨hhead, htail⟩ := List.pairwise_cons.1 h.ordered
    have hk := h.from_start k List.mem_cons_self
    -- completions ascend, so one at another position is a later one
    by_cases hi : k.position = i
    · have hnext : nextIf i (k :: r) = (some k, r) := by simp [nextIf, hi]
      rw [hnext]
      refine ⟨by simp [hi], ⟨htail, fun a ha => ?_⟩, fun j hj => ?_⟩
      · have := hhead a ha
        omega
      · have hne : k.position ≠ j := by omega
        simp [hne]
    · have hnext : nextIf i (k :: r) = (none, k :: r) := by simp [nextIf, hi]
      have hlater : ∀ a ∈ k :: r, i < a.position := by
        intro a ha
        rcases List.mem_cons.1 ha with rfl | ha
        · omega
        · have := hhead a ha
          omega
      rw [hnext]
      refine ⟨?_, ⟨h.ordered, hlater⟩, fun j _ => rfl⟩
      refine (List.find?_eq_none.2 fun a ha => ?_).symm
      have := hlater a ha
      simp
      omega

/-- Completions of distinct positions are found in whatever order they stand. -/
theorem finishedAt_perm {ks ks' : List Completion} (h : ks'.Perm ks)
    (hks : (ks.map (·.position)).Nodup) (i : Nat) : finishedAt ks' i = finishedAt ks i := by
  have hks' : (ks'.map (·.position)).Nodup := (h.map _).symm.nodup hks
  have hfind : ks'.find? (·.position = i) = ks.find? (·.position = i) := by
    by_cases hmem : ∃ k ∈ ks, k.position = i
    · obtain ⟨k, hk, rfl⟩ := hmem
      rw [find?_of_mem hks hk, find?_of_mem hks' (h.symm.subset hk)]
    · have hnone : ks.find? (·.position = i) = none :=
        List.find?_eq_none.2 fun k hk => by simpa using fun hi => hmem ⟨k, hk, hi⟩
      have hnone' : ks'.find? (·.position = i) = none :=
        List.find?_eq_none.2 fun k hk => by simpa using fun hi => hmem ⟨k, h.subset hk, hi⟩
      rw [hnone, hnone']
  rw [finishedAt, hfind, ← finishedAt]

/-- Completions in order are those that came. -/
theorem perm_inOrder (c : Collection) : c.inOrder.Perm c.completions :=
  List.mergeSort_perm _ _

theorem ascending_inOrder {c : Collection} (h : (c.completions.map (·.position)).Nodup) :
    Ascending 0 c.inOrder := by
  have hle : c.inOrder.Pairwise fun a b => decide (a.position ≤ b.position) = true :=
    List.pairwise_mergeSort (fun a b d hab hbd => by simp at hab hbd ⊢; omega)
      (fun a b => by simp; omega) c.completions
  have hne : c.inOrder.Pairwise fun a b => a.position ≠ b.position :=
    List.pairwise_map.1 (((perm_inOrder c).map _).symm.nodup h)
  refine ⟨(hle.and hne).imp fun {a b} hab => ?_, fun k _ => Nat.zero_le _⟩
  have := of_decide_eq_true hab.1
  omega

namespace Settling

/-- Apply to each expression what was found for it. -/
def applyEach (seconds : Nat) (s : Settling) :
    List (ExpressionSlot × Option (Request × Answer)) → Outcome Unit × Settling
  | [] => (.ok (), s)
  | (slot, a) :: rest =>
    match s.apply seconds slot a with
    | .ok s => s.applyEach seconds rest
    | .error e => (.error e, s)

/-- Expressions with what was collected under their positions, counted from `i` on. -/
def matched (ks : List Completion) (i : Nat) (order : List ExpressionSlot) :
    List (ExpressionSlot × Option (Request × Answer)) :=
  (order.zipIdx i).map fun x => (x.1, finishedAt ks x.2)

/-- Each slot is matched with what came for it. -/
theorem map_fst_matched (ks : List Completion) (i : Nat) (order : List ExpressionSlot) :
    (matched ks i order).map (·.1) = order := by
  rw [matched, List.map_map]
  exact List.zipIdx_map_fst i order

/-- What came for a slot is what came under its position. -/
theorem getElem?_matched (ks : List Completion) (order : List ExpressionSlot) (i : Nat) :
    (matched ks 0 order)[i]? = order[i]?.map fun slot => (slot, finishedAt ks i) := by
  rw [matched, List.getElem?_map, List.getElem?_zipIdx, Option.map_map, Nat.zero_add]
  rfl

/-- The walk along the completions meets each of them at the expression of its position. -/
theorem applyAll_eq (seconds : Nat) (s : Settling) {i : Nat} {ks : List Completion}
    (h : Ascending i ks) (order : List ExpressionSlot) :
    s.applyAll seconds i ks order = s.applyEach seconds (matched ks i order) := by
  induction order generalizing s i ks with
  | nil => rfl
  | cons slot rest ih =>
    obtain ⟨hfirst, hrest, hsame⟩ := nextIf_spec h
    have hlater : matched (nextIf i ks).2 (i + 1) rest = matched ks (i + 1) rest := by
      refine List.map_congr_left fun x hx => ?_
      have hi : i < x.2 := List.le_snd_of_mem_zipIdx hx
      rw [finishedAt, hsame x.2 hi, ← finishedAt]
    show (match s.apply seconds slot ((nextIf i ks).1.bind (·.finished?)) with
      | .ok s => s.applyAll seconds (i + 1) (nextIf i ks).2 rest
      | .error e => (.error e, s)) = _
    rw [hfirst]
    show _ = (match s.apply seconds slot (finishedAt ks i) with
      | .ok s => s.applyEach seconds (matched ks (i + 1) rest)
      | .error e => (.error e, s))
    rw [← finishedAt]
    cases s.apply seconds slot (finishedAt ks i) with
    | error e => rfl
    | ok s => rw [← hlater]; exact ih s hrest

end Settling

/-! ## One expression -/

/-- What an unverified expression becomes. -/
def judged (e : Expression) : Option (Request × Answer) → Expression
  | some (r, .accepted) => ⟨e.source, some r.text, .verified, none⟩
  | some (r, .rejected message) => ⟨e.source, some r.text, .rejected, some message⟩
  | _ => e

/-- The issue of an expression that was not verified. -/
def skipIssue (m : Model) (slot : ExpressionSlot) (reason : String) : Issue :=
  issue .verificationSkipped slot.issueTarget
    (m.describe slot.issueTarget ++ ": not verified (" ++ reason ++ ")")

/-- The issues that an expression gets. -/
def verdictIssues (seconds : Nat) (m : Model) (slot : ExpressionSlot) :
    Option (Request × Answer) → List Issue
  | some (_, .accepted) => []
  | some (_, .rejected message) =>
    [issue .expressionRejected slot.issueTarget
      (m.describe slot.issueTarget ++ " rejected by target: " ++ message)]
  | some (_, .failed e) => [skipIssue m slot e.message]
  | some (_, .timedOut) => [skipIssue m slot ("timed out after " ++ Text.decimal seconds ++ "s")]
  | none => [skipIssue m slot "cancelled"]

/-- What is said of a verdict does not depend on verdicts. -/
theorem verdictIssues_of_sameBare (seconds : Nat) {m m' : Model} (h : m.SameBare m')
    (slot : ExpressionSlot) (a : Option (Request × Answer)) :
    verdictIssues seconds m' slot a = verdictIssues seconds m slot a := by
  unfold verdictIssues skipIssue
  rw [h.describe]

/-- The counts after one more expression. -/
def tally (k : Summary) : Option (Request × Answer) → Summary
  | some (_, .accepted) => { k with verified := k.verified + 1 }
  | some (_, .rejected _) => { k with rejected := k.rejected + 1 }
  | _ => { k with skipped := k.skipped + 1 }

/-- What applying answers does to a model: each expression gets its verdict and its issues, and is
counted, and nothing else changes. -/
structure Applied (seconds : Nat) (s s' : Settling)
    (answers : List (ExpressionSlot × Option (Request × Answer))) : Prop where
  bare : s.model.SameBare s'.model
  others : ∀ t, t ∉ answers.map (·.1) → s'.model.expression? t = s.model.expression? t
  judged : ∀ x ∈ answers,
    s'.model.expression? x.1 = (s.model.expression? x.1).map fun e => judged e x.2
  issues : s'.model.issues
    = s.model.issues ++ answers.flatMap fun x => verdictIssues seconds s.model x.1 x.2
  summary : s'.summary = answers.foldl (fun k x => tally k x.2) s.summary

/-- A slot that is skipped. -/
theorem applied_skipped (seconds : Nat) (s : Settling) (slot : ExpressionSlot) (reason : String)
    {a : Option (Request × Answer)} (hjudged : ∀ e, judged e a = e)
    (hissues : verdictIssues seconds s.model slot a = [skipIssue s.model slot reason])
    (htally : tally s.summary a = { s.summary with skipped := s.summary.skipped + 1 }) (n : Nat) :
    Applied seconds s { s.skipped slot reason with missed := n } [(slot, a)] where
  bare := s.model.sameBare_addIssue _
  others := fun _ _ => rfl
  judged := by
    intro x hx
    rw [List.mem_singleton.1 hx]
    simp only [hjudged, Option.map_id']
    rfl
  issues := by
    rw [List.flatMap_singleton, hissues]
    rfl
  summary := htally.symm

/-- A slot that is judged. -/
theorem applied_judged (seconds : Nat) {s : Settling} {slot : ExpressionSlot} {source : String}
    (he : s.model.expression? slot = some (.fresh source)) (a : Option (Request × Answer)) :
    Applied seconds s
      ⟨{ s.model.modifyExpression slot (fun _ => judged (.fresh source) a) with
          issues := s.model.issues ++ verdictIssues seconds s.model slot a },
        tally s.summary a, s.missed⟩ [(slot, a)] where
  bare :=
    have h := s.model.sameBare_modifyExpression slot fun _ => judged (.fresh source) a
    ⟨h.source, h.target, h.tables⟩
  others := by
    intro t ht
    have hne : t ≠ slot := by simpa using ht
    have hfound := s.model.expression?_modifyExpression slot t fun _ => judged (.fresh source) a
    rw [if_neg hne] at hfound
    exact hfound
  judged := by
    intro x hx
    rw [List.mem_singleton.1 hx]
    have hfound := s.model.expression?_modifyExpression slot slot fun _ => judged (.fresh source) a
    rw [if_pos rfl, he] at hfound
    rw [he]
    exact hfound
  issues := by rw [List.flatMap_singleton]
  summary := rfl

/-- A verdict is put into its slot and counted. -/
theorem judge_eq {s : Settling} {slot : ExpressionSlot} {e e' : Expression}
    (he : s.model.expression? slot = some e) {verdict : Expression → Outcome Expression}
    (hverdict : verdict e = .ok e') (count : Summary → Summary) :
    s.judge slot verdict count = .ok { s with
      model := s.model.modifyExpression slot fun _ => e'
      summary := count s.summary } := by
  unfold Settling.judge
  rw [he]
  dsimp only
  rw [hverdict]
  rfl

/-- An expression without a verdict gets the one of its answer. -/
theorem apply_spec (seconds : Nat) {s : Settling} {slot : ExpressionSlot} {source : String}
    (he : s.model.expression? slot = some (.fresh source)) (a : Option (Request × Answer)) :
    ∃ s', s.apply seconds slot a = .ok s' ∧ Applied seconds s s' [(slot, a)] := by
  have hjudged := applied_judged seconds he a
  -- only an acceptance or a rejection is a verdict; all else is skipped for its own reason
  rcases a with _ | ⟨r, _ | message | e | _⟩
  · exact ⟨_, rfl, applied_skipped seconds s slot _ (fun _ => rfl) rfl rfl _⟩
  · have hverdict : (Expression.fresh source).markVerified r.text
        = .ok ⟨source, some r.text, .verified, none⟩ := rfl
    have happly : s.apply seconds slot (some (r, .accepted)) = .ok _ :=
      judge_eq he hverdict fun k => { k with verified := k.verified + 1 }
    refine ⟨_, happly, ?_⟩
    have hnone : verdictIssues seconds s.model slot (some (r, .accepted)) = [] := rfl
    rw [hnone, List.append_nil] at hjudged
    exact hjudged
  · have hverdict : (Expression.fresh source).markRejected r.text message
        = .ok ⟨source, some r.text, .rejected, some message⟩ := rfl
    have hjudge : s.judge slot (·.markRejected r.text message) _ = .ok _ :=
      judge_eq he hverdict fun k => { k with rejected := k.rejected + 1 }
    have hdescribe := (s.model.sameBare_modifyExpression slot fun _ =>
      ⟨source, some r.text, .rejected, some message⟩).describe slot.issueTarget
    refine ⟨_, ?_, hjudged⟩
    unfold Settling.apply
    dsimp only
    rw [hjudge, ok_bind, hdescribe]
    rfl
  · exact ⟨_, rfl, applied_skipped seconds s slot _ (fun _ => rfl) rfl rfl _⟩
  · exact ⟨_, rfl, applied_skipped seconds s slot _ (fun _ => rfl) rfl rfl _⟩

/-! ## All expressions -/

theorem Applied.refl (seconds : Nat) (s : Settling) : Applied seconds s s [] where
  bare := .refl s.model
  others := fun _ _ => rfl
  judged := by
    intro x hx
    cases hx
  issues := by simp
  summary := rfl

/-- Answers to other expressions may follow. -/
theorem Applied.trans {seconds : Nat} {s s' s'' : Settling}
    {a b : List (ExpressionSlot × Option (Request × Answer))} (h : Applied seconds s s' a)
    (h' : Applied seconds s' s'' b) (hdisjoint : ∀ t ∈ a.map (·.1), t ∉ b.map (·.1)) :
    Applied seconds s s'' (a ++ b) where
  bare := h.bare.trans h'.bare
  others := by
    intro t ht
    rw [List.map_append, List.mem_append, not_or] at ht
    rw [h'.others t ht.2, h.others t ht.1]
  judged := by
    intro x hx
    rcases List.mem_append.1 hx with hx | hx
    · rw [h'.others x.1 (hdisjoint x.1 (List.mem_map_of_mem hx)), h.judged x hx]
    · have hother : x.1 ∉ a.map (·.1) := fun ha => hdisjoint x.1 ha (List.mem_map_of_mem hx)
      rw [h'.judged x hx, h.others x.1 hother]
  issues := by
    rw [h'.issues, h.issues, List.flatMap_append, List.append_assoc]
    simp only [verdictIssues_of_sameBare seconds h.bare]
  summary := by rw [h'.summary, h.summary, List.foldl_append]

/-- Answers to distinct expressions without verdicts are all applied. -/
theorem applyEach_spec (seconds : Nat) {s : Settling}
    {answers : List (ExpressionSlot × Option (Request × Answer))}
    (hdistinct : (answers.map (·.1)).Nodup)
    (hfresh : ∀ x ∈ answers, ∃ source, s.model.expression? x.1 = some (.fresh source)) :
    ∃ s', s.applyEach seconds answers = (.ok (), s') ∧ Applied seconds s s' answers := by
  induction answers generalizing s with
  | nil => exact ⟨s, rfl, .refl seconds s⟩
  | cons x rest ih =>
    obtain ⟨hx, hrest⟩ := List.nodup_cons.1 hdistinct
    obtain ⟨source, he⟩ := hfresh x List.mem_cons_self
    obtain ⟨s', hs', happlied⟩ := apply_spec seconds he x.2
    -- the slots are distinct, so the others have no verdict yet
    have hlater : ∀ y ∈ rest, ∃ source, s'.model.expression? y.1 = some (.fresh source) := by
      intro y hy
      obtain ⟨source, hy'⟩ := hfresh y (List.mem_cons_of_mem _ hy)
      refine ⟨source, (happlied.others y.1 ?_).trans hy'⟩
      have hmem : y.1 ∈ rest.map (·.1) := List.mem_map_of_mem hy
      have hne : y.1 ≠ x.1 := by
        intro h
        rw [h] at hmem
        exact hx hmem
      simpa using hne
    obtain ⟨s'', hs'', hall⟩ := ih hrest hlater
    refine ⟨s'', ?_, happlied.trans hall ?_⟩
    · show (match s.apply seconds x.1 x.2 with
        | .ok s => s.applyEach seconds rest
        | .error e => (.error e, s)) = _
      rw [hs']
      exact hs''
    · intro t ht
      rw [List.map_singleton, List.mem_singleton] at ht
      exact ht ▸ hx

/-! ## Before the run -/

/-- A model whose expressions in some slots are forgotten. -/
def forget (m : Model) (ss : List ExpressionSlot) : Model :=
  ss.foldl (fun m s => m.modifyExpression s (·.reset)) m

/-- Forgetting verdicts leaves the rest. -/
theorem sameBare_forget (m : Model) (ss : List ExpressionSlot) : m.SameBare (forget m ss) := by
  induction ss generalizing m with
  | nil => exact .refl m
  | cons s ss ih => exact (m.sameBare_modifyExpression s _).trans (ih _)

theorem issues_forget (m : Model) (ss : List ExpressionSlot) :
    (forget m ss).issues = m.issues := by
  induction ss generalizing m with
  | nil => rfl
  | cons s ss ih => exact ih _

/-- The verdict of a slot that is forgotten is dropped. -/
theorem expression?_forget (m : Model) (ss : List ExpressionSlot) (t : ExpressionSlot) :
    (forget m ss).expression? t
      = if t ∈ ss then (m.expression? t).map (·.reset) else m.expression? t := by
  induction ss generalizing m with
  | nil => simp [forget]
  | cons s ss ih =>
    show (forget (m.modifyExpression s (·.reset)) ss).expression? t = _
    rw [ih, m.expression?_modifyExpression]
    by_cases hs : t = s
    · subst hs
      cases m.expression? t <;> simp [Expression.reset_reset]
    · simp [hs]

/-- Preparing a run leaves all but verdicts and issues. -/
theorem sameBare_prepare (m : Model) : m.SameBare (prepare m) :=
  have h := sameBare_forget (m.clearIssues .verifier) (slots m)
  ⟨h.source, h.target, h.tables⟩

theorem issues_prepare (m : Model) :
    (prepare m).issues = m.issues.filter fun i => i.stage ≠ .verifier :=
  issues_forget (m.clearIssues .verifier) (slots m)

/-- The run begins with expressions without a verdict. -/
theorem expression?_prepare {m : Model} {s : ExpressionSlot} (hs : s ∈ slots m) :
    (prepare m).expression? s = (m.expression? s).map fun e => .fresh e.source := by
  have h := expression?_forget (m.clearIssues .verifier) (slots m) s
  rw [if_pos hs] at h
  exact h

/-- The expression of a slot, before the run and at its beginning. -/
theorem expression_of_mem_slots {m : Model} (h : m.HasDistinctParts) {s : ExpressionSlot}
    (hs : s ∈ slots m) : ∃ t e, m.table? s.table = some t ∧ m.expression? s = some e
      ∧ (prepare m).expression? s = some (.fresh e.source) := by
  obtain ⟨t, e, ht, he⟩ := h.exists_of_mem_slots hs
  refine ⟨t, e, ht, he, ?_⟩
  rw [expression?_prepare hs, he]
  rfl

/-- There is one request for each expression. -/
theorem requests_prepare {m : Model} (h : m.HasDistinctParts) :
    (requests (prepare m)).map (·.1) = slots m
      ∧ ∀ x ∈ requests (prepare m), requestFor? m x.1 = some x.2 := by
  have hslots : slots (prepare m) = slots m := (sameBare_prepare m).slots
  -- a request is made of the source text, which no verdict changes
  have hrequest : ∀ s ∈ slots m, requestFor? (prepare m) s = requestFor? m s := by
    intro s hs
    refine requestFor?_of_sameBare (sameBare_prepare m) s ?_
    rw [expression?_prepare hs]
    cases m.expression? s <;> rfl
  have hsome : ∀ s ∈ slots m, ∃ r, requestFor? m s = some r := by
    intro s hs
    obtain ⟨t, e, ht, he⟩ := h.exists_of_mem_slots hs
    rw [requestFor?_eq, ht, he]
    exact ⟨_, rfl⟩
  unfold requests
  rw [hslots]
  constructor
  · rw [List.map_filterMap]
    have hself : (slots m).filterMap some = slots m := List.filterMap_some
    refine (List.filterMap_congr fun s hs => ?_).trans hself
    obtain ⟨r, hr⟩ := hsome s hs
    rw [hrequest s hs, hr]
    rfl
  · intro x hx
    obtain ⟨s, hs, hsx⟩ := List.mem_filterMap.1 hx
    obtain ⟨r, hr, rfl⟩ := Option.map_eq_some_iff.1 hsx
    rw [← hrequest s hs]
    exact hr

/-- There is one request for each expression. -/
theorem length_requests_prepare {m : Model} (h : m.HasDistinctParts) :
    ((requests (prepare m)).map (·.2)).length = (slots m).length := by
  rw [← (requests_prepare h).1, List.length_map, List.length_map]

/-! ## Counts -/

/-- The counts of some states. -/
def Summary.ofStates (l : List VerificationStatus) : Summary :=
  ⟨l.count .verified, l.count .rejected, l.count .unverified⟩

/-- The state of an expression with an answer. -/
def stateOf (a : Option (Request × Answer)) : VerificationStatus := (judged (.fresh "") a).status

/-- What becomes of an expression is what was answered. -/
theorem status_judged_fresh (source : String) (a : Option (Request × Answer)) :
    (judged (.fresh source) a).status = stateOf a := by
  rcases a with _ | ⟨r, _ | message | e | _⟩ <;> rfl

/-- The totals count the states. -/
theorem foldl_tally (answers : List (ExpressionSlot × Option (Request × Answer))) (k : Summary) :
    answers.foldl (fun k x => tally k x.2) k
      = ⟨k.verified + (answers.map fun x => stateOf x.2).count .verified,
        k.rejected + (answers.map fun x => stateOf x.2).count .rejected,
        k.skipped + (answers.map fun x => stateOf x.2).count .unverified⟩ := by
  induction answers generalizing k with
  | nil => rfl
  | cons x answers ih =>
    rw [List.foldl_cons, ih]
    rcases x with ⟨slot, _ | ⟨r, _ | message | e | _⟩⟩ <;>
      simp [tally, stateOf, judged, Expression.fresh] <;> omega

theorem total_ofStates (l : List VerificationStatus) :
    (Summary.ofStates l).verified + (Summary.ofStates l).rejected + (Summary.ofStates l).skipped
      = l.length := by
  induction l with
  | nil => rfl
  | cons a l ih =>
    simp only [Summary.ofStates, List.count_cons, List.length_cons] at ih ⊢
    cases a <;> simp <;> omega

/-- The states of the expressions of a model, found by their slots. -/
theorem map_status_expressions {m : Model} (h : m.HasDistinctParts) :
    (m.expressions.map fun x => some x.2.status)
      = (slots m).map fun s => (m.expression? s).map (·.status) := by
  unfold slots
  rw [List.map_map]
  refine List.map_congr_left fun x hx => ?_
  have hx' := h.expression?_of_mem (s := x.1) (e := x.2) hx
  simp [hx']

/-! ## The whole run -/

/-- The answer to the request at a position, if one was collected. -/
def Exchange.answer? : Exchange → Nat → Option Answer
  | .missing _, _ => none
  | .collected c, i => (finishedAt c.completions i).map (·.2)

/-- Whether there can be such an exchange about a model. -/
def Exchange.IsPossible (workers : Nat) (cancelled : Bool) (m : Model) : Exchange → Prop
  | .missing _ => True
  | .collected c => Collects (max workers 1) cancelled ((requests (prepare m)).map (·.2)) c

/-- The three states in which an expression can end, by the answer to its request: what becomes of
it, and the issues that are its own. -/
inductive Verdict (m : Model) (slot : ExpressionSlot) (text source : String) :
    Option Answer → Expression → List Issue → Prop
  | verified :
    Verdict m slot text source (some .accepted) ⟨source, some text, .verified, none⟩ []
  | rejected (message : String) :
    Verdict m slot text source (some (.rejected message))
      ⟨source, some text, .rejected, some message⟩
      [issue .expressionRejected slot.issueTarget
        (m.describe slot.issueTarget ++ " rejected by target: " ++ message)]
  | skipped {answer : Option Answer} (haccepted : answer ≠ some .accepted)
      (hrejected : ∀ message, answer ≠ some (.rejected message)) (reason : String) :
    Verdict m slot text source answer ⟨source, none, .unverified, none⟩ [skipIssue m slot reason]

/-- Every expression of a model is accounted for after a run. -/
structure Accounts (m : Model) (exchange : Exchange) (summary : Summary) (after : Model) :
    Prop where
  slots : slots after = slots m
  distinct : (Verification.slots m).Nodup
  /-- Each request is about the expression of its position. -/
  asked : (requests (prepare m)).map (·.1) = Verification.slots m
  /-- The issues of the expressions, one list for each, beside those of other stages and the one of
  a cancellation. -/
  verdicts : ∃ (own : List (List Issue)) (last : List Issue),
    own.length = (Verification.slots m).length
    ∧ after.issues = (m.issues.filter fun i => i.stage ≠ .verifier) ++ own.flatten ++ last
    ∧ (last = [] ∨ ∃ detail, last = [issue .aborted .schema detail])
    ∧ ∀ i slot, (Verification.slots m)[i]? = some slot →
      ∃ t e e' is, m.table? slot.table = some t ∧ m.expression? slot = some e
        ∧ after.expression? slot = some e' ∧ own[i]? = some is
        ∧ Verdict m slot (translate m.source m.target t e.source) e.source (exchange.answer? i) e'
          is
  verified : summary.verified = after.expressions.countP fun x => x.2.status = .verified
  rejected : summary.rejected = after.expressions.countP fun x => x.2.status = .rejected
  skipped : summary.skipped = after.expressions.countP fun x => x.2.status = .unverified
  total : summary.verified + summary.rejected + summary.skipped = m.expressions.length

/-- The counts follow from the states. -/
theorem accounts_of_states {m after : Model} {exchange : Exchange} {summary : Summary}
    (hm : m.HasDistinctParts) (hbare : m.SameBare after)
    (hsummary : summary = .ofStates (after.expressions.map (·.2.status)))
    (own : List (List Issue)) (last : List Issue) (hlength : own.length = (slots m).length)
    (hissues : after.issues
      = (m.issues.filter fun i => i.stage ≠ .verifier) ++ own.flatten ++ last)
    (hlast : last = [] ∨ ∃ detail, last = [issue .aborted .schema detail])
    (hverdicts : ∀ i slot, (slots m)[i]? = some slot →
      ∃ t e e' is, m.table? slot.table = some t ∧ m.expression? slot = some e
        ∧ after.expression? slot = some e' ∧ own[i]? = some is
        ∧ Verdict m slot (translate m.source m.target t e.source) e.source (exchange.answer? i) e'
          is) :
    Accounts m exchange summary after := by
  have hslots : slots after = slots m := hbare.slots
  -- the slots are the same after the run, so states are counted by slot
  have hcount (s : VerificationStatus) : (after.expressions.map (·.2.status)).count s
      = after.expressions.countP fun x => x.2.status = s := by
    rw [List.count, List.countP_map]
    rfl
  refine ⟨hslots, hm.nodup_slots, (requests_prepare hm).1,
    ⟨own, last, hlength, hissues, hlast, hverdicts⟩, ?_, ?_, ?_, ?_⟩
  · rw [hsummary, ← hcount]
    rfl
  · rw [hsummary, ← hcount]
    rfl
  · rw [hsummary, ← hcount]
    rfl
  · have hlen := congrArg List.length hslots
    rw [slots, slots, List.length_map, List.length_map] at hlen
    rw [hsummary, total_ofStates, List.length_map, hlen]

/-- Without anyone to ask, every expression gets an issue and nothing else happens. -/
theorem skip_each (m : Model) (ss : List ExpressionSlot) (reason : String) :
    m.SameBare (ss.foldl (fun m s => skip m s reason) m)
      ∧ (∀ t, (ss.foldl (fun m s => skip m s reason) m).expression? t = m.expression? t)
      ∧ (ss.foldl (fun m s => skip m s reason) m).issues
        = m.issues ++ ss.map fun s => skipIssue m s reason := by
  induction ss generalizing m with
  | nil => exact ⟨.refl m, fun _ => rfl, (List.append_nil _).symm⟩
  | cons s ss ih =>
    have hskip : m.SameBare (skip m s reason) := m.sameBare_addIssue _
    obtain ⟨hbare, hsame, hissues⟩ := ih (skip m s reason)
    refine ⟨hskip.trans hbare, fun t => (hsame t).trans rfl, ?_⟩
    have hrest : ∀ t ∈ ss, skipIssue (skip m s reason) t reason = skipIssue m t reason := by
      intro t _
      unfold skipIssue
      rw [hskip.describe]
    rw [List.foldl_cons, hissues, List.map_congr_left hrest, List.map_cons]
    exact List.append_assoc m.issues [skipIssue m s reason] _

/-- An answer to a request of its own gives an expression its verdict. -/
theorem verdict_judged (seconds : Nat) (m : Model) (slot : ExpressionSlot) {text : String}
    (source : String) {a : Option (Request × Answer)} (htext : ∀ x ∈ a, x.1.text = text) :
    Verdict m slot text source (a.map (·.2)) (judged (.fresh source) a)
      (verdictIssues seconds m slot a) := by
  rcases a with _ | ⟨r, _ | message | e | _⟩
  · exact .skipped (by simp) (by simp) _
  · rw [← htext _ rfl]
    exact .verified
  · rw [← htext _ rfl]
    exact .rejected message
  · exact .skipped (by simp) (by simp) _
  · exact .skipped (by simp) (by simp) _

/-- The states of the expressions of a model are those of the answers to them. -/
theorem states_of_answers {after : Model} (h : after.HasDistinctParts)
    (answers : List (ExpressionSlot × Option (Request × Answer)))
    (hslots : slots after = answers.map (·.1))
    (hjudged : ∀ x ∈ answers,
      ∃ source, after.expression? x.1 = some (judged (.fresh source) x.2)) :
    after.expressions.map (·.2.status) = answers.map fun x => stateOf x.2 := by
  have hsome := map_status_expressions h
  rw [hslots, List.map_map] at hsome
  have hstates : answers.map ((fun s => (after.expression? s).map (·.status)) ∘ (·.1))
      = answers.map fun x => some (stateOf x.2) := by
    refine List.map_congr_left fun x hx => ?_
    obtain ⟨source, he⟩ := hjudged x hx
    rw [Function.comp_apply, he, Option.map_some, status_judged_fresh]
  rw [hstates] at hsome
  refine List.map_injective_iff.2 (fun _ _ => Option.some.inj) ?_
  rw [List.map_map, List.map_map]
  exact hsome

/-- A model without expressions is accounted for. -/
theorem accounts_nil {m : Model} (hm : m.HasDistinctParts) (hslots : slots m = [])
    (exchange : Exchange) : Accounts m exchange .zero (prepare m) := by
  have hbare := sameBare_prepare m
  have hafter : slots (prepare m) = [] := hbare.slots.trans hslots
  have hexpressions : (prepare m).expressions = [] := List.map_eq_nil_iff.1 hafter
  refine accounts_of_states hm hbare ?_ [] [] ?_ ?_ (.inl rfl) ?_
  · rw [hexpressions]
    rfl
  · rw [hslots]
    rfl
  · rw [issues_prepare, List.flatten_nil, List.append_nil, List.append_nil]
  · intro i slot hi
    rw [hslots] at hi
    cases hi

/-- Without anyone to ask, every expression is skipped for that reason. -/
theorem accounts_missing {m : Model} (hm : m.HasDistinctParts) (reason : String) :
    Accounts m (.missing reason) ⟨0, 0, (slots (prepare m)).length⟩
      ((slots (prepare m)).foldl (fun m s => skip m s reason) (prepare m)) := by
  have hprepare := sameBare_prepare m
  rw [hprepare.slots]
  obtain ⟨hskip, hsame, hissues⟩ := skip_each (prepare m) (slots m) reason
  have hbare := hprepare.trans hskip
  generalize (slots m).foldl (fun m s => skip m s reason) (prepare m) = after at *
  -- every slot is emptied before it is skipped, so nothing of an earlier run is left
  have hexpression : ∀ s ∈ slots m, ∃ t e, m.table? s.table = some t ∧ m.expression? s = some e
      ∧ after.expression? s = some (.fresh e.source) := by
    intro s hs
    obtain ⟨t, e, ht, he, hfresh⟩ := expression_of_mem_slots hm hs
    exact ⟨t, e, ht, he, (hsame s).trans hfresh⟩
  have hstates : after.expressions.map (·.2.status) = (slots m).map fun _ => .unverified := by
    have hanswers := states_of_answers (hm.of_sameBare hbare) ((slots m).map fun s => (s, none))
      ?_ ?_
    · rw [hanswers, List.map_map]
      rfl
    · rw [hbare.slots, List.map_map]
      exact (List.map_id _).symm
    · intro x hx
      obtain ⟨s, hs, rfl⟩ := List.mem_map.1 hx
      obtain ⟨-, e, -, -, he⟩ := hexpression s hs
      exact ⟨e.source, he⟩
  refine accounts_of_states hm hbare ?_ ((slots m).map fun s => [skipIssue m s reason]) [] ?_ ?_
    (.inl rfl) ?_
  · rw [hstates, List.map_const']
    simp [Summary.ofStates, List.count_replicate]
  · rw [List.length_map]
  · have hreason : ∀ s ∈ slots m, skipIssue (prepare m) s reason = skipIssue m s reason := by
      intro s _
      unfold skipIssue
      rw [hprepare.describe]
    rw [hissues, issues_prepare, List.map_congr_left hreason, ← List.flatMap_def,
      ← List.map_eq_flatMap, List.append_nil]
  · intro i slot hi
    obtain ⟨t, e, ht, he, hafter⟩ := hexpression slot (List.mem_of_getElem? hi)
    refine ⟨t, e, _, _, ht, he, hafter, ?_, .skipped (by simp [Exchange.answer?])
      (by simp [Exchange.answer?]) reason⟩
    rw [List.getElem?_map, hi]
    rfl

/-- What was collected under a position answers the request that has it. -/
theorem text_of_finished {m : Model} (hm : m.HasDistinctParts) {workers : Nat} {cancelled : Bool}
    {c : Collection}
    (h : Collects workers cancelled ((requests (prepare m)).map (·.2)) c) {i : Nat}
    {slot : ExpressionSlot} (hi : (slots m)[i]? = some slot) {t : Table} {e : Expression}
    (ht : m.table? slot.table = some t) (he : m.expression? slot = some e) :
    ∀ x ∈ finishedAt c.completions i, x.1.text = translate m.source m.target t e.source := by
  intro x hx
  obtain ⟨k, hk, hkx⟩ := Option.bind_eq_some_iff.1 hx
  have hposition : k.position = i := by simpa using List.find?_some hk
  have hrequest : x.1 = k.request := by
    obtain ⟨a, -, rfl⟩ := Option.map_eq_some_iff.1 hkx
    rfl
  have hown := h.own k (List.mem_of_find?_eq_some hk)
  rw [hposition, List.getElem?_map] at hown
  obtain ⟨⟨s, r⟩, hr, hkr⟩ := Option.map_eq_some_iff.1 hown
  obtain ⟨hslots, hrequests⟩ := requests_prepare hm
  have hs : s = slot := by
    rw [← hslots, List.getElem?_map, hr] at hi
    exact Option.some.inj hi
  -- the request under a position is the one about its slot
  have hfor := hrequests (s, r) (List.mem_of_getElem? hr)
  rw [requestFor?_eq, hs, he, Option.bind_some, ht] at hfor
  rw [hrequest, ← hkr, ← Option.some.inj hfor]
  rfl

/-- The issues of a run that was cancelled after some of the requests. -/
def abortIssues (aborted : Bool) (missed all : Nat) : List Issue :=
  if aborted then
    [issue .aborted .schema
      ("Verification cancelled after " ++ Text.decimal (all - missed) ++ " of "
        ++ Text.decimal all ++ " expressions")]
  else []

/-- The answers that were collected are applied to the expressions they are about, and a
cancellation adds an issue at the end. -/
theorem settle_each {m : Model} (hm : m.HasDistinctParts) (seconds : Nat) {c : Collection}
    (hc : (c.completions.map (·.position)).Nodup) :
    ∃ s : Settling,
      (Settling.start (prepare m)).applyEach seconds
          (Settling.matched c.completions 0 (slots m)) = (.ok (), s)
      ∧ Applied seconds (.start (prepare m)) s (Settling.matched c.completions 0 (slots m))
      ∧ settle seconds (prepare m) c
        = (.ok s.summary, { s.model with
            issues := s.model.issues ++ abortIssues c.aborted s.missed (slots m).length }) := by
  have hfst := Settling.map_fst_matched c.completions 0 (slots m)
  have hfresh : ∀ x ∈ Settling.matched c.completions 0 (slots m),
      ∃ source, (Settling.start (prepare m)).model.expression? x.1 = some (.fresh source) := by
    intro x hx
    obtain ⟨-, e, -, -, he⟩ := expression_of_mem_slots hm (hfst ▸ List.mem_map_of_mem hx)
    exact ⟨e.source, he⟩
  have hdistinct : ((Settling.matched c.completions 0 (slots m)).map (·.1)).Nodup := by
    rw [hfst]
    exact hm.nodup_slots
  obtain ⟨s, hs, happlied⟩ := applyEach_spec seconds hdistinct hfresh
  have happlyAll : (Settling.start (prepare m)).applyAll seconds 0 c.inOrder (slots m)
      = (.ok (), s) := by
    rw [Settling.applyAll_eq seconds _ (ascending_inOrder hc), ← hs]
    refine congrArg _ (List.map_congr_left fun x _ => ?_)
    rw [finishedAt_perm (perm_inOrder c) hc]
  refine ⟨s, hs, happlied, ?_⟩
  unfold settle
  -- the requests are in the order of the slots
  rw [(requests_prepare hm).1]
  dsimp only
  rw [happlyAll]
  unfold abortIssues
  cases c.aborted with
  | false =>
    rw [if_neg Bool.false_ne_true, List.append_nil]
    rfl
  | true => rfl

/-- A run that is not cancelled adds nothing at the end, and one that is adds one issue. -/
theorem abortIssues_eq (aborted : Bool) (missed all : Nat) :
    abortIssues aborted missed all = []
      ∨ ∃ detail, abortIssues aborted missed all = [issue .aborted .schema detail] := by
  cases aborted with
  | false => exact .inl rfl
  | true => exact .inr ⟨_, rfl⟩

/-- The answers that were collected give every expression its verdict. -/
theorem accounts_collected {m : Model} (hm : m.HasDistinctParts) {seconds workers : Nat}
    {cancelled : Bool} {c : Collection}
    (h : Collects workers cancelled ((requests (prepare m)).map (·.2)) c) {s : Settling}
    (happlied : Applied seconds (.start (prepare m)) s
      (Settling.matched c.completions 0 (slots m))) {last : List Issue}
    (hlast : last = [] ∨ ∃ detail, last = [issue .aborted .schema detail]) :
    Accounts m (.collected c) s.summary { s.model with issues := s.model.issues ++ last } := by
  have hfst := Settling.map_fst_matched c.completions 0 (slots m)
  have hget := Settling.getElem?_matched c.completions (slots m)
  generalize Settling.matched c.completions 0 (slots m) = answers at *
  have hprepare := sameBare_prepare m
  have hbare : m.SameBare { s.model with issues := s.model.issues ++ last } :=
    have hmodel := hprepare.trans happlied.bare
    ⟨hmodel.source, hmodel.target, hmodel.tables⟩
  have hjudged : ∀ x ∈ answers, ∃ t e, m.table? x.1.table = some t ∧ m.expression? x.1 = some e
      ∧ s.model.expression? x.1 = some (judged (.fresh e.source) x.2) := by
    intro x hx
    obtain ⟨t, e, ht, he, hfresh⟩ := expression_of_mem_slots hm (hfst ▸ List.mem_map_of_mem hx)
    refine ⟨t, e, ht, he, ?_⟩
    rw [happlied.judged x hx]
    exact congrArg (Option.map fun e => judged e x.2) hfresh
  -- the issues of each expression are those of its answer, told of the model as it was
  refine accounts_of_states hm hbare ?_ (answers.map fun x => verdictIssues seconds m x.1 x.2) last
    ?_ ?_ hlast ?_
  · have hstates := states_of_answers (hm.of_sameBare hbare) answers
      (hbare.slots.trans hfst.symm) fun x hx => by
        obtain ⟨-, e, -, -, he⟩ := hjudged x hx
        exact ⟨e.source, he⟩
    rw [hstates, happlied.summary, foldl_tally]
    simp [Summary.ofStates, Settling.start, Summary.zero]
  · rw [List.length_map, ← hfst, List.length_map]
  · have hissues := happlied.issues
    simp only [Settling.start, verdictIssues_of_sameBare seconds hprepare, issues_prepare]
      at hissues
    show s.model.issues ++ last = _
    rw [hissues, List.flatMap_def]
  · intro i slot hi
    have hanswer : answers[i]? = some (slot, finishedAt c.completions i) := by
      rw [hget, hi]
      rfl
    obtain ⟨t, e, ht, he, hafter⟩ := hjudged _ (List.mem_of_getElem? hanswer)
    refine ⟨t, e, _, _, ht, he, hafter, ?_,
      verdict_judged seconds m slot e.source (text_of_finished hm h hi ht he)⟩
    rw [List.getElem?_map, hanswer]
    rfl

/-- Where there is nothing to ask about, it does not matter what came of the requests. -/
theorem conclude_of_slots_eq_nil {m : Model} (h : slots m = []) (seconds : Nat)
    (exchange : Exchange) : conclude seconds exchange m = (.ok .zero, prepare m) := by
  unfold conclude
  simp only [(sameBare_prepare m).slots, h]
  rfl

/-- A collection is settled if there is anything to verify. -/
theorem conclude_collected {m : Model} (h : slots m ≠ []) (seconds : Nat) (c : Collection) :
    conclude seconds (.collected c) m = settle seconds (prepare m) c := by
  have hsome : (slots (prepare m)).isEmpty = false := by
    rw [(sameBare_prepare m).slots]
    simpa using h
  unfold conclude
  simp only [hsome, Bool.false_eq_true, if_false]

/-- Whatever came of the requests for a valid model, it is accounted for. -/
theorem conclude_accounts {m : Model} (hvalid : m.validate = .ok ()) (seconds workers : Nat)
    (cancelled : Bool) {exchange : Exchange} (h : exchange.IsPossible workers cancelled m) :
    ∃ summary after, conclude seconds exchange m = (.ok summary, after)
      ∧ Accounts m exchange summary after := by
  have hm := ((Model.validate_eq_ok_iff m).1 hvalid).hasDistinctParts
  by_cases hslots : slots m = []
  · exact ⟨_, _, conclude_of_slots_eq_nil hslots seconds exchange, accounts_nil hm hslots exchange⟩
  · cases exchange with
    | missing reason =>
      refine ⟨_, _, ?_, accounts_missing hm reason⟩
      unfold conclude
      simp [(sameBare_prepare m).slots, hslots]
    | collected c =>
      obtain ⟨s, -, happlied, hsettle⟩ := settle_each hm seconds h.nodup
      have hlast := abortIssues_eq c.aborted s.missed (slots m).length
      refine ⟨_, _, ?_, accounts_collected hm h happlied hlast⟩
      rw [conclude_collected hslots, hsettle]

/-- A run concludes from something that can come of its requests. -/
theorem verify_eq_conclude (limits : Limits) (endpoint : Endpoint) (cancelled : Bool) (m : Model) :
    ∃ exchange : Exchange, exchange.IsPossible limits.workers cancelled m
      ∧ ((verify limits endpoint cancelled m).summary, (verify limits endpoint cancelled m).model)
        = conclude (limits.timeoutMilliseconds / 1000) exchange m := by
  cases endpoint with
  | missing reason => exact ⟨.missing reason, trivial, rfl⟩
  | channel respond => exact ⟨.collected _, Pool.collects_runAll _ respond cancelled _, rfl⟩

/-- A table with a column that has a default, and a check. -/
def checkedModel : Model :=
  { Model.empty .postgres .google (Audit.start "request" ⟨0, 0⟩) with
    tables :=
      [(⟨1⟩, { Table.empty ⟨1⟩ "t" with
          columns := [{ Column.plain ⟨2⟩ "x" ⟨"integer", [], [], 0, "integer"⟩ with
            default := some (.fresh "0") }]
          checks := [⟨⟨3⟩, "t_check", .fresh "x > 0"⟩] })]
    nextId := 4 }

/-- What is collected when the default gets no answer, and the check is accepted before the time of
the default is up. -/
def lateAnswers : Collection :=
  (Pool.runAll 2 (fun r => ⟨if r.kind = .check then some .accepted else none, false⟩) false
    ((requests (prepare checkedModel)).map (·.2))).2

end SchemaBridge.Verification
