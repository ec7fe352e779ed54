/-
# Verifying again

A run reads nothing of what an earlier one found: two models that are the same without their verdicts
are verified alike, and who verifies twice gets what he has already.  Metadata is carried along and
read by nobody.

## Key statements

* `checkInTurn_congr`: what a verification ends with depends on the model without its verdicts.
* `checkInTurn_again`: a second verification finds the same, and counts itself.
* `checkInTurn_of_inTime`: if every answer comes in time, it does not matter how much there is.
* `verify_afresh`: both for every order of answers, and what no run ever changes.
-/
import SchemaBridge.Proofs.Verification.InTurn

namespace SchemaBridge.Verification

/-! ## Metadata -/

namespace Settling

/-- With other metadata. -/
def withAudit (s : Settling) (a : Audit) : Settling :=
  { s with model := { s.model with audit := a } }

/-- No verdict depends on the metadata. -/
theorem judge_withAudit (s : Settling) (a : Audit) (slot : ExpressionSlot)
    (verdict : Expression → Outcome Expression) (count : Summary → Summary) :
    (s.withAudit a).judge slot verdict count
      = (s.judge slot verdict count).map (·.withAudit a) := by
  have hfound : (s.withAudit a).model.expression? slot = s.model.expression? slot := rfl
  unfold judge
  rw [hfound]
  cases s.model.expression? slot with
  | none => rfl
  | some e =>
    dsimp only
    cases verdict e <;> rfl

/-- No answer is applied by the metadata. -/
theorem apply_withAudit (seconds : Nat) (s : Settling) (a : Audit) (slot : ExpressionSlot)
    (answer : Option (Request × Answer)) : (s.withAudit a).apply seconds slot answer
      = (s.apply seconds slot answer).map (·.withAudit a) := by
  rcases answer with _ | ⟨r, _ | message | e | _⟩
  · rfl
  · unfold apply
    exact judge_withAudit s a slot _ _
  · unfold apply
    dsimp only
    rw [judge_withAudit]
    cases s.judge slot (·.markRejected r.text message) fun k =>
      { k with rejected := k.rejected + 1 } <;> rfl
  · rfl
  · rfl

theorem inTurn_withAudit (seconds : Nat) (respond : Request → Answer) (s : Settling) (a : Audit)
    (ss : List ExpressionSlot) : (s.withAudit a).inTurn seconds respond ss
      = ((s.inTurn seconds respond ss).1, (s.inTurn seconds respond ss).2.withAudit a) := by
  induction ss generalizing s with
  | nil => rfl
  | cons slot rest ih =>
    have hrequest : requestFor? (s.withAudit a).model slot = requestFor? s.model slot := rfl
    unfold inTurn
    rw [hrequest]
    cases requestFor? s.model slot with
    | none => exact ih s
    | some r =>
      dsimp only
      rw [apply_withAudit]
      cases s.apply seconds slot (some (r, respond r)) with
      | error e => rfl
      | ok s => exact ih s

end Settling

/-! ## What a verification depends on -/

variable {m m' : Model} (seconds : Nat) (respond : Request → Answer)

/-- Two models whose runs begin alike but for their metadata. -/
theorem checkInTurn_of_prepare {a : Audit} (h : prepare m' = { prepare m with audit := a }) :
    checkInTurn seconds respond m' = ((checkInTurn seconds respond m).1,
      { (checkInTurn seconds respond m).2 with audit := a }) := by
  have hslots : slots m' = slots m := by
    rw [← (sameBare_prepare m').slots, h, ← (sameBare_prepare m).slots]
    rfl
  have hstart : Settling.start (prepare m') = (Settling.start (prepare m)).withAudit a :=
    congrArg Settling.start h
  unfold checkInTurn
  rw [hslots, hstart, Settling.inTurn_withAudit]
  cases (Settling.start (prepare m)).inTurn seconds respond (slots m) with
  | mk done s => cases done <;> rfl

/-- Verdicts of an earlier run leave no trace. -/
theorem checkInTurn_congr (hm : m.HasDistinctParts) (hm' : m'.HasDistinctParts)
    (h : m'.unjudged = m.unjudged) :
    checkInTurn seconds respond m' = checkInTurn seconds respond m := by
  have haudit : m'.audit = m.audit := congrArg (·.audit) h
  have hprepare : prepare m' = prepare m := by rw [prepare_eq hm, prepare_eq hm', h, haudit]
  have hslots : slots m' = slots m := by
    rw [← (sameBare_prepare m').slots, hprepare, (sameBare_prepare m).slots]
  unfold checkInTurn
  rw [hslots, hprepare]

/-- A verification changes nothing but verdicts, and counts itself. -/
theorem unjudged_checkInTurn (hm : m.HasDistinctParts) :
    (checkInTurn seconds respond m).2.unjudged
      = { m.unjudged with audit := m.audit.verifiedAgain } := by
  obtain ⟨-, c, -, hx⟩ := (verifies_iff hm seconds 1 respond _).2 rfl
  rw [hx]
  exact unjudged_conclude hm seconds (.collected c)

/-- A verification does nothing to the metadata but count itself. -/
theorem audit_checkInTurn (hm : m.HasDistinctParts) :
    (checkInTurn seconds respond m).2.audit = m.audit.verifiedAgain :=
  congrArg (·.audit) (unjudged_checkInTurn seconds respond hm)

/-- The parts of a model stay distinct. -/
theorem hasDistinctParts_checkInTurn (hm : m.HasDistinctParts) :
    (checkInTurn seconds respond m).2.HasDistinctParts := by
  have h := unjudged_checkInTurn seconds respond hm
  refine hm.of_sameBare (.of_unjudged ?_ ?_ ?_) <;> rw [h]

/-- Whoever verifies a second time, under whatever metadata, finds the same again. -/
theorem checkInTurn_again (hm : m.HasDistinctParts) (a : Audit) :
    checkInTurn seconds respond { (checkInTurn seconds respond m).2 with audit := a }
      = ((checkInTurn seconds respond m).1,
        { (checkInTurn seconds respond m).2 with audit := a.verifiedAgain }) := by
  -- it begins with the model without its verdicts, as the first one did
  refine checkInTurn_of_prepare seconds respond ?_
  have hsame := unjudged_checkInTurn seconds respond hm
  have hafter := hasDistinctParts_checkInTurn seconds respond hm
  generalize (checkInTurn seconds respond m).2 = after at hsame hafter ⊢
  have hparts : ({ after with audit := a } : Model).HasDistinctParts :=
    hafter.of_sameBare ⟨rfl, rfl, rfl⟩
  have hunjudged : ({ after with audit := a } : Model).unjudged = { after.unjudged with audit := a } :=
    rfl
  rw [prepare_eq hparts, prepare_eq hm, hunjudged, hsame]

/-! ## The time that an answer may take -/

/-- Whether the time of a request runs out is all that the time limit is asked about. -/
theorem Settling.apply_of_inTime (seconds seconds' : Nat) (s : Settling) (slot : ExpressionSlot)
    {r : Request} {a : Answer} (h : a ≠ .timedOut) :
    s.apply seconds slot (some (r, a)) = s.apply seconds' slot (some (r, a)) := by
  cases a with
  | accepted | rejected | failed => rfl
  | timedOut => exact absurd rfl h

/-- If all answers come in time, the limit does not matter. -/
theorem Settling.applyEach_of_inTime (seconds seconds' : Nat) (respond : Request → Answer)
    (s : Settling) {asked : List (ExpressionSlot × Request)}
    (h : ∀ x ∈ asked, respond x.2 ≠ .timedOut) :
    s.applyEach seconds (answersTo respond asked)
      = s.applyEach seconds' (answersTo respond asked) := by
  induction asked generalizing s with
  | nil => rfl
  | cons x rest ih =>
    unfold answersTo
    rw [List.map_cons]
    unfold applyEach
    rw [s.apply_of_inTime seconds seconds' x.1 (h x List.mem_cons_self)]
    cases s.apply seconds' x.1 (some (x.2, respond x.2)) with
    | error e => rfl
    | ok s' => exact ih s' fun y hy => h y (List.mem_cons_of_mem _ hy)

/-- What is asked does not depend on verdicts and metadata. -/
theorem requests_of_unjudged {m m' : Model} {a : Audit}
    (h : m'.unjudged = { m.unjudged with audit := a }) : requests m' = requests m := by
  have hslots : slots m' = slots m := by
    rw [← m'.sameBare_unjudged.slots, h, ← m.sameBare_unjudged.slots]
    rfl
  have hrequest : (fun s => (requestFor? m' s).map fun r => (s, r))
      = fun s => (requestFor? m s).map fun r => (s, r) := by
    funext s
    rw [← requestFor?_unjudged m' s, h, ← requestFor?_unjudged m s]
    rfl
  unfold requests
  rw [hslots, hrequest]

/-- If every answer comes in time, it does not matter how much time there is. -/
theorem checkInTurn_of_inTime (seconds seconds' : Nat) {respond : Request → Answer} {m : Model}
    (hm : m.HasDistinctParts) (h : ∀ x ∈ requests m, respond x.2 ≠ .timedOut) :
    checkInTurn seconds respond m = checkInTurn seconds' respond m := by
  have hasked : requests (prepare m) = requests m := requests_of_unjudged (unjudged_prepare hm.keys)
  unfold checkInTurn
  rw [inTurn_prepare seconds respond hm, inTurn_prepare seconds' respond hm, hasked,
    Settling.applyEach_of_inTime seconds seconds' respond _ h]

/-- **Verification starts afresh and touches nothing else.**  Two valid models that are the same
without their verdicts end alike, whatever the numbers of workers and the orders of the answers; a
second run ends like the first one, and counts itself, unless the count is at its last value.
Whatever comes of a run, also of a cancelled one, nothing but verdicts is changed. -/
theorem verify_afresh (hvalid : m.validate = .ok ()) (hvalid' : m'.validate = .ok ())
    (hsame : m'.unjudged = m.unjudged) :
    (∀ workers workers' x x', Verifies seconds workers respond m x →
      Verifies seconds workers' respond m' x' → x' = x)
    ∧ (∀ workers workers' x y, Verifies seconds workers respond m x →
      Verifies seconds workers' respond x.2 y →
      y = (x.1, { x.2 with audit := x.2.audit.verifiedAgain })
      ∧ (x.2.audit.verificationRuns + 1 < wordSize →
        y.2.audit.verificationRuns = x.2.audit.verificationRuns + 1))
    ∧ (∀ exchange, (conclude seconds exchange m).2.unjudged
      = { m.unjudged with audit := m.audit.verifiedAgain })
    ∧ ∀ limits endpoint cancelled, (verify limits endpoint cancelled m).model.unjudged
      = { m.unjudged with audit := m.audit.verifiedAgain } := by
  have hm := ((Model.validate_eq_ok_iff m).1 hvalid).hasDistinctParts
  have hm' := ((Model.validate_eq_ok_iff m').1 hvalid').hasDistinctParts
  refine ⟨?_, ?_, unjudged_conclude hm seconds, ?_⟩
  · intro workers workers' x x' hx hx'
    rw [(verifies_iff hm' seconds workers' respond x').1 hx',
      (verifies_iff hm seconds workers respond x).1 hx, checkInTurn_congr seconds respond hm hm' hsame]
  · intro workers workers' x y hx hy
    have hafter := hasDistinctParts_checkInTurn seconds respond hm
    rw [(verifies_iff hm seconds workers respond x).1 hx] at hy ⊢
    -- the second run is on what the first one left, which is valid too
    have hagain := ((verifies_iff hafter seconds workers' respond y).1 hy).trans
      (checkInTurn_again seconds respond hm _)
    refine ⟨hagain, fun hbelow => ?_⟩
    rw [hagain]
    exact nextWord_eq hbelow
  · intro limits endpoint cancelled
    obtain ⟨exchange, -, hconclude⟩ := verify_eq_conclude limits endpoint cancelled m
    rw [show (verify limits endpoint cancelled m).model = _ from congrArg Prod.snd hconclude]
    exact unjudged_conclude hm _ exchange

/-- The same table after a run that accepted the default and rejected the check. -/
def judgedModel : Model :=
  { checkedModel with
    tables :=
      [(⟨1⟩, { Table.empty ⟨1⟩ "t" with
          columns := [{ Column.plain ⟨2⟩ "x" ⟨"integer", [], [], 0, "integer"⟩ with
            default := some ⟨"0", some "0", .verified, none⟩ }]
          checks := [⟨⟨3⟩, "t_check", ⟨"x > 0", some "x > 0", .rejected, some "no"⟩⟩] })]
    issues := [issue .expressionRejected (.check ⟨1⟩ ⟨3⟩) "t_check rejected by target: no"] }

theorem verify_afresh_judgedModel :
    judgedModel.validate = .ok () ∧ judgedModel.unjudged = checkedModel.unjudged
      ∧ (∀ x, Verifies 30 1 onlyChecks judgedModel x →
        x = conclude 30 (.collected lateAnswers) checkedModel)
      ∧ (verify ⟨2, 1000⟩ (.missing "no endpoint") true checkedModel).model.unjudged
        = { checkedModel with audit := checkedModel.audit.verifiedAgain } := by
  have hvalid : checkedModel.validate = .ok () := by decide
  have hjudged : judgedModel.validate = .ok () := by decide
  have hsame : judgedModel.unjudged = checkedModel.unjudged := by decide
  have hbefore : checkedModel.unjudged = checkedModel := by decide
  obtain ⟨halike, -, -, hframe⟩ := verify_afresh 30 onlyChecks hvalid hjudged hsame
  refine ⟨hjudged, hsame, fun x hx => halike 2 1 _ x verifies_lateAnswers hx, ?_⟩
  rw [hframe, hbefore]

/-- The same table in a model that has been verified so often that two more runs exhaust the count. -/
def wornModel : Model :=
  { checkedModel with audit := { checkedModel.audit with verificationRuns := wordSize - 2 } }

/-- After its last value the count begins again: the second run ends like the first one, but its
count is not one higher. -/
theorem count_exhausted_wornModel :
    wornModel.validate = .ok ()
      ∧ ∃ x y, Verifies 30 2 onlyChecks wornModel x ∧ Verifies 30 2 onlyChecks x.2 y
        ∧ y.1 = x.1 ∧ x.2.audit.verificationRuns = 4294967295 ∧ y.2.audit.verificationRuns = 0
        ∧ y.2.audit.verificationRuns ≠ x.2.audit.verificationRuns + 1 := by
  have hvalid : wornModel.validate = .ok () := by decide
  have hworn := ((Model.validate_eq_ok_iff wornModel).1 hvalid).hasDistinctParts
  have hafter := hasDistinctParts_checkInTurn 30 onlyChecks hworn
  have hsame := congrArg Prod.fst (checkInTurn_again 30 onlyChecks hworn
    (checkInTurn 30 onlyChecks wornModel).2.audit)
  have hfirst : (checkInTurn 30 onlyChecks wornModel).2.audit.verificationRuns = 4294967295 := by
    rw [audit_checkInTurn 30 onlyChecks hworn]
    rfl
  have hsecond : (checkInTurn 30 onlyChecks
      (checkInTurn 30 onlyChecks wornModel).2).2.audit.verificationRuns = 0 := by
    rw [audit_checkInTurn 30 onlyChecks hafter, audit_checkInTurn 30 onlyChecks hworn]
    rfl
  refine ⟨hvalid, _, _, (verifies_iff hworn 30 2 onlyChecks _).2 rfl,
    (verifies_iff hafter 30 2 onlyChecks _).2 rfl, hsame, hfirst, hsecond, ?_⟩
  rw [hsecond, hfirst]
  decide

end SchemaBridge.Verification
