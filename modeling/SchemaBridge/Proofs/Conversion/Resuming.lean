/-
# Resumed runs

A run that goes on with a saved session verifies a model that has its verdicts already.  Where the
target answers by the request alone, it finds again what is there: the tables and the issues stay as
they were saved, and so do the statements and the report, but for the metadata.

## Key statements

* `Obtains.verifies`: a run that left a complete model was not broken off.
* `Job.save_resume`: resuming a session is verifying the model that was saved.
* `Job.resume_saved`: a resumed run gives the saved model back.
-/
import SchemaBridge.Proofs.Files.Keeping
import SchemaBridge.Proofs.Session.RoundTrip
import SchemaBridge.Proofs.Verification.Afresh

namespace SchemaBridge

/-! ## The first run -/

namespace Verification

/-- What a verification can end in, broken off or not, when the target answers by `respond`. -/
def Obtains (seconds workers : Nat) (respond : Request → Answer) (m : Model)
    (x : Outcome Summary × Model) : Prop :=
  ∃ cancelled c, Collects (max workers 1) cancelled ((requests (prepare m)).map (·.2)) c
    ∧ (∀ k ∈ c.completions, ∀ a, k.answer = some a → a = respond k.request)
    ∧ x = conclude seconds (.collected c) m

namespace Obtains

variable {seconds workers : Nat} {respond : Request → Answer} {m after : Model} {summary : Summary}

/-- A verification leaves names, keys and sources. -/
theorem sameBare {x : Outcome Summary × Model} (h : Obtains seconds workers respond m x) :
    m.SameBare x.2 := by
  obtain ⟨cancelled, c, -, -, rfl⟩ := h
  exact sameBare_conclude seconds _ m

/-- A run that is broken off says so, unless there was nothing to ask about. -/
theorem slots_eq_nil_of_aborted {c : Collection} (haborted : c.aborted = true)
    (h : (.ok summary, after) = conclude seconds (.collected c) m)
    (hwhole : after.isPartial = false) : slots m = [] := by
  by_contra hsome
  rw [conclude_collected hsome] at h
  unfold settle at h
  simp only [haborted, if_true] at h
  split at h
  · cases h
  · cases h
    simp [Model.isPartial, Model.hasIssue, issue, Issue.raise] at hwhole

/-- A run that left a complete model was not broken off. -/
theorem verifies (h : Obtains seconds workers respond m (.ok summary, after))
    (hm : m.HasDistinctParts) (hwhole : after.isPartial = false) :
    Verifies seconds workers respond m (.ok summary, after) := by
  obtain ⟨cancelled, c, hcollects, hreplies, hx⟩ := h
  cases haborted : c.aborted with
  | false => exact ⟨cancelled, c, ⟨hcollects, haborted, hreplies⟩, hx⟩
  | true =>
    -- nothing was asked then, and a run that goes through ends in the same way
    have hnone := slots_eq_nil_of_aborted haborted hx hwhole
    obtain ⟨cancelled', c', hgathers, -⟩ := (verifies_iff hm seconds workers respond _).2 rfl
    refine ⟨cancelled', c', hgathers, ?_⟩
    rw [hx, conclude_of_slots_eq_nil hnone, conclude_of_slots_eq_nil hnone]

end Obtains

/-- What asking in turn ends with can be had with any number of workers. -/
theorem obtains_checkInTurn {m : Model} (hm : m.HasDistinctParts) (seconds workers : Nat)
    (respond : Request → Answer) :
    Obtains seconds workers respond m (checkInTurn seconds respond m) := by
  obtain ⟨cancelled, c, hc, hx⟩ := (verifies_iff hm seconds workers respond _).2 rfl
  exact ⟨cancelled, c, hc.collects, hc.replies, hx⟩

end Verification

/-! ## Going on with it -/

namespace Job

open Verification

/-- A model as it is after a run has gone on with it: the same with other metadata. -/
def resumed (job : Job) (path : String) (m : Model) : Model :=
  { m with
    audit := { m.audit with
      requestId := job.requestId
      startedAt := job.startedAt
      completedAt := none
      durationMs := none
      resumedFrom := some path
      configFingerprint := some job.config.fingerprint
      verificationRuns := nextWord m.audit.verificationRuns } }

variable {μ : Type → Type} [Monad μ] [LawfulMonad μ] {w : Surroundings μ} {job : Job}
  {path : String} {respond : Request → Answer}

/-- Resuming a complete session is verifying its model. -/
theorem save_resume (job : Job) (hkeeps : w.Keeps (Session.draft path) path) {c : Model}
    (hvalid : c.validate = .ok ()) (hwhole : c.isPartial = false) (hfits : c.Fits) {now : Instant}
    (hnow : now.Fits) : (do Session.save w path c now; job.resume w path)
      = (do Session.save w path c now; job.verify w (job.adopt path c)) := by
  have hdecoded : Session.decode (Session.encode c now) = .ok (Session.headerFor c now, c) := by
    rw [Session.decode_encode_eq hfits hnow, hvalid]
    rfl
  have hloaded : (ExceptT.mk (pure (.ok (Session.headerFor c now, c)))
      : ExceptT ConvertError μ (Session.Header × Model)) = pure (Session.headerFor c now, c) := rfl
  have hheader : (Session.headerFor c now).isPartial = false := hwhole
  unfold resume
  rw [Session.save_load hkeeps, hdecoded, hloaded]
  simp only [pure_bind, hheader, hwhole, Bool.or_self, Bool.false_eq_true, if_false]

/-- A verifier that was given is asked as the limits of the configuration say. -/
theorem verify_of_channel {channel : Request → Response} (hchannel : job.channel = some channel)
    (hreplies : Replies channel respond) (hgoing : job.cancelled = false) {m after : Model}
    (hm : m.HasDistinctParts) {summary : Summary}
    (h : checkInTurn job.config.target.timeoutSeconds respond m = (.ok summary, after)) :
    job.verify w m = return ⟨after, false⟩ := by
  have hseconds : job.limits.timeoutMilliseconds / 1000 = job.config.target.timeoutSeconds :=
    Nat.mul_div_cancel_left _ (by decide)
  have hresult := verifies_verify hreplies job.limits m
  rw [hseconds, verifies_iff hm, h] at hresult
  obtain ⟨hsummary, hmodel⟩ := Prod.mk.inj hresult
  have hend : (Verification.verify job.limits (.channel channel) false m).cancelled = false :=
    (Pool.isSteady_runAll (fun r => (hreplies r).1) job.limits.workers _).1.active
  have hendpoint : job.endpoint w = pure (.channel channel) := by
    unfold Job.endpoint
    rw [hchannel]
  unfold Job.verify
  rw [hendpoint, hgoing]
  simp only [liftM_pure, pure_bind]
  rw [hsummary, hmodel, hend]

/-- Who goes on with a model that was verified finds what was found, if there is as much time, or if
no time ran out. -/
theorem checkInTurn_adopt {seconds : Nat} {m c : Model} {summary : Summary}
    (hm : m.HasDistinctParts) (hfirst : checkInTurn seconds respond m = (.ok summary, c))
    (htime : job.config.target.timeoutSeconds = seconds
      ∨ ∀ x ∈ requests c, respond x.2 ≠ .timedOut) :
    checkInTurn job.config.target.timeoutSeconds respond (job.adopt path c)
      = (.ok summary, job.resumed path c) := by
  -- with the time of the later run, the first one would have ended alike
  have hbefore : checkInTurn job.config.target.timeoutSeconds respond m = (.ok summary, c) := by
    rcases htime with rfl | hinTime
    · exact hfirst
    · have hrequests := requests_of_unjudged (unjudged_checkInTurn seconds respond hm)
      rw [hfirst] at hrequests
      rw [checkInTurn_of_inTime _ seconds hm (hrequests ▸ hinTime), hfirst]
  have htwice := checkInTurn_again job.config.target.timeoutSeconds respond hm
    (job.adopt path c).audit
  rw [hbefore] at htwice
  exact htwice

/-- **A resumed run gives the saved model back.**  A verification whose answers depend on the request
alone left a complete and valid model, which was saved.  Whoever goes on with it over a verifier that
answers alike, with as much time for an answer if the time of any request runs out, gets the same
summary and the same model, but for the metadata of the new request; so the statements are the same,
and the report but for its metadata. -/
theorem resume_saved (job : Job) (hkeeps : w.Keeps (Session.draft path) path) {seconds workers : Nat}
    {m c : Model} {summary : Summary}
    (hrun : Obtains seconds workers respond m (.ok summary, c)) (hvalid : c.validate = .ok ())
    (hwhole : c.isPartial = false) (hfits : c.Fits) {now : Instant} (hnow : now.Fits)
    {channel : Request → Response} (hchannel : job.channel = some channel)
    (hreplies : Replies channel respond) (hgoing : job.cancelled = false)
    (htime : job.config.target.timeoutSeconds = seconds
      ∨ ∀ x ∈ requests c, respond x.2 ≠ .timedOut) :
    (do Session.save w path c now; job.resume w path)
        = (do Session.save w path c now; return ⟨job.resumed path c, false⟩)
      ∧ (∀ workers' x,
        Verifies job.config.target.timeoutSeconds workers' respond (job.adopt path c) x →
        x = (.ok summary, job.resumed path c))
      ∧ (∀ d, Ddl.statements d (job.resumed path c) = Ddl.statements d c)
      ∧ Report.assemble (job.resumed path c)
        = { Report.assemble c with audit := (job.resumed path c).audit } := by
  -- nothing is known of the model before the first run but what that run has left alone
  have hparts : c.HasDistinctParts := ((Model.validate_eq_ok_iff c).1 hvalid).hasDistinctParts
  have hm : m.HasDistinctParts := hparts.of_sameBare hrun.sameBare.symm
  have hadopted : (job.adopt path c).HasDistinctParts := hparts.of_sameBare ⟨rfl, rfl, rfl⟩
  have hfirst : checkInTurn seconds respond m = (.ok summary, c) :=
    ((verifies_iff hm seconds workers respond _).1 (hrun.verifies hm hwhole)).symm
  have hagain : checkInTurn job.config.target.timeoutSeconds respond (job.adopt path c)
      = (.ok summary, job.resumed path c) := checkInTurn_adopt hm hfirst htime
  refine ⟨?_, ?_, fun d => rfl, rfl⟩
  · rw [save_resume job hkeeps hvalid hwhole hfits hnow,
      verify_of_channel hchannel hreplies hgoing hadopted hagain]
  · intro workers' x hx
    rw [(verifies_iff hadopted _ workers' respond x).1 hx, hagain]

/-- The table with a default and a check after its expressions got these verdicts. -/
def answeredModel (default check : Expression) (issues : List Issue) : Model :=
  { checkedModel with
    tables :=
      [(⟨1⟩, { Table.empty ⟨1⟩ "t" with
          columns := [{ Column.plain ⟨2⟩ "x" ⟨"integer", [], [], 0, "integer"⟩ with
            default := some default }]
          checks := [⟨⟨3⟩, "t_check", check⟩] })]
    issues
    audit := checkedModel.audit.verifiedAgain }

/-- The model with the answers fits into a session. -/
theorem fits_answeredModel (default check : Expression) {issues : List Issue}
    (h : ∀ i ∈ issues, i.target.Fits) : (answeredModel default check issues).Fits := by
  have haudit : checkedModel.audit.verifiedAgain.Fits := by
    refine ⟨by decide, ⟨by decide, by decide, fun h => absurd h (by decide)⟩, fun _ h => ?_,
      fun _ h => ?_, by decide, ⟨List.nil_sublist _, by decide⟩⟩ <;> cases h
  have hcolumn : ({ Column.plain ⟨2⟩ "x" ⟨"integer", [], [], 0, "integer"⟩ with
      default := some default } : Column).Fits :=
    ⟨(by decide : FitsWord32 2), ⟨List.forall_mem_nil _, (by decide : FitsWord32 0)⟩,
      fun _ h => by cases h⟩
  refine ⟨List.pairwise_singleton _ _, ?_, ?_, h, haudit, (by decide : FitsWord32 4)⟩
  · intro e he
    rw [List.mem_singleton.1 he]
    exact (by decide : FitsWord32 1)
  · intro e he
    rw [List.mem_singleton.1 he]
    refine ⟨(by decide : FitsWord32 1), ?_, List.forall_mem_nil _, List.forall_mem_nil _,
      List.forall_mem_nil _, ?_⟩
    · intro c hc
      rw [List.mem_singleton.1 hc]
      exact hcolumn
    · intro k hk
      rw [List.mem_singleton.1 hk]
      exact (by decide : FitsWord32 3)

/-- A target that accepts everything but checks. -/
def refuseChecks (r : Request) : Answer := if r.kind = .check then .rejected "no" else .accepted

/-- What a verification over that target leaves. -/
def refusedModel : Model :=
  answeredModel ⟨"0", some "0", .verified, none⟩ ⟨"x > 0", some "`x` > 0", .rejected, some "no"⟩
    [issue .expressionRejected (.check ⟨1⟩ ⟨3⟩) "t.t_check rejected by target: no"]

/-- A later job that gives so much time for an answer. -/
def laterJob (seconds : Nat) (channel : Request → Response) : Job :=
  { config :=
      { source := ⟨.mysql, some "dump.sql", none⟩
        target := { TargetChoice.default with timeoutSeconds := seconds }
        conversion := ConversionChoice.default }
    requestId := "later"
    startedAt := ⟨60, 0⟩
    cancelled := false
    channel := some channel }

theorem fits_startedAt (seconds : Nat) (channel : Request → Response) :
    (laterJob seconds channel).startedAt.Fits := by
  show (Instant.mk 60 0).Fits
  exact ⟨by decide, by decide, fun h => absurd h (by decide)⟩

/-- A session can be saved in an empty folder. -/
theorem save_empty (m : Model) (now : Instant) :
    (Session.save Surroundings.folder "t.session.json" m now).run Folder.empty
      = (.ok (), ⟨[(["t.session.json"], (Session.encode m now).toUTF8.toList)]⟩) := by
  have hdraft : Session.draft "t.session.json" = "t.session.tmp" := by decide +kernel
  have hplace (f : Folder) : f.locate "t.session.tmp" = .ok ["t.session.tmp"] :=
    f.locate_name (by decide) (by decide) (by decide)
  have hgoal (f : Folder) : f.locate "t.session.json" = .ok ["t.session.json"] :=
    f.locate_name (by decide) (by decide) (by decide)
  have hwrite : Folder.empty.write "t.session.tmp" (Session.encode m now).toUTF8.toList
      = .ok ⟨[(["t.session.tmp"], (Session.encode m now).toUTF8.toList)]⟩ :=
    Folder.write_eq_ok_iff.2 ⟨_, hplace _, rfl, rfl⟩
  refine Surroundings.run_save (hdraft ▸ hwrite) ?_
  rw [hdraft]
  exact Folder.move_eq_ok_iff.2 ⟨_, Folder.read_eq_ok_iff.2 ⟨_, hplace _, rfl, rfl⟩, _, hplace _, _,
    hgoal _, rfl, rfl⟩

/-- The folder keeps a session under its name. -/
theorem keeps_session :
    Surroundings.folder.Keeps (Session.draft "t.session.json") "t.session.json" :=
  Surroundings.keeps_folder (by decide +kernel) (by decide)

/-- What comes of saving a model in an empty folder and resuming the session. -/
def resumeInFolder (job : Job) (m : Model) : Except ConvertError Converted :=
  ((do
    Session.save Surroundings.folder "t.session.json" m job.startedAt
    job.resume Surroundings.folder "t.session.json").run Folder.empty).1

/-- A run that saves and resumes, if it ends. -/
theorem resumeInFolder_eq {job : Job} {m : Model} {x : Converted}
    (h : (do
      Session.save Surroundings.folder "t.session.json" m job.startedAt
      job.resume Surroundings.folder "t.session.json")
      = (do
        Session.save Surroundings.folder "t.session.json" m job.startedAt
        return x)) : resumeInFolder job m = .ok x := by
  unfold resumeInFolder
  rw [h, Surroundings.run_bind, save_empty]
  rfl

theorem resume_saved_refusedModel :
    Surroundings.folder.Keeps (Session.draft "t.session.json") "t.session.json"
      ∧ Obtains 1 4 refuseChecks checkedModel (.ok ⟨1, 1, 0⟩, refusedModel)
      ∧ refusedModel.validate = .ok () ∧ refusedModel.isPartial = false ∧ refusedModel.Fits
      ∧ Replies (steadyChannel refuseChecks) refuseChecks
      ∧ (∀ x ∈ requests refusedModel, refuseChecks x.2 ≠ .timedOut)
      ∧ resumeInFolder (laterJob 2 (steadyChannel refuseChecks)) refusedModel
        = .ok ⟨(laterJob 2 (steadyChannel refuseChecks)).resumed "t.session.json" refusedModel,
          false⟩ := by
  have hchecked : checkedModel.validate = .ok () := by decide
  have hfirst : checkInTurn 1 refuseChecks checkedModel = (.ok ⟨1, 1, 0⟩, refusedModel) := by
    decide +kernel
  have hrun : Obtains 1 4 refuseChecks checkedModel (.ok ⟨1, 1, 0⟩, refusedModel) := hfirst ▸
    obtains_checkInTurn ((Model.validate_eq_ok_iff _).1 hchecked).hasDistinctParts 1 4 refuseChecks
  have hvalid : refusedModel.validate = .ok () := by decide
  have hwhole : refusedModel.isPartial = false := by decide
  have hfits : refusedModel.Fits := fits_answeredModel _ _ (by
    intro i hi
    rw [List.mem_singleton.1 hi]
    exact ⟨by decide, by decide⟩)
  have hreplies := replies_steadyChannel refuseChecks
  -- no answer takes too long, so the other limit of the second run does not matter
  have hinTime : ∀ x ∈ requests refusedModel, refuseChecks x.2 ≠ .timedOut := by
    intro x _
    unfold refuseChecks
    split <;> simp
  obtain ⟨hresumed, -⟩ := resume_saved (laterJob 2 (steadyChannel refuseChecks)) keeps_session hrun
    hvalid hwhole hfits (fits_startedAt 2 (steadyChannel refuseChecks)) rfl hreplies rfl
    (.inr hinTime)
  exact ⟨keeps_session, hrun, hvalid, hwhole, hfits, hreplies, hinTime, resumeInFolder_eq hresumed⟩

/-- The same expressions after no answer came in time. -/
def overdueModel (seconds : Nat) : Model :=
  answeredModel (.fresh "0") (.fresh "x > 0")
    [issue .verificationSkipped (.column ⟨1⟩ ⟨2⟩)
      ("t.x: not verified (timed out after " ++ Text.decimal seconds ++ "s)"),
    issue .verificationSkipped (.check ⟨1⟩ ⟨3⟩)
      ("t.t_check: not verified (timed out after " ++ Text.decimal seconds ++ "s)")]

/-- A target that never answers. -/
def silentChannel (_ : Request) : Response := ⟨none, false⟩

/-- Where no answer comes, the issues say for how long it was waited: with another time limit a
resumed run does not give the saved model back. -/
theorem resume_overdueModel_ne :
    Obtains 1 4 (fun _ => .timedOut) checkedModel (.ok ⟨0, 0, 2⟩, overdueModel 1)
      ∧ (overdueModel 1).validate = .ok () ∧ (overdueModel 1).isPartial = false
      ∧ (overdueModel 1).Fits ∧ Replies silentChannel (fun _ => .timedOut)
      ∧ resumeInFolder (laterJob 2 silentChannel) (overdueModel 1)
        = .ok ⟨(laterJob 2 silentChannel).resumed "t.session.json" (overdueModel 2), false⟩
      ∧ (overdueModel 2).issues ≠ (overdueModel 1).issues := by
  have hchecked : checkedModel.validate = .ok () := by decide
  have hm := ((Model.validate_eq_ok_iff _).1 hchecked).hasDistinctParts
  have hfirst : checkInTurn 1 (fun _ => .timedOut) checkedModel
      = (.ok ⟨0, 0, 2⟩, overdueModel 1) := by
    decide +kernel
  have hrun : Obtains 1 4 (fun _ => .timedOut) checkedModel (.ok ⟨0, 0, 2⟩, overdueModel 1) :=
    hfirst ▸ obtains_checkInTurn hm 1 4 fun _ => .timedOut
  have hvalid : (overdueModel 1).validate = .ok () := by decide
  have hwhole : (overdueModel 1).isPartial = false := by decide
  have hfits : (overdueModel 1).Fits := fits_answeredModel _ _ (by
    intro i hi
    rcases List.mem_cons.1 hi with rfl | hi
    · exact ⟨by decide, by decide⟩
    · rw [List.mem_singleton.1 hi]
      exact ⟨by decide, by decide⟩)
  have hreplies : Replies silentChannel (fun _ => .timedOut) := fun _ => ⟨rfl, rfl⟩
  have hlater : checkInTurn 2 (fun _ => .timedOut) checkedModel
      = (.ok ⟨0, 0, 2⟩, overdueModel 2) := by
    decide +kernel
  have hadopted :
      ((laterJob 2 silentChannel).adopt "t.session.json" (overdueModel 1)).HasDistinctParts :=
    ((Model.validate_eq_ok_iff _).1 hvalid).hasDistinctParts.of_sameBare ⟨rfl, rfl, rfl⟩
  -- without their verdicts the two models are the same
  have hprepare : prepare ((laterJob 2 silentChannel).adopt "t.session.json" (overdueModel 1))
      = { prepare checkedModel with
          audit := ((laterJob 2 silentChannel).resumed "t.session.json" (overdueModel 2)).audit } :=
    rfl
  have hagain : checkInTurn 2 (fun _ => .timedOut)
      ((laterJob 2 silentChannel).adopt "t.session.json" (overdueModel 1))
      = (.ok ⟨0, 0, 2⟩, (laterJob 2 silentChannel).resumed "t.session.json" (overdueModel 2)) := by
    have hsame := checkInTurn_of_prepare 2 (fun _ => .timedOut) hprepare
    rw [hlater] at hsame
    exact hsame
  have hverified : (laterJob 2 silentChannel).verify Surroundings.folder
      ((laterJob 2 silentChannel).adopt "t.session.json" (overdueModel 1)) = _ :=
    verify_of_channel rfl hreplies rfl hadopted hagain
  refine ⟨hrun, hvalid, hwhole, hfits, hreplies, resumeInFolder_eq ?_, by decide⟩
  rw [save_resume _ keeps_session hvalid hwhole hfits (fits_startedAt 2 silentChannel), hverified]

end Job

end SchemaBridge
