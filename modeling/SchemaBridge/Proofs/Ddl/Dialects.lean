/-
# Scripts of verified models

A script can be written for either dialect, whichever one the model was verified under.  An expression
that nobody has judged is translated for the dialect of the script.  A verified one keeps the text that
was submitted, which is the translation for the dialect of the model.

## Key statements

* `text_of_verified`: the text a verified expression keeps.
* `statements_by_status`: which text each expression has in a script for a dialect.
* `foreign_acceptedModel`: a script for one dialect with a text for the other one.
-/
import SchemaBridge.Proofs.Ddl.Clauses
import SchemaBridge.Proofs.Ddl.Script
import SchemaBridge.Proofs.Verification.InTurn

namespace SchemaBridge

open Verification

/-- Every expression that is written has a slot. -/
theorem exists_slot_of_written {t : Table} {e : Expression} (he : e ∈ t.written) :
    ∃ slot, (slot, e) ∈ Model.tableExpressions t := by
  rcases List.mem_append.1 he with he | he
  · obtain ⟨c, hc, hwritten⟩ := List.mem_filterMap.1 he
    rcases Option.or_eq_some_iff.1 hwritten with hgenerated | ⟨-, hdefault⟩
    · exact ⟨.generated t.id c.id,
        mem_tableExpressions.2 (.inl ⟨c, hc, mem_columnExpressions.2 (.inr ⟨rfl, hgenerated⟩)⟩)⟩
    · exact ⟨.default t.id c.id,
        mem_tableExpressions.2 (.inl ⟨c, hc, mem_columnExpressions.2 (.inl ⟨rfl, hdefault⟩)⟩)⟩
  · obtain ⟨k, hk, rfl⟩ := List.mem_map.1 he
    exact ⟨.check t.id k.id, mem_tableExpressions.2 (.inr ⟨k, hk, rfl, rfl⟩)⟩

/-- Translation looks at names of columns only, which are the same in both models. -/
theorem Model.SameBare.translate {m m' : Model} (h : m.SameBare m') {id : TableId} {t t' : Table}
    (ht : m.table? id = some t) (ht' : m'.table? id = some t') (source : SourceDialect)
    (d : TargetDialect) (text : String) :
    Verification.translate source d t' text = Verification.translate source d t text := by
  have hsame := h.map_table? (f := fun t => Verification.translate source d t text)
    (fun t => translate_bare source d t text) id
  rw [ht, ht'] at hsame
  exact Option.some.inj hsame

/-- A verified expression keeps its translation for the dialect of the model. -/
theorem Verification.Accounts.text_of_verified {m m' : Model} {exchange : Exchange}
    {summary : Summary} (h : Accounts m exchange summary m') (hm : m.HasDistinctParts)
    (hbare : m.SameBare m') {t : Table} (ht : t ∈ m'.tableList) {e : Expression}
    (he : e ∈ t.written) (hverified : e.status = .verified) :
    e.text = translate m'.source m'.target t e.source := by
  have hm' := hm.of_sameBare hbare
  obtain ⟨slot, hslot⟩ := exists_slot_of_written he
  obtain ⟨x, hx, rfl⟩ := List.mem_map.1 ht
  have hmem : (slot, e) ∈ m'.expressions := Model.mem_expressions.2 ⟨x, hx, hslot⟩
  have htable : m'.table? slot.table = some x.2 := by
    rw [table_of_mem_tableExpressions hslot, hm'.keyed x hx]
    exact tableIn_of_mem hm'.keys hx
  -- the verdict on the expression is the one of its slot
  have hslots : slot ∈ Verification.slots m := by
    rw [← h.slots]
    exact List.mem_map_of_mem hmem
  obtain ⟨i, hi⟩ := List.getElem?_of_mem hslots
  obtain ⟨own, last, -, -, -, hverdicts⟩ := h.verdicts
  obtain ⟨t₀, e₀, e', is, ht₀, -, he', -, hverdict⟩ := hverdicts i slot hi
  obtain rfl : e = e' := Option.some.inj ((hm'.expression?_of_mem hmem).symm.trans he')
  generalize exchange.answer? i = answer at hverdict
  cases hverdict with
  | verified =>
    show translate m.source m.target t₀ e₀.source = translate m'.source m'.target x.2 e₀.source
    rw [hbare.translate ht₀ htable, hbare.source, hbare.target]
  | rejected | skipped => cases hverified

namespace Ddl

/-! ## Texts by status -/

/-- The text that an expression ought to have in a script for a dialect: its translation for that
dialect, unless it was rejected. -/
def dueText (m : Model) (d : TargetDialect) (t : Table) (e : Expression) : Option String :=
  if e.status = .rejected then none else some (translate m.source d t e.source)

/-- The text that it has there: a verified one has the text that is due for the dialect of the model. -/
def givenText (m : Model) (d : TargetDialect) (t : Table) (e : Expression) : Option String :=
  dueText m (if e.status = .verified then m.target else d) t e

/-- A verified expression that reads differently in the two dialects. -/
def IsForeign (m : Model) (d : TargetDialect) (t : Table) (e : Expression) : Prop :=
  e.status = .verified ∧ translate m.source m.target t e.source ≠ translate m.source d t e.source

/-- The text that is given is due unless it was accepted by another target. -/
theorem givenText_eq_dueText_iff (m : Model) (d : TargetDialect) (t : Table) (e : Expression) :
    givenText m d t e = dueText m d t e ↔ ¬ IsForeign m d t e := by
  unfold givenText dueText IsForeign
  cases e.status <;> simp

/-- The statement for a part of a model, when expressions have some texts. -/
def Part.textWith (s : Style) (texts : Table → Expression → Option String) : Part → String
  | table t => String.join (tableNotes s t) ++ bodyWith s t (texts t)
  | index t i => indexText s t i
  | foreignKey t parent f => foreignKeyText s t parent f

/-- A table of the script is one of the model. -/
theorem mem_tableList_of_mem_parts {m : Model} {t : Table} (h : .table t ∈ parts m) :
    t ∈ m.tableList := by
  unfold parts at h
  rw [List.mem_append, List.mem_append] at h
  obtain (h | h) | h := h
  · obtain ⟨u, hu, heq⟩ := List.mem_map.1 h
    cases heq
    exact hu
  · obtain ⟨u, -, h⟩ := List.mem_flatMap.1 h
    obtain ⟨i, -, heq⟩ := List.mem_map.1 h
    cases heq
  · obtain ⟨u, -, h⟩ := List.mem_flatMap.1 h
    obtain ⟨f, -, parent, -, heq⟩ := mem_keyParts.1 h
    cases heq

/-- A script depends on the texts of its expressions. -/
theorem map_textWith_congr {s : Style} {m : Model} {texts texts' : Table → Expression → Option String}
    (h : ∀ t ∈ m.tableList, ∀ e ∈ t.written, texts' t e = texts t e) :
    (parts m).map (Part.textWith s texts') = (parts m).map (Part.textWith s texts) := by
  refine List.map_congr_left fun p hp => ?_
  cases p with
  | index | foreignKey => rfl
  | table t =>
    show String.join (tableNotes s t) ++ _ = _
    rw [bodyWith_congr (h t (mem_tableList_of_mem_parts hp))]
    rfl

/-- A script is that with the texts that are given. -/
theorem text_eq_textWith (s : Style) : Part.text s = Part.textWith s (expressionText s) := by
  funext p
  cases p with
  | index | foreignKey => rfl
  | table t => exact tableText_eq s t

/-- **Scripts of verified models have the text of each expression by its status.**  Whatever came of the
requests, a script for either dialect consists of the same statements, with the translation for that
dialect of each expression that is unverified, and the translation for the dialect of the model of each
one that is verified.  So it is the script that is due exactly where the verified expressions read alike in
both dialects, and for the dialect of the model. -/
theorem statements_by_status {m₀ m : Model} (hvalid : m₀.validate = .ok ()) {seconds workers : Nat}
    {cancelled : Bool} {exchange : Exchange} (hpossible : exchange.IsPossible workers cancelled m₀)
    {summary : Summary} (hrun : conclude seconds exchange m₀ = (.ok summary, m))
    (d : TargetDialect) :
    (∀ ss, statements d m = .ok ss ↔ (∀ p ∈ parts m, ∀ n ∈ p.names, Identifier.Accepts n)
      ∧ ss = (parts m).map (Part.textWith ⟨m.source, d⟩ (givenText m d)))
    ∧ (∀ t ∈ m.tableList, ∀ e ∈ t.written,
      givenText m d t e = dueText m d t e ↔ ¬ IsForeign m d t e)
    ∧ ((d = m.target ∨ ∀ t ∈ m.tableList, ∀ e ∈ t.written, ¬ IsForeign m d t e) →
      (parts m).map (Part.textWith ⟨m.source, d⟩ (givenText m d))
        = (parts m).map (Part.textWith ⟨m.source, d⟩ (dueText m d))) := by
  have hm := ((Model.validate_eq_ok_iff m₀).1 hvalid).hasDistinctParts
  have hbare : m₀.SameBare m := by
    have h := sameBare_conclude seconds exchange m₀
    rwa [hrun] at h
  obtain ⟨summary', m', hrun', haccounts⟩ := conclude_accounts hvalid seconds workers cancelled hpossible
  cases hrun.symm.trans hrun'
  -- only verified expressions have a text of their own, and that is the model's translation
  have htexts : ∀ t ∈ m.tableList, ∀ e ∈ t.written,
      givenText m d t e = expressionText ⟨m.source, d⟩ t e := by
    intro t ht e he
    have hverified := haccounts.text_of_verified hm hbare ht he
    unfold givenText dueText expressionText
    cases hstatus : e.status with
    | unverified | rejected => simp
    | verified => simp [hverified hstatus]
  refine ⟨fun ss => ?_, fun t _ e _ => givenText_eq_dueText_iff m d t e, fun h => ?_⟩
  · rw [(statements_writes m d).eq_ok_iff, List.forall_mem_flatMap, map_textWith_congr htexts,
      text_eq_textWith]
  · refine map_textWith_congr fun t ht e he => (givenText_eq_dueText_iff m d t e).2 ?_
    rcases h with rfl | h
    · exact fun hforeign => hforeign.2 rfl
    · exact h t ht e he

/-- The table with a default and a check after a run that accepted the check only. -/
def acceptedModel : Model :=
  { checkedModel with
    tables :=
      [(⟨1⟩, { Table.empty ⟨1⟩ "t" with
          columns := [{ Column.plain ⟨2⟩ "x" ⟨"integer", [], [], 0, "integer"⟩ with
            default := some (.fresh "0") }]
          checks := [⟨⟨3⟩, "t_check", ⟨"x > 0", some "\x60x\x60 > 0", .verified, none⟩⟩] })]
    issues := [issue .verificationSkipped (.column ⟨1⟩ ⟨2⟩) "t.x: not verified (timed out after 30s)"]
    audit := checkedModel.audit.verifiedAgain }

/-- How the answers are concluded. -/
theorem conclude_lateAnswers :
    conclude 30 (.collected lateAnswers) checkedModel = (.ok ⟨1, 0, 1⟩, acceptedModel) := by
  have hvalid : checkedModel.validate = .ok () := by decide
  have hm := ((Model.validate_eq_ok_iff checkedModel).1 hvalid).hasDistinctParts
  rw [(verifies_iff hm 30 2 onlyChecks _).1 verifies_lateAnswers]
  decide +kernel

/-- The script for the other dialect has the check as it was accepted, and the script for its own dialect
is the one that is due. -/
theorem statements_by_status_acceptedModel :
    checkedModel.validate = .ok () ∧ (Exchange.collected lateAnswers).IsPossible 2 false checkedModel
      ∧ conclude 30 (.collected lateAnswers) checkedModel = (.ok ⟨1, 0, 1⟩, acceptedModel)
      ∧ (∀ p ∈ parts acceptedModel, ∀ n ∈ p.names, Identifier.Accepts n)
      ∧ statements .postgres acceptedModel = .ok ((parts acceptedModel).map
        (Part.textWith ⟨.postgres, .postgres⟩ (givenText acceptedModel .postgres)))
      ∧ (parts acceptedModel).map (Part.textWith ⟨.postgres, .google⟩ (givenText acceptedModel .google))
        = (parts acceptedModel).map
          (Part.textWith ⟨.postgres, .google⟩ (dueText acceptedModel .google)) := by
  have hvalid : checkedModel.validate = .ok () := by decide
  have hpossible : (Exchange.collected lateAnswers).IsPossible 2 false checkedModel :=
    Pool.collects_runAll 2 _ false _
  have hnames : ∀ p ∈ parts acceptedModel, ∀ n ∈ p.names, Identifier.Accepts n := by decide +kernel
  obtain ⟨hpostgres, -, -⟩ := statements_by_status hvalid hpossible conclude_lateAnswers .postgres
  obtain ⟨-, -, hgoogle⟩ := statements_by_status hvalid hpossible conclude_lateAnswers .google
  exact ⟨hvalid, hpossible, conclude_lateAnswers, hnames, (hpostgres _).2 ⟨hnames, rfl⟩,
    hgoogle (.inl rfl)⟩

/-- A script for one dialect that has a text for the other one: quotes around the column that mean
something else there. -/
theorem foreign_acceptedModel :
    conclude 30 (.collected lateAnswers) checkedModel = (.ok ⟨1, 0, 1⟩, acceptedModel)
      ∧ (∃ t ∈ acceptedModel.tableList, ∃ e ∈ t.written,
        givenText acceptedModel .postgres t e = some "\x60x\x60 > 0"
          ∧ dueText acceptedModel .postgres t e = some "\"x\" > 0")
      ∧ statements .postgres acceptedModel = .ok ["CREATE TABLE \"t\" (\n    \"x\" text DEFAULT (0),"
        ++ "\n    CONSTRAINT \"t_check\" CHECK (\x60x\x60 > 0)\n)"] := by
  refine ⟨conclude_lateAnswers, ?_, ?_⟩
  · decide +kernel
  · decide +kernel

end Ddl

end SchemaBridge
