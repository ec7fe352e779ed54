/-
# What a verification leaves alone

A model without verdicts: its expressions are as they were before anyone looked at them, and the
verifier has said nothing yet.  A verification begins with this model, and whatever is collected, the
model it ends with is the same but for the verdicts: it has the same identifiers, names, types, keys
and sources, and the issues of the other stages in their order.

## Key statements

* `prepare_eq`: a run begins with the model without its verdicts.
* `unjudged_conclude`: nothing but verdicts is changed, whatever was collected.
-/
import SchemaBridge.Proofs.Verification.Accounting

namespace SchemaBridge

/-! ## Models without verdicts -/

/-- A column whose expressions nobody has looked at. -/
def Column.unjudged (c : Column) : Column :=
  { c with default := c.default.map (·.reset), generated := c.generated.map (·.reset) }

/-- A table whose expressions nobody has looked at. -/
def Table.unjudged (t : Table) : Table :=
  { t with
    columns := t.columns.map Column.unjudged
    checks := t.checks.map fun k => { k with expr := k.expr.reset } }

/-- A model as it was before any verification. -/
def Model.unjudged (m : Model) : Model := (m.mapTables Table.unjudged).clearIssues .verifier

/-- Dropping verdicts leaves the rest of a table. -/
theorem Table.bare_unjudged (t : Table) : t.unjudged.bare = t.bare := by
  have hcolumn (c : Column) : c.unjudged.bare = c.bare := by
    unfold Column.unjudged Column.bare
    simp only [Option.map_map, Function.comp_def]
  unfold Table.unjudged Table.bare
  simp only [List.map_map, Function.comp_def, hcolumn]

theorem Model.sameBare_unjudged (m : Model) : m.SameBare m.unjudged := by
  refine ⟨rfl, rfl, ?_⟩
  show ((m.tables.map fun e => (e.1, e.2.unjudged)).map fun e => (e.1, e.2.bare)) = _
  rw [List.map_map]
  refine List.map_congr_left fun e _ => ?_
  rw [Function.comp_apply, Table.bare_unjudged]

/-- Models that agree without their verdicts differ in expressions only. -/
theorem Model.SameBare.of_unjudged {m m' : Model} (hsource : m'.unjudged.source = m.unjudged.source)
    (htarget : m'.unjudged.target = m.unjudged.target)
    (htables : m'.unjudged.tables = m.unjudged.tables) : m.SameBare m' := by
  refine ⟨hsource, htarget, ?_⟩
  rw [← m'.sameBare_unjudged.tables, ← m.sameBare_unjudged.tables, htables]

/-- Each expression is there without its verdict. -/
theorem Table.expressionIn_unjudged (t : Table) (s : ExpressionSlot) :
    t.unjudged.expressionIn s = (t.expressionIn s).map (·.reset) := by
  have hcolumn (c : ColumnId) : t.unjudged.column? c = (t.column? c).map Column.unjudged := by
    unfold Table.column? Table.unjudged
    rw [List.find?_map]
    rfl
  cases s with
  | default k c =>
    show (t.unjudged.column? c).bind (·.default) = ((t.column? c).bind (·.default)).map (·.reset)
    rw [hcolumn]
    cases t.column? c <;> rfl
  | generated k c =>
    show (t.unjudged.column? c).bind (·.generated)
      = ((t.column? c).bind (·.generated)).map (·.reset)
    rw [hcolumn]
    cases t.column? c <;> rfl
  | check k c =>
    unfold Table.expressionIn Table.unjudged
    dsimp only
    rw [List.find?_map, Option.map_map, Option.map_map]
    rfl

theorem Model.expression?_unjudged (m : Model) (s : ExpressionSlot) :
    m.unjudged.expression? s = (m.expression? s).map (·.reset) := by
  have htable : m.unjudged.table? s.table = (m.table? s.table).map Table.unjudged :=
    tableIn_map m.tables (fun _ => Table.unjudged) s.table
  rw [Model.expression?_eq, Model.expression?_eq, htable]
  cases m.table? s.table with
  | none => rfl
  | some t => exact t.expressionIn_unjudged s

/-- A table none of whose expressions has a verdict. -/
theorem Table.unjudged_eq_self {t : Table}
    (h : ∀ x ∈ Model.tableExpressions t, x.2.reset = x.2) : t.unjudged = t := by
  have hcolumns : t.columns.map Column.unjudged = t.columns := by
    refine (List.map_congr_left fun c hc => ?_).trans (List.map_id _)
    -- the expressions of a column are among those of its table
    have hmem : ∀ x ∈ Model.columnExpressions t.id c, x.2.reset = x.2 := fun x hx =>
      h x (mem_tableExpressions.2 (.inl ⟨c, hc, hx⟩))
    have hdefault : c.default.map (·.reset) = c.default := by
      cases hd : c.default with
      | none => rfl
      | some e => exact congrArg some (hmem _ (mem_columnExpressions.2 (.inl ⟨rfl, hd⟩)))
    have hgenerated : c.generated.map (·.reset) = c.generated := by
      cases hg : c.generated with
      | none => rfl
      | some e => exact congrArg some (hmem _ (mem_columnExpressions.2 (.inr ⟨rfl, hg⟩)))
    unfold Column.unjudged
    rw [hdefault, hgenerated]
    rfl
  have hchecks : (t.checks.map fun k => { k with expr := k.expr.reset }) = t.checks := by
    refine (List.map_congr_left fun k hk => ?_).trans (List.map_id _)
    have hreset := h _ (mem_tableExpressions.2 (.inr ⟨k, hk, rfl, rfl⟩))
    dsimp only at hreset
    rw [hreset]
    rfl
  unfold Table.unjudged
  rw [hcolumns, hchecks]

/-! ## Changes that only concern verdicts -/

/-- A change of the first element that is found, which a view does not see. -/
theorem map_modifyFirst_of_find? {α β : Type} {p : α → Bool} {f : α → α} {g : α → β} {l : List α}
    (h : ∀ a, l.find? p = some a → g (f a) = g a) : (Table.modifyFirst p f l).map g = l.map g := by
  induction l with
  | nil => rfl
  | cons a r ih =>
    unfold Table.modifyFirst
    by_cases hp : p a = true
    · rw [if_pos hp, List.map_cons, List.map_cons, h a (List.find?_cons_of_pos hp)]
    · rw [if_neg hp, List.map_cons, List.map_cons,
        ih fun b hb => h b ((List.find?_cons_of_neg hp).trans hb)]

/-- A change of the expression in a slot of a table that is gone when the expression is reset. -/
theorem Table.unjudged_modifyTableExpression {t : Table} {slot : ExpressionSlot}
    {f : Expression → Expression}
    (h : ∀ e, t.expressionIn slot = some e → (f e).reset = e.reset) :
    (Model.modifyTableExpression slot f t).unjudged = t.unjudged := by
  -- a default and a generated expression stand in columns, a check does not
  have hcolumns {c : ColumnId} {g : Column → Column}
      (hg : ∀ a, t.column? c = some a → (g a).unjudged = a.unjudged) :
      (t.modifyColumn c g).unjudged = t.unjudged := by
    unfold Table.modifyColumn Table.unjudged
    dsimp only
    rw [map_modifyFirst_of_find? hg]
  cases slot with
  | default k c =>
    refine hcolumns fun a ha => ?_
    have hreset : ∀ e, a.default = some e → (f e).reset = e.reset := fun e he =>
      h e (by simp [Table.expressionIn, ha, he])
    unfold Column.unjudged
    cases hd : a.default with
    | none => simp
    | some e => simp [hreset e hd]
  | generated k c =>
    refine hcolumns fun a ha => ?_
    have hreset : ∀ e, a.generated = some e → (f e).reset = e.reset := fun e he =>
      h e (by simp [Table.expressionIn, ha, he])
    unfold Column.unjudged
    cases hd : a.generated with
    | none => simp
    | some e => simp [hreset e hd]
  | check k c =>
    unfold Model.modifyTableExpression Table.unjudged
    dsimp only
    rw [map_modifyFirst_of_find?]
    intro a ha
    have hreset : (f a.expr).reset = a.expr.reset := h a.expr (by simp [Table.expressionIn, ha])
    simp only [hreset]

/-- Such a change of the expression that is found in a slot of a model. -/
theorem Model.unjudged_modifyExpression {m : Model} (hkeys : (m.tables.map (·.1)).Nodup)
    {slot : ExpressionSlot} {f : Expression → Expression}
    (h : ∀ e, m.expression? slot = some e → (f e).reset = e.reset) :
    (m.modifyExpression slot f).unjudged = m.unjudged := by
  have htables : (changeIn m.tables slot.table (Model.modifyTableExpression slot f)).map
      (fun e => (e.1, e.2.unjudged)) = m.tables.map fun e => (e.1, e.2.unjudged) := by
    cases ht : tableIn m.tables slot.table with
    | none =>
      rw [changeIn_of_not_mem]
      intro hmem
      rw [← isSome_tableIn_iff, ht] at hmem
      cases hmem
    | some t =>
      obtain ⟨pre, post, hl, hpre, hpost⟩ := exists_split_of_tableIn hkeys ht
      have hreset : ∀ e, t.expressionIn slot = some e → (f e).reset = e.reset := by
        intro e he
        refine h e ?_
        rw [Model.expression?_eq, Model.table?_eq_tableIn, ht]
        exact he
      rw [hl, changeIn_split hpre hpost]
      simp only [List.map_append, List.map_cons, Table.unjudged_modifyTableExpression hreset]
  exact congrArg (fun l => ({ m with tables := l } : Model).clearIssues .verifier) htables

/-- What the verifier says is not part of a model without verdicts. -/
theorem Model.unjudged_addIssue (m : Model) {i : Issue} (h : i.stage = .verifier) :
    (m.addIssue i).unjudged = m.unjudged := by
  have hissues : ((m.issues ++ [i]).filter fun i => i.stage ≠ .verifier)
      = m.issues.filter fun i => i.stage ≠ .verifier := by
    rw [List.filter_append, List.filter_cons_of_neg (by simp [h]), List.filter_nil,
      List.append_nil]
  exact congrArg (fun l => { m.mapTables Table.unjudged with issues := l }) hissues

/-- Dropping issues of the verifier leaves what is not a verdict. -/
theorem Model.unjudged_clearIssues (m : Model) : (m.clearIssues .verifier).unjudged = m.unjudged := by
  have hissues : (m.issues.filter fun i => i.stage ≠ .verifier).filter (fun i => i.stage ≠ .verifier)
      = m.issues.filter fun i => i.stage ≠ .verifier := by
    rw [List.filter_filter]
    simp
  exact congrArg (fun l => { m.mapTables Table.unjudged with issues := l }) hissues

/-- Tables stay under their identifiers. -/
theorem Model.keys_unjudged (m : Model) : m.unjudged.tables.map (·.1) = m.tables.map (·.1) := by
  show (m.tables.map fun e => (e.1, e.2.unjudged)).map (·.1) = _
  rw [List.map_map]
  rfl

namespace Verification

/-! ## Before the run -/

/-- Forgetting verdicts leaves all else. -/
theorem unjudged_forget {m : Model} (hkeys : (m.tables.map (·.1)).Nodup)
    (ss : List ExpressionSlot) : (forget m ss).unjudged = m.unjudged := by
  induction ss generalizing m with
  | nil => rfl
  | cons s ss ih =>
    have hstep : (m.modifyExpression s (·.reset)).unjudged = m.unjudged :=
      Model.unjudged_modifyExpression hkeys fun _ _ => rfl
    have hkeys' : ((m.modifyExpression s (·.reset)).tables.map (·.1)).Nodup := by
      rw [← Model.keys_unjudged, hstep, Model.keys_unjudged]
      exact hkeys
    exact (ih hkeys').trans hstep

/-- Preparing a run leaves all else, and counts the run. -/
theorem unjudged_prepare {m : Model} (hkeys : (m.tables.map (·.1)).Nodup) :
    (prepare m).unjudged = { m.unjudged with audit := m.audit.verifiedAgain } := by
  have hforget := unjudged_forget (m := m.clearIssues .verifier) hkeys (slots m)
  rw [m.unjudged_clearIssues] at hforget
  have haudit : (forget (m.clearIssues .verifier) (slots m)).unjudged.audit = m.unjudged.audit := by
    rw [hforget]
  have hcounted : (prepare m).unjudged
      = { (forget (m.clearIssues .verifier) (slots m)).unjudged with
          audit := (forget (m.clearIssues .verifier) (slots m)).unjudged.audit.verifiedAgain } :=
    rfl
  rw [hcounted, haudit, hforget]
  rfl

/-- No expression has a verdict when a run begins. -/
theorem unjudged_prepare_eq_self {m : Model} (hm : m.HasDistinctParts) :
    (prepare m).unjudged = prepare m := by
  have hdistinct := hm.of_sameBare (sameBare_prepare m)
  have htables : (prepare m).tables.map (fun e => (e.1, e.2.unjudged)) = (prepare m).tables := by
    refine (List.map_congr_left fun x hx => ?_).trans (List.map_id _)
    -- what is listed with a slot is what is found there, and that was reset
    have hreset : ∀ y ∈ Model.tableExpressions x.2, y.2.reset = y.2 := by
      intro y hy
      have hmem : (y.1, y.2) ∈ (prepare m).expressions := Model.mem_expressions.2 ⟨x, hx, hy⟩
      have hslot : y.1 ∈ slots m := by
        rw [← (sameBare_prepare m).slots]
        exact List.mem_map_of_mem hmem
      have hfound := hdistinct.expression?_of_mem hmem
      rw [expression?_prepare hslot] at hfound
      obtain ⟨e, -, he⟩ := Option.map_eq_some_iff.1 hfound
      rw [← he]
      rfl
    rw [Table.unjudged_eq_self hreset]
    rfl
  have hissues : (prepare m).issues.filter (fun i => i.stage ≠ .verifier) = (prepare m).issues := by
    rw [issues_prepare, List.filter_filter]
    simp
  have hbuilt : (prepare m).unjudged = { prepare m with
      tables := (prepare m).tables.map fun e => (e.1, e.2.unjudged)
      issues := (prepare m).issues.filter fun i => i.stage ≠ .verifier } := rfl
  rw [hbuilt, htables, hissues]

/-- A run begins with the model without its verdicts. -/
theorem prepare_eq {m : Model} (hm : m.HasDistinctParts) :
    prepare m = { m.unjudged with audit := m.audit.verifiedAgain } := by
  rw [← unjudged_prepare_eq_self hm, unjudged_prepare hm.keys]

/-- The requests are those of the model without its verdicts. -/
theorem requestFor?_unjudged (m : Model) (s : ExpressionSlot) :
    requestFor? m.unjudged s = requestFor? m s := by
  refine requestFor?_of_sameBare m.sameBare_unjudged s ?_
  rw [Model.expression?_unjudged, Option.map_map]
  rfl

/-! ## The run -/

/-- Skipping an expression is a verdict. -/
theorem unjudged_skip (m : Model) (slot : ExpressionSlot) (reason : String) :
    (skip m slot reason).unjudged = m.unjudged :=
  m.unjudged_addIssue rfl

theorem unjudged_foldl_skip (m : Model) (ss : List ExpressionSlot) (reason : String) :
    (ss.foldl (fun m s => skip m s reason) m).unjudged = m.unjudged := by
  induction ss generalizing m with
  | nil => rfl
  | cons s ss ih => exact (ih _).trans (unjudged_skip m s reason)

/-- Accepting an expression changes its verdict alone. -/
theorem reset_of_markVerified {e e' : Expression} {text : String}
    (h : e.markVerified text = .ok e') : e'.reset = e.reset := by
  obtain ⟨e₁, htransition, h⟩ := bind_eq_ok_iff.1 h
  unfold Expression.transition at htransition
  split at htransition
  · cases htransition
    cases h
    rfl
  · cases htransition

theorem reset_of_markRejected {e e' : Expression} {text reason : String}
    (h : e.markRejected text reason = .ok e') : e'.reset = e.reset := by
  obtain ⟨e₁, htransition, h⟩ := bind_eq_ok_iff.1 h
  unfold Expression.transition at htransition
  split at htransition
  · cases htransition
    cases h
    rfl
  · cases htransition

namespace Settling

/-- So a verdict changes nothing else in the model. -/
theorem unjudged_judge {s s' : Settling} (hkeys : (s.model.tables.map (·.1)).Nodup)
    {slot : ExpressionSlot} {verdict : Expression → Outcome Expression}
    (hverdict : ∀ e e', verdict e = .ok e' → e'.reset = e.reset) {count : Summary → Summary}
    (h : s.judge slot verdict count = .ok s') : s'.model.unjudged = s.model.unjudged := by
  unfold judge at h
  split at h
  · cases h
    rfl
  · rename_i e he
    obtain ⟨e', he', h⟩ := bind_eq_ok_iff.1 h
    cases h
    refine Model.unjudged_modifyExpression hkeys fun e₁ he₁ => ?_
    rw [he] at he₁
    cases he₁
    exact hverdict e e' he'

/-- One answer changes nothing but verdicts. -/
theorem unjudged_apply {seconds : Nat} {s s' : Settling}
    (hkeys : (s.model.tables.map (·.1)).Nodup) {slot : ExpressionSlot}
    {a : Option (Request × Answer)} (h : s.apply seconds slot a = .ok s') :
    s'.model.unjudged = s.model.unjudged := by
  rcases a with _ | ⟨r, _ | message | e | _⟩
  · cases h
    exact unjudged_skip s.model slot _
  · have hjudge : s.judge slot (·.markVerified r.text)
        (fun k => { k with verified := k.verified + 1 }) = .ok s' := h
    exact unjudged_judge hkeys (fun _ _ => reset_of_markVerified) hjudge
  · obtain ⟨s₁, hjudge, h⟩ := bind_eq_ok_iff.1 h
    cases h
    exact (s₁.model.unjudged_addIssue rfl).trans
      (unjudged_judge hkeys (fun _ _ => reset_of_markRejected) hjudge)
  · cases h
    exact unjudged_skip s.model slot _
  · cases h
    exact unjudged_skip s.model slot _

/-- Different identifiers stay so. -/
theorem keys_of_unjudged {m m' : Model} (h : m'.unjudged = m.unjudged)
    (hkeys : (m.tables.map (·.1)).Nodup) : (m'.tables.map (·.1)).Nodup := by
  rw [← Model.keys_unjudged, h, Model.keys_unjudged]
  exact hkeys

/-- Nor does any number of answers, also when one of them cannot be applied. -/
theorem unjudged_applyAll (seconds : Nat) {s : Settling}
    (hkeys : (s.model.tables.map (·.1)).Nodup) (position : Nat) (ks : List Completion)
    (order : List ExpressionSlot) :
    (s.applyAll seconds position ks order).2.model.unjudged = s.model.unjudged := by
  induction order generalizing s position ks with
  | nil => rfl
  | cons slot rest ih =>
    unfold applyAll
    dsimp only
    split
    · rename_i s' happly
      have hstep := unjudged_apply hkeys happly
      exact (ih (keys_of_unjudged hstep hkeys) _ _).trans hstep
    · rfl

end Settling

/-- Settling a collection changes nothing else. -/
theorem unjudged_settle (seconds : Nat) {m : Model} (hkeys : (m.tables.map (·.1)).Nodup)
    (c : Collection) : (settle seconds m c).2.unjudged = m.unjudged := by
  have hall := Settling.unjudged_applyAll seconds (s := .start m) hkeys 0 c.inOrder
    ((requests m).map (·.1))
  unfold settle
  dsimp only
  split
  · rename_i heq
    rw [heq] at hall
    exact hall
  · rename_i s heq
    rw [heq] at hall
    split
    · exact (s.model.unjudged_addIssue rfl).trans hall
    · exact hall

/-- Whatever came of the requests, a verification changes nothing but verdicts, and counts itself. -/
theorem unjudged_conclude {m : Model} (hm : m.HasDistinctParts) (seconds : Nat)
    (exchange : Exchange) : (conclude seconds exchange m).2.unjudged
      = { m.unjudged with audit := m.audit.verifiedAgain } := by
  have hkeys : ((prepare m).tables.map (·.1)).Nodup := (hm.of_sameBare (sameBare_prepare m)).keys
  rw [← unjudged_prepare hm.keys]
  unfold conclude
  dsimp only
  split
  · rfl
  · split
    · exact unjudged_foldl_skip _ _ _
    · exact unjudged_settle seconds hkeys _

/-! ## Names, keys and sources -/

namespace Settling

/-- A verdict leaves the rest of a model. -/
theorem sameBare_judge {s s' : Settling} {slot : ExpressionSlot}
    {verdict : Expression → Outcome Expression} {count : Summary → Summary}
    (h : s.judge slot verdict count = .ok s') : s.model.SameBare s'.model := by
  unfold judge at h
  split at h
  · cases h
    exact .refl _
  · obtain ⟨e', -, h⟩ := bind_eq_ok_iff.1 h
    cases h
    exact s.model.sameBare_modifyExpression slot _

theorem sameBare_apply {seconds : Nat} {s s' : Settling} {slot : ExpressionSlot}
    {a : Option (Request × Answer)} (h : s.apply seconds slot a = .ok s') :
    s.model.SameBare s'.model := by
  rcases a with _ | ⟨r, _ | message | e | _⟩
  · cases h
    exact s.model.sameBare_addIssue _
  · unfold apply at h
    exact sameBare_judge h
  · obtain ⟨s₁, hjudge, h⟩ := bind_eq_ok_iff.1 h
    cases h
    exact (sameBare_judge hjudge).trans (s₁.model.sameBare_addIssue _)
  · cases h
    exact s.model.sameBare_addIssue _
  · cases h
    exact s.model.sameBare_addIssue _

theorem sameBare_applyAll (seconds : Nat) (s : Settling) (position : Nat) (ks : List Completion)
    (order : List ExpressionSlot) :
    s.model.SameBare (s.applyAll seconds position ks order).2.model := by
  induction order generalizing s position ks with
  | nil => exact .refl _
  | cons slot rest ih =>
    unfold applyAll
    dsimp only
    split
    · rename_i s' happly
      exact (sameBare_apply happly).trans (ih s' _ _)
    · exact .refl _

end Settling

theorem sameBare_settle (seconds : Nat) (m : Model) (c : Collection) :
    m.SameBare (settle seconds m c).2 := by
  have hall := Settling.sameBare_applyAll seconds (.start m) 0 c.inOrder ((requests m).map (·.1))
  unfold settle
  dsimp only
  split
  · rename_i heq
    rw [heq] at hall
    exact hall
  · rename_i s heq
    rw [heq] at hall
    split
    · exact hall.trans (s.model.sameBare_addIssue _)
    · exact hall

/-- Whatever came of the requests, also for a model of which nothing is known, names, keys and sources
stay. -/
theorem sameBare_conclude (seconds : Nat) (exchange : Exchange) (m : Model) :
    m.SameBare (conclude seconds exchange m).2 := by
  have hskip (m : Model) (ss : List ExpressionSlot) (reason : String) :
      m.SameBare (ss.foldl (fun m s => skip m s reason) m) := by
    induction ss generalizing m with
    | nil => exact .refl m
    | cons s ss ih => exact (m.sameBare_addIssue _).trans (ih _)
  refine (sameBare_prepare m).trans ?_
  unfold conclude
  dsimp only
  split
  · exact .refl _
  · split
    · exact hskip _ _ _
    · exact sameBare_settle seconds _ _

end Verification

end SchemaBridge
