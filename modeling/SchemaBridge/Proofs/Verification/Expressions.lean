/-
# Expressions and their slots

A slot leads to one expression: a change in one slot is seen in this slot and nowhere else, and the
slots of a valid model are distinct and each leads back to the expression it was listed with.  What
a model is without its expressions, its bare tables, no change of expressions touches.

## Key statements

* `expression?_modifyExpression`: what is found after a change of one expression.
* `HasDistinctParts.nodup_slots`, `HasDistinctParts.expression?_of_mem`: slots of a valid model.
* `Model.SameBare`: two models that differ in their expressions only.
-/
import SchemaBridge.Proofs.Schema.Validity
import SchemaBridge.Verification.Run

namespace SchemaBridge

/-! ## Elements by their keys -/

/-- What is found after a change of the element under a key. -/
theorem find?_modifyFirst {α κ : Type} [DecidableEq κ] {g : α → κ} {f : α → α}
    (hf : ∀ a, g (f a) = g a) (c d : κ) (l : List α) :
    (Table.modifyFirst (fun a => g a = c) f l).find? (fun a => g a = d)
      = if d = c then (l.find? fun a => g a = d).map f else l.find? fun a => g a = d := by
  induction l with
  | nil => simp [Table.modifyFirst]
  | cons a l ih =>
    unfold Table.modifyFirst
    by_cases hc : g a = c
    · rw [if_pos (by simpa using hc), List.find?_cons, List.find?_cons, hf]
      by_cases hd : g a = d
      · have hdc : d = c := hd.symm.trans hc
        simp [hd, hdc]
      · have hdc : d ≠ c := fun h => hd (hc.trans h.symm)
        simp [hd, hdc]
    · rw [if_neg (by simpa using hc), List.find?_cons, List.find?_cons, ih]
      by_cases hd : g a = d
      · have hdc : d ≠ c := fun h => hc (hd.trans h)
        simp [hd, hdc]
      · simp [hd]

/-! ## The expression in a slot -/

/-- The expression in a slot of a table. -/
def Table.expressionIn (t : Table) : ExpressionSlot → Option Expression
  | .default _ c => (t.column? c).bind (·.default)
  | .generated _ c => (t.column? c).bind (·.generated)
  | .check _ c => (t.checks.find? (·.id = c)).map (·.expr)

/-- An expression is looked for in its table. -/
theorem Model.expression?_eq (m : Model) (s : ExpressionSlot) :
    m.expression? s = (m.table? s.table).bind (·.expressionIn s) := by
  unfold Model.expression?
  cases h : m.table? s.table with
  | none => rfl
  | some t =>
    cases s with
    | default | generated => rfl
    | check k c =>
      show ((t.checks.find? (·.id = c)).bind fun k => some k.expr)
        = (t.checks.find? (·.id = c)).map (·.expr)
      cases t.checks.find? (·.id = c) with
      | none => rfl
      | some k => rfl

/-- What is found of a column after a change of one. -/
theorem Table.bind_column?_modifyColumn (t : Table) (c d : ColumnId) {g : Column → Column}
    (hg : ∀ a, (g a).id = a.id) (p : Column → Option Expression) :
    ((t.modifyColumn c g).column? d).bind p
      = (t.column? d).bind (if d = c then fun a => p (g a) else p) := by
  have hfound : (t.modifyColumn c g).column? d
      = if d = c then (t.column? d).map g else t.column? d := find?_modifyFirst hg c d t.columns
  rw [hfound]
  by_cases hd : d = c
  · rw [if_pos hd, if_pos hd]
    cases t.column? d <;> rfl
  · rw [if_neg hd, if_neg hd]

/-- Of two slots of a table, a change in one is seen in the other if they are the same. -/
theorem Table.expressionIn_modifyTableExpression (t : Table) {slot s : ExpressionSlot}
    (h : s.table = slot.table) (f : Expression → Expression) :
    (Model.modifyTableExpression slot f t).expressionIn s
      = if s = slot then (t.expressionIn s).map f else t.expressionIn s := by
  have hdefault (a : Column) : ({ a with default := a.default.map f } : Column).id = a.id := rfl
  have hgenerated (a : Column) : ({ a with generated := a.generated.map f } : Column).id = a.id :=
    rfl
  have hcheck (a : CheckConstraint) : ({ a with expr := f a.expr } : CheckConstraint).id = a.id :=
    rfl
  cases slot with
  | default k c =>
    cases s with
    | default k' d =>
      cases h
      refine (t.bind_column?_modifyColumn c d hdefault _).trans ?_
      by_cases hd : d = c
      · cases hcol : t.column? d <;> simp_all [Table.expressionIn]
      · simp [Table.expressionIn, hd]
    | generated k' d =>
      -- a change of defaults is not seen in what is generated, whichever column it is in
      have hne : ExpressionSlot.generated k' d ≠ .default k c := by simp
      refine (t.bind_column?_modifyColumn c d hdefault _).trans ?_
      rw [if_neg hne]
      split <;> rfl
    | check k' d =>
      rw [if_neg fun h => by cases h]
      rfl
  | generated k c =>
    cases s with
    | default k' d =>
      have hne : ExpressionSlot.default k' d ≠ .generated k c := by simp
      refine (t.bind_column?_modifyColumn c d hgenerated _).trans ?_
      rw [if_neg hne]
      split <;> rfl
    | generated k' d =>
      cases h
      refine (t.bind_column?_modifyColumn c d hgenerated _).trans ?_
      by_cases hd : d = c
      · cases hcol : t.column? d <;> simp_all [Table.expressionIn]
      · simp [Table.expressionIn, hd]
    | check k' d =>
      rw [if_neg fun h => by cases h]
      rfl
  | check k c =>
    cases s with
    | default k' d | generated k' d =>
      rw [if_neg fun h => by cases h]
      rfl
    | check k' d =>
      cases h
      show ((Table.modifyFirst (fun a => a.id = c) _ t.checks).find? fun a => a.id = d).map _ = _
      rw [find?_modifyFirst hcheck c d t.checks]
      by_cases hd : d = c
      · subst hd
        simp [Table.expressionIn, Function.comp_def]
      · simp [Table.expressionIn, hd]

/-- What is found after a change of one expression. -/
theorem Model.expression?_modifyExpression (m : Model) (slot s : ExpressionSlot)
    (f : Expression → Expression) :
    (m.modifyExpression slot f).expression? s
      = if s = slot then (m.expression? s).map f else m.expression? s := by
  have htable : (m.modifyExpression slot f).table? s.table
      = if s.table = slot.table then (m.table? s.table).map (Model.modifyTableExpression slot f)
        else m.table? s.table := by
    exact tableIn_changeIn m.tables slot.table s.table _
  rw [Model.expression?_eq, Model.expression?_eq, htable]
  by_cases hs : s.table = slot.table
  · rw [if_pos hs]
    cases m.table? s.table with
    | none => simp
    | some t => exact t.expressionIn_modifyTableExpression hs f
  · have hne : s ≠ slot := by
      rintro rfl
      exact hs rfl
    rw [if_neg hs, if_neg hne]

/-! ## What is left without expressions -/

/-- A column without the texts of its expressions. -/
def Column.bare (c : Column) : Column :=
  { c with
    default := c.default.map fun _ => .fresh ""
    generated := c.generated.map fun _ => .fresh "" }

/-- A table without the texts of its expressions. -/
def Table.bare (t : Table) : Table :=
  { t with
    columns := t.columns.map Column.bare
    checks := t.checks.map fun k => { k with expr := .fresh "" } }

/-- Two models that differ in nothing but expressions, issues and metadata. -/
structure Model.SameBare (m m' : Model) : Prop where
  source : m'.source = m.source
  target : m'.target = m.target
  tables : (m'.tables.map fun e => (e.1, e.2.bare)) = m.tables.map fun e => (e.1, e.2.bare)

theorem Model.SameBare.refl (m : Model) : m.SameBare m := ⟨rfl, rfl, rfl⟩

theorem Model.SameBare.symm {m m' : Model} (h : m.SameBare m') : m'.SameBare m :=
  ⟨h.source.symm, h.target.symm, h.tables.symm⟩

theorem Model.SameBare.trans {m m' m'' : Model} (h : m.SameBare m') (h' : m'.SameBare m'') :
    m.SameBare m'' :=
  ⟨h'.source.trans h.source, h'.target.trans h.target, h'.tables.trans h.tables⟩

/-- A change of a column in its verdicts alone. -/
theorem Table.bare_modifyColumn (t : Table) (c : ColumnId) {g : Column → Column}
    (hg : ∀ a, (g a).bare = a.bare) : (t.modifyColumn c g).bare = t.bare := by
  unfold Table.modifyColumn Table.bare
  dsimp only
  rw [Table.modifyFirst_map _ g Column.bare hg]

/-- A change of an expression leaves the rest of its table. -/
theorem Table.bare_modifyTableExpression (slot : ExpressionSlot) (f : Expression → Expression)
    (t : Table) : (Model.modifyTableExpression slot f t).bare = t.bare := by
  cases slot with
  | default k c =>
    refine t.bare_modifyColumn c fun a => ?_
    simp [Column.bare, Function.comp_def]
  | generated k c =>
    refine t.bare_modifyColumn c fun a => ?_
    simp [Column.bare, Function.comp_def]
  | check k c =>
    unfold Model.modifyTableExpression Table.bare
    dsimp only
    rw [Table.modifyFirst_map]
    intro a
    rfl

theorem Model.sameBare_modifyExpression (m : Model) (slot : ExpressionSlot)
    (f : Expression → Expression) : m.SameBare (m.modifyExpression slot f) := by
  refine ⟨rfl, rfl, ?_⟩
  show ((m.tables.map _).map _) = _
  rw [List.map_map]
  refine List.map_congr_left fun e _ => ?_
  simp only [Function.comp]
  split
  · rw [Table.bare_modifyTableExpression]
  · rfl

/-- An issue changes no table. -/
theorem Model.sameBare_addIssue (m : Model) (i : Issue) : m.SameBare (m.addIssue i) :=
  ⟨rfl, rfl, rfl⟩

/-- Tables stay, but for verdicts. -/
theorem Model.SameBare.table? {m m' : Model} (h : m.SameBare m') (id : TableId) :
    (m'.table? id).map Table.bare = (m.table? id).map Table.bare := by
  have hbare (l : KeyedTables) :
      (tableIn l id).map Table.bare = tableIn (l.map fun e => (e.1, e.2.bare)) id :=
    (tableIn_map l (fun _ => Table.bare) id).symm
  rw [Model.table?_eq_tableIn, Model.table?_eq_tableIn, hbare, hbare, h.tables]

/-! ### What can be seen of a bare table -/

namespace Table

variable (t : Table)

/-- A column without verdicts is the column. -/
theorem column?_bare (c : ColumnId) : t.bare.column? c = (t.column? c).map Column.bare := by
  unfold column? bare
  rw [List.find?_map]
  rfl

/-- Names of columns do not depend on verdicts. -/
theorem columnName_bare (c : ColumnId) : t.bare.columnName c = t.columnName c := by
  unfold columnName
  rw [column?_bare, Option.map_map]
  rfl

theorem checkName_bare (c : CheckId) :
    (t.bare.checks.find? (·.id = c)).map (·.name) = (t.checks.find? (·.id = c)).map (·.name) := by
  unfold bare
  dsimp only
  rw [List.find?_map, Option.map_map]
  rfl

theorem map_fst_tableExpressions_bare :
    (Model.tableExpressions t.bare).map (·.1) = (Model.tableExpressions t).map (·.1) := by
  have hcolumn (c : Column) : (Model.columnExpressions t.id c.bare).map (·.1)
      = (Model.columnExpressions t.id c).map (·.1) := by
    unfold Model.columnExpressions Column.bare
    cases c.default <;> cases c.generated <;> rfl
  unfold Model.tableExpressions bare
  simp only [List.map_append, List.map_flatMap, List.flatMap_map, hcolumn, List.map_map]
  rfl

end Table

/-- Description of a target by the table it belongs to. -/
def Table.describePart (t : Table) : IssueTarget → String
  | .column _ c => t.name ++ "." ++ t.columnName c
  | .index _ i => t.name ++ "." ++ ((t.indexes.find? (·.id = i)).map (·.name)).getD "?"
  | .foreignKey _ f => t.name ++ "." ++ ((t.foreignKeys.find? (·.id = f)).map (·.name)).getD "?"
  | .check _ c => t.name ++ "." ++ ((t.checks.find? (·.id = c)).map (·.name)).getD "?"
  | .schema | .table _ => t.name

theorem Table.describePart_bare (t : Table) (target : IssueTarget) :
    t.bare.describePart target = t.describePart target := by
  cases target with
  | schema | table | index | foreignKey => rfl
  | column k c =>
    show t.name ++ "." ++ t.bare.columnName c = _
    rw [columnName_bare]
    rfl
  | check k c =>
    show t.name ++ "." ++ ((t.bare.checks.find? (·.id = c)).map (·.name)).getD "?" = _
    rw [checkName_bare]
    rfl

/-- What something is called in its table. -/
theorem Model.describe_eq (m : Model) (target : IssueTarget) : m.describe target
    = ((target.table?.bind m.table?).map (·.describePart target)).getD "schema" := by
  unfold Model.describe
  cases target.table?.bind m.table? with
  | none => rfl
  | some t => cases target <;> rfl

/-- What depends on the bare table alone is the same of both models. -/
theorem Model.SameBare.map_table? {m m' : Model} (h : m.SameBare m') {α : Type} {f : Table → α}
    (hf : ∀ t : Table, f t.bare = f t) (id : TableId) :
    (m'.table? id).map f = (m.table? id).map f := by
  have hcomp : f = f ∘ Table.bare := funext fun t => (hf t).symm
  rw [hcomp, ← Option.map_map, ← Option.map_map, h.table?]

/-- Objects are described by what is left without expressions. -/
theorem Model.SameBare.describe {m m' : Model} (h : m.SameBare m') (target : IssueTarget) :
    m'.describe target = m.describe target := by
  rw [Model.describe_eq, Model.describe_eq]
  cases target.table? with
  | none => rfl
  | some id =>
    have htable := h.map_table? (f := (·.describePart target)) (·.describePart_bare target) id
    exact congrArg (·.getD "schema") htable

/-- The slots are those of the bare tables. -/
theorem Model.SameBare.slots {m m' : Model} (h : m.SameBare m') :
    Verification.slots m' = Verification.slots m := by
  have hbare (m : Model) : Verification.slots m = (m.tables.map fun e => (e.1, e.2.bare)).flatMap
      fun e => (Model.tableExpressions e.2).map (·.1) := by
    unfold Verification.slots Model.expressions Model.tableList
    simp only [List.map_flatMap, List.flatMap_map, Table.map_fst_tableExpressions_bare]
  rw [hbare, hbare, h.tables]

/-! ## Slots of a valid model -/

/-- The expressions of a column are its default and its generation. -/
theorem mem_columnExpressions {k : TableId} {c : Column} {s : ExpressionSlot} {e : Expression} :
    (s, e) ∈ Model.columnExpressions k c ↔ s = .default k c.id ∧ c.default = some e
      ∨ s = .generated k c.id ∧ c.generated = some e := by
  unfold Model.columnExpressions
  simp only [List.mem_append, List.mem_map, Option.mem_toList, Prod.mk.injEq]
  constructor
  · rintro (⟨e, he, rfl, rfl⟩ | ⟨e, he, rfl, rfl⟩)
    · exact Or.inl ⟨rfl, he⟩
    · exact Or.inr ⟨rfl, he⟩
  · rintro (⟨rfl, he⟩ | ⟨rfl, he⟩)
    · exact Or.inl ⟨e, he, rfl, rfl⟩
    · exact Or.inr ⟨e, he, rfl, rfl⟩

/-- Those of a table are those of its columns and checks. -/
theorem mem_tableExpressions {t : Table} {s : ExpressionSlot} {e : Expression} :
    (s, e) ∈ Model.tableExpressions t
      ↔ (∃ c ∈ t.columns, (s, e) ∈ Model.columnExpressions t.id c)
        ∨ ∃ k ∈ t.checks, s = .check t.id k.id ∧ k.expr = e := by
  unfold Model.tableExpressions
  simp only [List.mem_append, List.mem_flatMap, List.mem_map, Prod.mk.injEq, eq_comm]

/-- Those of a model are those of its tables. -/
theorem Model.mem_expressions {m : Model} {s : ExpressionSlot} {e : Expression} :
    (s, e) ∈ m.expressions ↔ ∃ x ∈ m.tables, (s, e) ∈ Model.tableExpressions x.2 := by
  unfold Model.expressions Model.tableList
  simp only [List.flatMap_map, List.mem_flatMap]

/-- The slots of a table belong to it. -/
theorem table_of_mem_tableExpressions {t : Table} {s : ExpressionSlot} {e : Expression}
    (h : (s, e) ∈ Model.tableExpressions t) : s.table = t.id := by
  rcases mem_tableExpressions.1 h with ⟨c, -, hc⟩ | ⟨k, -, rfl, -⟩
  · rcases mem_columnExpressions.1 hc with ⟨rfl, -⟩ | ⟨rfl, -⟩ <;> rfl
  · rfl

/-- A table whose parts have identifiers of their own. -/
structure Table.HasDistinctParts (t : Table) : Prop where
  columns : (t.columns.map (·.id)).Nodup
  checks : (t.checks.map (·.id)).Nodup

/-- Parts with different identifiers are distinct. -/
theorem Table.HasDistinctParts.of_ids {t : Table} (h : t.ids.Nodup) : t.HasDistinctParts := by
  obtain ⟨-, hparts⟩ := List.nodup_cons.1 h
  obtain ⟨-, hrest, -⟩ := List.nodup_append.1 hparts
  obtain ⟨-, hrest, -⟩ := List.nodup_append.1 hrest
  obtain ⟨hchecks, -, -⟩ := List.nodup_append.1 hrest
  refine ⟨Table.nodup_columns h, List.Nodup.of_map CheckId.val ?_⟩
  rwa [List.map_map]

/-- An expression is found in the slot it is listed with. -/
theorem Table.expressionIn_of_mem {t : Table} (h : t.HasDistinctParts) {s : ExpressionSlot}
    {e : Expression} (hs : (s, e) ∈ Model.tableExpressions t) : t.expressionIn s = some e := by
  rcases mem_tableExpressions.1 hs with ⟨c, hc, hce⟩ | ⟨k, hk, rfl, rfl⟩
  · have hcolumn : t.column? c.id = some c := find?_of_mem h.columns hc
    rcases mem_columnExpressions.1 hce with ⟨rfl, he⟩ | ⟨rfl, he⟩
    · simp [Table.expressionIn, hcolumn, he]
    · simp [Table.expressionIn, hcolumn, he]
  · have hcheck : t.checks.find? (·.id = k.id) = some k := find?_of_mem h.checks hk
    simp [Table.expressionIn, hcheck]

/-- The slots of a table are distinct. -/
theorem Table.nodup_slots {t : Table} (h : t.HasDistinctParts) :
    ((Model.tableExpressions t).map (·.1)).Nodup := by
  unfold Model.tableExpressions
  rw [List.map_append, List.map_flatMap, List.map_map, List.nodup_append]
  refine ⟨List.nodup_flatMap.2 ⟨?_, ?_⟩, ?_, ?_⟩
  · intro c _
    unfold Model.columnExpressions
    cases c.default <;> cases c.generated <;> simp
  · -- slots of two columns differ in the column, those of one column in their kind
    refine (List.pairwise_map.1 h.columns).imp fun {c d} hne s hs hs' => ?_
    obtain ⟨⟨s, e⟩, he, rfl⟩ := List.mem_map.1 hs
    obtain ⟨⟨s', e'⟩, he', heq⟩ := List.mem_map.1 hs'
    cases heq
    rcases mem_columnExpressions.1 he with ⟨rfl, -⟩ | ⟨rfl, -⟩
    · rcases mem_columnExpressions.1 he' with ⟨hs, -⟩ | ⟨hs, -⟩
      · exact hne (ExpressionSlot.default.inj hs).2
      · cases hs
    · rcases mem_columnExpressions.1 he' with ⟨hs, -⟩ | ⟨hs, -⟩
      · cases hs
      · exact hne (ExpressionSlot.generated.inj hs).2
  · have hinjective : Function.Injective fun k => ExpressionSlot.check t.id k := by
      intro k k' hk
      cases hk
      rfl
    have hchecks := h.checks.map hinjective
    rwa [List.map_map] at hchecks
  · intro s hs s' hs'
    obtain ⟨c, -, hc⟩ := List.mem_flatMap.1 hs
    obtain ⟨⟨s, e⟩, he, rfl⟩ := List.mem_map.1 hc
    obtain ⟨k, -, rfl⟩ := List.mem_map.1 hs'
    rcases mem_columnExpressions.1 he with ⟨rfl, -⟩ | ⟨rfl, -⟩ <;> simp

/-- A model whose tables have keys of their own, and parts with identifiers of their own. -/
structure Model.HasDistinctParts (m : Model) : Prop where
  keyed : ∀ x ∈ m.tables, x.2.id = x.1
  keys : (m.tables.map (·.1)).Nodup
  parts : ∀ x ∈ m.tables, x.2.HasDistinctParts

/-- The parts of a well-formed model are distinct. -/
theorem Model.WellFormed.hasDistinctParts {m : Model} (h : m.WellFormed) :
    m.HasDistinctParts :=
  ⟨h.keyed, h.nodup_keys, fun x hx => .of_ids ((List.nodup_flatMap.1 h.distinct).1 x hx)⟩

namespace Model.HasDistinctParts

variable {m : Model}

/-- Identifiers are not changed with expressions. -/
theorem of_sameBare {m' : Model} (h : m.HasDistinctParts) (hm : m.SameBare m') :
    m'.HasDistinctParts := by
  -- every table is one of before, but for its expressions
  have hexists : ∀ x' ∈ m'.tables, ∃ x ∈ m.tables, x.1 = x'.1 ∧ x.2.bare = x'.2.bare := by
    intro x' hx'
    have hmem : (x'.1, x'.2.bare) ∈ m.tables.map fun e => (e.1, e.2.bare) :=
      hm.tables ▸ List.mem_map_of_mem hx'
    obtain ⟨x, hx, heq⟩ := List.mem_map.1 hmem
    exact ⟨x, hx, congrArg (·.1) heq, congrArg (·.2) heq⟩
  have hkeys : m'.tables.map (·.1) = m.tables.map (·.1) := by
    have := congrArg (List.map (·.1)) hm.tables
    rwa [List.map_map, List.map_map] at this
  refine ⟨?_, hkeys ▸ h.keys, ?_⟩
  · intro x' hx'
    obtain ⟨x, hx, hkey, hbare⟩ := hexists x' hx'
    rw [← hkey, ← h.keyed x hx]
    exact (congrArg Table.id hbare).symm
  · intro x' hx'
    obtain ⟨x, hx, -, hbare⟩ := hexists x' hx'
    have hcolumns (t : Table) : t.bare.columns.map (·.id) = t.columns.map (·.id) :=
      List.map_map
    have hchecks (t : Table) : t.bare.checks.map (·.id) = t.checks.map (·.id) := List.map_map
    refine ⟨?_, ?_⟩
    · rw [← hcolumns, ← hbare, hcolumns]
      exact (h.parts x hx).columns
    · rw [← hchecks, ← hbare, hchecks]
      exact (h.parts x hx).checks

/-- A slot leads back to the expression it was listed with. -/
theorem expression?_of_mem (h : m.HasDistinctParts) {s : ExpressionSlot} {e : Expression}
    (hs : (s, e) ∈ m.expressions) : m.expression? s = some e := by
  obtain ⟨x, hx, hxs⟩ := Model.mem_expressions.1 hs
  have htable : m.table? s.table = some x.2 := by
    rw [table_of_mem_tableExpressions hxs, h.keyed x hx]
    exact tableIn_of_mem h.keys hx
  rw [Model.expression?_eq, htable]
  exact Table.expressionIn_of_mem (h.parts x hx) hxs

/-- No slot is listed twice. -/
theorem nodup_slots (h : m.HasDistinctParts) : (Verification.slots m).Nodup := by
  have hslots : Verification.slots m
      = m.tables.flatMap fun x => (Model.tableExpressions x.2).map (·.1) := by
    unfold Verification.slots Model.expressions Model.tableList
    simp only [List.map_flatMap, List.flatMap_map]
  rw [hslots, List.nodup_flatMap]
  refine ⟨fun x hx => Table.nodup_slots (h.parts x hx), ?_⟩
  refine (List.pairwise_map.1 h.keys).imp_of_mem fun {x y} hx hy hne s hs hs' => ?_
  obtain ⟨⟨s, e⟩, he, rfl⟩ := List.mem_map.1 hs
  obtain ⟨⟨s', e'⟩, he', heq⟩ := List.mem_map.1 hs'
  cases heq
  refine hne ?_
  rw [← h.keyed x hx, ← h.keyed y hy, ← table_of_mem_tableExpressions he]
  exact table_of_mem_tableExpressions he'

/-- The table of a slot is there, and so is the expression. -/
theorem exists_of_mem_slots (h : m.HasDistinctParts) {s : ExpressionSlot}
    (hs : s ∈ Verification.slots m) :
    ∃ t e, m.table? s.table = some t ∧ m.expression? s = some e := by
  obtain ⟨⟨s, e⟩, hmem, rfl⟩ := List.mem_map.1 hs
  have he := h.expression?_of_mem hmem
  rw [Model.expression?_eq] at he
  obtain ⟨t, ht, hte⟩ := Option.bind_eq_some_iff.1 he
  exact ⟨t, e, ht, h.expression?_of_mem hmem⟩

end Model.HasDistinctParts

/-! ## Requests -/

namespace Verification

/-- How names are quoted does not depend on verdicts. -/
theorem requote_bare (d : TargetDialect) (t : Table) : requote d t.bare = requote d t := by
  have hname (v : String) : (t.bare.columnByName? v).map (·.name)
      = (t.columnByName? v).map (·.name) := by
    unfold Table.columnByName? Table.bare
    rw [List.find?_map, Option.map_map]
    rfl
  funext i
  have hi := hname i.value
  unfold requote
  cases hb : t.bare.columnByName? i.value <;> cases ht : t.columnByName? i.value <;> simp_all

theorem translate_bare (source : SourceDialect) (d : TargetDialect) (t : Table) (text : String) :
    translate source d t.bare text = translate source d t text := by
  have hhead : translateHead Sql.library source d t.bare = translateHead Sql.library source d t := by
    funext h
    unfold translateHead
    rw [requote_bare]
  unfold translate translateWith translateNode
  rw [hhead]

theorem expectedType_bare (t : Table) (s : ExpressionSlot) :
    expectedType t.bare s = expectedType t s := by
  have hcolumn (c : ColumnId) : (t.bare.column? c).bind (·.targetType)
      = (t.column? c).bind (·.targetType) := by
    rw [Table.column?_bare]
    cases t.column? c <;> rfl
  cases s with
  | check => rfl
  | default k c | generated k c => exact congrArg (·.getD (.string none)) (hcolumn c)

theorem typedColumns_bare (t : Table) : typedColumns t.bare = typedColumns t := by
  unfold typedColumns Table.bare
  rw [List.filterMap_map]
  rfl

/-- The request for an expression of a table. -/
def requestIn (m : Model) (s : ExpressionSlot) (source : String) (t : Table) : Request :=
  { dialect := m.target
    text := translate m.source m.target t source
    kind := s.kind
    expected := expectedType t s
    table := t.name
    columns := typedColumns t }

/-- So no request depends on verdicts. -/
theorem requestIn_bare (m : Model) (s : ExpressionSlot) (source : String) (t : Table) :
    requestIn m s source t.bare = requestIn m s source t := by
  unfold requestIn
  rw [translate_bare, expectedType_bare, typedColumns_bare]
  rfl

/-- The request for a slot is made of its expression and its table. -/
theorem requestFor?_eq (m : Model) (s : ExpressionSlot) : requestFor? m s
    = (m.expression? s).bind fun e => (m.table? s.table).map (requestIn m s e.source) := by
  unfold requestFor?
  cases ht : m.table? s.table with
  | none => cases m.expression? s <;> rfl
  | some t => cases m.expression? s <;> rfl

/-- Requests depend on the sources of expressions, whatever is known of them. -/
theorem requestFor?_of_sameBare {m m' : Model} (h : m.SameBare m') (s : ExpressionSlot)
    (hs : (m'.expression? s).map (·.source) = (m.expression? s).map (·.source)) :
    requestFor? m' s = requestFor? m s := by
  have hrequest (source : String) : (m'.table? s.table).map (requestIn m' s source)
      = (m.table? s.table).map (requestIn m s source) := by
    have hsame : requestIn m' s source = requestIn m s source := by
      funext t
      unfold requestIn
      rw [h.source, h.target]
    rw [hsame]
    exact h.map_table? (requestIn_bare m s source) s.table
  rw [requestFor?_eq, requestFor?_eq]
  cases he : m.expression? s <;> cases he' : m'.expression? s <;> simp_all

end Verification

end SchemaBridge
