/-
# Clauses for expressions

The statement of a table consists of comments on the expressions that were rejected, and of a body that
has a clause for each of the others.  A column has one for what computes it, or else for its default, so
a default beside what computes the column is not written.  The body says of expressions nothing but
their texts.

## Key statements

* `tableText_eq`: the comments and then the body.
* `bodyWith_congr`: bodies in which the written expressions have the same texts are the same.
* `tableNotes_eq`: one comment for each expression that was left out.
-/
import SchemaBridge.Proofs.Ddl.Statement

namespace SchemaBridge

/-- The expression that is written for a column: what computes it, or else its default. -/
def Column.written? (c : Column) : Option Expression := c.generated.or c.default

/-- The expressions that are written for a table, those of columns before those of checks. -/
def Table.written (t : Table) : List Expression :=
  t.columns.filterMap (·.written?) ++ t.checks.map (·.expr)

/-- The expression of a column is one of those that are written. -/
theorem Table.mem_written_of_column {t : Table} {c : Column} (hc : c ∈ t.columns) {e : Expression}
    (he : c.written? = some e) : e ∈ t.written :=
  List.mem_append_left _ (List.mem_filterMap.2 ⟨c, hc, he⟩)

theorem Table.mem_written_of_check {t : Table} {k : CheckConstraint} (hk : k ∈ t.checks) :
    k.expr ∈ t.written :=
  List.mem_append_right _ (List.mem_map_of_mem hk)

namespace Ddl

variable {s : Style} {t : Table} {texts texts' : Expression → Option String}

/-! ## Bodies -/

/-- The clause of a column, if its expression has a text. -/
def clauseWith (s : Style) (texts : Expression → Option String) (c : Column) : String :=
  match c.written?.bind texts with
  | none => ""
  | some text =>
    if c.generated.isSome then generatedClause s.target text else " DEFAULT (" ++ text ++ ")"

/-- The clause for a column, with the texts that are due for its expressions. -/
def columnWith (s : Style) (texts : Expression → Option String) (c : Column) : String :=
  s.write c.name ++ " " ++ (c.targetType.getD (.string none)).render s.target
    ++ (if c.nullable then "" else " NOT NULL") ++ clauseWith s texts c

/-- The clause for a check, with the text that is due for its expression. -/
def checkWith? (s : Style) (texts : Expression → Option String) (k : CheckConstraint) :
    Option String :=
  (texts k.expr).map fun text => "CONSTRAINT " ++ s.write k.name ++ " CHECK (" ++ text ++ ")"

/-- What follows the comments of a table, with clauses for the expressions that have texts. -/
def bodyWith (s : Style) (t : Table) (texts : Expression → Option String) : String :=
  let items := t.columns.map (columnWith s texts) ++ t.checks.filterMap (checkWith? s texts)
  let head := "CREATE TABLE " ++ s.write t.name ++ " (\n    "
  match s.target with
  | .google =>
    head ++ ",\n    ".intercalate items ++ "\n) PRIMARY KEY (" ++ keyText s t true t.primaryKey ++ ")"
  | .postgres =>
    head ++ ",\n    ".intercalate (items ++ if t.hasPrimaryKey then
      ["PRIMARY KEY (" ++ keyText s t false t.primaryKey ++ ")"] else []) ++ "\n)"

/-- The statement of a table depends on the texts of its expressions alone. -/
theorem bodyWith_congr (h : ∀ e ∈ t.written, texts' e = texts e) :
    bodyWith s t texts' = bodyWith s t texts := by
  have hcolumns : t.columns.map (columnWith s texts') = t.columns.map (columnWith s texts) := by
    refine List.map_congr_left fun c hc => ?_
    have htext : c.written?.bind texts' = c.written?.bind texts := by
      cases he : c.written? with
      | none => rfl
      | some e => exact h e (Table.mem_written_of_column hc he)
    unfold columnWith clauseWith
    rw [htext]
  have hchecks : t.checks.filterMap (checkWith? s texts')
      = t.checks.filterMap (checkWith? s texts) := by
    refine List.filterMap_congr fun k hk => ?_
    unfold checkWith?
    rw [h k.expr (Table.mem_written_of_check hk)]
  unfold bodyWith
  rw [hcolumns, hchecks]

/-- A body begins like any statement for a table. -/
theorem exists_bodyWith_eq (s : Style) (t : Table) (texts : Expression → Option String) :
    ∃ rest, bodyWith s t texts = "CREATE TABLE " ++ s.write t.name ++ " (\n    " ++ rest := by
  unfold bodyWith
  cases s.target with
  | google => exact ⟨_, by simp only [String.append_assoc]; rfl⟩
  | postgres => exact ⟨_, by simp only [String.append_assoc]; rfl⟩

/-! ## Expressions that are left out -/

/-- An expression if it was rejected. -/
def rejected? (e : Expression) : Option Expression := if e.status = .rejected then some e else none

/-- How the comment on the expression of a column names it. -/
def columnLabel (t : Table) (c : Column) : String :=
  t.name ++ "." ++ c.name ++ if c.generated.isSome then " generated as" else " default"

/-- What a comment calls a check. -/
def checkLabel (t : Table) (k : CheckConstraint) : String := t.name ++ " check " ++ k.name

/-- The written expressions of a table that were rejected, by the names they have in comments. -/
def leftOut (t : Table) : List (String × Expression) :=
  t.columns.filterMap (fun c => (c.written?.bind rejected?).map fun e => (columnLabel t c, e))
    ++ t.checks.filterMap fun k => (rejected? k.expr).map fun e => (checkLabel t k, e)

/-- An expression that is written was not rejected. -/
theorem rejected?_of_text {e : Expression} {text : String} (h : expressionText s t e = some text) :
    rejected? e = none := by
  refine if_neg fun he => ?_
  rw [(expressionText_eq_none_iff s t e).2 he] at h
  cases h

/-! ## Statements of tables -/

/-- What a column has for its expression: a clause if there is a text for it, and else a comment. -/
theorem columnClause_eq (s : Style) (t : Table) (c : Column) : columnClause s t c
    = (clauseWith s (expressionText s t) c, ((c.written?.bind rejected?).map fun e =>
      rejectedNote (columnLabel t c) e).toList) := by
  -- a default beside what computes the column is not looked at
  unfold columnClause clauseWith columnLabel Column.written?
  cases c.generated with
  | some g =>
    cases htext : expressionText s t g with
    | none => simp [htext, rejected?, (expressionText_eq_none_iff s t g).1 htext]
    | some text => simp [htext, rejected?_of_text htext]
  | none =>
    cases c.default with
    | none => rfl
    | some e =>
      cases htext : expressionText s t e with
      | none => simp [htext, rejected?, (expressionText_eq_none_iff s t e).1 htext]
      | some text => simp [htext, rejected?_of_text htext]

/-- The statement of a table: the comments and then the body. -/
theorem tableText_eq (s : Style) (t : Table) :
    tableText s t = String.join (tableNotes s t) ++ bodyWith s t (expressionText s t) := by
  have hcolumn : columnText s t = columnWith s (expressionText s t) := by
    funext c
    unfold columnText columnWith
    rw [columnClause_eq]
  have hcheck : checkText? s t = checkWith? s (expressionText s t) := rfl
  unfold tableText bodyWith
  rw [hcolumn, hcheck]
  cases s.target <;> simp only [String.append_assoc]

/-- There is one comment for each expression that was left out, whatever the target. -/
theorem tableNotes_eq (s : Style) (t : Table) :
    tableNotes s t = (leftOut t).map fun x => rejectedNote x.1 x.2 := by
  have hcheck : ∀ k, checkNotes s t k = ((rejected? k.expr).map fun e =>
      rejectedNote (checkLabel t k) e).toList := by
    intro k
    unfold checkNotes
    cases htext : expressionText s t k.expr with
    | none =>
      rw [rejected?, if_pos ((expressionText_eq_none_iff s t k.expr).1 htext)]
      rfl
    | some text =>
      rw [rejected?_of_text htext]
      rfl
  have hchecks : t.checks.flatMap (checkNotes s t) = t.checks.filterMap fun k =>
      (rejected? k.expr).map (rejectedNote (checkLabel t k)) := by
    rw [List.filterMap_eq_flatMap_toList]
    exact congrArg (List.flatMap · t.checks) (funext hcheck)
  unfold tableNotes leftOut
  rw [hchecks]
  simp only [columnClause_eq, ← List.filterMap_eq_flatMap_toList, List.map_append,
    List.map_filterMap, Option.map_map]
  rfl

end Ddl

end SchemaBridge
