/-
# Statements in their order, and the tables they make

While a run is not cancelled every statement of a dump is read in its turn: each by the reader and on
the builder that those before it leave, and those after it go on from there.

A statement may make several tables.  Each of them is new in the model, with a column for every column
of its definition, and the tables made after it leave it as it is.  Or the policy leaves it out, and an
issue says so.

## Key statements

* `readStatements_append`: some statements, and then others.
* `exists_turn`: one statement among others.
* `made_addTables`: the tables of a list of definitions.
* `made_readStatement`: a table whose statement has been read.
* `Made.exists_column`: a column of it.
-/
import SchemaBridge.Proofs.Assembly.Cancelling
import SchemaBridge.Proofs.Assembly.Parts
import SchemaBridge.Proofs.Assembly.Readers
import SchemaBridge.Proofs.Dump.Drafting

namespace SchemaBridge.Dump.Reader

/-! ## Statements in their order -/

open Builder

variable {r r' : Reader} {b b' : Builder}

/-- One statement, and then the others. -/
theorem readStatements_cons (h : b.Running) (r : Reader) (s : Statement) (rest : List Statement) :
    r.readStatements b (s :: rest)
      = r.readStatement b s >>= fun p => p.1.readStatements p.2 rest := by
  rw [readStatements, shouldStop_running h]

/-- Reading statements is a list of calls, unless it is cancelled. -/
theorem calls_readStatements (h : b.Running) {l : List Statement}
    (hr : r.readStatements b l = .ok (r', b')) : Calls b b' := by
  induction l generalizing r b with
  | nil =>
    cases hr
    exact .refl
  | cons s l ih =>
    rw [readStatements_cons h] at hr
    obtain ⟨⟨r₁, b₁⟩, hs, hr⟩ := bind_eq_ok_iff.1 hr
    have hcalls := calls_readStatement h.sound hs
    exact hcalls.trans (ih (h.of_calls hcalls) hr)

/-- No statement changes the parser of its reader. -/
theorem alike_readStatements (h : b.Running) {l : List Statement}
    (hr : r.readStatements b l = .ok (r', b')) : r.Alike r' := by
  induction l generalizing r b with
  | nil =>
    cases hr
    exact .refl _
  | cons s l ih =>
    rw [readStatements_cons h] at hr
    obtain ⟨⟨r₁, b₁⟩, hs, hr⟩ := bind_eq_ok_iff.1 hr
    exact (alike_readStatement hs).trans (ih (h.of_calls (calls_readStatement h.sound hs)) hr)

/-- Some statements are read, and then others. -/
theorem readStatements_append (h : b.Running) (r : Reader) (before after : List Statement) :
    r.readStatements b (before ++ after)
      = r.readStatements b before >>= fun p => p.1.readStatements p.2 after := by
  induction before generalizing r b with
  | nil => rfl
  | cons s before ih =>
    rw [List.cons_append, readStatements_cons h, readStatements_cons h]
    cases hs : r.readStatement b s with
    | error e => rfl
    | ok p => exact ih (h.of_calls (calls_readStatement h.sound hs)) p.1

/-- One statement among others: `r₁` and `b₁` are what it is read by and on, `r₂` and `b₂` what is left
then. -/
structure IsTurn (r : Reader) (b : Builder) (before : List Statement) (s : Statement)
    (after : List Statement) (r' : Reader) (b' : Builder) (r₁ : Reader) (b₁ : Builder) (r₂ : Reader)
    (b₂ : Builder) : Prop where
  before : r.readStatements b before = .ok (r₁, b₁)
  step : r₁.readStatement b₁ s = .ok (r₂, b₂)
  after : r₂.readStatements b₂ after = .ok (r', b')
  running : b₁.Running
  goesOn : b₂.Running

/-- A statement among others is read in its turn. -/
theorem exists_turn (h : b.Running) {before after : List Statement} {s : Statement}
    (hr : r.readStatements b (before ++ s :: after) = .ok (r', b')) :
    ∃ r₁ b₁ r₂ b₂, IsTurn r b before s after r' b' r₁ b₁ r₂ b₂ := by
  rw [readStatements_append h] at hr
  obtain ⟨⟨r₁, b₁⟩, hbefore, hr⟩ := bind_eq_ok_iff.1 hr
  have hrunning := h.of_calls (calls_readStatements h hbefore)
  rw [readStatements_cons hrunning] at hr
  obtain ⟨⟨r₂, b₂⟩, hstep, hafter⟩ := bind_eq_ok_iff.1 hr
  exact ⟨r₁, b₁, r₂, b₂, hbefore, hstep, hafter, hrunning,
    hrunning.of_calls (calls_readStatement hrunning.sound hstep)⟩

end SchemaBridge.Dump.Reader

namespace SchemaBridge

open Builder

namespace Dump.Reader

open Sql (Definition Ident ColumnDefinition TableConstraint)

variable {r r' : Reader} {b b' : Builder} {s : Statement} {enums : EnumLabels} {notes : List String}
  {name : List Ident} {columns : List ColumnDefinition} {ds : List Definition}

/-- The policy has left out a table of a name, and an issue says so. -/
def LeftOut (name : List Ident) (m : Model) : Prop :=
  ∃ (draft : TableDraft) (other : Table), draft.nspace = (splitName name).1
    ∧ draft.name = (splitName name).2 ∧ skippedIssue draft other ∈ m.issues

/-- A table that is left out stays so. -/
theorem LeftOut.keeps (h : LeftOut name b.model) (hk : b.Keeps b') : LeftOut name b'.model := by
  obtain ⟨draft, other, hnspace, hname, hissue⟩ := h
  exact ⟨draft, other, hnspace, hname, hk.issues.subset hissue⟩

/-- A table with the declared name and the columns of a definition. -/
structure IsMade (enums : EnumLabels) (name : List Ident) (columns : List ColumnDefinition)
    (t : Table) : Prop where
  nspace : t.nspace = (splitName name).1
  sourceName : t.sourceName = (splitName name).2
  columns : List.Forall₂ (fun c col => Column.Follows (columnDraft enums c) col) columns t.columns

/-- Every column of a definition is in its table. -/
theorem IsMade.exists_column {t : Table} (h : IsMade enums name columns t) {c : ColumnDefinition}
    (hc : c ∈ columns) : ∃ col ∈ t.columns, Column.Follows (columnDraft enums c) col := by
  obtain ⟨i, hi, rfl⟩ := List.mem_iff_getElem.1 hc
  have hi' : i < t.columns.length := h.columns.length_eq ▸ hi
  exact ⟨t.columns[i], List.getElem_mem hi', h.columns.get hi hi'⟩

/-- What a definition makes: a new table, unless the policy leaves it out. -/
def Made (enums : EnumLabels) (name : List Ident) (columns : List ColumnDefinition)
    (b b' : Builder) : Prop :=
  LeftOut name b'.model ∨ ∃ id t, b.model.table? id = none ∧ b'.model.table? id = some t
    ∧ IsMade enums name columns t

/-- A statement makes a table with some columns. -/
def Makes (r : Reader) (s : Statement) (name : List Ident) (columns : List ColumnDefinition) : Prop :=
  Kind.ofText s.text.toList = .createTable ∧ ∃ ds notes constraints,
    r.tableDefinitions s = .ok (ds, notes) ∧ Definition.createTable name columns constraints ∈ ds

/-- What a statement defines depends on the parser alone. -/
theorem tableDefinitions_congr (h : r.Alike r') (s : Statement) :
    r'.tableDefinitions s = r.tableDefinitions s := by
  obtain ⟨d, enums, parse⟩ := r
  obtain ⟨d', enums', parse'⟩ := r'
  obtain ⟨rfl, rfl⟩ := h
  rfl

theorem Makes.congr (h : Makes r s name columns) (hr : r.Alike r') : Makes r' s name columns := by
  unfold Makes at h ⊢
  rwa [tableDefinitions_congr hr]

/-! ## Adding tables -/

/-- What is said of a table leaves all tables as they are. -/
theorem table?_foldl_issue (b : Builder) (c : IssueCategory) (target : IssueTarget)
    (details : List String) (id : TableId) :
    (details.foldl (fun b d => b.issue c target d) b).model.table? id = b.model.table? id := by
  rw [foldl_issue]
  rfl

/-- A list of definitions leaves the tables alone that are there. -/
theorem table?_addTables (h : b.Sound) (hr : addTables enums notes b ds = .ok b') {id : TableId}
    {t : Table} (ht : b.model.table? id = some t) : b'.model.table? id = some t := by
  induction ds generalizing b with
  | nil =>
    cases hr
    exact ht
  | cons d ds ih =>
    cases d with
    | alterTable | createIndex | other => exact ih h hr ht
    | createTable name columns constraints =>
      obtain ⟨b₁, hcalls, hrest, hadd⟩ := addTables_cons h hr
      refine ih (hcalls.leads h).sound hrest ?_
      rcases hadd with hnone | ⟨k, b₀, hsome, rfl⟩
      · obtain ⟨other, rfl⟩ := addTable_none hnone
        exact ht
      · obtain ⟨hnew, hothers, -⟩ := holds_addTable h hsome
        have hne : id ≠ k := by
          rintro rfl
          rw [hnew] at ht
          cases ht
        rw [table?_foldl_issue, hothers id hne]
        exact ht

/-- The first table of a list of definitions. -/
theorem made_addTable (h : b.Sound) {constraints : List TableConstraint} {b₁ : Builder}
    (hadd : b.addTable (tableDraft enums name columns constraints).1 = (.ok none, b₁)
      ∨ ∃ id b₀, b.addTable (tableDraft enums name columns constraints).1 = (.ok (some id), b₀)
        ∧ b₁ = (lostDetails (tableDraft enums name columns constraints).1
          (tableDraft enums name columns constraints).2 notes).foldl
            (fun b t => b.issue .unsupportedConstraint (.table id) t) b₀) :
    Made enums name columns b b₁ := by
  have hdrafts := drafts_tableDraft enums name columns constraints
  rcases hadd with hnone | ⟨id, b₀, hsome, rfl⟩
  · obtain ⟨other, rfl⟩ := addTable_none hnone
    exact Or.inl ⟨_, other, hdrafts.nspace, hdrafts.name,
      List.mem_append_right _ (List.mem_singleton_self _)⟩
  · obtain ⟨hnew, -, t, hholds⟩ := holds_addTable h hsome
    refine Or.inr ⟨id, t, hnew, (table?_foldl_issue _ _ _ _ id).trans hholds.found,
      hholds.nspace.trans hdrafts.nspace, hholds.sourceName.trans hdrafts.name, ?_⟩
    have hcolumns := hholds.columns
    rw [hdrafts.columns, List.forall₂_map_left_iff] at hcolumns
    exact hcolumns

/-- **The tables of a list of definitions** are all made. -/
theorem made_addTables (h : b.Sound) (hr : addTables enums notes b ds = .ok b')
    {constraints : List TableConstraint} (hd : Definition.createTable name columns constraints ∈ ds) :
    Made enums name columns b b' := by
  induction ds generalizing b with
  | nil => cases hd
  | cons d ds ih =>
    cases d with
    | alterTable | createIndex | other => exact ih h hr (by simpa using hd)
    | createTable name' columns' constraints' =>
      obtain ⟨b₁, hcalls, hrest, hadd⟩ := addTables_cons h hr
      have h₁ := (hcalls.leads h).sound
      rcases List.mem_cons.1 hd with heq | hd
      · cases heq
        rcases made_addTable h hadd with hleft | ⟨id, t, hnew, ht, hmade⟩
        · exact Or.inl (hleft.keeps ((calls_addTables h₁ hrest).grows h₁).keeps)
        · exact Or.inr ⟨id, t, hnew, table?_addTables h₁ hrest ht, hmade⟩
      · rcases ih h₁ hrest hd with hleft | ⟨id, t, hnew, ht, hmade⟩
        · exact Or.inl hleft
        · refine Or.inr ⟨id, t, ?_, ht, hmade⟩
          -- a table that is new later on was not there before
          cases hthere : b.model.table? id with
          | none => rfl
          | some u =>
            have hstill := (hcalls.leads h).keeps id (by rw [hthere]; rfl)
            rw [hnew] at hstill
            cases hstill

/-- **A statement that makes a table** has made it when it has been read. -/
theorem made_readStatement (h : b.Sound) (hm : Makes r s name columns)
    (hr : r.readStatement b s = .ok (r', b')) : Made r.enums name columns b b' := by
  obtain ⟨hkind, ds, notes, constraints, hparsed, hd⟩ := hm
  unfold readStatement at hr
  rw [hkind] at hr
  dsimp only at hr
  unfold createTable at hr
  rw [hparsed] at hr
  have hmap : Except.map (fun b => (r, b)) (addTables r.enums notes b ds) = .ok (r', b') := hr
  cases hadd : addTables r.enums notes b ds with
  | error e =>
    rw [hadd] at hmap
    cases hmap
  | ok b₁ =>
    rw [hadd] at hmap
    cases hmap
    exact made_addTables h hadd hd

/-- A column of the definition is in the table that is made, under its name and with its type. -/
theorem Made.exists_column (h : Made enums name columns b b') {c : ColumnDefinition}
    (hc : c ∈ columns) : LeftOut name b'.model ∨ ∃ id t, b'.model.table? id = some t
      ∧ t.nspace = (splitName name).1 ∧ t.sourceName = (splitName name).2
      ∧ ∃ col ∈ t.columns, col.name = c.name.value ∧ col.sourceType = columnType enums c.type := by
  rcases h with hleft | ⟨id, t, -, ht, hmade⟩
  · exact Or.inl hleft
  · obtain ⟨col, hcol, hfollows⟩ := hmade.exists_column hc
    obtain ⟨hname, htype, -⟩ := columnDraft_spec enums c
    exact Or.inr ⟨id, t, ht, hmade.nspace, hmade.sourceName, col, hcol, hfollows.name.trans hname,
      hfollows.sourceType.trans htype⟩

/-! ## Tables of a text -/

/-- The tables that are made, by their names, with something of each of their columns. -/
def madeColumns {α : Type} (f : ColumnDefinition → α) (p : List Definition × List String) :
    List (List Ident × List α) :=
  p.1.filterMap fun
    | .createTable name columns _ => some (name, columns.map f)
    | _ => none

/-- A statement makes the table that is found in it. -/
theorem exists_makes (hkind : Kind.ofText s.text.toList = .createTable) {α : Type}
    {f : ColumnDefinition → α} {parts : List α}
    (h : (r.tableDefinitions s).map (madeColumns f) = .ok [(name, parts)]) :
    ∃ columns, Makes r s name columns ∧ columns.map f = parts := by
  cases hparsed : r.tableDefinitions s with
  | error e =>
    rw [hparsed] at h
    cases h
  | ok p =>
    obtain ⟨ds, notes⟩ := p
    rw [hparsed] at h
    have hparts : madeColumns f (ds, notes) = [(name, parts)] := Except.ok.inj h
    have hmem : (name, parts) ∈ madeColumns f (ds, notes) := by simp [hparts]
    obtain ⟨d, hd, hname⟩ := List.mem_filterMap.1 hmem
    cases d with
    | alterTable | createIndex | other => cases hname
    | createTable name' columns constraints =>
      obtain ⟨rfl, hcolumns⟩ := Prod.mk.inj (Option.some.inj hname)
      exact ⟨columns, ⟨hkind, ds, notes, constraints, hparsed, hd⟩, hcolumns⟩

/-- The columns of the finished model of a dump that is read by itself. -/
def columnsOf (source : SourceDialect) (dump : String) : Option (List Column) :=
  match { dialect := source, enums := [] : Reader }.read (newBuilder source) dump with
  | .ok (_, b) => some (b.finish.tables.flatMap (·.2.columns))
  | .error _ => none

end Dump.Reader

end SchemaBridge
