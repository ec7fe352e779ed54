/-
# Models read back as names

Identifiers are given out as tables and columns come.  What a model says about foreign keys is read
back here with the names that were declared, so that models with other identifiers can be compared.

## Key statements

* `Table.Alike.resolveReference`: a foreign key between tables that differ in their identifiers.
* `Builder.readSettled_alike`: what becomes of it, read back.
-/
import SchemaBridge.Proofs.Assembly.Resolution

namespace SchemaBridge

/-! ## Reading back -/

/-- Schema and name of a table. -/
abbrev TableLabel := Option String × String

/-- The schema and the name of a table. -/
def Table.label (t : Table) : TableLabel := (t.nspace, t.name)

/-- A foreign key with names in place of identifiers. -/
structure NamedKey where
  name : String
  columns : List String
  parent : Option TableLabel
  referencedColumns : List String
  onDelete : FkPolicy
  onUpdate : FkPolicy
  deriving DecidableEq, Repr

/-- A foreign key of a table, read back. -/
def Model.readKey (m : Model) (t : Table) (f : ForeignKey) : NamedKey :=
  { name := f.name
    columns := f.columns.map t.columnName
    parent := (m.table? f.referencedTable).map Table.label
    referencedColumns := (m.table? f.referencedTable).elim [] fun parent =>
      f.referencedColumns.map parent.columnName
    onDelete := f.onDelete
    onUpdate := f.onUpdate }

/-- The foreign keys of every table, read back. -/
def Model.readKeys (m : Model) : List (TableLabel × List NamedKey) :=
  m.tables.map fun e => (e.2.label, e.2.foreignKeys.map (m.readKey e.2))

/-- An issue with the table it is about in place of an identifier.  Issues of the reader are about a
table or the whole schema. -/
def Model.readIssue (m : Model) (i : Issue) : Option TableLabel × Issue :=
  ((i.target.table?.bind m.table?).map Table.label, { i with target := .schema })

/-- What is said of references that lead nowhere, read back. -/
def Model.readMissing (m : Model) : List (Option TableLabel × Issue) :=
  (m.issues.filter (·.category = .missingReference)).map m.readIssue

/-- What has become of a foreign key of a table, read back. -/
def Model.readSettled (m : Model) (t : Table) :
    Except Issue ForeignKey → Except (Option TableLabel × Issue) NamedKey
  | .ok f => .ok (m.readKey t f)
  | .error i => .error (m.readIssue i)

/-- What is kept, read back. -/
theorem kept_readSettled (m : Model) (t : Table) (l : List Builder.Settled) :
    kept (l.map fun s => m.readSettled t s.2) = (kept (l.map (·.2))).map (m.readKey t) := by
  induction l with
  | nil => rfl
  | cons s l ih =>
    rw [List.map_cons, List.map_cons, kept_cons, ih, kept_cons s.2, List.map_append]
    cases s.2 <;> rfl

/-- What is said of what is dropped, read back. -/
theorem lost_readSettled (m : Model) (table : Builder.Settled → Table) (l : List Builder.Settled) :
    lost (l.map fun s => m.readSettled (table s) s.2) = (Builder.issuesOf l).map m.readIssue := by
  induction l with
  | nil => rfl
  | cons s l ih =>
    rw [List.map_cons, lost_cons, ih, Builder.issuesOf_cons, List.map_append]
    cases s.2 <;> rfl

/-! ## Names of columns -/

/-- The name of a column of a table whose columns can be told apart. -/
theorem Table.columnName_of_mem {t : Table} (h : (t.columns.map (·.id)).Nodup) {c : Column}
    (hc : c ∈ t.columns) : t.columnName c.id = c.name := by
  unfold Table.columnName Table.column?
  rw [find?_of_mem h hc]
  rfl

/-- Two tables that differ, as far as a foreign key can tell, in their identifiers alone. -/
structure Table.Alike (t t' : Table) : Prop where
  label : t'.label = t.label
  columns : t'.columns.map (·.name) = t.columns.map (·.name)
  key : t'.primaryKey.map (fun k => t'.columnName k.column)
    = t.primaryKey.map fun k => t.columnName k.column
  distinct : (t.columns.map (·.id)).Nodup ∧ (t'.columns.map (·.id)).Nodup

/-- A column is found under a name in one table as in any other with the same names. -/
theorem Table.columnByName?_congr {t t' : Table}
    (h : t'.columns.map (·.name) = t.columns.map (·.name)) (n : String) :
    (t'.columnByName? n).map (·.name) = (t.columnByName? n).map (·.name) := by
  have hfind : ∀ u : Table, (u.columnByName? n).map (·.name)
      = (u.columns.map (·.name)).find? fun x => Text.sameFolded x n := by
    intro u
    rw [List.find?_map]
    rfl
  rw [hfind, hfind, h]

namespace Builder

/-- Columns that are found under their names, read back. -/
theorem resolveColumns_congr_names {t t' : Table}
    (h : t'.columns.map (·.name) = t.columns.map (·.name)) (hids : (t.columns.map (·.id)).Nodup)
    (hids' : (t'.columns.map (·.id)).Nodup) (names : List String) :
    (resolveColumns t' names).map (·.map t'.columnName)
      = (resolveColumns t names).map (·.map t.columnName) := by
  have hnamed (u : Table) (hu : (u.columns.map (·.id)).Nodup) (n : String) :
      (u.columnByName? n).map (fun c => u.columnName c.id) = (u.columnByName? n).map (·.name) :=
    Option.map_congr fun c hc => Table.columnName_of_mem hu (List.mem_of_find?_eq_some hc)
  refine map_resolveEach_congr (fun n => ?_) names
  exact (hnamed t' hids' n).trans ((Table.columnByName?_congr h n).trans (hnamed t hids n).symm)

end Builder

namespace Table.Alike

variable {t t' u u' : Table}

/-- Tables that are alike have one name. -/
theorem name (h : t.Alike t') : t'.name = t.name := congrArg Prod.snd h.label

/-- Names are resolved to columns of the same names. -/
theorem resolveColumns (h : t.Alike t') (names : List String) :
    (Builder.resolveColumns t' names).map (·.map t'.columnName)
      = (Builder.resolveColumns t names).map (·.map t.columnName) :=
  Builder.resolveColumns_congr_names h.columns h.distinct.1 h.distinct.2 names

/-- A foreign key that names no columns means those of the same key. -/
theorem referencedNames (h : t.Alike t') (d : ForeignKeyDraft) :
    Builder.referencedNames t' d = Builder.referencedNames t d := by
  unfold Builder.referencedNames
  rw [h.key]

/-- A foreign key between two tables leads to the same columns between others that are alike. -/
theorem resolveReference (h : t.Alike t') (hparent : u.Alike u') (d : ForeignKeyDraft) :
    (Builder.resolveReference t' u' d).map (fun r => (r.1.map t'.columnName, r.2.map u'.columnName))
      = (Builder.resolveReference t u d).map
        fun r => (r.1.map t.columnName, r.2.map u.columnName) := by
  have hcolumns := h.resolveColumns d.columns
  have hreferenced := hparent.resolveColumns (Builder.referencedNames u d)
  unfold Builder.resolveReference
  rw [hparent.referencedNames d, hparent.name]
  -- both lists are found in both pairs of tables or in neither, and then they have the same lengths
  rcases hc : Builder.resolveColumns t d.columns with e | cs <;>
    rcases hc' : Builder.resolveColumns t' d.columns with e' | cs' <;>
    rw [hc, hc'] at hcolumns
  case error.error =>
    rw [Except.error.inj hcolumns]
    rfl
  case error.ok | ok.error => cases hcolumns
  dsimp only
  rcases hr : Builder.resolveColumns u (Builder.referencedNames u d) with e | rs <;>
    rcases hr' : Builder.resolveColumns u' (Builder.referencedNames u d) with e' | rs' <;>
    rw [hr, hr'] at hreferenced
  case error.error =>
    rw [Except.error.inj hreferenced]
    rfl
  case error.ok | ok.error => cases hreferenced
  have hcs : cs'.map t'.columnName = cs.map t.columnName := Except.ok.inj hcolumns
  have hrs : rs'.map u'.columnName = rs.map u.columnName := Except.ok.inj hreferenced
  have hclen : cs'.length = cs.length := by simpa using congrArg List.length hcs
  have hrlen : rs'.length = rs.length := by simpa using congrArg List.length hrs
  have hcond : (rs'.length = cs'.length ∧ rs' ≠ []) ↔ (rs.length = cs.length ∧ rs ≠ []) := by
    rw [hclen, hrlen, ← List.length_pos_iff, ← List.length_pos_iff, hrlen]
  by_cases hkept : rs.length = cs.length ∧ rs ≠ []
  · simp only [if_pos hkept, if_pos (hcond.2 hkept)]
    show Except.ok (cs'.map t'.columnName, rs'.map u'.columnName) = Except.ok _
    rw [hcs, hrs]
  · simp only [if_neg hkept, if_neg (hkept ∘ hcond.1)]
    rfl

end Table.Alike

/-! ## What becomes of a foreign key -/

namespace Builder

variable {b b' : Builder} {id : TableId} {t t' : Table} {p p' : PendingForeignKey}

/-- The table that a foreign key refers to is there. -/
theorem table?_of_parent? {e : TableId × Table} (h : b.parent? p = some e) :
    b.model.table? e.1 = some e.2 := by
  unfold parent? at h
  obtain ⟨id, -, hid⟩ := Option.bind_eq_some_iff.1 h
  obtain ⟨u, hu, rfl⟩ := Option.map_eq_some_iff.1 hid
  exact hu

/-- What is said of a foreign key that is dropped, read back. -/
theorem readIssue_lostForeignKeyIssue {m m' : Model} {id' : TableId} (h : t.Alike t')
    (ht : m.table? id = some t) (ht' : m'.table? id' = some t') (d : ForeignKeyDraft) (why : String) :
    m'.readIssue (lostForeignKeyIssue id' t' d why) = m.readIssue (lostForeignKeyIssue id t d why) := by
  unfold Model.readIssue lostForeignKeyIssue foreignKeyName
  simp only [Issue.raise, IssueTarget.table?, Option.bind_some, ht, ht', Option.map_some, h.label,
    h.name]

/-- What becomes of a foreign key, read back, is the same between tables that are alike. -/
theorem readSettled_alike (h : t.Alike t') (ht : b.model.table? p.table = some t)
    (ht' : b'.model.table? p'.table = some t') (hdraft : p'.draft = p.draft)
    (hparent : Option.Rel (fun e e' : TableId × Table => e.2.Alike e'.2) (b.parent? p) (b'.parent? p'))
    (raw raw' : Nat) : b'.model.readSettled t' (b'.settle raw' t' p')
      = b.model.readSettled t (b.settle raw t p) := by
  have hlost : ∀ why, b'.model.readIssue (lostForeignKeyIssue p'.table t' p'.draft why)
      = b.model.readIssue (lostForeignKeyIssue p.table t p.draft why) := by
    intro why
    rw [hdraft]
    exact readIssue_lostForeignKeyIssue h ht ht' p.draft why
  unfold settle resolution
  rw [hdraft] at hlost ⊢
  rcases hp : b.parent? p with - | ⟨id, u⟩ <;> rcases hp' : b'.parent? p' with - | ⟨id', u'⟩ <;>
    rw [hp, hp'] at hparent
  -- both parents are found or neither is
  case none.none => exact congrArg Except.error (hlost _)
  case none.some | some.none => cases hparent
  have hu : b.model.table? id = some u := table?_of_parent? hp
  have hu' : b'.model.table? id' = some u' := table?_of_parent? hp'
  obtain ⟨hualike⟩ := hparent
  have hsame := h.resolveReference hualike p.draft
  dsimp only
  rcases hr : resolveReference t u p.draft with why | r <;>
    rcases hr' : resolveReference t' u' p.draft with why' | r' <;> rw [hr, hr'] at hsame
  case error.error =>
    rw [Except.error.inj hsame]
    exact congrArg Except.error (hlost why)
  case error.ok | ok.error => cases hsame
  have hnames : (r'.1.map t'.columnName, r'.2.map u'.columnName)
      = (r.1.map t.columnName, r.2.map u.columnName) := Except.ok.inj hsame
  obtain ⟨hcolumns, hreferenced⟩ := Prod.mk.inj hnames
  refine congrArg Except.ok ?_
  unfold Model.readKey newForeignKey foreignKeyName
  dsimp only
  rw [hu, hu', h.name, hcolumns]
  simp only [Option.map_some, Option.elim_some, hualike.label, hreferenced]

end Builder

end SchemaBridge
