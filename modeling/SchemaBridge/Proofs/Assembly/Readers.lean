/-
# What the readers do

Readers reach a model only through calls of a builder.  Whatever they accept, a statement of a dump, a
table of an export or of a catalogue is a list of calls, and a whole reading is that with questions
whether to stop in between.

## Key statements

* `Dump.Reader.calls_readStatement`, `Dynamo.calls_readTable`, `Live.calls_readTable`: one step.
* `Dump.Reader.readStatements_eq`, `Dynamo.readTables_eq`, `Live.readTables_eq`: a reading goes on step
  by step.
* `Dump.Reader.leads_read`, `Dynamo.leads_read`: reading a text.
-/
import SchemaBridge.Dump.Reader
import SchemaBridge.Dynamo.Reader
import SchemaBridge.Live.Reader
import SchemaBridge.Proofs.Assembly.Calls

namespace SchemaBridge

open Builder

namespace Dump.Reader

variable {b b' : Builder}

/-- A statement about a table that is not there. -/
theorem calls_missingTable (b : Builder) (s : Statement) (table : String) :
    Calls b (missingTable b s table) :=
  .single (.issue b (by decide) (Or.inl rfl) _)

/-! ## Tables -/

/-- What is said of a table when all that was lost of its definition is known. -/
def lostDetails (draft : TableDraft) (unsupported notes : List String) : List String :=
  unsupported.map (fun what => what ++ " on " ++ draft.name ++ " not converted.")
    ++ notes.map fun note => note ++ " on " ++ draft.name ++ "."

/-- The first of several tables is left out, or it is added and then spoken of. -/
theorem addTables_cons {enums : EnumLabels} {notes : List String} {name : List Sql.Ident}
    {columns : List Sql.ColumnDefinition} {constraints : List Sql.TableConstraint}
    {ds : List Sql.Definition} (h : b.Sound)
    (hr : addTables enums notes b (.createTable name columns constraints :: ds) = .ok b') :
    ∃ b₁, Calls b b₁ ∧ addTables enums notes b₁ ds = .ok b'
      ∧ (b.addTable (tableDraft enums name columns constraints).1 = (.ok none, b₁)
        ∨ ∃ id b₀, b.addTable (tableDraft enums name columns constraints).1 = (.ok (some id), b₀)
          ∧ b₁ = (lostDetails (tableDraft enums name columns constraints).1
            (tableDraft enums name columns constraints).2 notes).foldl
              (fun b t => b.issue .unsupportedConstraint (.table id) t) b₀) := by
  unfold addTables at hr
  dsimp only at hr
  obtain ⟨-, hthere⟩ := Leads.addTable h (tableDraft enums name columns constraints).1
  have hcall := Call.addTable b (tableDraft enums name columns constraints).1
  split at hr
  · cases hr
  · rename_i b₁ heq
    rw [heq] at hcall
    exact ⟨b₁, .single hcall, hr, Or.inl heq⟩
  · rename_i id b₀ heq
    rw [heq] at hthere hcall
    exact ⟨_, .head hcall (Calls.issues (by decide) (hthere id rfl) _), hr,
      Or.inr ⟨id, b₀, heq, rfl⟩⟩

/-- The tables of a statement. -/
theorem calls_addTables {enums : EnumLabels} {notes : List String} {ds : List Sql.Definition}
    (h : b.Sound) (hr : addTables enums notes b ds = .ok b') : Calls b b' := by
  induction ds generalizing b with
  | nil =>
    cases hr
    exact .refl
  | cons d ds ih =>
    cases d with
    | createTable name columns constraints =>
      obtain ⟨b₁, hcalls, hr, -⟩ := addTables_cons h hr
      exact hcalls.trans (ih (hcalls.leads h).sound hr)
    | _ => exact ih h hr

/-- A statement that makes a table. -/
theorem calls_createTable {r : Reader} {s : Statement} (h : b.Sound)
    (hr : r.createTable b s = .ok b') : Calls b b' := by
  unfold createTable at hr
  obtain ⟨⟨ds, notes⟩, -, hr⟩ := bind_eq_ok_iff.1 hr
  exact calls_addTables h hr

/-! ## Changes of tables -/

/-- A constraint of a table that is there. -/
theorem calls_addConstraint {id : TableId} {table : String} {c : Sql.TableConstraint}
    (hid : (b.model.table? id).isSome = true) (hr : addConstraint b id table c = .ok b') :
    Calls b b' := by
  unfold addConstraint at hr
  split at hr
  · cases hr
    exact .single (.issue b (by decide) (Or.inr ⟨id, hid, rfl⟩) _)
  · rename_i draft _
    have hadd := Calls.addConstraints b id draft
    cases hc : (b.addConstraints id draft).1 with
    | error e =>
      rw [hc] at hr
      cases hr
    | ok _ =>
      rw [hc] at hr
      cases hr
      exact hadd

/-- A change of a table that is there. -/
theorem calls_applyChange {id : TableId} {table : String} {c : Sql.TableChange}
    (hid : (b.model.table? id).isSome = true) (hr : applyChange id table b c = .ok b') :
    Calls b b' := by
  cases c with
  | addConstraint c => exact calls_addConstraint hid hr
  | setDefault column text =>
    cases hr
    exact .single (.setColumnDefault b id column.value text)
  | addColumn _ | addIdentity _ | other =>
    cases hr
    exact .refl

/-- All changes of a table that is there. -/
theorem calls_foldlM_applyChange {id : TableId} {table : String} {cs : List Sql.TableChange}
    (h : b.Sound) (hid : (b.model.table? id).isSome = true)
    (hr : cs.foldlM (applyChange id table) b = .ok b') : Calls b b' := by
  induction cs generalizing b with
  | nil =>
    cases hr
    exact .refl
  | cons c cs ih =>
    rw [List.foldlM_cons] at hr
    obtain ⟨b₁, h₁, hr⟩ := bind_eq_ok_iff.1 hr
    have hstep := calls_applyChange hid h₁
    have hleads := hstep.leads h
    exact hstep.trans (ih hleads.sound (hleads.keeps id hid) hr)

/-- The first of several tables that are changed is not there, or it is changed. -/
theorem applyChanges_cons {s : Statement} {name : List Sql.Ident} {changes : List Sql.TableChange}
    {ds : List Sql.Definition} (h : b.Sound)
    (hr : applyChanges s b (.alterTable name changes :: ds) = .ok b') :
    ∃ b₁, Calls b b₁ ∧ applyChanges s b₁ ds = .ok b'
      ∧ match b.lookup (splitName name).1 (splitName name).2 with
        | none => b₁ = missingTable b s (splitName name).2
        | some id => changes.foldlM (applyChange id (splitName name).2) b = .ok b₁ := by
  unfold applyChanges at hr
  dsimp only at hr
  cases hl : b.lookup (splitName name).1 (splitName name).2 with
  | none =>
    rw [hl] at hr
    exact ⟨_, calls_missingTable b s _, hr, rfl⟩
  | some id =>
    rw [hl] at hr
    obtain ⟨b₁, h₁, hr⟩ := bind_eq_ok_iff.1 hr
    exact ⟨b₁, calls_foldlM_applyChange h (isSome_of_lookup h hl) h₁, hr, h₁⟩

/-- A statement that changes a table. -/
theorem calls_applyChanges {s : Statement} {ds : List Sql.Definition} (h : b.Sound)
    (hr : applyChanges s b ds = .ok b') : Calls b b' := by
  induction ds generalizing b with
  | nil =>
    cases hr
    exact .refl
  | cons d ds ih =>
    cases d with
    | alterTable name changes =>
      obtain ⟨b₁, hcalls, hr, -⟩ := applyChanges_cons h hr
      exact hcalls.trans (ih (hcalls.leads h).sound hr)
    | _ => exact ih h hr

/-- A clause that makes an identity column. -/
theorem calls_addIdentity (b : Builder) (s : Statement) : Calls b (addIdentity b s) := by
  unfold addIdentity
  dsimp only
  split
  · split
    · exact .single (.setIdentity b _ _)
    · exact calls_missingTable b s _
  · exact .refl

/-- A statement that changes a table, however it is read. -/
theorem calls_alterTable {r : Reader} {s : Statement} (h : b.Sound)
    (hr : r.alterTable b s = .ok b') : Calls b b' := by
  unfold alterTable at hr
  dsimp only at hr
  split at hr
  · cases hr
    exact calls_addIdentity b s
  split at hr
  · split at hr
    · exact calls_applyChanges h hr
    · cases hr
      exact .single (.issue b (by decide) (Or.inl rfl) _)
  · cases hr
    exact .refl

/-! ## Indexes -/

/-- An index. -/
theorem calls_addIndex (b : Builder) (s : Statement) (d : Sql.Definition) :
    Calls b (addIndex s b d) := by
  unfold addIndex
  split
  · dsimp only
    split
    · exact calls_missingTable b s _
    · exact .single (.addIndex b _ _)
  · exact .refl

/-- A statement that makes an index. -/
theorem calls_createIndex (b : Builder) (r : Reader) (s : Statement) :
    Calls b (r.createIndex b s) := by
  unfold createIndex
  split
  · exact Calls.foldl _ (fun b d => calls_addIndex b s d) b
  · exact .single (.issue b (by decide) (Or.inl rfl) _)

/-! ## Reading -/

/-- A statement is a list of calls. -/
theorem calls_readStatement {r r' : Reader} {s : Statement} (h : b.Sound)
    (hr : r.readStatement b s = .ok (r', b')) : Calls b b' := by
  unfold readStatement at hr
  split at hr
  · obtain ⟨b₁, hc, hr⟩ := map_eq_ok_iff.1 hr
    cases hr
    exact calls_createTable h hc
  · obtain ⟨b₁, hc, hr⟩ := map_eq_ok_iff.1 hr
    cases hr
    exact calls_alterTable h hc
  · cases hr
    exact calls_createIndex b r s
  · obtain ⟨r₁, -, hr⟩ := map_eq_ok_iff.1 hr
    cases hr
    exact .refl
  · cases hr
    exact .single (.issue b (by decide) (Or.inl rfl) _)
  · cases hr
    exact .refl

/-- Statements are read one after another. -/
theorem readStatements_eq (r : Reader) (b : Builder) (ss : List Statement) :
    r.readStatements b ss = readList readStatement r b ss := by
  induction ss generalizing r b with
  | nil => rfl
  | cons s ss ih =>
    unfold readStatements readList
    rcases b.shouldStop with ⟨_ | _, b₁⟩
    · dsimp only
      cases readStatement r b₁ s with
      | error e => rfl
      | ok p => exact ih p.1 p.2
    · rfl

/-- Reading a dump. -/
theorem leads_read {r r' : Reader} {dump : String} (h : b.Sound)
    (hr : r.read b dump = .ok (r', b')) : b.Leads b' :=
  ((reads_readList ((readStatements_eq r b _).symm.trans hr)).moves calls_readStatement h).leads h

end Dump.Reader

namespace Dynamo

variable {b b' : Builder}

/-- A table of an export is a list of calls. -/
theorem calls_readTable {t : TableExport} (h : b.Sound) (hr : readTable b t = .ok b') :
    Calls b b' := by
  unfold readTable at hr
  obtain ⟨⟨⟩, -, hr⟩ := bind_eq_ok_iff.1 hr
  have hcall := Call.addTable b t.draft
  obtain ⟨-, hthere⟩ := Leads.addTable h t.draft
  split at hr
  · cases hr
  · rename_i heq
    rw [heq] at hcall
    cases hr
    exact .single hcall
  · rename_i id b₁ heq
    rw [heq] at hcall hthere
    cases hr
    exact .head hcall (Calls.issues (by decide) (hthere id rfl) _)

/-- A table as a step that leaves nothing but a builder. -/
def step (_ : Unit) (b : Builder) (t : TableExport) : Outcome (Unit × Builder) := do
  return ((), ← readTable b t)

/-- An exported table. -/
theorem calls_step {u u' : Unit} {t : TableExport} (h : b.Sound)
    (hr : step u b t = .ok (u', b')) : Calls b b' := by
  obtain ⟨b₁, h₁, hb⟩ := bind_eq_ok_iff.1 hr
  cases hb
  exact calls_readTable h h₁

/-- Exported tables are read one after another. -/
theorem readTables_eq (b : Builder) (ts : List TableExport) :
    readTables b ts = (readList step () b ts).map (·.2) := by
  induction ts generalizing b with
  | nil => rfl
  | cons t ts ih =>
    unfold readTables readList
    rcases b.shouldStop with ⟨_ | _, b₁⟩
    · simp only [step]
      cases readTable b₁ t with
      | error e => rfl
      | ok b₂ => exact ih b₂
    · rfl

/-- What a reading of tables gives is what its steps give. -/
theorem reads_readTables {ts : List TableExport} (hr : readTables b ts = .ok b') :
    Reads step () b ts () b' := by
  rw [readTables_eq] at hr
  exact (exists_reads_readList hr).choose_spec

/-- Reading an export. -/
theorem leads_read {path text : String} (h : b.Sound) (hr : read path b text = .ok b') :
    b.Leads b' := by
  unfold read at hr
  split at hr
  · cases hr
  · exact ((reads_readTables hr).moves calls_step h).leads h

end Dynamo

namespace Live

variable {b b' : Builder}

/-- Issues about indexes with predicates. -/
theorem calls_reportPartialIndexes {id : TableId} (hid : (b.model.table? id).isSome = true)
    (table : String) (indexes : List String) :
    Calls b (indexes.foldl (fun b i => reportPartialIndex b id table i) b) := by
  have hissues := Calls.issues (c := .unsupportedConstraint) (by decide) hid
    (indexes.map fun i => "Partial index " ++ i ++ " on " ++ table ++ " not converted.")
  rwa [List.foldl_map] at hissues

/-- A table of a catalogue is a list of calls. -/
theorem calls_readTable {c : Catalogue} {nspace name : String} (h : b.Sound)
    (hr : readTable c b nspace name = .ok b') : Calls b b' := by
  unfold readTable at hr
  obtain ⟨⟨draft, skipped⟩, -, hr⟩ := bind_eq_ok_iff.1 hr
  have hcall := Call.addTable b draft
  obtain ⟨-, hthere⟩ := Leads.addTable h draft
  dsimp only at hr
  split at hr
  · cases hr
  · rename_i heq
    rw [heq] at hcall
    cases hr
    exact .single hcall
  · rename_i id b₁ heq
    rw [heq] at hcall hthere
    cases hr
    exact .head hcall (calls_reportPartialIndexes (hthere id rfl) _ _)

/-- Issues about views. -/
theorem calls_reportViews (views : List ViewRow) (b : Builder) :
    Calls b (views.foldl reportView b) :=
  Calls.foldl views (fun b _ => .single (.issue b (by decide) (Or.inl rfl) _)) b

/-- A table as a step that leaves nothing but a builder. -/
def step (c : Catalogue) (_ : Unit) (b : Builder) (t : String × String) :
    Outcome (Unit × Builder) := do
  return ((), ← readTable c b t.1 t.2)

/-- A table of a catalogue. -/
theorem calls_step {c : Catalogue} {u u' : Unit} {t : String × String} (h : b.Sound)
    (hr : step c u b t = .ok (u', b')) : Calls b b' := by
  obtain ⟨b₁, h₁, hb⟩ := bind_eq_ok_iff.1 hr
  cases hb
  exact calls_readTable h h₁

/-- All views as one step. -/
def viewsStep (_ : Unit) (b : Builder) (views : List ViewRow) : Outcome (Unit × Builder) :=
  .ok ((), views.foldl reportView b)

/-- The views of a catalogue. -/
theorem calls_viewsStep {u u' : Unit} {views : List ViewRow}
    (hr : viewsStep u b views = .ok (u', b')) : Calls b b' := by
  cases hr
  exact calls_reportViews views b

/-- The tables of a catalogue are read one after another. -/
theorem readTables_eq (c : Catalogue) (b : Builder) (ts : List (String × String)) :
    readTables c b ts = (readList (step c) () b ts).map (·.2) := by
  induction ts generalizing b with
  | nil => rfl
  | cons t ts ih =>
    unfold readTables readList
    rcases b.shouldStop with ⟨_ | _, b₁⟩
    · simp only [step]
      cases readTable c b₁ t.1 t.2 with
      | error e => rfl
      | ok b₂ => exact ih b₂
    · rfl

/-- What a reading of tables gives is what its steps give. -/
theorem reads_readTables {c : Catalogue} {ts : List (String × String)}
    (hr : readTables c b ts = .ok b') : Reads (step c) () b ts () b' := by
  rw [readTables_eq] at hr
  exact (exists_reads_readList hr).choose_spec

/-- Reading a database: the tables, then the views. -/
theorem reads_read {c : Catalogue} (hr : read c b = .ok b') :
    ∃ tables views b₁, Reads (step c) () b tables () b₁ ∧ Reads viewsStep () b₁ [views] () b' := by
  unfold read at hr
  obtain ⟨-, -, hr⟩ := bind_eq_ok_iff.1 hr
  obtain ⟨tables, -, hr⟩ := bind_eq_ok_iff.1 hr
  obtain ⟨b₁, htables, hr⟩ := bind_eq_ok_iff.1 hr
  split at hr
  · rename_i hstop
    cases hr
    exact ⟨tables, [], b₁, reads_readTables htables, .stop hstop⟩
  · rename_i hgo
    obtain ⟨views, -, hr⟩ := bind_eq_ok_iff.1 hr
    cases hr
    exact ⟨tables, views, b₁, reads_readTables htables, .next hgo rfl (.done _ _)⟩

end Live

end SchemaBridge
