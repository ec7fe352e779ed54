/-
# Calls within tables

Most calls change nothing but the columns, keys, indexes and checks of tables and raise issues.  Which
tables there are, what they are called and which foreign keys wait or are there is the same after them.

## Key statements

* `SameConstraints.setPrimaryKey`, `SameConstraints.addIndex`, …: one statement for each such call.
* `SameOutline.addCheck`: checks are the only ones of these that a call puts into a table by itself.
* `addTable_of_places`, `addTable_cases`, `exists_of_addTable`: what adding a table consists of.
* `adds_addTable`: what it does to the tables and to the keys that wait.
-/
import SchemaBridge.Proofs.Assembly.Parts

namespace SchemaBridge

/-- A table without what calls change in it. -/
def Table.outline (t : Table) : Table :=
  { t with columns := [], primaryKey := [], indexes := [], checks := [] }

/-- A table without its columns and what is made of them: with its names, checks and foreign keys. -/
def Table.constraints (t : Table) : Table :=
  { t with columns := [], primaryKey := [], indexes := [] }

namespace Builder

variable {b b' b'' : Builder} {id : TableId}

/-- Nothing has changed but issues and, in tables, columns, keys, indexes and checks. -/
structure SameOutline (b b' : Builder) : Prop where
  bySource : b'.bySource = b.bySource
  pending : b'.pending = b.pending
  tables : b'.model.tables.map (fun e => (e.1, e.2.outline))
    = b.model.tables.map fun e => (e.1, e.2.outline)

/-- Nothing has changed but issues, the counter and, in tables, columns, keys and indexes. -/
structure SameConstraints (b b' : Builder) : Prop where
  bySource : b'.bySource = b.bySource
  pending : b'.pending = b.pending
  tables : b'.model.tables.map (fun e => (e.1, e.2.constraints))
    = b.model.tables.map fun e => (e.1, e.2.constraints)
  counter : b.model.nextId ≤ b'.model.nextId

/-- A change within one table, seen through what it does not touch. -/
theorem map_modifyTable (m : Model) (id : TableId) {f view : Table → Table}
    (hf : ∀ t, view (f t) = view t) : (m.modifyTable id f).tables.map (fun e => (e.1, view e.2))
      = m.tables.map fun e => (e.1, view e.2) := by
  rw [Model.modifyTable_tables, changeIn, List.map_map]
  refine List.map_congr_left fun e _ => ?_
  by_cases hid : e.1 = id <;> simp [hid, hf]

/-! ## Calls that touch no constraint -/

namespace SameConstraints

theorem refl (b : Builder) : b.SameConstraints b := ⟨rfl, rfl, rfl, Nat.le_refl _⟩

theorem trans (h : b.SameConstraints b') (h' : b'.SameConstraints b'') : b.SameConstraints b'' :=
  ⟨h'.bySource.trans h.bySource, h'.pending.trans h.pending, h'.tables.trans h.tables,
    Nat.le_trans h.counter h'.counter⟩

/-- What changes no constraint changes no outline. -/
theorem outline (h : b.SameConstraints b') : b.SameOutline b' := by
  have htables := congrArg (List.map fun e : TableId × Table => (e.1, e.2.outline)) h.tables
  rw [List.map_map, List.map_map] at htables
  exact ⟨h.bySource, h.pending, htables⟩

/-- Each table was there, with its constraints. -/
theorem exists_mem (h : b.SameConstraints b') {e : TableId × Table} (he : e ∈ b'.model.tables) :
    ∃ e' ∈ b.model.tables, e'.1 = e.1 ∧ e'.2.constraints = e.2.constraints := by
  have hmem : (e.1, e.2.constraints) ∈ b.model.tables.map fun e => (e.1, e.2.constraints) :=
    h.tables ▸ List.mem_map_of_mem he
  obtain ⟨e', he', heq⟩ := List.mem_map.1 hmem
  exact ⟨e', he', Prod.mk.inj heq⟩

/-- The tables are those that were there. -/
theorem map_fst (h : b.SameConstraints b') :
    b'.model.tables.map (·.1) = b.model.tables.map (·.1) := by
  have hids := congrArg (List.map Prod.fst) h.tables
  rwa [List.map_map, List.map_map] at hids

/-- Any number of steps that change no constraint. -/
theorem foldl {α : Type} {f : Builder → α → Builder}
    (hf : ∀ (b : Builder) (a : α), b.SameConstraints (f b a)) (l : List α) (b : Builder) :
    b.SameConstraints (l.foldl f b) := by
  induction l generalizing b with
  | nil => exact refl b
  | cons a l ih => exact (hf b a).trans (ih (f b a))

/-- A step that changes no table. -/
theorem ofTables (h : b'.model.tables = b.model.tables) (hnames : b'.bySource = b.bySource)
    (hpending : b'.pending = b.pending) (hcounter : b.model.nextId ≤ b'.model.nextId) :
    b.SameConstraints b' :=
  ⟨hnames, hpending, by rw [h], hcounter⟩

/-- A change within one table. -/
theorem ofChange {f : Table → Table} (h : b'.model.tables = (b.model.modifyTable id f).tables)
    (hnames : b'.bySource = b.bySource) (hpending : b'.pending = b.pending)
    (hcounter : b.model.nextId ≤ b'.model.nextId) (hf : ∀ t, (f t).constraints = t.constraints) :
    b.SameConstraints b' :=
  ⟨hnames, hpending, by rw [h, map_modifyTable _ _ hf], hcounter⟩

/-- A change of one table that leaves its constraints. -/
theorem withPart (b : Builder) (id : TableId) {f : Table → Table}
    (hf : ∀ t, (f t).constraints = t.constraints) : b.SameConstraints (b.withPart id f) :=
  ofChange (f := f) rfl rfl rfl (Nat.le_succ _) hf

/-- A primary key is none of the constraints that are named. -/
theorem setPrimaryKey (b : Builder) (id : TableId) (columns : List KeyDraft) :
    b.SameConstraints (b.setPrimaryKey id columns).2 := by
  unfold Builder.setPrimaryKey
  split
  · exact refl b
  · split
    · exact refl b
    · rename_i keys _
      refine ofChange rfl rfl rfl (Nat.le_refl _) fun t => ?_
      obtain ⟨cs, -, he⟩ := Leads.foldl_require keys t
      simp only [he]
      rfl

theorem addIndex (b : Builder) (id : TableId) (draft : IndexDraft) :
    b.SameConstraints (b.addIndex id draft) := by
  unfold Builder.addIndex
  simp only [Model.allocate]
  split
  · exact ofTables rfl rfl rfl (Nat.le_succ _)
  · split
    · exact withPart b id fun _ => rfl
    · exact ofTables rfl rfl rfl (Nat.le_succ _)

/-- Identity changes no constraint. -/
theorem setIdentity (b : Builder) (id : TableId) (column : String) :
    b.SameConstraints (b.setIdentity id column) :=
  ofChange rfl rfl rfl (Nat.le_refl _) fun _ => rfl

/-- A default changes no constraint. -/
theorem setColumnDefault (b : Builder) (id : TableId) (column expr : String) :
    b.SameConstraints (b.setColumnDefault id column expr) := by
  unfold Builder.setColumnDefault
  split
  · exact refl b
  · split
    · exact ofTables rfl rfl rfl (Nat.le_refl _)
    · exact ofChange rfl rfl rfl (Nat.le_refl _) fun _ => rfl

/-- A cancellation changes no constraint. -/
theorem shouldStop (b : Builder) : b.SameConstraints b.shouldStop.2 := by
  unfold Builder.shouldStop
  split
  · exact ofTables rfl rfl rfl (Nat.le_refl _)
  · exact refl b

/-- The choice of a name changes no constraint. -/
theorem chooseName (b : Builder) (draft : TableDraft) :
    b.SameConstraints (b.chooseName draft).2 := by
  unfold Builder.chooseName
  split
  · exact refl b
  · split <;> exact ofTables rfl rfl rfl (Nat.le_refl _)

end SameConstraints

/-! ## Calls that touch checks at most -/

namespace SameOutline

theorem refl (b : Builder) : b.SameOutline b := ⟨rfl, rfl, rfl⟩

theorem trans (h : b.SameOutline b') (h' : b'.SameOutline b'') : b.SameOutline b'' :=
  ⟨h'.bySource.trans h.bySource, h'.pending.trans h.pending, h'.tables.trans h.tables⟩

/-- Each table keeps its outline. -/
theorem table? (h : b.SameOutline b') (k : TableId) :
    (b'.model.table? k).map Table.outline = (b.model.table? k).map Table.outline := by
  rw [Model.table?_eq_tableIn, Model.table?_eq_tableIn,
    ← tableIn_map b'.model.tables (fun _ => Table.outline),
    ← tableIn_map b.model.tables (fun _ => Table.outline), h.tables]

/-- A table that was there is there with its outline. -/
theorem exists_table (h : b.SameOutline b') {t : Table} (ht : b.model.table? id = some t) :
    ∃ t', b'.model.table? id = some t' ∧ t'.outline = t.outline := by
  have hsame := h.table? id
  rw [ht] at hsame
  exact Option.map_eq_some_iff.1 hsame

/-- Any number of steps that change no outline. -/
theorem foldl {α : Type} {f : Builder → α → Builder}
    (hf : ∀ (b : Builder) (a : α), b.SameOutline (f b a)) (l : List α) (b : Builder) :
    b.SameOutline (l.foldl f b) := by
  induction l generalizing b with
  | nil => exact refl b
  | cons a l ih => exact (hf b a).trans (ih (f b a))

/-- A step that changes no table changes no outline. -/
theorem ofTables (h : b'.model.tables = b.model.tables) (hnames : b'.bySource = b.bySource)
    (hpending : b'.pending = b.pending) : b.SameOutline b' :=
  ⟨hnames, hpending, by rw [h]⟩

theorem setPrimaryKey (b : Builder) (id : TableId) (columns : List KeyDraft) :
    b.SameOutline (b.setPrimaryKey id columns).2 := (SameConstraints.setPrimaryKey b id columns).outline

theorem addIndex (b : Builder) (id : TableId) (draft : IndexDraft) :
    b.SameOutline (b.addIndex id draft) := (SameConstraints.addIndex b id draft).outline

/-- A check is not in the outline. -/
theorem addCheck (b : Builder) (id : TableId) (draft : CheckDraft) :
    b.SameOutline (b.addCheck id draft) := ⟨rfl, rfl, map_modifyTable _ _ fun _ => rfl⟩

theorem setIdentity (b : Builder) (id : TableId) (column : String) :
    b.SameOutline (b.setIdentity id column) := (SameConstraints.setIdentity b id column).outline

theorem setColumnDefault (b : Builder) (id : TableId) (column expr : String) :
    b.SameOutline (b.setColumnDefault id column expr) :=
  (SameConstraints.setColumnDefault b id column expr).outline

theorem shouldStop (b : Builder) : b.SameOutline b.shouldStop.2 :=
  (SameConstraints.shouldStop b).outline

end SameOutline

/-! ## Adding tables -/

/-- A foreign key that waits, of a table that is there. -/
def waiting (t : Table) (id : TableId) (d : ForeignKeyDraft) : PendingForeignKey :=
  { table := id, nspace := t.nspace, draft := d }

/-- Foreign keys that are queued for one table. -/
theorem foldl_addForeignKey {t : Table} (ht : b.model.table? id = some t)
    (ds : List ForeignKeyDraft) :
    ds.foldl (·.addForeignKey id ·) b = { b with pending := b.pending ++ ds.map (waiting t id) } := by
  induction ds generalizing b with
  | nil => simp
  | cons d ds ih =>
    have hstep : b.addForeignKey id d = { b with pending := b.pending ++ [waiting t id d] } := by
      unfold addForeignKey
      rw [ht]
      rfl
    rw [List.foldl_cons, hstep, ih (by exact ht), List.map_cons]
    simp

/-- The parts of a draft are put into its table, and its foreign keys are queued. -/
theorem SameOutline.addParts {t : Table} (ht : b.model.table? id = some t) (draft : TableDraft) :
    SameOutline { b with pending := b.pending ++ draft.foreignKeys.map (waiting t id) }
      (b.addParts id draft) := by
  have hindexes := foldl (fun b d => addIndex b id d) draft.indexes b
  set b₁ := draft.indexes.foldl (·.addIndex id ·) b with hb₁
  obtain ⟨t₁, ht₁, hsame⟩ := hindexes.exists_table ht
  have hnspace : t₁.nspace = t.nspace := by
    have h := congrArg Table.nspace hsame
    exact h
  have hwaiting : waiting t₁ id = waiting t id := by
    unfold waiting
    rw [hnspace]
  have hchecks := foldl (fun b d => addCheck b id d) draft.checks
    { b₁ with pending := b₁.pending ++ draft.foreignKeys.map (waiting t₁ id) }
  rw [← foldl_addForeignKey ht₁] at hchecks
  refine SameOutline.trans ⟨?_, ?_, ?_⟩ hchecks
  all_goals rw [foldl_addForeignKey ht₁]
  · exact hindexes.bySource
  · rw [hwaiting, hindexes.pending]
  · exact hindexes.tables

/-- Give a table the key of its draft, if it has one. -/
def setKey (b : Builder) (id : TableId) (draft : TableDraft) : Outcome Unit × Builder :=
  if draft.primaryKey.isEmpty then (.ok (), b) else b.setPrimaryKey id draft.primaryKey

/-- The key of a draft is none of the constraints that are named. -/
theorem SameConstraints.setKey (b : Builder) (id : TableId) (draft : TableDraft) :
    b.SameConstraints (b.setKey id draft).2 := by
  unfold Builder.setKey
  split
  · exact refl b
  · exact setPrimaryKey b id draft.primaryKey

/-- The key of a draft is not in the outline. -/
theorem SameOutline.setKey (b : Builder) (id : TableId) (draft : TableDraft) :
    b.SameOutline (b.setKey id draft).2 := (SameConstraints.setKey b id draft).outline

/-- A table that is given its key. -/
theorem setKey_ok {t : Table} {draft : TableDraft} (ht : b.model.table? id = some t)
    (hr : b.setKey id draft = (.ok (), b')) :
    (∀ k, k ≠ id → b'.model.table? k = b.model.table? k)
      ∧ ∃ cs parts, b'.model.table? id = some { t with columns := cs, primaryKey := parts }
        ∧ List.Forall₂ Column.Tightened t.columns cs
        ∧ (draft.primaryKey = [] → parts = t.primaryKey)
        ∧ (draft.primaryKey ≠ [] → resolveKeys t draft.primaryKey = .ok parts) := by
  unfold setKey at hr
  split at hr
  · rename_i hempty
    cases hr
    exact ⟨fun _ _ => rfl, t.columns, t.primaryKey, ht, List.forall₂_same.2 fun _ _ => Or.inl rfl,
      fun _ => rfl, fun hne => absurd (List.isEmpty_iff.1 hempty) hne⟩
  · rename_i hempty
    obtain ⟨hothers, cs, parts, ht', hparts, hcs⟩ := setPrimaryKey_ok ht hr
    exact ⟨hothers, cs, parts, ht', hcs, fun h => absurd (List.isEmpty_iff.2 h) hempty,
      fun _ => hparts⟩

/-- First the key is set, and then the other parts of a draft are added. -/
theorem addConstraints_eq (b : Builder) (id : TableId) (draft : TableDraft) :
    b.addConstraints id draft = match b.setKey id draft with
      | (.error e, b) => (.error e, b)
      | (.ok (), b) => (.ok (), b.addParts id draft) := rfl

/-- A new table that has nothing but columns. -/
def bareTable (id : TableId) (draft : TableDraft) (name : String) (columns : List Column) : Table :=
  { Table.empty id name with nspace := draft.nspace, sourceName := draft.name, columns }

/-- A builder with a new table that has nothing but columns. -/
def placed (b : Builder) (draft : TableDraft) (name : String) (collided : Option String)
    (columns : List Column) : Builder :=
  Builder.placeTable
    { b with model := { b.model with nextId := b.model.nextId + 1 + draft.columns.length } }
    ⟨b.model.nextId⟩ draft name collided columns

/-- A new table is there, with the parts it is placed with. -/
theorem table?_placed (h : ∀ e ∈ b.model.tables, e.1.val < b.model.nextId) (draft : TableDraft)
    (name : String) (collided : Option String) (columns : List Column) (k : TableId) :
    (b.placed draft name collided columns).model.table? k
      = (b.model.table? k).or (if (⟨b.model.nextId⟩ : TableId) = k then
        some (bareTable ⟨b.model.nextId⟩ draft name columns) else none) :=
  table?_placeTable (b := { b with
    model := { b.model with nextId := b.model.nextId + 1 + draft.columns.length } }) h draft name
    collided columns k

/-- A name and columns with which a table can be added. -/
structure CanPlace (b : Builder) (draft : TableDraft) (name : String) (collided : Option String)
    (columns : List Column) : Prop where
  name : b.chooseName draft = (.ok (some (name, collided)), b)
  columns : (allocateColumns b.model.allocate.2 [] draft.columns).1 = .ok columns

/-- The identifier of a new table is not one of a table that is there. -/
theorem nextId_not_mem_map_fst (h : ∀ e ∈ b.model.tables, e.1.val < b.model.nextId) :
    (⟨b.model.nextId⟩ : TableId) ∉ b.model.tables.map (·.1) := by
  intro hmem
  obtain ⟨e, he, hid⟩ := List.mem_map.1 hmem
  exact absurd (h e he) (by rw [hid]; exact Nat.lt_irrefl _)

/-- A new table is found under the next identifier. -/
theorem table?_placed_self (h : ∀ e ∈ b.model.tables, e.1.val < b.model.nextId)
    (draft : TableDraft) (name : String) (collided : Option String) (columns : List Column) :
    (b.placed draft name collided columns).model.table? ⟨b.model.nextId⟩
      = some (bareTable ⟨b.model.nextId⟩ draft name columns) := by
  have hnone : b.model.table? ⟨b.model.nextId⟩ = none := by
    rw [← Option.not_isSome_iff_eq_none, Model.table?_eq_tableIn, isSome_tableIn_iff]
    exact nextId_not_mem_map_fst h
  rw [table?_placed h, hnone, Option.none_or, if_pos rfl]

theorem exists_table_setKey (h : ∀ e ∈ b.model.tables, e.1.val < b.model.nextId)
    {draft : TableDraft} {name : String} {collided : Option String} {columns : List Column}
    {r : Outcome Unit} (hkey : (b.placed draft name collided columns).setKey ⟨b.model.nextId⟩ draft
      = (r, b')) : ∃ t, b'.model.table? ⟨b.model.nextId⟩ = some t ∧ t.nspace = draft.nspace := by
  have houtline := SameOutline.setKey (b.placed draft name collided columns) ⟨b.model.nextId⟩ draft
  rw [hkey] at houtline
  obtain ⟨t, ht, hsame⟩ := houtline.exists_table (table?_placed_self h draft name collided columns)
  have hnspace := congrArg Table.nspace hsame
  exact ⟨t, ht, hnspace⟩

/-- A table that can be put under its name is there, unless its key is refused. -/
theorem addTable_of_places {draft : TableDraft} {name : String} {collided : Option String}
    {columns : List Column} (h : b.CanPlace draft name collided columns) : b.addTable draft
      = match (b.placed draft name collided columns).setKey ⟨b.model.nextId⟩ draft with
        | (.error e, b₁) => (.error e, b₁)
        | (.ok (), b₁) => (.ok (some ⟨b.model.nextId⟩), b₁.addParts ⟨b.model.nextId⟩ draft) := by
  rcases hcols : allocateColumns b.model.allocate.2 [] draft.columns with ⟨n | cs, model⟩
  · have hok := h.columns
    rw [hcols] at hok
    cases hok
  have hok := h.columns
  rw [hcols] at hok
  obtain rfl := Except.ok.inj hok
  obtain ⟨rfl, -⟩ := allocateColumns_spec hcols
  have hr : b.addTable draft
      = match (b.placed draft name collided cs).addConstraints ⟨b.model.nextId⟩ draft with
        | (.error e, b₁) => (.error e, b₁)
        | (.ok (), b₁) => (.ok (some ⟨b.model.nextId⟩), b₁) := by
    unfold addTable
    rw [h.name]
    dsimp only
    rw [hcols]
    rfl
  rw [hr, addConstraints_eq]
  rcases (b.placed draft name collided cs).setKey ⟨b.model.nextId⟩ draft with ⟨_ | _, b₁⟩ <;> rfl

/-- A table is refused or left out; or it is put under its name, with its columns, and then it is given
its key and its other parts, unless the key is refused. -/
theorem addTable_cases (b : Builder) (draft : TableDraft) :
    (b.SameConstraints (b.addTable draft).2 ∧ ∀ id, (b.addTable draft).1 ≠ .ok (some id))
    ∨ ∃ name collided columns, b.CanPlace draft name collided columns
      ∧ ((∃ e b₁, (b.placed draft name collided columns).setKey ⟨b.model.nextId⟩ draft
            = (.error e, b₁) ∧ b.addTable draft = (.error e, b₁))
        ∨ ∃ b₁, (b.placed draft name collided columns).setKey ⟨b.model.nextId⟩ draft
            = (.ok (), b₁)
          ∧ b.addTable draft = (.ok (some ⟨b.model.nextId⟩), b₁.addParts ⟨b.model.nextId⟩ draft)) := by
  have hsame := SameConstraints.chooseName b draft
  -- a name is chosen, then columns are made, then the key is set; each may end it
  rcases hname : b.chooseName draft with ⟨e | _ | ⟨name, collided⟩, b₀⟩
  all_goals rw [hname] at hsame
  case error =>
    have hr : b.addTable draft = (.error e, b₀) := by
      unfold addTable
      rw [hname]
    rw [hr]
    exact Or.inl ⟨hsame, fun _ h => by cases h⟩
  case ok.none =>
    have hr : b.addTable draft = (.ok none, b₀) := by
      unfold addTable
      rw [hname]
    rw [hr]
    exact Or.inl ⟨hsame, fun _ h => by cases h⟩
  obtain rfl := chooseName_some hname
  rcases hcols : allocateColumns b₀.model.allocate.2 [] draft.columns with ⟨n | columns, model⟩
  case error =>
    obtain ⟨k, hk, hmodel⟩ := allocateColumns_model b₀.model.allocate.2 [] draft.columns
    rw [hcols] at hmodel
    obtain rfl : model = { b₀.model with nextId := k } := hmodel
    have hr : b₀.addTable draft = (.error (.sourceParse (qualifiedName draft.nspace draft.name)
        ("duplicate column '" ++ n ++ "'")), { b₀ with model := { b₀.model with nextId := k } }) := by
      unfold addTable
      rw [hname]
      dsimp only
      rw [hcols]
    rw [hr]
    exact Or.inl ⟨.ofTables rfl rfl rfl (Nat.le_of_succ_le hk), fun _ h => by cases h⟩
  have hplaces : b₀.CanPlace draft name collided columns := ⟨hname, by rw [hcols]⟩
  have hr := addTable_of_places hplaces
  refine Or.inr ⟨name, collided, columns, hplaces, ?_⟩
  rcases hkey : (b₀.placed draft name collided columns).setKey ⟨b₀.model.nextId⟩ draft with
    ⟨e | _, b₁⟩
  all_goals rw [hkey] at hr
  case error => exact Or.inl ⟨e, b₁, rfl, hr⟩
  case ok => exact Or.inr ⟨b₁, rfl, hr⟩

/-- A table that is added was put under its name and given its key, and then its other parts. -/
theorem exists_of_addTable {draft : TableDraft} (hr : b.addTable draft = (.ok (some id), b')) :
    ∃ name collided columns b₁, b.CanPlace draft name collided columns
      ∧ (b.placed draft name collided columns).setKey ⟨b.model.nextId⟩ draft = (.ok (), b₁)
      ∧ id = ⟨b.model.nextId⟩ ∧ b' = b₁.addParts ⟨b.model.nextId⟩ draft := by
  rcases addTable_cases b draft with ⟨-, hnone⟩ | ⟨name, collided, columns, hplaces, hcases⟩
  · exact absurd (by rw [hr]) (hnone id)
  rcases hcases with ⟨e, b₁, -, hrefused⟩ | ⟨b₁, hkey, hadded⟩
  · cases hr.symm.trans hrefused
  · cases hr.symm.trans hadded
    exact ⟨name, collided, columns, b₁, hplaces, hkey, rfl, rfl⟩

/-- What adding a table does to the outline of a builder. -/
structure Adds (b : Builder) (draft : TableDraft) (id : TableId) (name : String) (b' : Builder) :
    Prop where
  bySource : b'.bySource = b.bySource.filter (·.1 ≠ sourceKey draft.nspace draft.name)
    ++ [(sourceKey draft.nspace draft.name, id)]
  pending : b'.pending = b.pending
    ++ draft.foreignKeys.map fun d => { table := id, nspace := draft.nspace, draft := d }
  tables : b'.model.tables.map (fun e => (e.1, e.2.outline))
    = b.model.tables.map (fun e => (e.1, e.2.outline)) ++ [(id, (bareTable id draft name []).outline)]

/-- What a draft adds to a model. -/
theorem adds_addTable (h : ∀ e ∈ b.model.tables, e.1.val < b.model.nextId) {draft : TableDraft}
    {name : String} {collided : Option String} {columns : List Column}
    (hplaces : b.CanPlace draft name collided columns) (hr : b.addTable draft = (.ok (some id), b')) :
    b.Adds draft id name b' := by
  rw [addTable_of_places hplaces] at hr
  have hkeyed := SameOutline.setKey (b.placed draft name collided columns) ⟨b.model.nextId⟩ draft
  rcases hkey : (b.placed draft name collided columns).setKey ⟨b.model.nextId⟩ draft with
    ⟨e | _, b₁⟩
  all_goals rw [hkey] at hr hkeyed
  case error => cases hr
  obtain ⟨t, ht, hnspace⟩ := exists_table_setKey h hkey
  cases hr
  have hparts := SameOutline.addParts ht draft
  -- all identifiers are smaller than the new one, so the table is the last
  have htables : (b.placed draft name collided columns).model.tables
      = b.model.tables ++ [(⟨b.model.nextId⟩, bareTable ⟨b.model.nextId⟩ draft name columns)] := by
    rw [← insertSorted_eq_append h]
    cases collided <;> rfl
  refine ⟨?_, ?_, ?_⟩
  · rw [hparts.bySource]
    show b₁.bySource = _
    rw [hkeyed.bySource]
    cases collided <;> rfl
  · rw [hparts.pending]
    have hpending : b₁.pending = b.pending := by
      rw [hkeyed.pending]
      cases collided <;> rfl
    show b₁.pending ++ draft.foreignKeys.map (waiting t _) = _
    unfold waiting
    rw [hpending, hnspace]
  · rw [hparts.tables]
    show b₁.model.tables.map _ = _
    rw [hkeyed.tables, htables, List.map_append]
    rfl

end Builder

end SchemaBridge
