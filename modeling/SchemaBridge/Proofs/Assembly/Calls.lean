/-
# Calls of a builder

A reader works on a model through calls of a builder; before each table or statement it asks whether
to stop, and the run may be cancelled at any moment.  Calls only add: tables and their parts stay, and
so do foreign keys that wait and issues that were raised.  That the run was cancelled is for the
builder to say, which says it once.

## Key statements

* `Call.leads`, `Call.grows`: what one call keeps.
* `Moves.leads`, `Moves.keeps`, `Moves.recordsOnce`: what calls keep, whenever the run is cancelled.
* `Reads.moves`: a reading whose steps are calls is nothing else.
* `Reads.each`: a reading that is not cancelled takes every step.
-/
import Mathlib.Logic.Relation
import SchemaBridge.Proofs.Assembly.Operations

namespace SchemaBridge

/-! ## Growth -/

/-- A table with more parts, and columns whose properties may have changed. -/
structure Table.Grows (t t' : Table) : Prop where
  id : t'.id = t.id
  name : t'.name = t.name
  nspace : t'.nspace = t.nspace
  sourceName : t'.sourceName = t.sourceName
  columns : t'.columns.map Column.core = t.columns.map Column.core
  indexes : t.indexes <+: t'.indexes
  foreignKeys : t.foreignKeys <+: t'.foreignKeys
  checks : t.checks <+: t'.checks

namespace Table.Grows

variable {t t' t'' : Table}

theorem refl (t : Table) : t.Grows t :=
  ⟨rfl, rfl, rfl, rfl, rfl, List.prefix_rfl, List.prefix_rfl, List.prefix_rfl⟩

theorem trans (h : t.Grows t') (h' : t'.Grows t'') : t.Grows t'' where
  id := h'.id.trans h.id
  name := h'.name.trans h.name
  nspace := h'.nspace.trans h.nspace
  sourceName := h'.sourceName.trans h.sourceName
  columns := h'.columns.trans h.columns
  indexes := h.indexes.trans h'.indexes
  foreignKeys := h.foreignKeys.trans h'.foreignKeys
  checks := h.checks.trans h'.checks

/-- A table with other columns of the same core. -/
theorem ofColumns (t : Table) {cs : List Column} (h : cs.map Column.core = t.columns.map Column.core)
    (keys : List KeyPart) : t.Grows { t with columns := cs, primaryKey := keys } :=
  ⟨rfl, rfl, rfl, rfl, h, List.prefix_rfl, List.prefix_rfl, List.prefix_rfl⟩

end Table.Grows

/-- How many issues say that the run was cancelled. -/
def Model.abortedCount (m : Model) : Nat := m.issues.countP (·.category = .aborted)

/-- More issues, none of which says that the run was cancelled. -/
def Model.Adds (m m' : Model) : Prop :=
  ∃ found, m'.issues = m.issues ++ found ∧ ∀ i ∈ found, i.category ≠ .aborted

namespace Model.Adds

variable {m m' m'' : Model}

theorem ofSame (h : m'.issues = m.issues) : m.Adds m' :=
  ⟨[], by rw [h, List.append_nil], List.forall_mem_nil _⟩

theorem refl (m : Model) : m.Adds m := ofSame rfl

theorem trans (h : m.Adds m') (h' : m'.Adds m'') : m.Adds m'' := by
  obtain ⟨found, hfound, hnot⟩ := h
  obtain ⟨found', hfound', hnot'⟩ := h'
  refine ⟨found ++ found', ?_, List.forall_mem_append.2 ⟨hnot, hnot'⟩⟩
  rw [hfound', hfound, List.append_assoc]

theorem foldl {α : Type} {f : Model → α → Model} (hf : ∀ (m : Model) (a : α), m.Adds (f m a))
    (l : List α) (m : Model) : m.Adds (l.foldl f m) := by
  induction l generalizing m with
  | nil => exact refl m
  | cons a l ih => exact (hf m a).trans (ih (f m a))

/-- None of the new issues counts. -/
theorem abortedCount (h : m.Adds m') : m'.abortedCount = m.abortedCount := by
  obtain ⟨found, hfound, hnot⟩ := h
  have hnone : found.countP (·.category = .aborted) = 0 :=
    List.countP_eq_zero.2 fun i hi => by simpa using hnot i hi
  unfold Model.abortedCount
  rw [hfound, List.countP_append, hnone, Nat.add_zero]

end Model.Adds

/-- A model with more tables, parts of tables and issues. -/
structure Model.Grows (m m' : Model) : Prop where
  tables : ∀ id t, m.table? id = some t → ∃ t', m'.table? id = some t' ∧ t.Grows t'
  issues : m.Adds m'

namespace Model.Grows

variable {m m' m'' : Model}

theorem refl (m : Model) : m.Grows m := ⟨fun _ t ht => ⟨t, ht, .refl t⟩, .refl m⟩

theorem trans (h : m.Grows m') (h' : m'.Grows m'') : m.Grows m'' := by
  refine ⟨fun id t ht => ?_, h.issues.trans h'.issues⟩
  obtain ⟨t', ht', hg⟩ := h.tables id t ht
  obtain ⟨t'', ht'', hg'⟩ := h'.tables id t' ht'
  exact ⟨t'', ht'', hg.trans hg'⟩

/-- Nothing but issues, the counter and the metadata of the run. -/
theorem ofTables (htables : m'.tables = m.tables) (hissues : m.Adds m') : m.Grows m' := by
  refine ⟨fun id t ht => ⟨t, ?_, .refl t⟩, hissues⟩
  rw [Model.table?_eq_tableIn, htables]
  exact ht

/-- A change of one table in which it grows. -/
theorem modifyTable (m : Model) (id : TableId) {f : Table → Table}
    (hf : ∀ t, m.table? id = some t → t.Grows (f t)) : m.Grows (m.modifyTable id f) := by
  refine ⟨fun k t ht => ?_, .ofSame rfl⟩
  rw [Model.table?_eq_tableIn] at ht
  rw [Model.table?_eq_tableIn, Model.modifyTable_tables, tableIn_changeIn, ht]
  split
  · rename_i hk
    subst hk
    exact ⟨f t, rfl, hf t ht⟩
  · exact ⟨t, rfl, .refl t⟩

/-- A table under an identifier above all others. -/
theorem insertTable {t : Table} (h : ∀ e ∈ m.tables, e.1.val < t.id.val) :
    m.Grows (m.insertTable t) := by
  refine ⟨fun k u hu => ⟨u, ?_, .refl u⟩, .ofSame rfl⟩
  rw [Model.table?_eq_tableIn] at hu ⊢
  show tableIn (Model.insertSorted t.id t m.tables) k = some u
  rw [insertSorted_eq_append h, tableIn_append_singleton, hu]
  rfl

end Model.Grows

namespace Builder

/-- A builder that knows more, and whose run has not been cancelled in the meantime. -/
structure Grows (b b' : Builder) : Prop where
  model : b.model.Grows b'.model
  pending : b.pending <+: b'.pending
  cancelled : b'.cancelled = b.cancelled
  aborted : b'.aborted = b.aborted

namespace Grows

variable {b b' b'' : Builder}

theorem refl (b : Builder) : b.Grows b := ⟨.refl _, List.prefix_rfl, rfl, rfl⟩

theorem trans (h : b.Grows b') (h' : b'.Grows b'') : b.Grows b'' :=
  ⟨h.model.trans h'.model, h.pending.trans h'.pending, h'.cancelled.trans h.cancelled,
    h'.aborted.trans h.aborted⟩

/-- A builder grows if its model does. -/
theorem ofModel {m : Model} (h : b.model.Grows m) : b.Grows { b with model := m } :=
  ⟨h, List.prefix_rfl, rfl, rfl⟩

theorem foldl {α : Type} {f : Builder → α → Builder}
    (hf : ∀ (b : Builder) (a : α), b.Grows (f b a)) (l : List α) (b : Builder) :
    b.Grows (l.foldl f b) := by
  induction l generalizing b with
  | nil => exact refl b
  | cons a l ih => exact (hf b a).trans (ih (f b a))

/-- An issue other than of a cancellation is one more issue. -/
theorem issue (b : Builder) (c : IssueCategory) (hc : c ≠ .aborted) (target : IssueTarget)
    (detail : String) : b.Grows (b.issue c target detail) :=
  ofModel (.ofTables rfl ⟨_, rfl, List.forall_mem_singleton.2 hc⟩)

/-- Taking identifiers changes nothing that is there. -/
theorem advance (b : Builder) (n : Nat) :
    b.Grows { b with model := { b.model with nextId := n } } :=
  ofModel (.ofTables rfl (.ofSame rfl))

/-- A name that is remembered changes no model. -/
theorem remember (b : Builder) (key : SourceKey) (id : TableId) : b.Grows (b.remember key id) :=
  ⟨.refl _, List.prefix_rfl, rfl, rfl⟩

/-! ## Changes of a table -/

/-- A change of a column that touches neither its name nor its type. -/
theorem modifyColumnByName (b : Builder) (id : TableId) (column : String) {f : Column → Column}
    (hf : ∀ c, (f c).core = c.core) : b.Grows (b.modifyColumnByName id column f) :=
  ofModel (.modifyTable _ id fun t _ =>
    .ofColumns t (Table.modifyFirst_map _ f Column.core hf t.columns) t.primaryKey)

/-- A column that becomes an identity column is one of those that were there. -/
theorem setIdentity (b : Builder) (id : TableId) (column : String) :
    b.Grows (b.setIdentity id column) :=
  modifyColumnByName b id column fun _ => rfl

/-- A column that is given a default is one of those that were there. -/
theorem setColumnDefault (b : Builder) (id : TableId) (column expr : String) :
    b.Grows (b.setColumnDefault id column expr) := by
  unfold Builder.setColumnDefault
  split
  · exact refl b
  · split
    · exact issue b _ (by decide) _ _
    · refine modifyColumnByName b id column fun c => ?_
      split <;> rfl

/-- Setting a key adds nothing and loses nothing else. -/
theorem setPrimaryKey (b : Builder) (id : TableId) (columns : List KeyDraft) :
    b.Grows (b.setPrimaryKey id columns).2 := by
  unfold Builder.setPrimaryKey
  split
  · exact refl b
  · split
    · exact refl b
    · rename_i keys _
      refine ofModel (.modifyTable _ id fun t _ => ?_)
      obtain ⟨cs, hcs, he⟩ := Leads.foldl_require keys t
      simp only [he]
      exact .ofColumns t (map_core_of_tightened hcs) keys

/-! ## New parts of a table -/

/-- An index comes after those that are there, or an issue about it. -/
theorem addIndex (b : Builder) (id : TableId) (draft : IndexDraft) :
    b.Grows (b.addIndex id draft) := by
  unfold Builder.addIndex
  simp only [Model.allocate]
  have hadvance := advance b (b.model.nextId + 1)
  split
  · exact hadvance
  · split
    · refine hadvance.trans (ofModel (.modifyTable _ id fun t _ => ?_))
      exact ⟨rfl, rfl, rfl, rfl, rfl, List.prefix_append _ _, List.prefix_rfl, List.prefix_rfl⟩
    · exact hadvance.trans (issue _ _ (by decide) _ _)

/-- A check comes after those that are there. -/
theorem addCheck (b : Builder) (id : TableId) (draft : CheckDraft) :
    b.Grows (b.addCheck id draft) := by
  refine (advance b (b.model.nextId + 1)).trans (ofModel (.modifyTable _ id fun t _ => ?_))
  exact ⟨rfl, rfl, rfl, rfl, rfl, List.prefix_rfl, List.prefix_rfl, List.prefix_append _ _⟩

/-- A foreign key that waits comes after those that do. -/
theorem addForeignKey (b : Builder) (id : TableId) (draft : ForeignKeyDraft) :
    b.Grows (b.addForeignKey id draft) :=
  ⟨.refl _, List.prefix_append _ _, rfl, rfl⟩

/-- The key and the other parts of a draft leave all that was there. -/
theorem addConstraints (b : Builder) (id : TableId) (draft : TableDraft) :
    b.Grows (b.addConstraints id draft).2 := by
  have hkey : b.Grows (if draft.primaryKey.isEmpty then ((.ok (), b) : Outcome Unit × Builder)
      else b.setPrimaryKey id draft.primaryKey).2 := by
    split
    · exact refl b
    · exact setPrimaryKey b id draft.primaryKey
  unfold Builder.addConstraints
  split
  · rename_i heq
    rw [heq] at hkey
    exact hkey
  · rename_i b₁ heq
    rw [heq] at hkey
    refine hkey.trans (.trans (.trans (foldl (fun b d => addIndex b id d) _ _)
      (foldl (fun b d => addForeignKey b id d) _ _)) (foldl (fun b d => addCheck b id d) _ _))

/-! ## New tables and foreign keys -/

/-- The choice of a name adds issues at most. -/
theorem chooseName (b : Builder) (draft : TableDraft) : b.Grows (b.chooseName draft).2 := by
  unfold Builder.chooseName
  split
  · exact refl b
  · split
    · exact refl b
    · exact issue b _ (by decide) _ _
    · exact refl b

/-- A new table goes to the end, so that it takes no other's place. -/
theorem placeTable (b : Builder) (id : TableId) (h : ∀ e ∈ b.model.tables, e.1.val < id.val)
    (draft : TableDraft) (name : String) (collided : Option String) (columns : List Column) :
    b.Grows (b.placeTable id draft name collided columns) := by
  set t : Table := { Table.empty id name with
    nspace := draft.nspace, sourceName := draft.name, columns } with ht
  have hinsert : ∀ b' : Builder, b'.model.tables = b.model.tables →
      b'.Grows { b' with model := b'.model.insertTable t } :=
    fun b' hb' => ofModel (.insertTable (hb'.symm ▸ h))
  cases collided with
  | none => exact (hinsert b rfl).trans (remember _ _ id)
  | some other =>
    set b₁ := b.issue .nameCollision (.table id)
      ("Table " ++ qualifiedName draft.nspace draft.name ++ " renamed to '" ++ name
        ++ "': its name collides with " ++ other ++ ".") with hb₁
    exact (issue b _ (by decide) _ _).trans ((hinsert b₁ rfl).trans (remember _ _ id))

/-- A new table leaves all that was there. -/
theorem addTable (h : b.Sound) (draft : TableDraft) : b.Grows (b.addTable draft).2 := by
  have hname := chooseName b draft
  have hsound := (Leads.chooseName h draft).sound
  unfold Builder.addTable
  -- a table is left out or refused before anything else is changed
  split
  · rename_i heq
    rwa [heq] at hname
  · rename_i heq
    rwa [heq] at hname
  rename_i name collided b₁ heq
  have hname : b.Grows b₁ := by rwa [heq] at hname
  have hsound : b₁.Sound := by rwa [heq] at hsound
  dsimp only [Model.allocate]
  split
  · rename_i n model hcols
    obtain ⟨k, -, he⟩ := allocateColumns_model b₁.model.allocate.2 [] draft.columns
    obtain rfl : model = { b₁.model with nextId := k } := (congrArg Prod.snd hcols).symm.trans he
    exact hname.trans (advance b₁ k)
  · rename_i columns model hcols
    obtain ⟨rfl, -⟩ := allocateColumns_spec hcols
    have hadvance := advance b₁ (b₁.model.nextId + 1 + draft.columns.length)
    have hplace := placeTable { b₁ with model := { b₁.model with
        nextId := b₁.model.nextId + 1 + draft.columns.length } } ⟨b₁.model.nextId⟩
      (fun _ he => hsound.model.key_lt he) draft name collided columns
    have hadd := hname.trans (hadvance.trans (hplace.trans
      (addConstraints _ ⟨b₁.model.nextId⟩ draft)))
    split
    · rename_i hr
      exact (congrArg Prod.snd hr) ▸ hadd
    · rename_i hr
      exact (congrArg Prod.snd hr) ▸ hadd

/-- A foreign key that is resolved comes after those that are there, or an issue about it. -/
theorem resolveForeignKey (b : Builder) (p : PendingForeignKey) :
    b.Grows (b.resolveForeignKey p) := by
  have hadvance := advance b (b.model.nextId + 1)
  have hdropped : ∀ detail, b.Grows (({ b with model := b.model.allocate.2 } : Builder).issue
      .missingReference (.table p.table) detail) :=
    fun detail => hadvance.trans (issue _ _ (by decide) _ detail)
  unfold Builder.resolveForeignKey
  simp only [Model.allocate]
  split
  · exact hadvance
  split
  · exact hdropped _
  split
  · split
    · exact hdropped _
    · exact hadvance
  split
  · exact hdropped _
  · refine hadvance.trans (ofModel (.modifyTable _ p.table fun t _ => ?_))
    exact ⟨rfl, rfl, rfl, rfl, rfl, List.prefix_rfl, List.prefix_append _ _, List.prefix_rfl⟩

/-- The finished model has all that was described. -/
theorem finish (b : Builder) : b.model.Grows b.finish :=
  (foldl resolveForeignKey b.pending { b with pending := [] }).model

end Grows

/-! ## Calls -/

/-- What one call of a reader makes of a builder, also if it fails.  A reader raises issues about the
schema and about tables that are there, and leaves it to the builder to say that it was cancelled. -/
inductive Call : Builder → Builder → Prop
  | addTable (b : Builder) (draft : TableDraft) : Call b (b.addTable draft).2
  | setPrimaryKey (b : Builder) (id : TableId) (columns : List KeyDraft) :
      Call b (b.setPrimaryKey id columns).2
  | addIndex (b : Builder) (id : TableId) (draft : IndexDraft) : Call b (b.addIndex id draft)
  | addForeignKey (b : Builder) (id : TableId) (draft : ForeignKeyDraft) :
      Call b (b.addForeignKey id draft)
  | addCheck (b : Builder) (id : TableId) (draft : CheckDraft) : Call b (b.addCheck id draft)
  | setColumnDefault (b : Builder) (id : TableId) (column expr : String) :
      Call b (b.setColumnDefault id column expr)
  | setIdentity (b : Builder) (id : TableId) (column : String) : Call b (b.setIdentity id column)
  | issue (b : Builder) {c : IssueCategory} (hc : c ≠ .aborted) {target : IssueTarget}
      (ht : target = .schema ∨ ∃ id, (b.model.table? id).isSome = true ∧ target = .table id)
      (detail : String) : Call b (b.issue c target detail)
  | setAudit (b : Builder) (audit : Audit) : Call b { b with model := { b.model with audit } }

variable {b b' : Builder}

/-- A call leads from a sound builder to a sound one. -/
theorem Call.leads (hc : Call b b') (h : b.Sound) : b.Leads b' := by
  cases hc with
  | addTable draft => exact (Leads.addTable h draft).1
  | setPrimaryKey id columns => exact Leads.setPrimaryKey h id columns
  | addIndex id draft => exact Leads.addIndex h id draft
  | addForeignKey id draft => exact Leads.addForeignKey h id draft
  | addCheck id draft => exact Leads.addCheck h id draft
  | setColumnDefault id column expr => exact Leads.setColumnDefault h id column expr
  | setIdentity id column => exact Leads.setIdentity h id column
  | issue _ ht detail =>
    rcases ht with rfl | ⟨id, hid, rfl⟩
    · exact Leads.issue_schema h _ detail
    · exact Leads.issue_table h _ hid detail
  | setAudit audit =>
    obtain ⟨hm, hknown, hdescribed⟩ := h
    exact ⟨⟨⟨hm.positive, hm.ordered, hm.keyed, hm.distinct, hm.inRange, hm.refers, hm.targets,
      hm.broad⟩, hknown, hdescribed⟩, fun _ hid => hid⟩

/-- A call loses nothing. -/
theorem Call.grows (hc : Call b b') (h : b.Sound) : b.Grows b' := by
  cases hc with
  | addTable draft => exact Grows.addTable h draft
  | setPrimaryKey id columns => exact Grows.setPrimaryKey b id columns
  | addIndex id draft => exact Grows.addIndex b id draft
  | addForeignKey id draft => exact Grows.addForeignKey b id draft
  | addCheck id draft => exact Grows.addCheck b id draft
  | setColumnDefault id column expr => exact Grows.setColumnDefault b id column expr
  | setIdentity id column => exact Grows.setIdentity b id column
  | issue hc ht detail => exact Grows.issue b _ hc _ detail
  | setAudit audit =>
    exact .ofModel (.ofTables rfl (.ofSame rfl))

/-- Calls one after another. -/
abbrev Calls : Builder → Builder → Prop := Relation.ReflTransGen Call

theorem Calls.leads (hc : Calls b b') (h : b.Sound) : b.Leads b' := by
  induction hc with
  | refl => exact .refl h
  | tail _ hcall ih => exact ih.trans (hcall.leads ih.sound)

theorem Calls.grows (hc : Calls b b') (h : b.Sound) : b.Grows b' := by
  induction hc with
  | refl => exact .refl b
  | tail hcalls hcall ih => exact ih.trans (hcall.grows (Calls.leads hcalls h).sound)

/-- Calls for each element of a list. -/
theorem Calls.foldl {α : Type} {f : Builder → α → Builder} (l : List α)
    (hf : ∀ (b : Builder) (a : α), Calls b (f b a)) (b : Builder) : Calls b (l.foldl f b) := by
  induction l generalizing b with
  | nil => exact .refl
  | cons a l ih => exact (hf b a).trans (ih (f b a))

/-- Sentences about one table that is there. -/
theorem Calls.issues {c : IssueCategory} (hc : c ≠ .aborted) {id : TableId}
    (hid : (b.model.table? id).isSome = true) (details : List String) :
    Calls b (details.foldl (fun b d => b.issue c (.table id) d) b) := by
  induction details generalizing b with
  | nil => exact .refl
  | cons d details ih => exact .head (.issue b hc (Or.inr ⟨id, hid, rfl⟩) d) (ih hid)

/-- The keys, indexes and checks of a draft are added one by one. -/
theorem Calls.addConstraints (b : Builder) (id : TableId) (draft : TableDraft) :
    Calls b (b.addConstraints id draft).2 := by
  have hkey : Calls b (if draft.primaryKey.isEmpty then ((.ok (), b) : Outcome Unit × Builder)
      else b.setPrimaryKey id draft.primaryKey).2 := by
    split
    · exact .refl
    · exact .single (.setPrimaryKey b id draft.primaryKey)
  unfold Builder.addConstraints
  split
  · rename_i heq
    rwa [heq] at hkey
  · rename_i b₁ heq
    rw [heq] at hkey
    exact hkey.trans (.trans (.trans
      (foldl draft.indexes (fun b d => .single (.addIndex b id d)) _)
      (foldl draft.foreignKeys (fun b d => .single (.addForeignKey b id d)) _))
      (foldl draft.checks (fun b d => .single (.addCheck b id d)) _))

/-! ## Cancelling -/

/-- What happens to a builder while a schema is read: a call, the question whether to stop, or the
cancelling of the run. -/
inductive Move : Builder → Builder → Prop
  | call {b b' : Builder} (hc : Call b b') : Move b b'
  | shouldStop (b : Builder) : Move b b.shouldStop.2
  | cancel (b : Builder) : Move b b.cancel

/-- Any number of moves, one after another. -/
abbrev Moves : Builder → Builder → Prop := Relation.ReflTransGen Move

/-- Calls are moves. -/
theorem Calls.moves (hc : Calls b b') : Moves b b' :=
  Relation.ReflTransGen.mono (fun _ _ h => Move.call h) _ _ hc

/-- A move leads from a sound builder to a sound one. -/
theorem Move.leads (hm : Move b b') (h : b.Sound) : b.Leads b' := by
  cases hm with
  | call hc => exact hc.leads h
  | shouldStop => exact Leads.shouldStop h
  | cancel => exact ⟨h.cancel, fun _ hid => hid⟩

theorem Moves.leads (hm : Moves b b') (h : b.Sound) : b.Leads b' := by
  induction hm with
  | refl => exact .refl h
  | tail _ hmove ih => exact ih.trans (hmove.leads ih.sound)

/-- A builder that has lost nothing, whether or not the run was cancelled in the meantime. -/
structure Keeps (b b' : Builder) : Prop where
  tables : ∀ id t, b.model.table? id = some t → ∃ t', b'.model.table? id = some t' ∧ t.Grows t'
  issues : b.model.issues <+: b'.model.issues
  pending : b.pending <+: b'.pending

namespace Keeps

variable {b'' : Builder}

theorem refl (b : Builder) : b.Keeps b :=
  ⟨fun _ t ht => ⟨t, ht, .refl t⟩, List.prefix_rfl, List.prefix_rfl⟩

theorem trans (h : b.Keeps b') (h' : b'.Keeps b'') : b.Keeps b'' := by
  refine ⟨fun id t ht => ?_, h.issues.trans h'.issues, h.pending.trans h'.pending⟩
  obtain ⟨t', ht', hg⟩ := h.tables id t ht
  obtain ⟨t'', ht'', hg'⟩ := h'.tables id t' ht'
  exact ⟨t'', ht'', hg.trans hg'⟩

/-- No table and no foreign key that waits is touched. -/
theorem ofSame (htables : b'.model.tables = b.model.tables)
    (hissues : b.model.issues <+: b'.model.issues) (hpending : b'.pending = b.pending) :
    b.Keeps b' := by
  refine ⟨fun id t ht => ⟨t, ?_, .refl t⟩, hissues, hpending ▸ List.prefix_rfl⟩
  rw [Model.table?_eq_tableIn, htables]
  exact ht

end Keeps

/-- What grows is kept. -/
theorem Grows.keeps (h : b.Grows b') : b.Keeps b' := by
  obtain ⟨found, hfound, -⟩ := h.model.issues
  exact ⟨h.model.tables, ⟨found, hfound.symm⟩, h.pending⟩

/-- A move loses no table. -/
theorem Move.keeps (hm : Move b b') (h : b.Sound) : b.Keeps b' := by
  cases hm with
  | call hc => exact (hc.grows h).keeps
  | cancel => exact .ofSame rfl List.prefix_rfl rfl
  | shouldStop =>
    unfold Builder.shouldStop
    split
    · exact .ofSame rfl (List.prefix_append _ _) rfl
    · exact .refl b

/-- Whatever happens while a schema is read, nothing is lost. -/
theorem Moves.keeps (hm : Moves b b') (h : b.Sound) : b.Keeps b' := by
  induction hm with
  | refl => exact .refl b
  | tail hmoves hmove ih => exact ih.trans (hmove.keeps (Moves.leads hmoves h).sound)

/-- Among what happened between two builders there was a step with a property.  Nothing was lost
before it, and nothing of what it left was lost afterwards. -/
def Within (b b' : Builder) (P : Builder → Builder → Prop) : Prop :=
  ∃ b₀ b₁, b.Keeps b₀ ∧ P b₀ b₁ ∧ b₁.Keeps b'

namespace Within

variable {b₁ : Builder} {P Q : Builder → Builder → Prop}

/-- What happens within the rest of a run happens within the run. -/
theorem after (hbefore : b.Keeps b₁) (h : b₁.Within b' P) : b.Within b' P := by
  obtain ⟨a, c, h₁, hp, h₂⟩ := h
  exact ⟨a, c, hbefore.trans h₁, hp, h₂⟩

/-- What happens within a run, weakened. -/
theorem imp (h : b.Within b' P) (hpq : ∀ b b', P b b' → Q b b') : b.Within b' Q := by
  obtain ⟨a, c, h₁, hp, h₂⟩ := h
  exact ⟨a, c, h₁, hpq a c hp, h₂⟩

/-- A first step is among all of them, and so is each of the others. -/
theorem cons {α : Type} {P : α → Builder → Builder → Prop} {a : α} {l : List α} (h : P a b b₁)
    (hbefore : b.Keeps b₁) (hafter : b₁.Keeps b') (hrest : ∀ c ∈ l, b₁.Within b' (P c)) :
    ∀ c ∈ a :: l, b.Within b' (P c) :=
  List.forall_mem_cons.2 ⟨⟨b, b₁, .refl b, h, hafter⟩, fun c hc => (hrest c hc).after hbefore⟩

end Within

/-- That the run was cancelled has been said as often as it has been noticed. -/
def RecordsOnce (b : Builder) : Prop := b.model.abortedCount = if b.aborted then 1 else 0

/-- No step that adds other issues alone records a cancellation twice. -/
theorem Grows.recordsOnce (hg : b.Grows b') (h : b.RecordsOnce) : b'.RecordsOnce := by
  unfold RecordsOnce
  rw [hg.model.issues.abortedCount, hg.aborted]
  exact h

/-- A cancellation is recorded once, whatever the moves. -/
theorem Move.recordsOnce (hm : Move b b') (hb : b.Sound) (h : b.RecordsOnce) : b'.RecordsOnce := by
  cases hm with
  | call hc => exact (hc.grows hb).recordsOnce h
  | cancel => exact h
  | shouldStop =>
    unfold Builder.shouldStop
    split
    · rename_i hfirst
      have hnot : b.aborted = false := by simpa using (Bool.and_eq_true_iff.1 hfirst).1
      have hcount : b.model.abortedCount = 0 := by
        unfold RecordsOnce at h
        rw [h, hnot]
        rfl
      show (b.model.issues ++ [_]).countP _ = 1
      rw [List.countP_append, show b.model.issues.countP _ = 0 from hcount]
      rfl
    · exact h

/-- However a reading is cancelled, this is said once at most. -/
theorem Moves.recordsOnce (hm : Moves b b') (hb : b.Sound) (h : b.RecordsOnce) :
    b'.RecordsOnce := by
  induction hm with
  | refl => exact h
  | tail hmoves hmove ih => exact hmove.recordsOnce (Moves.leads hmoves hb).sound ih

/-! ## Readings -/

section Readings

variable {α σ : Type} (step : σ → Builder → α → Outcome (σ × Builder))

/-- Take a step for each member of a list, until there are no more or the builder says to stop. -/
def readList (r : σ) (b : Builder) : List α → Outcome (σ × Builder)
  | [] => .ok (r, b)
  | a :: l =>
    match b.shouldStop with
    | (true, b) => .ok (r, b)
    | (false, b) => do
      let (r, b) ← step r b a
      readList r b l

/-- The same, where the run may be cancelled before each question whether to stop. -/
inductive Reads : σ → Builder → List α → σ → Builder → Prop
  | done (r : σ) (b : Builder) : Reads r b [] r b
  | stop {r : σ} {b b' : Builder} {a : α} {l : List α} (hstop : b.shouldStop = (true, b')) :
      Reads r b (a :: l) r b'
  | next {r r₁ r' : σ} {b b₁ b₂ b' : Builder} {a : α} {l : List α}
      (hgo : b.shouldStop = (false, b₁)) (hstep : step r b₁ a = .ok (r₁, b₂))
      (hrest : Reads r₁ b₂ l r' b') : Reads r b (a :: l) r' b'
  | cancel {r r' : σ} {b b' : Builder} {l : List α} (hrest : Reads r b.cancel l r' b') :
      Reads r b l r' b'

variable {step}

/-- Members that are read one after another, as a relation. -/
theorem reads_readList {r r' : σ} {l : List α} (hr : readList step r b l = .ok (r', b')) :
    Reads step r b l r' b' := by
  induction l generalizing r b with
  | nil =>
    cases hr
    exact .done _ _
  | cons a l ih =>
    unfold readList at hr
    split at hr
    · rename_i hstop
      cases hr
      exact .stop hstop
    · rename_i hgo
      obtain ⟨⟨r₁, b₁⟩, hstep, hr⟩ := bind_eq_ok_iff.1 hr
      exact .next hgo hstep (ih hr)

theorem exists_reads_readList {r : σ} {l : List α}
    (hr : (readList step r b l).map (·.2) = .ok b') : ∃ r', Reads step r b l r' b' := by
  cases hl : readList step r b l with
  | error e =>
    rw [hl] at hr
    cases hr
  | ok p =>
    rw [hl] at hr
    cases hr
    exact ⟨p.1, reads_readList hl⟩

/-- Lists that are read in the same steps are read in the same way. -/
theorem Reads.congr {r r' : σ} {l l' : List α} (hr : Reads step r b l r' b')
    (h : List.Forall₂ (fun a a' => ∀ r b, step r b a' = step r b a) l l') :
    Reads step r b l' r' b' := by
  induction hr generalizing l' with
  | done r b =>
    cases h
    exact .done r b
  | stop hstop =>
    cases h
    exact .stop hstop
  | next hgo hstep _ ih =>
    cases h with
    | cons ha h => exact .next hgo ((ha _ _).trans hstep) (ih h)
  | cancel _ ih => exact .cancel (ih h)

/-- Where each step is a list of calls, a reading is a list of moves. -/
theorem Reads.moves (hcalls : ∀ {r r' : σ} {b b' : Builder} {a : α}, b.Sound →
    step r b a = .ok (r', b') → Calls b b') {r r' : σ} {l : List α}
    (hr : Reads step r b l r' b') (h : b.Sound) : Moves b b' := by
  induction hr with
  | done r b => exact .refl
  | @stop _ b _ _ _ hstop =>
    have hasked := Move.shouldStop b
    rw [hstop] at hasked
    exact .single hasked
  | @next _ _ _ b _ _ _ _ _ hgo hstep _ ih =>
    have hasked := Move.shouldStop b
    rw [hgo] at hasked
    have hcall := hcalls (hasked.leads h).sound hstep
    exact .head hasked (hcall.moves.trans (ih (hcall.leads (hasked.leads h).sound).sound))
  | cancel hrest ih => exact .head (.cancel _) (ih h.cancel)

/-- What every step keeps, and what has nothing to do with issues, a reading keeps. -/
theorem Reads.invariant {Q : Builder → Prop}
    (hcalls : ∀ {r r' : σ} {b b' : Builder} {a : α}, b.Sound → step r b a = .ok (r', b') → Calls b b')
    (hstep : ∀ {r r' : σ} {b b' : Builder} {a : α}, b.Sound → Q b → step r b a = .ok (r', b') → Q b')
    (hissues : ∀ b b' : Builder, b'.model.tables = b.model.tables →
      b.model.issues ⊆ b'.model.issues → Q b → Q b') {r r' : σ} {l : List α}
    (hr : Reads step r b l r' b') (h : b.Sound) (hq : Q b) : Q b' := by
  -- a builder that is asked whether to stop has one more issue at most
  have hasked : ∀ b : Builder, Q b → Q b.shouldStop.2 := by
    intro b hb
    unfold Builder.shouldStop
    split
    · exact hissues b _ rfl (List.subset_append_left _ _) hb
    · exact hb
  induction hr with
  | done r b => exact hq
  | @stop _ b _ _ _ hstop =>
    have hstopped := hasked b hq
    rwa [hstop] at hstopped
  | @next _ _ _ b _ _ _ _ _ hgo hnext _ ih =>
    have hmoved := Move.shouldStop b
    have hgone := hasked b hq
    rw [hgo] at hmoved hgone
    have hsound := (hmoved.leads h).sound
    exact ih ((hcalls hsound hnext).leads hsound).sound (hstep hsound hgone hnext)
  | @cancel _ _ b _ _ _ ih => exact ih h.cancel (hissues b b.cancel rfl (List.Subset.refl _) hq)

/-- A reading either is cancelled, which an issue says, or takes a step for each member of the list. -/
theorem Reads.each {I : σ → Prop} {P : α → Builder → Builder → Prop}
    (hcalls : ∀ {r r' : σ} {b b' : Builder} {a : α}, b.Sound → step r b a = .ok (r', b') → Calls b b')
    (hstep : ∀ {r r' : σ} {b b' : Builder} {a : α}, b.Sound → I r → step r b a = .ok (r', b') →
      I r' ∧ P a b b') {r r' : σ} {l : List α} (hr : Reads step r b l r' b') (hi : I r) (h : b.Sound)
    (hnot : b.aborted = false) :
    (∃ i ∈ b'.model.issues, i.category = .aborted) ∨ ∀ a ∈ l, b.Within b' (P a) := by
  induction hr with
  | done r b => exact Or.inr (List.forall_mem_nil _)
  | stop hstop =>
    unfold Builder.shouldStop at hstop
    rw [hnot] at hstop
    split at hstop
    · cases hstop
      exact Or.inl ⟨_, List.mem_append_right _ (List.mem_singleton_self _), rfl⟩
    · cases hstop
  | @next r r₁ _ b b₁ b₂ b' a l hgo hnext hrest ih =>
    -- a builder that says to go on is not changed by the question
    have hsame : b₁ = b := by
      unfold Builder.shouldStop at hgo
      split at hgo
      · cases hgo
      · exact (Prod.mk.inj hgo).2.symm
    subst hsame
    have hcall := hcalls h hnext
    obtain ⟨hi₁, hp⟩ := hstep h hi hnext
    have h₂ := (hcall.leads h).sound
    refine (ih hi₁ h₂ ((hcall.grows h).aborted.trans hnot)).imp_right fun hall => ?_
    exact .cons hp (hcall.grows h).keeps ((hrest.moves hcalls h₂).keeps h₂) hall
  | @cancel _ _ b b' _ hrest ih =>
    have hcancel : b.Keeps b.cancel := .ofSame rfl List.prefix_rfl rfl
    exact (ih hi h.cancel hnot).imp_right fun hall a ha => (hall a ha).after hcancel

end Readings

end Builder

end SchemaBridge
