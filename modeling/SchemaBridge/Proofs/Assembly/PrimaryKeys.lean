/-
# Primary keys of a builder

A table may be given its key together with its columns or afterwards, and more than once.  The key
that was set last is the one it has: its columns are those that were named, and none of them can be
null.  No other call changes a key or makes a column nullable, and only a caller that raises issues
itself speaks of synthetic keys.

## Key statements

* `SameKeys.addIndex`, `SameKeys.addCheck`, …: one statement for each call that sets no key.
* `KeysKept.setPrimaryKey`, `KeysKept.addTable`: the two that do.
* `KeysKept.perform`, `Runs.keysKept`: what one call and what a whole run keep.
* `KeysKept.finish`: the same of the finished model.
-/
import SchemaBridge.Proofs.Assembly.Outline
import SchemaBridge.Proofs.Assembly.Resolution
import SchemaBridge.Proofs.Assembly.Runs

namespace SchemaBridge

/-- A table has a key that was set: its primary key consists of the columns that were named, none of
which can be null. -/
structure Table.KeepsKey (t : Table) (key : List KeyDraft) : Prop where
  named : Builder.resolveKeys t key = .ok t.primaryKey
  required : ∀ k ∈ t.primaryKey, (t.column? k.column).map (·.nullable) = some false

/-- The columns of a table, whatever their defaults, and its key. -/
def Table.keyed (t : Table) : List Column × List KeyPart :=
  (t.columns.map fun c => { c with default := none, identity := false }, t.primaryKey)

/-- What has been said of synthetic keys. -/
def Model.syntheticIssues (m : Model) : List Issue :=
  m.issues.filter (·.category = .syntheticKey)

/-! ## Columns of a key -/

section Columns

variable {t t' : Table} {key : List KeyDraft}

/-- A column that cannot be null still cannot after others have become part of a key. -/
theorem nullable_of_tightened {cs cs' : List Column} (h : List.Forall₂ Column.Tightened cs cs')
    (id : ColumnId) (hc : (cs.find? (·.id = id)).map (·.nullable) = some false) :
    (cs'.find? (·.id = id)).map (·.nullable) = some false := by
  induction h with
  | nil => exact hc
  | @cons c c' cs cs' htight _ ih =>
    have hid : c'.id = c.id := by rcases htight with rfl | rfl <;> rfl
    by_cases hhere : c.id = id
    · rw [List.find?_cons_of_pos (by simpa using hhere)] at hc
      rw [List.find?_cons_of_pos (by simpa [hid] using hhere)]
      rcases htight with rfl | rfl
      · exact hc
      · rfl
    · rw [List.find?_cons_of_neg (by simpa using hhere)] at hc
      rw [List.find?_cons_of_neg (by simpa [hid] using hhere)]
      exact ih hc

/-- Columns that are to be part of a key cannot be null. -/
theorem nullable_foldl_require (keys : List KeyPart) (t : Table)
    (hthere : ∀ k ∈ keys, t.hasColumn k.column = true) : ∀ k ∈ keys,
      ((keys.foldl (fun t k => t.modifyColumn k.column fun c => { c with nullable := false })
        t).column? k.column).map (·.nullable) = some false := by
  induction keys generalizing t with
  | nil => exact List.forall_mem_nil _
  | cons k keys ih =>
    obtain ⟨hk, hkeys⟩ := List.forall_mem_cons.1 hthere
    set require : Column → Column := fun c => { c with nullable := false }
    set t₁ := t.modifyColumn k.column require
    have hcolumns : t₁.columns.map (·.id) = t.columns.map (·.id) :=
      Table.modifyFirst_map _ require (·.id) (fun _ => rfl) t.columns
    have hthere₁ : ∀ k ∈ keys, t₁.hasColumn k.column = true := fun k' hk' => by
      rw [Table.hasColumn_iff, hcolumns, ← Table.hasColumn_iff]
      exact hkeys k' hk'
    refine List.forall_mem_cons.2 ⟨?_, ih t₁ hthere₁⟩
    -- the first column is tightened at once, and the rest leaves it so
    obtain ⟨c, hc⟩ := Option.isSome_iff_exists.1 hk
    have hfound : t₁.column? k.column = (t.column? k.column).map require :=
      Table.find?_modifyFirst_self (p := fun c : Column => c.id = k.column) (f := require)
        (fun _ => rfl) t.columns
    have hfirst : (t₁.column? k.column).map (·.nullable) = some false := by
      rw [hfound, hc]
      rfl
    obtain ⟨cs, hcs, hrest⟩ := Builder.Leads.foldl_require keys t₁
    rw [List.foldl_cons, hrest]
    exact nullable_of_tightened hcs k.column hfirst

/-- A table keeps its key as long as its columns and its key stay, whatever becomes of defaults. -/
theorem Table.KeepsKey.congr (h : t.KeepsKey key) (hkeyed : t'.keyed = t.keyed) :
    t'.KeepsKey key := by
  have hcolumns := congrArg Prod.fst hkeyed
  have hprimary : t'.primaryKey = t.primaryKey := congrArg Prod.snd hkeyed
  have hcore : t'.columns.map Column.core = t.columns.map Column.core := by
    have hmap := congrArg (List.map Column.core) hcolumns
    unfold keyed at hmap
    rwa [List.map_map, List.map_map] at hmap
  have hnullable (id : ColumnId) :
      (t'.column? id).map (·.nullable) = (t.column? id).map (·.nullable) := by
    have hfind := congrArg (fun cs : List Column => (cs.find? (·.id = id)).map (·.nullable)) hcolumns
    unfold keyed at hfind
    dsimp only at hfind
    rwa [List.find?_map, List.find?_map, Option.map_map, Option.map_map] at hfind
  refine ⟨?_, fun k hk => ?_⟩
  · rw [Builder.resolveKeys_congr hcore, hprimary]
    exact h.named
  · rw [hnullable]
    exact h.required k (hprimary ▸ hk)

end Columns

namespace Builder

variable {b b' b'' : Builder} {id : TableId} {t : Table}

/-! ## Calls that set no key -/

/-- An issue of another category tells of no synthetic key. -/
theorem syntheticIssues_raise {c : IssueCategory} (hc : c ≠ .syntheticKey) (m : Model) (stage : Stage)
    (target : IssueTarget) (detail : String) :
    (m.addIssue (.raise c stage target detail)).syntheticIssues = m.syntheticIssues := by
  have hother : (Issue.raise c stage target detail).category ≠ .syntheticKey := hc
  unfold Model.syntheticIssues Model.addIssue
  rw [List.filter_append, List.filter_singleton, decide_eq_false hother]
  exact List.append_nil _

/-- Nothing has changed but what tables have besides columns and keys, and issues about other things
than synthetic keys. -/
structure SameKeys (b b' : Builder) : Prop where
  tables : ∀ k, (b'.model.table? k).map Table.keyed = (b.model.table? k).map Table.keyed
  issues : b'.model.syntheticIssues = b.model.syntheticIssues

namespace SameKeys

theorem refl (b : Builder) : b.SameKeys b := ⟨fun _ => rfl, rfl⟩

theorem trans (h : b.SameKeys b') (h' : b'.SameKeys b'') : b.SameKeys b'' :=
  ⟨fun k => (h'.tables k).trans (h.tables k), h'.issues.trans h.issues⟩

/-- Any number of steps that change no key. -/
theorem foldl {α : Type} {f : Builder → α → Builder}
    (hf : ∀ (b : Builder) (a : α), b.SameKeys (f b a)) (l : List α) (b : Builder) :
    b.SameKeys (l.foldl f b) := by
  induction l generalizing b with
  | nil => exact refl b
  | cons a l ih => exact (hf b a).trans (ih (f b a))

/-- Nothing has changed in the tables. -/
theorem ofTables (h : b'.model.tables = b.model.tables)
    (hissues : b'.model.syntheticIssues = b.model.syntheticIssues) : b.SameKeys b' :=
  ⟨fun k => by rw [Model.table?_eq_tableIn, h, Model.table?_eq_tableIn], hissues⟩

/-- A change within one table. -/
theorem ofChange {f : Table → Table} (h : b'.model.tables = (b.model.modifyTable id f).tables)
    (hissues : b'.model.issues = b.model.issues) (hf : ∀ t, (f t).keyed = t.keyed) :
    b.SameKeys b' := by
  refine ⟨fun k => ?_, by unfold Model.syntheticIssues; rw [hissues]⟩
  rw [Model.table?_eq_tableIn, h, ← Model.table?_eq_tableIn, table?_modifyTable]
  split
  · rw [Option.map_map]
    exact congrArg (Option.map · _) (funext hf)
  · rfl

/-- A change of one table that leaves its key. -/
theorem withPart (b : Builder) (id : TableId) {f : Table → Table}
    (hf : ∀ t, (f t).keyed = t.keyed) : b.SameKeys (b.withPart id f) :=
  ofChange (f := f) rfl rfl hf

/-- An issue of another category changes no key. -/
theorem issue (b : Builder) {c : IssueCategory} (hc : c ≠ .syntheticKey) (target : IssueTarget)
    (detail : String) : b.SameKeys (b.issue c target detail) :=
  ofTables rfl (syntheticIssues_raise hc _ _ _ _)

/-- An index changes no key. -/
theorem addIndex (b : Builder) (id : TableId) (draft : IndexDraft) :
    b.SameKeys (b.addIndex id draft) := by
  unfold Builder.addIndex
  simp only [Model.allocate]
  split
  · exact ofTables rfl rfl
  · split
    · exact withPart b id fun _ => rfl
    · exact ofTables rfl (syntheticIssues_raise (by decide) _ _ _ _)

theorem addForeignKey (b : Builder) (id : TableId) (draft : ForeignKeyDraft) :
    b.SameKeys (b.addForeignKey id draft) := ofTables rfl rfl

/-- A check changes no key. -/
theorem addCheck (b : Builder) (id : TableId) (draft : CheckDraft) :
    b.SameKeys (b.addCheck id draft) := withPart b id fun _ => rfl

/-- The parts of a draft beside its key. -/
theorem addParts (b : Builder) (id : TableId) (draft : TableDraft) :
    b.SameKeys (b.addParts id draft) :=
  ((foldl (fun b d => addIndex b id d) draft.indexes b).trans
    (foldl (fun b d => addForeignKey b id d) draft.foreignKeys _)).trans
    (foldl (fun b d => addCheck b id d) draft.checks _)

/-- A change of a column in its default and identity alone. -/
theorem modifyColumnByName (b : Builder) (id : TableId) (column : String) {f : Column → Column}
    (hf : ∀ c : Column, { f c with default := none, identity := false }
      = { c with default := none, identity := false }) :
    b.SameKeys (b.modifyColumnByName id column f) := by
  refine ofChange rfl rfl fun t => ?_
  exact congrArg (·, t.primaryKey) (Table.modifyFirst_map _ f _ hf t.columns)

theorem setIdentity (b : Builder) (id : TableId) (column : String) :
    b.SameKeys (b.setIdentity id column) := modifyColumnByName b id column fun _ => rfl

/-- A default changes no key. -/
theorem setColumnDefault (b : Builder) (id : TableId) (column expr : String) :
    b.SameKeys (b.setColumnDefault id column expr) := by
  unfold Builder.setColumnDefault
  split
  · exact refl b
  · split
    · exact issue b (by decide) _ _
    · refine modifyColumnByName b id column fun c => ?_
      split <;> rfl

theorem shouldStop (b : Builder) : b.SameKeys b.shouldStop.2 := by
  unfold Builder.shouldStop
  split
  · exact ofTables rfl (syntheticIssues_raise (by decide) _ _ _ _)
  · exact refl b

/-- A foreign key changes no key. -/
theorem resolveForeignKey (b : Builder) (p : PendingForeignKey) :
    b.SameKeys (b.resolveForeignKey p) := by
  unfold Builder.resolveForeignKey
  simp only [Model.allocate]
  have hdropped : ∀ detail, b.SameKeys (({ b with
      model := { b.model with nextId := b.model.nextId + 1 } } : Builder).issue .missingReference
        (.table p.table) detail) :=
    fun detail => ofTables rfl (syntheticIssues_raise (by decide) _ _ _ _)
  split
  · exact ofTables rfl rfl
  split
  · exact hdropped _
  split
  · split
    · exact hdropped _
    · exact ofTables rfl rfl
  split
  · exact hdropped _
  · exact withPart b p.table fun _ => rfl

end SameKeys

/-! ## Calls that set a key -/

/-- The keys that were set, once another one is. -/
def withKey (keys : TableId → List KeyDraft) (id : TableId) (key : List KeyDraft) :
    TableId → List KeyDraft :=
  fun k => if k = id then key else keys k

/-- Of two keys that are set the last one counts. -/
theorem withKey_withKey (keys : TableId → List KeyDraft) (id : TableId) (key key' : List KeyDraft) :
    withKey (withKey keys id key) id key' = withKey keys id key' := by
  funext k
  unfold withKey
  split <;> rfl

/-- Every table has the key that was set for it, and nothing but the given issues has been said of
synthetic keys. -/
structure KeysKept (b : Builder) (keys : TableId → List KeyDraft) (said : List Issue) : Prop where
  tables : ∀ id t, b.model.table? id = some t → t.KeepsKey (keys id)
  issues : b.model.syntheticIssues = said

namespace KeysKept

variable {keys : TableId → List KeyDraft} {said : List Issue}

/-- What calls that set no key keep. -/
theorem congr (h : b.KeysKept keys said) (hsame : b.SameKeys b') : b'.KeysKept keys said := by
  refine ⟨fun id t' ht' => ?_, hsame.issues.trans h.issues⟩
  have hkeyed := hsame.tables id
  rw [ht'] at hkeyed
  obtain ⟨t, ht, hkeyed⟩ := Option.map_eq_some_iff.1 hkeyed.symm
  exact (h.tables id t ht).congr hkeyed.symm

/-- A key that is set takes the place of any other. -/
theorem setPrimaryKey (h : b.KeysKept keys said) {key : List KeyDraft}
    (hr : b.setPrimaryKey id key = (.ok (), b')) : b'.KeysKept (withKey keys id key) said := by
  unfold Builder.setPrimaryKey at hr
  cases ht : b.model.table? id with
  | none =>
    rw [ht] at hr
    cases hr
  | some t =>
    rw [ht] at hr
    dsimp only at hr
    split at hr
    · cases hr
    rename_i parts hparts
    cases hr
    refine ⟨fun k t' ht' => ?_, h.issues⟩
    rw [table?_modifyTable] at ht'
    unfold withKey
    by_cases hk : k = id
    · rw [if_pos hk]
      rw [if_pos hk, hk, ht, Option.map_some] at ht'
      obtain rfl := Option.some.inj ht'
      -- the columns of the key become non-nullable, and are found by their names as before
      obtain ⟨cs, hcs, hrest⟩ := Leads.foldl_require parts t
      have hnamed : resolveKeys { t with columns := cs, primaryKey := parts } key = .ok parts :=
        (resolveKeys_congr (t := t) (map_core_of_tightened hcs) key).trans hparts
      refine ⟨?_, nullable_foldl_require parts t (resolveKeys_spec hparts).2⟩
      dsimp only
      rw [hrest]
      exact hnamed
    · rw [if_neg hk]
      rw [if_neg hk] at ht'
      exact h.tables k t' ht'

/-- A new table that has nothing but columns. -/
theorem placed (h : b.KeysKept keys said) (hlast : ∀ e ∈ b.model.tables, e.1.val < b.model.nextId)
    (draft : TableDraft) (name : String) (collided : Option String) (columns : List Column) :
    (b.placed draft name collided columns).KeysKept (withKey keys ⟨b.model.nextId⟩ []) said := by
  refine ⟨fun k t ht => ?_, Eq.trans ?_ h.issues⟩
  · unfold withKey
    by_cases hk : k = ⟨b.model.nextId⟩
    · rw [if_pos hk]
      rw [hk, table?_placed_self hlast] at ht
      obtain rfl := Option.some.inj ht
      exact ⟨rfl, List.forall_mem_nil _⟩
    · rw [if_neg hk]
      rw [table?_placed hlast, if_neg (Ne.symm hk), Option.or_none] at ht
      exact h.tables k t ht
  · cases collided with
    | none => rfl
    | some other => exact syntheticIssues_raise (by decide) _ _ _ _

/-- A table that is added has the key of its draft. -/
theorem addTable (h : b.KeysKept keys said) (hlast : ∀ e ∈ b.model.tables, e.1.val < b.model.nextId)
    {draft : TableDraft} (hr : b.addTable draft = (.ok (some id), b')) :
    b'.KeysKept (withKey keys id draft.primaryKey) said := by
  obtain ⟨name, collided, columns, b₁, -, hkey, rfl, rfl⟩ := exists_of_addTable hr
  refine congr ?_ (SameKeys.addParts b₁ ⟨b.model.nextId⟩ draft)
  have hplaced := h.placed hlast draft name collided columns
  unfold setKey at hkey
  split at hkey
  · rename_i hempty
    cases hkey
    rw [List.isEmpty_iff.1 hempty]
    exact hplaced
  · have hset := hplaced.setPrimaryKey hkey
    rwa [withKey_withKey] at hset

end KeysKept

end Builder

/-! ## Runs -/

namespace Operation

/-- The keys that were set, after a call. -/
def keysAfter (w : Work) (keys : TableId → List KeyDraft) : Operation → TableId → List KeyDraft
  | addTable draft =>
    match w.builder.addTable draft with
    | (.ok (some id), _) => Builder.withKey keys id draft.primaryKey
    | _ => keys
  | setPrimaryKey table columns => Builder.withKey keys table columns
  | _ => keys

/-- The issues a caller raises itself. -/
def raised : Operation → List Issue
  | issue category target detail => [.raise category .reader target detail]
  | _ => []

end Operation

/-- The key that was set last for each table, after calls none of which fails; none is the empty
one. -/
def lastKeys (w : Work) (keys : TableId → List KeyDraft) : List Operation → TableId → List KeyDraft
  | [] => keys
  | op :: ops =>
    match op.perform w with
    | .ok w' => lastKeys w' (op.keysAfter w keys) ops
    | .error _ => keys

/-- What callers have said of synthetic keys. -/
def raisedSynthetic (ops : List Operation) : List Issue :=
  (ops.flatMap Operation.raised).filter (·.category = .syntheticKey)

/-- What one operation raises, and what others do. -/
theorem raisedSynthetic_cons (op : Operation) (ops : List Operation) :
    raisedSynthetic (op :: ops) = raisedSynthetic [op] ++ raisedSynthetic ops := by
  unfold raisedSynthetic
  rw [List.flatMap_cons, List.filter_append, List.flatMap_singleton]

/-- What is raised is raised by a reader. -/
theorem stage_of_mem_raisedSynthetic {ops : List Operation} {i : Issue}
    (hi : i ∈ raisedSynthetic ops) : i.stage = .reader := by
  obtain ⟨op, -, hi⟩ := List.mem_flatMap.1 (List.mem_of_mem_filter hi)
  cases op with
  | issue category target detail =>
    rw [List.mem_singleton.1 hi]
    rfl
  | _ => cases hi

section Runs

variable {w w' : Work} {op : Operation} {ops : List Operation} {keys : TableId → List KeyDraft}
  {said : List Issue}

/-- What a call that does not fail keeps. -/
theorem Builder.KeysKept.perform (h : w.builder.KeysKept keys said) (hw : w.Sound)
    (hop : op.perform w = .ok w') :
    w'.builder.KeysKept (op.keysAfter w keys) (said ++ raisedSynthetic [op]) := by
  -- calls that set no key and raise no issue of the caller's
  have hsame {b : Builder} (hb : w.builder.SameKeys b) : b.KeysKept keys (said ++ []) :=
    (List.append_nil said).symm ▸ h.congr hb
  cases op with
  | addTable draft =>
    unfold Operation.perform at hop
    unfold Operation.keysAfter
    dsimp only at hop ⊢
    split at hop
    · cases hop
    rename_i id b hadd
    cases hop
    rw [hadd]
    cases id with
    | none =>
      obtain ⟨other, rfl⟩ := Builder.addTable_none hadd
      exact hsame (.ofTables rfl (Builder.syntheticIssues_raise (by decide) _ _ _ _))
    | some id =>
      rw [show raisedSynthetic [.addTable draft] = [] from rfl, List.append_nil]
      exact h.addTable (fun _ he => hw.builder.model.key_lt he) hadd
  | setPrimaryKey table columns =>
    unfold Operation.perform at hop
    rw [show raisedSynthetic [.setPrimaryKey table columns] = [] from rfl, List.append_nil]
    dsimp only at hop
    split at hop
    · cases hop
    rename_i hset
    cases hop
    exact h.setPrimaryKey hset
  | issue category target detail =>
    cases hop
    refine ⟨h.tables, ?_⟩
    show List.filter _ (w.builder.model.issues ++ _) = _
    rw [List.filter_append]
    exact congrArg (· ++ raisedSynthetic [.issue category target detail]) h.issues
  | lookup nspace name =>
    cases hop
    exact hsame (.refl _)
  | addIndex table draft =>
    cases hop
    exact hsame (.addIndex _ table draft)
  | addForeignKey table draft =>
    cases hop
    exact hsame (.addForeignKey _ table draft)
  | addCheck table draft =>
    cases hop
    exact hsame (.addCheck _ table draft)
  | setColumnDefault table column expr =>
    cases hop
    exact hsame (.setColumnDefault _ table column expr)
  | setIdentity table column =>
    cases hop
    exact hsame (.setIdentity _ table column)
  | shouldStop =>
    cases hop
    exact hsame (.shouldStop _)
  | cancel =>
    cases hop
    exact hsame (.ofTables rfl rfl)

/-- What a whole run keeps. -/
theorem Runs.keysKept (h : Runs w ops w') (hw : w.Sound) (hkept : w.builder.KeysKept keys said) :
    w'.builder.KeysKept (lastKeys w keys ops) (said ++ raisedSynthetic ops) := by
  induction h generalizing keys said with
  | done w => exact (List.append_nil said).symm ▸ hkept
  | step hpermitted hop _ ih =>
    rw [raisedSynthetic_cons, ← List.append_assoc]
    unfold lastKeys
    rw [hop]
    exact ih (Operation.perform_sound hw hpermitted hop) (hkept.perform hw hop)

/-- The finished model, in which foreign keys are resolved. -/
theorem Builder.KeysKept.finish {b : Builder} (h : b.KeysKept keys said) :
    (∀ id t, b.finish.table? id = some t → t.KeepsKey (keys id))
      ∧ b.finish.syntheticIssues = said := by
  have hstart : ({ b with pending := [] } : Builder).KeysKept keys said := ⟨h.tables, h.issues⟩
  have hall := hstart.congr (SameKeys.foldl SameKeys.resolveForeignKey b.pending _)
  exact ⟨hall.tables, hall.issues⟩

/-- A builder that has just started has no keys. -/
theorem Builder.KeysKept.start (source : SourceDialect) (target : TargetDialect)
    (policy : CollisionPolicy) (audit : Audit) :
    (Builder.start source target policy audit).KeysKept (fun _ => []) [] :=
  ⟨fun _ _ ht => (by cases ht), rfl⟩

end Runs

end SchemaBridge
