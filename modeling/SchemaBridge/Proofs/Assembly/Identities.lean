/-
# Identity columns

A column becomes an identity column when its table is made or by a later call.  No call takes that
back, whatever becomes of the column's default and of its table's key, or gives a column another name or
type, and nor does resolving the foreign keys in the end.

## Key statements

* `Builder.Call.keepsNumbers`, `Builder.Calls.keepsNumbers`: one call, and calls one after another.
* `Builder.keepsNumbers_finish`: the finished model.
-/
import SchemaBridge.Proofs.Assembly.Lookup

namespace SchemaBridge

/-- A column under its name and of its type, which numbers the rows if it did. -/
structure Column.StaysNumbered (c c' : Column) : Prop where
  name : c'.name = c.name
  sourceType : c'.sourceType = c.sourceType
  identity : c.identity = true → c'.identity = true

theorem Column.StaysNumbered.refl (c : Column) : c.StaysNumbered c :=
  ⟨rfl, rfl, fun h => h⟩

theorem Column.StaysNumbered.trans {c c' c'' : Column} (h : c.StaysNumbered c')
    (h' : c'.StaysNumbered c'') : c.StaysNumbered c'' :=
  ⟨h'.name.trans h.name, h'.sourceType.trans h.sourceType, h'.identity ∘ h.identity⟩

/-- A column that may have become one of a key stays an identity column if it was one. -/
theorem Column.Tightened.staysNumbered {c c' : Column} (h : c.Tightened c') : c.StaysNumbered c' := by
  rcases h with rfl | rfl
  · exact .refl c'
  · exact ⟨rfl, rfl, fun h => h⟩

/-- A table under its declared name, with its columns, whose identity columns still are. -/
structure Table.KeepsNumbers (t t' : Table) : Prop where
  nspace : t'.nspace = t.nspace
  sourceName : t'.sourceName = t.sourceName
  columns : List.Forall₂ Column.StaysNumbered t.columns t'.columns

namespace Table.KeepsNumbers

variable {t t' t'' : Table}

theorem ofSame (hnspace : t'.nspace = t.nspace) (hname : t'.sourceName = t.sourceName)
    (hcolumns : t'.columns = t.columns) : t.KeepsNumbers t' := by
  refine ⟨hnspace, hname, ?_⟩
  rw [hcolumns]
  exact List.forall₂_same.2 fun c _ => .refl c

theorem refl (t : Table) : t.KeepsNumbers t := ofSame rfl rfl rfl

theorem trans (h : t.KeepsNumbers t') (h' : t'.KeepsNumbers t'') : t.KeepsNumbers t'' :=
  ⟨h'.nspace.trans h.nspace, h'.sourceName.trans h.sourceName,
    forall₂_comp (fun _ _ _ => .trans) h.columns h'.columns⟩

/-- A table keeps its declared name. -/
theorem declared (h : t.KeepsNumbers t') : t'.declaredKey = t.declaredKey := by
  unfold Table.declaredKey
  rw [h.nspace, h.sourceName]

/-- One column is changed and keeps its name and its numbers. -/
theorem modifyFirst (t : Table) (p : Column → Bool) {f : Column → Column}
    (hf : ∀ c : Column, c.StaysNumbered (f c)) :
    t.KeepsNumbers { t with columns := Table.modifyFirst p f t.columns } := by
  refine ⟨rfl, rfl, ?_⟩
  show List.Forall₂ _ t.columns (Table.modifyFirst p f t.columns)
  induction t.columns with
  | nil => exact .nil
  | cons c columns ih =>
    unfold Table.modifyFirst
    split
    · exact .cons (hf c) (List.forall₂_same.2 fun c _ => .refl c)
    · exact .cons (.refl c) ih

end Table.KeepsNumbers

/-- Every table of a model is still there, with its identity columns. -/
def Model.KeepsNumbers (m m' : Model) : Prop :=
  ∀ id t, m.table? id = some t → ∃ t', m'.table? id = some t' ∧ t.KeepsNumbers t'

namespace Model.KeepsNumbers

variable {m m' m'' : Model}

theorem trans (h : m.KeepsNumbers m') (h' : m'.KeepsNumbers m'') : m.KeepsNumbers m'' := by
  intro id t ht
  obtain ⟨t', ht', hkeeps⟩ := h id t ht
  obtain ⟨t'', ht'', hkeeps'⟩ := h' id t' ht'
  exact ⟨t'', ht'', hkeeps.trans hkeeps'⟩

/-- Nothing but issues, the counter and the metadata of the run. -/
theorem ofTables (h : m'.tables = m.tables) : m.KeepsNumbers m' := by
  intro id t ht
  refine ⟨t, ?_, .refl t⟩
  rw [Model.table?_eq_tableIn, h]
  exact ht

/-- A change of one table in which columns stay identity columns. -/
theorem modifyTable (m : Model) (id : TableId) {f : Table → Table}
    (hf : ∀ t : Table, t.KeepsNumbers (f t)) : m.KeepsNumbers (m.modifyTable id f) := by
  intro k t ht
  rw [Builder.table?_modifyTable, ht]
  split
  · exact ⟨f t, rfl, hf t⟩
  · exact ⟨t, rfl, .refl t⟩

/-- Any number of such changes. -/
theorem foldl {α : Type} {f : Builder → α → Builder}
    (hf : ∀ (b : Builder) (a : α), b.model.KeepsNumbers (f b a).model) (l : List α) (b : Builder) :
    b.model.KeepsNumbers (l.foldl f b).model := by
  induction l generalizing b with
  | nil => exact ofTables rfl
  | cons a l ih => exact (hf b a).trans (ih (f b a))

end Model.KeepsNumbers

/-- A column is still there under its name, and numbers the rows if it did. -/
theorem Table.KeepsNumbers.exists_column {t t' : Table} (h : t.KeepsNumbers t') {c : Column}
    (hc : c ∈ t.columns) : ∃ c' ∈ t'.columns, c.StaysNumbered c' := by
  obtain ⟨i, hi, rfl⟩ := List.mem_iff_getElem.1 hc
  have hi' : i < t'.columns.length := h.columns.length_eq ▸ hi
  exact ⟨t'.columns[i], List.getElem_mem hi', h.columns.get hi hi'⟩

/-- The last table of a name was the last one before, if it was there. -/
theorem Model.KeepsNumbers.isLast {m m' : Model} (h : m.KeepsNumbers m') {key : SourceKey}
    {id : TableId} {t : Table} (ht : m.table? id = some t) (hkey : t.declaredKey = key)
    (hlast : Builder.IsLast m' key id) : Builder.IsLast m key id := by
  refine ⟨⟨t, ht, hkey⟩, fun k u hu hu' => ?_⟩
  obtain ⟨u', hu'', hkeeps⟩ := h k u hu
  exact hlast.last k u' hu'' (hkeeps.declared.trans hu')

namespace Builder

variable {b b' : Builder}

/-! ## Calls -/

/-- Setting a key makes no identity column another one. -/
theorem keepsNumbers_setPrimaryKey (b : Builder) (id : TableId) (columns : List KeyDraft) :
    b.model.KeepsNumbers (b.setPrimaryKey id columns).2.model := by
  unfold setPrimaryKey
  split
  · exact .ofTables rfl
  · split
    · exact .ofTables rfl
    · refine .modifyTable b.model id fun t => ?_
      -- the columns of the key become non-nullable, and nothing else
      rename_i keys _
      obtain ⟨cs, hcs, hrest⟩ := Leads.foldl_require keys t
      rw [hrest]
      exact ⟨rfl, rfl, hcs.imp fun _ _ => Column.Tightened.staysNumbered⟩

/-- More indexes and checks leave columns alone. -/
theorem Extends.keepsNumbers {id : TableId} {ds : List IndexDraft} (h : Extends id ds b b') :
    b.model.KeepsNumbers b'.model := by
  intro k t ht
  by_cases hk : k = id
  · subst hk
    obtain ⟨is, cs, ht', -⟩ := h.table t ht
    exact ⟨_, ht', .ofSame rfl rfl rfl⟩
  · exact ⟨t, (h.others k hk).trans ht, .refl t⟩

/-- A change of a column after which it is an identity column if it was one. -/
theorem keepsNumbers_modifyColumnByName (b : Builder) (id : TableId) (column : String)
    {f : Column → Column} (hf : ∀ c : Column, c.StaysNumbered (f c)) :
    b.model.KeepsNumbers (b.modifyColumnByName id column f).model :=
  .modifyTable b.model id fun t => .modifyFirst t _ hf

/-- Making a column an identity column takes this from no other. -/
theorem keepsNumbers_setIdentity (b : Builder) (id : TableId) (column : String) :
    b.model.KeepsNumbers (b.setIdentity id column).model :=
  keepsNumbers_modifyColumnByName b id column fun _ => ⟨rfl, rfl, fun _ => rfl⟩

/-- A column that is made an identity column by its own name is one then. -/
theorem exists_identity_setIdentity (h : b.Sound) {id : TableId} {t : Table}
    (ht : b.model.table? id = some t) {c : Column} (hc : c ∈ t.columns) :
    ∃ t' c', (b.setIdentity id c.name).model.table? id = some t' ∧ c' ∈ t'.columns
      ∧ c'.name = c.name ∧ c'.identity = true := by
  have hplain := h.described.plain (id, t) (mem_of_tableIn ht)
  have hsome : (t.columns.find? fun d => Text.sameFolded d.name c.name).isSome = true :=
    List.find?_isSome.2 ⟨c, hc, Text.sameFolded_iff.2 rfl⟩
  -- no other column has the name in any case
  obtain ⟨d, hd⟩ := Option.isSome_iff_exists.1 hsome
  have hsame := List.find?_some hd
  obtain rfl : d = c := List.inj_on_of_nodup_map hplain.names (List.mem_of_find?_eq_some hd) hc
    (Text.lowerText_eq_of_folded_eq (Text.sameFolded_iff.1 hsame))
  have htable : (b.setIdentity id d.name).model.table? id = some { t with
      columns := Table.modifyFirst (fun c => Text.sameFolded c.name d.name)
        (fun c => { c with identity := true }) t.columns } := by
    show (b.model.modifyTable id _).table? id = _
    rw [table?_modifyTable, if_pos rfl, ht]
    rfl
  refine ⟨_, { d with identity := true }, htable, ?_, rfl, rfl⟩
  have hfound := Table.find?_modifyFirst_self (p := fun c : Column => Text.sameFolded c.name d.name)
    (f := fun c => { c with identity := true }) (fun _ => rfl) t.columns
  rw [hd] at hfound
  exact List.mem_of_find?_eq_some hfound

/-- A default takes it from no column. -/
theorem keepsNumbers_setColumnDefault (b : Builder) (id : TableId) (column expr : String) :
    b.model.KeepsNumbers (b.setColumnDefault id column expr).model := by
  unfold setColumnDefault
  split
  · exact .ofTables rfl
  · split
    · exact .ofTables rfl
    · refine keepsNumbers_modifyColumnByName b id column fun c => ?_
      split
      · exact ⟨rfl, rfl, fun _ => rfl⟩
      · exact ⟨rfl, rfl, fun h => h⟩

/-- A table that is put under its name takes no other's place. -/
theorem keepsNumbers_placed (h : ∀ e ∈ b.model.tables, e.1.val < b.model.nextId) (draft : TableDraft)
    (name : String) (collided : Option String) (columns : List Column) :
    b.model.KeepsNumbers (b.placed draft name collided columns).model := by
  intro k t ht
  refine ⟨t, ?_, .refl t⟩
  rw [table?_placed h, ht]
  rfl

theorem keepsNumbers_addConstraints (b : Builder) (id : TableId) (draft : TableDraft) :
    b.model.KeepsNumbers (b.addConstraints id draft).2.model := by
  have hkey : b.model.KeepsNumbers (b.setKey id draft).2.model := by
    unfold setKey
    split
    · exact .ofTables rfl
    · exact keepsNumbers_setPrimaryKey b id draft.primaryKey
  rw [addConstraints_eq]
  rcases hset : b.setKey id draft with ⟨_ | _, b₁⟩
  all_goals rw [hset] at hkey
  · exact hkey
  · exact hkey.trans (extends_addParts b₁ id draft).keepsNumbers

theorem keepsNumbers_addTable (h : b.Sound) (draft : TableDraft) :
    b.model.KeepsNumbers (b.addTable draft).2.model := by
  unfold addTable
  rcases hname : b.chooseName draft with ⟨e | _ | ⟨name, collided⟩, b₁⟩
  -- a name may be taken, and then an issue is all that is new
  case error | ok.none =>
    have htables : b₁.model.tables = b.model.tables := by
      unfold chooseName at hname
      split at hname
      · cases hname
      · split at hname <;> cases hname
        rfl
    exact .ofTables htables
  obtain rfl := chooseName_some hname
  dsimp only
  rcases hcols : allocateColumns b₁.model.allocate.2 [] draft.columns with ⟨n | columns, model⟩
  · obtain ⟨k, -, hmodel⟩ := allocateColumns_model b₁.model.allocate.2 [] draft.columns
    rw [hcols] at hmodel
    obtain rfl : model = { b₁.model with nextId := k } := hmodel
    exact .ofTables rfl
  · obtain ⟨rfl, -⟩ := allocateColumns_spec hcols
    have hplaced := keepsNumbers_placed (fun _ he => h.model.key_lt he) draft name collided columns
    have hadded := hplaced.trans (keepsNumbers_addConstraints _ ⟨b₁.model.nextId⟩ draft)
    dsimp only [Model.allocate]
    split
    · rename_i hr
      exact (congrArg (·.2.model) hr) ▸ hadded
    · rename_i hr
      exact (congrArg (·.2.model) hr) ▸ hadded

/-- No call takes its numbers from a column. -/
theorem Call.keepsNumbers (hc : Call b b') (h : b.Sound) : b.model.KeepsNumbers b'.model := by
  cases hc with
  | addTable draft => exact keepsNumbers_addTable h draft
  | setPrimaryKey id columns => exact keepsNumbers_setPrimaryKey b id columns
  | addIndex id draft => exact (Extends.addIndex b id (List.mem_singleton_self draft)).keepsNumbers
  | addForeignKey id draft => exact .ofTables rfl
  | addCheck id draft => exact (Extends.addCheck b id draft : Extends id [] b _).keepsNumbers
  | setColumnDefault id column expr => exact keepsNumbers_setColumnDefault b id column expr
  | setIdentity id column => exact keepsNumbers_setIdentity b id column
  | issue _ _ detail => exact .ofTables rfl
  | setAudit audit => exact .ofTables rfl

/-- Nor do calls one after another. -/
theorem Calls.keepsNumbers (hc : Calls b b') (h : b.Sound) : b.model.KeepsNumbers b'.model := by
  induction hc with
  | refl => exact .ofTables rfl
  | tail hcalls hcall ih => exact ih.trans (hcall.keepsNumbers (Calls.leads hcalls h).sound)

/-! ## The finished model -/

/-- A table is given a part that is no column. -/
theorem keepsNumbers_withPart (b : Builder) (id : TableId) {f : Table → Table}
    (hf : ∀ t : Table, t.KeepsNumbers (f t)) : b.model.KeepsNumbers (b.withPart id f).model :=
  .modifyTable { b.model with nextId := b.model.nextId + 1 } id hf

theorem keepsNumbers_resolveForeignKey (b : Builder) (p : PendingForeignKey) :
    b.model.KeepsNumbers (b.resolveForeignKey p).model := by
  unfold resolveForeignKey
  simp only [Model.allocate]
  split
  · exact .ofTables rfl
  split
  · exact .ofTables rfl
  split
  · split <;> exact .ofTables rfl
  split
  · exact .ofTables rfl
  · exact keepsNumbers_withPart b p.table fun _ => .ofSame rfl rfl rfl

/-- The identity columns of a builder are those of its finished model. -/
theorem keepsNumbers_finish (b : Builder) : b.model.KeepsNumbers b.finish :=
  .foldl keepsNumbers_resolveForeignKey b.pending { b with pending := [] }

end Builder

end SchemaBridge
