/-
# Tables with names of their own

Tables that are well formed and whose names differ beyond letter case are all added, each under its
own name, and what waits and what is remembered is read off the drafts.

## Key statements

* `exists_addTable`: a well-formed table under a new name is added.
* `exists_table_addTable`: it stands behind the others, with the names of its draft.
* `Filled.addTable`, `Filled.addDrafts`: what is there after one table and after all of them.
-/
import SchemaBridge.Proofs.Assembly.Ledger

namespace SchemaBridge

/-- A draft whose columns have different names, some of which are those of its key. -/
structure TableDraft.IsWellFormed (d : TableDraft) : Prop where
  columns : (d.columns.map fun c => Text.lowerText c.name).Nodup
  key : ∀ k ∈ d.primaryKey, ∃ c ∈ d.columns, Text.sameFolded c.name k.1 = true

/-- A table with the names of its draft, and without foreign keys. -/
structure TableDraft.IsOf (d : TableDraft) (t : Table) : Prop where
  name : t.name = d.name
  nspace : t.nspace = d.nspace
  columns : t.columns.map (·.name) = d.columns.map (·.name)
  key : Builder.resolveKeys t d.primaryKey = .ok t.primaryKey
  noForeignKeys : t.foreignKeys = []

namespace Builder

variable {b b' : Builder} {d : TableDraft}

/-! ## One table -/

/-- Columns with different names are all given identifiers. -/
theorem exists_allocateColumns (m : Model) {seen : List String} {ds : List ColumnDraft}
    (h : Unmet seen (ds.map fun c => Text.lowerText c.name)) :
    ∃ cs m', allocateColumns m seen ds = (.ok cs, m') := by
  induction ds generalizing m seen with
  | nil => exact ⟨[], m, rfl⟩
  | cons d ds ih =>
    rw [List.map_cons, unmet_cons] at h
    obtain ⟨cs, m', hrest⟩ := ih m.allocate.2 h.2
    unfold allocateColumns
    dsimp only
    rw [if_neg h.1]
    simp only [Model.allocate] at hrest ⊢
    rw [hrest]
    exact ⟨_, _, rfl⟩

/-- A key whose names are columns is resolved. -/
theorem exists_resolveKeys {t : Table} {keys : List KeyDraft}
    (h : ∀ k ∈ keys, ∃ c ∈ t.columns, Text.sameFolded c.name k.1 = true) :
    ∃ parts, resolveKeys t keys = .ok parts := by
  cases hr : resolveKeys t keys with
  | ok parts => exact ⟨parts, rfl⟩
  | error missing =>
    obtain ⟨k, hk, -, hnone⟩ := exists_of_resolveEach_error hr
    obtain ⟨c, hc, hname⟩ := h k hk
    exact absurd hname (List.find?_eq_none.1 hnone c hc)

/-- Columns have the names of their drafts. -/
theorem names_of_follows {ds : List ColumnDraft} {cs : List Column}
    (h : List.Forall₂ Column.Follows ds cs) : cs.map (·.name) = ds.map (·.name) := by
  induction h with
  | nil => rfl
  | cons hc _ ih => rw [List.map_cons, List.map_cons, hc.name, ih]

/-- What is said of indexes that are lost. -/
theorem category_of_answers {id : TableId} {t : Table} {ds : List IndexDraft}
    {l : List (Except Issue Index)} (h : List.Forall₂ (Answers id t) ds l) :
    ∀ i ∈ lost l, i.category = .unsupportedConstraint := by
  induction h with
  | nil => exact List.forall_mem_nil _
  | @cons d a ds l ha _ ih =>
    cases a with
    | ok i => exact ih
    | error issue =>
      obtain ⟨k, -, -, rfl⟩ := ha
      exact List.forall_mem_cons.2 ⟨rfl, ih⟩

variable {name : String} {collided : Option String}

/-- A well-formed table for which a name is found is added. -/
theorem exists_addTable_as (h : b.Sound) (hd : d.IsWellFormed)
    (hname : b.chooseName d = (.ok (some (name, collided)), b)) :
    ∃ columns b', b.CanPlace d name collided columns
      ∧ b.addTable d = (.ok (some ⟨b.model.nextId⟩), b') := by
  have hunmet : Unmet [] (d.columns.map fun c => Text.lowerText c.name) :=
    ⟨hd.columns, fun _ _ => List.not_mem_nil⟩
  obtain ⟨columns, m, hcolumns⟩ := exists_allocateColumns b.model.allocate.2 hunmet
  have hplaces : b.CanPlace d name collided columns := ⟨hname, by rw [hcolumns]⟩
  have hlast : ∀ e ∈ b.model.tables, e.1.val < b.model.nextId := fun _ he => h.model.key_lt he
  -- the key is looked up among the columns of the draft
  have hkey : ∃ b₁, (b.placed d name collided columns).setKey ⟨b.model.nextId⟩ d = (.ok (), b₁) := by
    have hnames := names_of_follows (follows_allocateColumns hcolumns)
    have hnamed : ∀ k ∈ d.primaryKey, ∃ c ∈ (bareTable ⟨b.model.nextId⟩ d name columns).columns,
        Text.sameFolded c.name k.1 = true := by
      intro k hk
      obtain ⟨c, hc, hfolded⟩ := hd.key k hk
      have hmem : c.name ∈ columns.map (·.name) := hnames ▸ List.mem_map_of_mem hc
      obtain ⟨c', hc', hsame⟩ := List.mem_map.1 hmem
      exact ⟨c', hc', hsame ▸ hfolded⟩
    obtain ⟨parts, hparts⟩ := exists_resolveKeys hnamed
    unfold setKey
    split
    · exact ⟨_, rfl⟩
    · unfold setPrimaryKey
      rw [table?_placed_self hlast]
      dsimp only
      rw [hparts]
      exact ⟨_, rfl⟩
  obtain ⟨b₁, hkey⟩ := hkey
  refine ⟨columns, b₁.addParts ⟨b.model.nextId⟩ d, hplaces, ?_⟩
  rw [addTable_of_places hplaces, hkey]

/-- One under a name that no table has keeps its name. -/
theorem exists_addTable (h : b.Sound) (hd : d.IsWellFormed)
    (hnew : b.model.tableByName? d.name = none) :
    ∃ columns b', b.CanPlace d d.name none columns
      ∧ b.addTable d = (.ok (some ⟨b.model.nextId⟩), b') := by
  have hname : b.chooseName d = (.ok (some (d.name, none)), b) := by
    unfold chooseName
    rw [hnew]
  exact exists_addTable_as h hd hname

/-- However the addition of a table ends, the builder is sound after it. -/
theorem sound_addTable (h : b.Sound) {r : Outcome (Option TableId)} (hr : b.addTable d = (r, b')) :
    b'.Sound := by
  have hleads := (Leads.addTable h d).1.sound
  rwa [hr] at hleads

/-- A new table stands behind the others, under the name that was found for it. -/
theorem tables_addTable (h : b.Sound) {columns : List Column}
    (hplaces : b.CanPlace d name collided columns)
    (hr : b.addTable d = (.ok (some ⟨b.model.nextId⟩), b')) :
    ∃ t, b'.model.tables = b.model.tables ++ [(⟨b.model.nextId⟩, t)] ∧ t.name = name
      ∧ t.foreignKeys = [] ∧ b'.Holds ⟨b.model.nextId⟩ t d := by
  have hadds := (adds_addTable (fun _ he => h.model.key_lt he) hplaces hr).tables
  obtain ⟨hfresh, hothers, t, hholds⟩ := holds_addTable h hr
  set id : TableId := ⟨b.model.nextId⟩ with hid
  -- the outline says where the table stands and the frame what is in it
  have htables : b'.model.tables = b.model.tables ++ [(id, t)] := by
    have hkeys : b'.model.tables.map (·.1) = (b.model.tables ++ [(id, t)]).map (·.1) := by
      have hmap := congrArg (List.map (·.1)) hadds
      rw [List.map_append, List.map_map, List.map_map] at hmap
      rw [List.map_append]
      exact hmap
    refine eq_of_tableIn (hkeys ▸ (sound_addTable h hr).model.nodup_keys) hkeys fun k => ?_
    rw [tableIn_append_singleton, ← Model.table?_eq_tableIn, ← Model.table?_eq_tableIn]
    by_cases hk : k = id
    · rw [hk, hholds.found, hfresh, if_pos rfl, Option.none_or]
    · rw [hothers k hk, if_neg (Ne.symm hk), Option.or_none]
  have houtline : t.outline = (bareTable id d name []).outline := by
    rw [htables, List.map_append] at hadds
    exact congrArg Prod.snd (List.singleton_inj.1 (List.append_cancel_left hadds))
  have hname : t.name = name := by
    have h := congrArg Table.name houtline
    exact h
  have hnone : t.foreignKeys = [] := by
    have h := congrArg Table.foreignKeys houtline
    exact h
  exact ⟨t, htables, hname, hnone, hholds⟩

/-- It stands behind the others, with the names of its draft. -/
theorem exists_table_addTable (h : b.Sound) {columns : List Column}
    (hplaces : b.CanPlace d d.name none columns)
    (hr : b.addTable d = (.ok (some ⟨b.model.nextId⟩), b')) :
    ∃ t, b'.model.tables = b.model.tables ++ [(⟨b.model.nextId⟩, t)] ∧ d.IsOf t := by
  obtain ⟨t, htables, hname, hnone, hholds⟩ := tables_addTable h hplaces hr
  exact ⟨t, htables, hname, hholds.nspace, names_of_follows hholds.columns, hholds.key, hnone⟩

/-! ## All tables -/

/-- Add tables one after another. -/
def addDrafts (b : Builder) : List TableDraft → Outcome Builder
  | [] => .ok b
  | d :: ds =>
    match b.addTable d with
    | (.error e, _) => .error e
    | (.ok _, b) => b.addDrafts ds

/-- A table that was added, with its draft. -/
structure Added where
  draft : TableDraft
  id : TableId
  table : Table

/-- A builder in which tables have been added under their own names, and nothing else has happened. -/
structure Filled (b : Builder) (es : List Added) : Prop where
  sound : b.Sound
  tables : b.model.tables = es.map fun e => (e.id, e.table)
  drafts : ∀ e ∈ es, e.draft.IsOf e.table
  names : (es.map fun e => Text.lowerText e.draft.name).Nodup
  bySource : b.bySource = es.map fun e => (sourceKey e.draft.nspace e.draft.name, e.id)
  pending : b.pending = es.flatMap fun e => e.draft.foreignKeys.map (waiting e.table e.id)
  nothingMissing : ∀ i ∈ b.model.issues, i.category ≠ .missingReference

namespace Filled

variable {es : List Added}

theorem start (source : SourceDialect) (target : TargetDialect) (policy : CollisionPolicy)
    (audit : Audit) : (Builder.start source target policy audit).Filled [] :=
  ⟨.start source target policy audit, rfl, List.forall_mem_nil _, List.nodup_nil, rfl, rfl,
    List.forall_mem_nil _⟩

/-- A table that has been added is found under its identifier. -/
theorem table? (h : b.Filled es) {e : Added} (he : e ∈ es) :
    b.model.table? e.id = some e.table := by
  rw [Model.table?_eq_tableIn]
  exact tableIn_of_mem h.sound.model.nodup_keys (h.tables ▸ List.mem_map_of_mem he)

/-- No two columns of a table that has been added have one identifier. -/
theorem nodup_columns (h : b.Filled es) {e : Added} (he : e ∈ es) :
    (e.table.columns.map (·.id)).Nodup := by
  have hmem : (e.id, e.table) ∈ b.model.tables := h.tables ▸ List.mem_map_of_mem he
  exact Table.nodup_columns ((List.nodup_flatMap.1 h.sound.model.distinct).1 _ hmem)

/-- A name that no draft has is the name of no table. -/
theorem tableByName?_eq_none (h : b.Filled es)
    (hnew : Text.lowerText d.name ∉ es.map fun e => Text.lowerText e.draft.name) :
    b.model.tableByName? d.name = none := by
  unfold Model.tableByName? Model.tableList
  rw [h.tables, List.map_map]
  refine List.find?_eq_none.2 fun t ht hsame => hnew ?_
  obtain ⟨e, he, rfl⟩ := List.mem_map.1 ht
  have hlower := Text.lowerText_eq_of_folded_eq (Text.sameFolded_iff.1 hsame)
  refine List.mem_map.2 ⟨e, he, ?_⟩
  rw [← (h.drafts e he).name]
  exact hlower

/-- One more table. -/
theorem addTable (h : b.Filled es) (hd : d.IsWellFormed)
    (hnew : Text.lowerText d.name ∉ es.map fun e => Text.lowerText e.draft.name) :
    ∃ e b', e.draft = d ∧ b.addTable d = (.ok (some e.id), b') ∧ b'.Filled (es ++ [e]) := by
  obtain ⟨columns, b', hplaces, hr⟩ := exists_addTable h.sound hd (h.tableByName?_eq_none hnew)
  have hlast : ∀ e ∈ b.model.tables, e.1.val < b.model.nextId := fun _ he => h.sound.model.key_lt he
  have hadds := adds_addTable hlast hplaces hr
  obtain ⟨t, htables, ht⟩ := exists_table_addTable h.sound hplaces hr
  obtain ⟨u, l, found, -, hl, -, hissues, hfound, -⟩ := answersDraft_addTable h.sound hr
  refine ⟨⟨d, ⟨b.model.nextId⟩, t⟩, b', rfl, hr, sound_addTable h.sound hr, ?_, ?_, ?_, ?_, ?_, ?_⟩
  · rw [htables, h.tables, List.map_append]
    rfl
  · exact List.forall_mem_append.2 ⟨h.drafts, List.forall_mem_singleton.2 ht⟩
  · rw [List.map_append]
    refine List.Nodup.append h.names (List.nodup_singleton _) ?_
    exact List.disjoint_singleton.2 hnew
  · have hkept : b.bySource.filter (·.1 ≠ sourceKey d.nspace d.name) = b.bySource := by
      refine List.filter_eq_self.2 fun x hx => ?_
      rw [h.bySource] at hx
      obtain ⟨e, he, rfl⟩ := List.mem_map.1 hx
      refine decide_eq_true fun hkey => hnew ?_
      exact List.mem_map.2 ⟨e, he, congrArg Prod.snd hkey⟩
    rw [hadds.bySource, hkept, h.bySource, List.map_append]
    rfl
  · rw [hadds.pending, h.pending, List.flatMap_append]
    simp only [List.flatMap_cons, List.flatMap_nil, List.append_nil]
    unfold waiting
    rw [ht.nspace]
  · -- what is said of indexes is of another kind
    rw [hissues]
    refine List.forall_mem_append.2
      ⟨List.forall_mem_append.2 ⟨h.nothingMissing, fun i hi => ?_⟩, fun i hi => ?_⟩
    · rw [hfound i hi]
      exact IssueCategory.noConfusion
    · rw [category_of_answers hl i hi]
      exact IssueCategory.noConfusion

/-- All tables of a list, one after another. -/
theorem addDrafts {ds : List TableDraft} (h : b.Filled es) (hds : ∀ d ∈ ds, d.IsWellFormed)
    (hnames : ((es.map Added.draft ++ ds).map fun d => Text.lowerText d.name).Nodup) :
    ∃ es' b', es'.map Added.draft = ds ∧ b.addDrafts ds = .ok b' ∧ b'.Filled (es ++ es') := by
  induction ds generalizing b es with
  | nil => exact ⟨[], b, rfl, rfl, (List.append_nil es).symm ▸ h⟩
  | cons d ds ih =>
    obtain ⟨hd, hrest⟩ := List.forall_mem_cons.1 hds
    have hnew : Text.lowerText d.name ∉ es.map fun e => Text.lowerText e.draft.name := by
      rw [List.map_append, List.map_map] at hnames
      exact fun hmem => (List.nodup_append.1 hnames).2.2 _ hmem _ List.mem_cons_self rfl
    obtain ⟨e, b₁, rfl, hr, h₁⟩ := h.addTable hd hnew
    have happend : (es ++ [e]).map Added.draft ++ ds = es.map Added.draft ++ e.draft :: ds := by
      rw [List.map_append, List.append_assoc]
      rfl
    obtain ⟨es', b', hdrafts, hr', h'⟩ := ih h₁ hrest (happend.symm ▸ hnames)
    refine ⟨e :: es', b', by rw [List.map_cons, hdrafts], ?_, ?_⟩
    · unfold Builder.addDrafts
      rw [hr]
      exact hr'
    · rwa [List.append_assoc] at h'

end Filled

end Builder

end SchemaBridge
