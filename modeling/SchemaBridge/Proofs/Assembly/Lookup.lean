/-
# Tables that are looked up

Declared names are looked up in lower case.  Of several tables declared with one name, or with names
that differ in case alone, the last one is found: what a dump writes of any of them is applied to this
one and to no other.

## Key statements

* `IsBuilt.isRegistered`: which table a declared name stands for, after any calls.
* `IsBuilt.lookup_declared`: what is found under the name a table was declared with, and what is done
  to it.
-/
import SchemaBridge.Proofs.Assembly.Outline
import SchemaBridge.Proofs.Assembly.PartialIndexes
import SchemaBridge.Proofs.Assembly.Runs

namespace SchemaBridge

/-- The schema and name a table was declared with, as they are looked up. -/
def Table.declaredKey (t : Table) : SourceKey := sourceKey t.nspace t.sourceName

/-- The tables with the names they were declared with, in the order of their declarations. -/
def Model.declarations (m : Model) : List (SourceKey × TableId) :=
  m.tables.map fun e => (e.2.declaredKey, e.1)

/-- A key that is put at the end in place of an earlier one is found there. -/
theorem lookup_filter_ne_append (l : List (SourceKey × TableId)) (key k : SourceKey)
    (id : TableId) : (l.filter (·.1 ≠ key) ++ [(key, id)]).lookup k
      = if k = key then some id else l.lookup k := by
  induction l with
  | nil =>
    by_cases h : k = key
    · simp [h]
    · have hne : (k == key) = false := beq_eq_false_iff_ne.2 h
      simp [List.lookup_cons, hne, h]
  | cons e l ih =>
    obtain ⟨k', i⟩ := e
    by_cases h' : k' = key
    · rw [List.filter_cons_of_neg (by simpa using h'), ih, List.lookup_cons]
      by_cases h : k = key
      · simp [h]
      · have hne : (k == k') = false := beq_eq_false_iff_ne.2 fun he => h (he.trans h')
        rw [hne]
    · rw [List.filter_cons_of_pos (by simpa using h'), List.cons_append, List.lookup_cons, ih,
        List.lookup_cons]
      by_cases h : k = key
      · have hne : (k == k') = false := beq_eq_false_iff_ne.2 fun he => h' (he.symm.trans h)
        rw [hne]
      · simp only [if_neg h]

namespace Builder

variable {b b' b'' : Builder} {id : TableId}

/-! ## Names that stand for tables -/

/-- Every declared name stands for the last table that was declared with it. -/
def IsRegistered (b : Builder) : Prop :=
  ∀ key, b.bySource.lookup key = b.model.declarations.reverse.lookup key

/-- Declarations are part of the outline. -/
theorem SameOutline.declarations (h : b.SameOutline b') :
    b'.model.declarations = b.model.declarations := by
  have hsame := congrArg (List.map fun e : TableId × Table => (e.2.declaredKey, e.1)) h.tables
  rw [List.map_map, List.map_map] at hsame
  exact hsame

/-- Whether names are registered depends on the outline. -/
theorem SameOutline.isRegistered (h : b.SameOutline b') (hb : b.IsRegistered) :
    b'.IsRegistered := by
  intro key
  rw [h.bySource, h.declarations]
  exact hb key

/-- A new table takes over the name it is declared with. -/
theorem IsRegistered.placeTable (h : b.IsRegistered) (hid : ∀ e ∈ b.model.tables, e.1.val < id.val)
    (draft : TableDraft) (name : String) (collided : Option String) (columns : List Column) :
    (b.placeTable id draft name collided columns).IsRegistered := by
  set key : SourceKey := sourceKey draft.nspace draft.name with hkey
  have hnames : (b.placeTable id draft name collided columns).bySource
      = b.bySource.filter (·.1 ≠ key) ++ [(key, id)] := by
    cases collided <;> rfl
  have hdeclared : (b.placeTable id draft name collided columns).model.declarations
      = b.model.declarations ++ [(key, id)] := by
    have htables : (b.placeTable id draft name collided columns).model.tables
        = Model.insertSorted id { Table.empty id name with
          nspace := draft.nspace, sourceName := draft.name, columns } b.model.tables := by
      cases collided <;> rfl
    unfold Model.declarations
    rw [htables, insertSorted_eq_append hid, List.map_append]
    rfl
  intro k
  rw [hnames, lookup_filter_ne_append, hdeclared, List.reverse_append, List.reverse_singleton,
    List.singleton_append, List.lookup_cons, h k]
  by_cases hk : k = key
  · simp [hk]
  · simp only [if_neg hk, beq_eq_false_iff_ne.2 hk]

/-- The declared name of a new table is registered. -/
theorem IsRegistered.addTable (h : b.IsRegistered) (hb : b.Sound) (draft : TableDraft) :
    (b.addTable draft).2.IsRegistered := by
  rcases addTable_cases b draft with ⟨hsame, -⟩ | ⟨name, collided, columns, -, hcases⟩
  · exact hsame.outline.isRegistered h
  have hlast : ∀ e ∈ b.model.tables, e.1.val < b.model.nextId := fun _ he => hb.model.key_lt he
  have hplaced : (b.placed draft name collided columns).IsRegistered :=
    IsRegistered.placeTable (b := { b with
      model := { b.model with nextId := b.model.nextId + 1 + draft.columns.length } }) h hlast draft
      name collided columns
  have hkeyed := (SameOutline.setKey _ ⟨b.model.nextId⟩ draft).isRegistered hplaced
  rcases hcases with ⟨e, b₁, hkey, hr⟩ | ⟨b₁, hkey, hr⟩
  all_goals rw [hkey] at hkeyed
  · -- the table stays under its name even if its key is refused
    rw [hr]
    exact hkeyed
  · obtain ⟨t, ht, -⟩ := exists_table_setKey hlast hkey
    rw [hr]
    exact (SameOutline.addParts ht draft).isRegistered hkeyed

/-- Whatever calls a builder has seen, a declared name stands for the last table with it. -/
theorem IsBuilt.isRegistered (h : b.IsBuilt) : b.IsRegistered := by
  induction h with
  | start => exact fun _ => rfl
  | addTable hb draft ih => exact ih.addTable hb.sound draft
  | setPrimaryKey _ table columns ih =>
    exact (SameOutline.setPrimaryKey _ table columns).isRegistered ih
  | addIndex _ table draft ih => exact (SameOutline.addIndex _ table draft).isRegistered ih
  | addForeignKey _ _ _ ih => exact ih
  | addCheck _ table draft ih => exact (SameOutline.addCheck _ table draft).isRegistered ih
  | setColumnDefault _ table column expr ih =>
    exact (SameOutline.setColumnDefault _ table column expr).isRegistered ih
  | setIdentity _ table column ih => exact (SameOutline.setIdentity _ table column).isRegistered ih
  | shouldStop _ ih => exact (SameOutline.shouldStop _).isRegistered ih
  | issueSchema _ _ _ ih => exact ih
  | issueTable _ _ _ _ ih => exact ih
  | cancel _ ih => exact ih

/-- A call keeps names registered. -/
theorem Call.isRegistered (hc : Call b b') (hb : b.Sound) (h : b.IsRegistered) :
    b'.IsRegistered := by
  cases hc with
  | addTable draft => exact h.addTable hb draft
  | setPrimaryKey id columns => exact (SameOutline.setPrimaryKey b id columns).isRegistered h
  | addIndex id draft => exact (SameOutline.addIndex b id draft).isRegistered h
  | addForeignKey id draft => exact h
  | addCheck id draft => exact (SameOutline.addCheck b id draft).isRegistered h
  | setColumnDefault id column expr =>
    exact (SameOutline.setColumnDefault b id column expr).isRegistered h
  | setIdentity id column => exact (SameOutline.setIdentity b id column).isRegistered h
  | issue _ _ detail => exact h
  | setAudit audit => exact h

theorem Calls.isRegistered (hc : Calls b b') (hb : b.Sound) (h : b.IsRegistered) :
    b'.IsRegistered := by
  induction hc with
  | refl => exact h
  | tail hcalls hcall ih => exact hcall.isRegistered (Calls.leads hcalls hb).sound ih

/-! ## The last table of a name -/

/-- The last of the tables that are declared with a key. -/
structure IsLast (m : Model) (key : SourceKey) (id : TableId) : Prop where
  declared : ∃ t, m.table? id = some t ∧ t.declaredKey = key
  last : ∀ k t, m.table? k = some t → t.declaredKey = key → k.val ≤ id.val

/-- There is one last table of a declared name. -/
theorem IsLast.unique {m : Model} {key : SourceKey} {k : TableId} (h : IsLast m key id)
    (h' : IsLast m key k) : k = id := by
  obtain ⟨t, ht, hkey⟩ := h.declared
  obtain ⟨t', ht', hkey'⟩ := h'.declared
  exact congrArg TableId.mk (Nat.le_antisymm (h.last k t' ht' hkey') (h'.last id t ht hkey))

/-- Of a list in descending order, the greatest entry of a key is found. -/
theorem greatest_of_lookup {l : List (SourceKey × TableId)}
    (hl : l.Pairwise fun e e' => e'.2.val < e.2.val) {key : SourceKey}
    (h : l.lookup key = some id) : (key, id) ∈ l ∧ ∀ e ∈ l, e.1 = key → e.2.val ≤ id.val := by
  induction l with
  | nil => cases h
  | cons e l ih =>
    obtain ⟨hhead, htail⟩ := List.pairwise_cons.1 hl
    obtain ⟨k, i⟩ := e
    rw [List.lookup_cons] at h
    split at h
    · rename_i heq
      obtain rfl : key = k := beq_iff_eq.1 heq
      cases h
      refine ⟨List.mem_cons_self, List.forall_mem_cons.2 ⟨fun _ => Nat.le_refl _, ?_⟩⟩
      exact fun e he _ => Nat.le_of_lt (hhead e he)
    · rename_i hne
      obtain ⟨hmem, hall⟩ := ih htail h
      refine ⟨List.mem_cons_of_mem _ hmem, List.forall_mem_cons.2 ⟨fun heq => ?_, hall⟩⟩
      exact absurd heq.symm (beq_eq_false_iff_ne.1 hne)

/-- A declared name stands for a table exactly when this is the last table with it. -/
theorem IsRegistered.lookup_eq_some_iff (h : b.IsRegistered) (hb : b.Sound) (key : SourceKey) :
    b.bySource.lookup key = some id ↔ IsLast b.model key id := by
  -- what is declared last is looked up first, and has the greatest identifier
  have hordered : b.model.declarations.reverse.Pairwise fun e e' => e'.2.val < e.2.val := by
    rw [List.pairwise_reverse]
    unfold Model.declarations
    rw [List.pairwise_map]
    exact List.pairwise_map.1 hb.model.ordered
  have hmem : ∀ {key k}, (key, k) ∈ b.model.declarations.reverse
      ↔ ∃ t, b.model.table? k = some t ∧ t.declaredKey = key := by
    intro key k
    rw [List.mem_reverse]
    constructor
    · intro hk
      obtain ⟨⟨k, t⟩, he, heq⟩ := List.mem_map.1 hk
      cases heq
      exact ⟨t, tableIn_of_mem (nodup_keys_of_ordered hb.model.ordered) he, rfl⟩
    · rintro ⟨t, ht, rfl⟩
      exact List.mem_map.2 ⟨(k, t), mem_of_tableIn ht, rfl⟩
  have hlast : ∀ {k}, b.bySource.lookup key = some k → IsLast b.model key k := by
    intro k hk
    rw [h key] at hk
    obtain ⟨hfound, hall⟩ := greatest_of_lookup hordered hk
    refine ⟨hmem.1 hfound, fun k' t ht hkey => hall (key, k') (hmem.2 ⟨t, ht, hkey⟩) rfl⟩
  refine ⟨hlast, fun hid => ?_⟩
  have hsome : (b.bySource.lookup key).isSome = true := by
    rw [h key, List.lookup_isSome_iff]
    exact ⟨(key, id), hmem.2 hid.declared, beq_self_eq_true key⟩
  obtain ⟨k, hk⟩ := Option.isSome_iff_exists.1 hsome
  rw [hk, (hlast hk).unique hid]

/-- The last table that a table shares its declared name with is found under that name. -/
theorem IsRegistered.exists_isLast (h : b.IsRegistered) (hb : b.Sound) {t : Table}
    (ht : b.model.table? id = some t) : ∃ last, IsLast b.model t.declaredKey last
      ∧ b.lookup t.nspace t.sourceName = some last := by
  have hsome : (b.bySource.lookup t.declaredKey).isSome = true := by
    rw [h t.declaredKey, List.lookup_isSome_iff]
    refine ⟨(t.declaredKey, id), ?_, beq_self_eq_true _⟩
    exact List.mem_reverse.2 (List.mem_map.2 ⟨(id, t), mem_of_tableIn ht, rfl⟩)
  obtain ⟨last, hlast⟩ := Option.isSome_iff_exists.1 hsome
  refine ⟨last, (h.lookup_eq_some_iff hb _).1 hlast, ?_⟩
  unfold Builder.lookup
  rw [show b.bySource.lookup (sourceKey t.nspace t.sourceName) = some last from hlast]

/-! ## What is written of a table -/

/-- No table but one is changed. -/
def ChangesOnly (id : TableId) (b b' : Builder) : Prop :=
  ∀ k, k ≠ id → b'.model.table? k = b.model.table? k

namespace ChangesOnly

/-- A change of no table changes only any one of them. -/
theorem ofTables (h : b'.model.tables = b.model.tables) : ChangesOnly id b b' := by
  intro k _
  rw [Model.table?_eq_tableIn, h, ← Model.table?_eq_tableIn]

theorem trans (h : ChangesOnly id b b') (h' : ChangesOnly id b' b'') : ChangesOnly id b b'' :=
  fun k hk => (h' k hk).trans (h k hk)

/-- A change of a column changes its table alone. -/
theorem modifyColumnByName (b : Builder) (id : TableId) (column : String) (f : Column → Column) :
    ChangesOnly id b (b.modifyColumnByName id column f) :=
  fun k hk => (table?_modifyTable b.model id k _).trans (if_neg hk)

/-- A default changes the table of its column alone. -/
theorem setColumnDefault (b : Builder) (id : TableId) (column expr : String) :
    ChangesOnly id b (b.setColumnDefault id column expr) := by
  unfold Builder.setColumnDefault
  split
  · exact ofTables rfl
  · split
    · exact ofTables rfl
    · exact modifyColumnByName b id column _

/-- A constraint changes its table alone. -/
theorem addConstraint {table : String} {c : Sql.TableConstraint}
    (hid : (b.model.table? id).isSome = true)
    (hr : Dump.Reader.addConstraint b id table c = .ok b') : ChangesOnly id b b' := by
  unfold Dump.Reader.addConstraint at hr
  split at hr
  · cases hr
    exact ofTables rfl
  · rename_i draft _
    obtain ⟨t, ht⟩ := Option.isSome_iff_exists.1 hid
    rcases hadd : b.addConstraints id draft with ⟨_ | _, b₁⟩
    · rw [hadd] at hr
      cases hr
    · rw [hadd] at hr
      cases hr
      exact (hasParts_addConstraints ht hadd).2.1

theorem applyChange {table : String} {c : Sql.TableChange}
    (hid : (b.model.table? id).isSome = true)
    (hr : Dump.Reader.applyChange id table b c = .ok b') : ChangesOnly id b b' := by
  cases c with
  | addConstraint c => exact addConstraint hid hr
  | setDefault column text =>
    cases hr
    exact setColumnDefault b id column.value text
  | addColumn _ | addIdentity _ | other =>
    cases hr
    exact ofTables rfl

theorem foldlM_applyChange {table : String} {cs : List Sql.TableChange} (h : b.Sound)
    (hid : (b.model.table? id).isSome = true)
    (hr : cs.foldlM (Dump.Reader.applyChange id table) b = .ok b') : ChangesOnly id b b' := by
  induction cs generalizing b with
  | nil =>
    cases hr
    exact ofTables rfl
  | cons c cs ih =>
    rw [List.foldlM_cons] at hr
    obtain ⟨b₁, h₁, hr⟩ := bind_eq_ok_iff.1 hr
    have hleads := (Dump.Reader.calls_applyChange hid h₁).leads h
    exact (applyChange hid h₁).trans (ih hleads.sound (hleads.keeps id hid) hr)

end ChangesOnly

/-- What is written of a table under a declared name is done to one table, and to no other. -/
structure GoesTo (b : Builder) (nspace : Option String) (name : String) (id : TableId) : Prop where
  lookup : b.lookup nspace name = some id
  /-- Constraints and defaults of a table that is altered. -/
  changes : ∀ s n cs, Dump.splitName n = (nspace, name) →
    Dump.Reader.applyChanges s b [.alterTable n cs] = cs.foldlM (Dump.Reader.applyChange id name) b
      ∧ ∀ b', cs.foldlM (Dump.Reader.applyChange id name) b = .ok b' → ChangesOnly id b b'
  /-- A column of an altered table that becomes an identity column. -/
  identity : ∀ (s : Dump.Statement) (table column : List Char),
    Dump.wordAfter? ["TABLE", "ONLY"] (Text.words s.text.toList) = some table →
    Dump.wordAfter? ["COLUMN"] (Text.words s.text.toList) = some column →
    (Dump.splitDotted table).1.map String.ofList = nspace →
    String.ofList (Dump.splitDotted table).2 = name →
      Dump.Reader.addIdentity b s = b.setIdentity id (String.ofList column)
        ∧ ChangesOnly id b (b.setIdentity id (String.ofList column))
  index : ∀ s iname n unique parts predicate, Dump.splitName n = (nspace, name) →
    ∃ d : IndexDraft, d.columns = parts.map Dump.Reader.keyDraft ∧ d.unique = unique
      ∧ Dump.Reader.addIndex s b (.createIndex iname n unique parts predicate) = b.addIndex id d
      ∧ ChangesOnly id b (b.addIndex id d)
  /-- Foreign keys that name the schema, also while others are resolved. -/
  parent : ∀ (b' : Builder) (p : PendingForeignKey), b'.bySource = b.bySource → nspace.isSome = true →
    p.draft.referencedNamespace = nspace → p.draft.referencedTable = name → b'.parentOf p = some id

/-- What is found under a name is done to it. -/
theorem goesTo_of_lookup (h : b.Sound) {nspace : Option String} {name : String}
    (hl : b.lookup nspace name = some id) : b.GoesTo nspace name id where
  lookup := hl
  changes s n cs hn := by
    have hname : b.lookup (Dump.splitName n).1 (Dump.splitName n).2 = some id := by rw [hn, hl]
    refine ⟨?_, fun b' hr => ChangesOnly.foldlM_applyChange h (isSome_of_lookup h hl) hr⟩
    unfold Dump.Reader.applyChanges
    dsimp only
    rw [hname, hn]
    exact bind_pure _
  identity s table column htable hcolumn hnspace hname := by
    refine ⟨?_, ChangesOnly.modifyColumnByName b id _ _⟩
    unfold Dump.Reader.addIdentity
    dsimp only
    rw [htable, hcolumn]
    dsimp only
    rw [hnspace, hname, hl]
  index s iname n unique parts predicate hn := by
    refine ⟨⟨iname.map fun n => (Dump.splitName n).2, parts.map Dump.Reader.keyDraft, unique⟩, rfl,
      rfl, ?_, (Extends.addIndex b id (List.mem_singleton_self _)).others⟩
    have hname : b.lookup (Dump.splitName n).1 (Dump.splitName n).2 = some id := by rw [hn, hl]
    unfold Dump.Reader.addIndex
    dsimp only
    rw [hname]
  -- a reference may be written in a builder that has more tables by then
  parent b' p hsame hsome hnspace hname := by
    obtain ⟨ns, rfl⟩ := Option.isSome_iff_exists.1 hsome
    unfold parentOf
    rw [hnspace, hname]
    dsimp only
    unfold Builder.lookup at hl ⊢
    rw [hsame]
    exact hl

/-- **Declared names.**  Under the name a table was declared with, the last table is found whose name
is the same in lower case, and what is written of the name is done to this one; so the table itself is
found exactly if no later one shares its name. -/
theorem IsBuilt.lookup_declared (h : b.IsBuilt) {t : Table} (ht : b.model.table? id = some t) :
    (∃ last, IsLast b.model t.declaredKey last ∧ b.GoesTo t.nspace t.sourceName last)
      ∧ (b.GoesTo t.nspace t.sourceName id ↔ ∀ k u, b.model.table? k = some u →
        u.declaredKey = t.declaredKey → k.val ≤ id.val) := by
  obtain ⟨last, hlast, hl⟩ := h.isRegistered.exists_isLast h.sound ht
  refine ⟨⟨last, hlast, goesTo_of_lookup h.sound hl⟩, fun hg => ?_, fun hall => ?_⟩
  · obtain rfl : last = id := Option.some.inj (hl.symm.trans hg.lookup)
    exact hlast.last
  · have hself : IsLast b.model t.declaredKey id := ⟨⟨t, ht, rfl⟩, hall⟩
    obtain rfl : last = id := hself.unique hlast
    exact goesTo_of_lookup h.sound hl

/-- Two tables whose names differ in case, the second of which is renamed. -/
def twinBuilder : Builder :=
  (((newBuilder .postgres).addTable { TableDraft.empty none "T" with
    columns := [.plain "a" ⟨"integer", [], [], 0, "integer"⟩] }).2.addTable
      { TableDraft.empty none "t" with
        columns := [.plain "a" ⟨"integer", [], [], 0, "integer"⟩] }).2

theorem lookup_declared_twinBuilder : twinBuilder.IsBuilt
    ∧ ∃ t, twinBuilder.model.table? ⟨1⟩ = some t ∧ t.sourceName = "T"
      ∧ (∃ last, IsLast twinBuilder.model t.declaredKey last
        ∧ twinBuilder.GoesTo t.nspace t.sourceName last)
      ∧ (twinBuilder.GoesTo t.nspace t.sourceName ⟨1⟩ ↔ ∀ k u, twinBuilder.model.table? k = some u →
        u.declaredKey = t.declaredKey → k.val ≤ 1) := by
  have hbuilt : twinBuilder.IsBuilt := .addTable (.addTable (.start _ _ _ _) _) _
  have hfirst : (twinBuilder.model.table? ⟨1⟩).map (·.sourceName) = some "T" := by decide +kernel
  obtain ⟨t, ht, hname⟩ := Option.map_eq_some_iff.1 hfirst
  exact ⟨hbuilt, t, ht, hname, hbuilt.lookup_declared ht⟩

end Builder

/-- A dump of two tables whose names differ in case, and a key for the first. -/
def twinDump : String :=
  "CREATE TABLE \"T\" (a integer);
CREATE TABLE t (a integer);
ALTER TABLE ONLY \"T\" ADD CONSTRAINT k PRIMARY KEY (a);"

/-- The numbers of the tables, their declared names and how many columns their keys have. -/
def keyLengths (m : Model) : List (Nat × String × Nat) :=
  m.tables.map fun e => (e.1.val, e.2.sourceName, e.2.primaryKey.length)

/-- The second table is found under the name of the first, and is given its key. -/
theorem misplaced_twinDump :
    (∃ t, Builder.twinBuilder.model.table? ⟨1⟩ = some t
      ∧ Builder.twinBuilder.lookup t.nspace t.sourceName ≠ some ⟨1⟩)
    ∧ ((Dump.Reader.postgresReader.read (newBuilder .postgres) twinDump).map fun p =>
      ((p.2.lookup none "T").map (·.val), keyLengths p.2.model))
      = .ok (some 3, [(1, "T", 0), (3, "t", 1)]) := by
  refine ⟨?_, by decide +kernel⟩
  have hfound : (Builder.twinBuilder.model.table? ⟨1⟩).map
      (fun t => Builder.twinBuilder.lookup t.nspace t.sourceName) = some (some ⟨3⟩) := by
    decide +kernel
  obtain ⟨t, ht, hl⟩ := Option.map_eq_some_iff.1 hfound
  exact ⟨t, ht, by rw [hl]; decide⟩

end SchemaBridge
