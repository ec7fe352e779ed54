/-
# Names that give a schema

A name with a schema stands for the last table that was declared with both.  If there is none, it
stands for the last table that was declared with the name and without a schema.  Tables of other
schemas are never meant, whatever has been added, renamed or left out.

## Key statements

* `IsBuilt.lookup_eq_some_iff`: what a name with a schema stands for, after any calls.
* `Work.IsReached.qualified`: what is done under such a name, and what becomes of the foreign keys
  that give one.
-/
import SchemaBridge.Proofs.Assembly.Ledger
import SchemaBridge.Proofs.Assembly.Lookup

namespace SchemaBridge

namespace Builder

variable {b b' : Builder} {id : TableId}

/-! ## Names that are remembered -/

/-- Every declared name is remembered once. -/
def HasNamesOnce (b : Builder) : Prop := (b.bySource.map (·.1)).Nodup

/-- A name that is remembered takes the place of the same name. -/
theorem HasNamesOnce.remember (h : b.HasNamesOnce) (key : SourceKey) (id : TableId) :
    (b.remember key id).HasNamesOnce := by
  have hrest : ((b.bySource.filter (·.1 ≠ key)).map (·.1)).Nodup :=
    List.Nodup.sublist (List.filter_sublist.map _) h
  have hnew : key ∉ (b.bySource.filter (·.1 ≠ key)).map (·.1) := by
    intro hk
    obtain ⟨e, he, rfl⟩ := List.mem_map.1 hk
    exact absurd rfl (of_decide_eq_true (List.mem_filter.1 he).2)
  show ((b.bySource.filter (·.1 ≠ key) ++ [(key, id)]).map (·.1)).Nodup
  rw [List.map_append, List.map_singleton]
  exact hrest.append (List.nodup_singleton key) (List.disjoint_singleton.2 hnew)

/-- A new table is remembered once. -/
theorem HasNamesOnce.addTable (h : b.HasNamesOnce) (hb : b.Sound) (draft : TableDraft) :
    (b.addTable draft).2.HasNamesOnce := by
  rcases addTable_cases b draft with ⟨hsame, -⟩ | ⟨name, collided, columns, -, hcases⟩
  · unfold HasNamesOnce
    rw [hsame.bySource]
    exact h
  have hlast : ∀ e ∈ b.model.tables, e.1.val < b.model.nextId := fun _ he => hb.model.key_lt he
  have hplaced : (b.placed draft name collided columns).HasNamesOnce := by
    have hnew := h.remember (sourceKey draft.nspace draft.name) ⟨b.model.nextId⟩
    cases collided <;> exact hnew
  have hkeyed := SameOutline.setKey (b.placed draft name collided columns) ⟨b.model.nextId⟩ draft
  unfold HasNamesOnce at hplaced ⊢
  rw [← hkeyed.bySource] at hplaced
  rcases hcases with ⟨e, b₁, hkey, hr⟩ | ⟨b₁, hkey, hr⟩
  all_goals
    rw [hkey] at hplaced
    rw [hr]
  · exact hplaced
  · obtain ⟨t, ht, -⟩ := exists_table_setKey hlast hkey
    rw [(SameOutline.addParts ht draft).bySource]
    exact hplaced

/-- So every name is remembered once. -/
theorem IsBuilt.hasNamesOnce (h : b.IsBuilt) : b.HasNamesOnce := by
  have hkept : ∀ {b b' : Builder}, b.SameOutline b' → b.HasNamesOnce → b'.HasNamesOnce := by
    intro b b' hsame hb
    unfold HasNamesOnce
    rw [hsame.bySource]
    exact hb
  induction h with
  | start => exact List.nodup_nil
  | addTable hb draft ih => exact ih.addTable hb.sound draft
  | setPrimaryKey _ table columns ih => exact hkept (.setPrimaryKey _ table columns) ih
  | addIndex _ table draft ih => exact hkept (.addIndex _ table draft) ih
  | addForeignKey _ _ _ ih => exact ih
  | addCheck _ table draft ih => exact hkept (.addCheck _ table draft) ih
  | setColumnDefault _ table column expr ih =>
    exact hkept (.setColumnDefault _ table column expr) ih
  | setIdentity _ table column ih => exact hkept (.setIdentity _ table column) ih
  | shouldStop _ ih => exact hkept (.shouldStop _) ih
  | issueSchema _ _ _ ih => exact ih
  | issueTable _ _ _ _ ih => exact ih
  | cancel _ ih => exact ih

/-! ## The table that is meant -/

/-- No table is declared with a key. -/
def IsFree (m : Model) (key : SourceKey) : Prop :=
  ∀ k t, m.table? k = some t → t.declaredKey ≠ key

/-- The table that a name in a schema stands for: the last one declared with both or, if there is
none, the last one declared with the name alone. -/
inductive StandsFor (m : Model) (ns name : String) (id : TableId) : Prop
  | declared (h : IsLast m (sourceKey (some ns) name) id)
  | bare (hfree : IsFree m (sourceKey (some ns) name)) (h : IsLast m (sourceKey none name) id)

/-- A name of a table is not free. -/
theorem IsLast.not_isFree {m : Model} {key : SourceKey} (h : IsLast m key id) : ¬ IsFree m key := by
  intro hfree
  obtain ⟨t, ht, hkey⟩ := h.declared
  exact hfree id t ht hkey

/-- Of names that are remembered once, those of a key are one or none. -/
theorem filter_eq_singleton_iff {l : List (SourceKey × TableId)} (h : (l.map (·.1)).Nodup)
    {p : SourceKey × TableId → Bool} {key : SourceKey} (hp : ∀ e ∈ l, p e = true ↔ e.1 = key)
    {e : SourceKey × TableId} : l.filter p = [e] ↔ e.1 = key ∧ l.lookup key = some e.2 := by
  induction l with
  | nil => simp
  | cons a l ih =>
    obtain ⟨hnew, hnodup⟩ := List.nodup_cons.1 h
    obtain ⟨ha, hl⟩ := List.forall_mem_cons.1 hp
    obtain ⟨k, i⟩ := a
    by_cases hk : k = key
    · -- the first entry is the one, and no other has its key
      have hrest : l.filter p = [] := by
        refine List.filter_eq_nil_iff.2 fun e he hpe => hnew ?_
        exact List.mem_map.2 ⟨e, he, ((hl e he).1 hpe).trans hk.symm⟩
      rw [List.filter_cons_of_pos (ha.2 hk), hrest, List.lookup_cons, beq_iff_eq.2 hk.symm]
      constructor
      · intro he
        cases he
        exact ⟨hk, rfl⟩
      · rintro ⟨hkey, hi⟩
        obtain rfl : i = e.2 := Option.some.inj hi
        rw [hk, ← hkey]
    · have hne : (key == k) = false := beq_eq_false_iff_ne.2 fun h => hk h.symm
      rw [List.filter_cons_of_neg fun h => hk (ha.1 h), List.lookup_cons, hne]
      exact ih hnodup hl

/-- What a name stands for is a matter of the tables alone. -/
theorem StandsFor.of_tables {m m' : Model} (hm : m'.tables = m.tables) {ns name : String}
    (h : StandsFor m ns name id) : StandsFor m' ns name id := by
  have ht : ∀ k, m'.table? k = m.table? k := by
    intro k
    rw [Model.table?_eq_tableIn, hm, ← Model.table?_eq_tableIn]
  have hlast : ∀ {key}, IsLast m key id → IsLast m' key id := by
    intro key hid
    refine ⟨?_, fun k t hk => hid.last k t ((ht k).symm.trans hk)⟩
    rw [ht]
    exact hid.declared
  rcases h with h | ⟨hfree, h⟩
  · exact .declared (hlast h)
  · exact .bare (fun k t hk => hfree k t ((ht k).symm.trans hk)) (hlast h)

/-- What a name with a schema is found to be. -/
theorem IsBuilt.lookup_eq_some_iff (h : b.IsBuilt) {ns name : String} :
    b.lookup (some ns) name = some id ↔ StandsFor b.model ns name id := by
  have hfound : ∀ {key k}, b.bySource.lookup key = some k ↔ IsLast b.model key k :=
    h.isRegistered.lookup_eq_some_iff h.sound _
  unfold Builder.lookup
  cases hl : b.bySource.lookup (sourceKey (some ns) name) with
  | some k =>
    have hk := hfound.1 hl
    dsimp only
    constructor
    · intro hid
      obtain rfl : k = id := Option.some.inj hid
      exact .declared hk
    · rintro (hid | ⟨hfree, -⟩)
      · rw [hid.unique hk]
      · exact absurd hfree hk.not_isFree
  | none =>
    have hfree : IsFree b.model (sourceKey (some ns) name) := by
      intro k t ht hkey
      obtain ⟨last, hlast, -⟩ := h.isRegistered.exists_isLast h.sound ht
      rw [hkey, ← hfound, hl] at hlast
      cases hlast
    -- what matches is declared with the name and without a schema
    have hmatch : ∀ e ∈ b.bySource, ((e.1.2 == Text.lowerText name
        && ((some ns).isNone || e.1.1.isNone)) = true ↔ e.1 = sourceKey none name) := by
      rintro ⟨⟨schema, n⟩, i⟩ -
      simp [sourceKey, and_comm]
    have hsingle := fun e => filter_eq_singleton_iff h.hasNamesOnce hmatch (e := e)
    dsimp only
    constructor
    · intro hid
      split at hid
      · rename_i e he
        obtain ⟨-, hlast⟩ := (hsingle e).1 he
        obtain rfl : e.2 = id := Option.some.inj hid
        exact .bare hfree (hfound.1 hlast)
      · cases hid
    · rintro (hid | ⟨-, hid⟩)
      · exact absurd hfree hid.not_isFree
      · rw [(hsingle (sourceKey none name, id)).2 ⟨rfl, hfound.2 hid⟩]

/-- The last table of a key is there if any table is declared with it. -/
theorem IsBuilt.exists_isLast_of_not_isFree (h : b.IsBuilt) {key : SourceKey}
    (hkey : ¬ IsFree b.model key) : ∃ last, IsLast b.model key last := by
  unfold IsFree at hkey
  push Not at hkey
  obtain ⟨k, t, ht, rfl⟩ := hkey
  obtain ⟨last, hlast, -⟩ := h.isRegistered.exists_isLast h.sound ht
  exact ⟨last, hlast⟩

/-- The schema of the table that is meant is the one that is given, in any case of its letters; or the
table has none, and then no table is declared with both. -/
theorem StandsFor.nspace {m : Model} {ns name : String} (h : StandsFor m ns name id) {t : Table}
    (ht : m.table? id = some t) : t.nspace.map Text.lowerText = some (Text.lowerText ns)
      ∨ t.nspace = none ∧ IsFree m (sourceKey (some ns) name) := by
  rcases h with h | ⟨hfree, h⟩
  all_goals
    obtain ⟨u, hu, hkey⟩ := h.declared
    obtain rfl : u = t := Option.some.inj (hu.symm.trans ht)
  · exact Or.inl (congrArg Prod.fst hkey)
  · exact Or.inr ⟨Option.map_eq_none_iff.1 (congrArg Prod.fst hkey), hfree⟩

/-- Only tables of the schema are meant, exactly if no table is declared with the name alone or one is
declared with both. -/
theorem IsBuilt.nspace_iff (h : b.IsBuilt) (ns name : String) :
    (∀ id t, StandsFor b.model ns name id → b.model.table? id = some t →
        t.nspace.map Text.lowerText = some (Text.lowerText ns))
      ↔ IsFree b.model (sourceKey none name) ∨ ¬ IsFree b.model (sourceKey (some ns) name) := by
  constructor
  · intro hall
    by_contra hneither
    push Not at hneither
    obtain ⟨hbare, hfree⟩ := hneither
    obtain ⟨last, hlast⟩ := h.exists_isLast_of_not_isFree hbare
    obtain ⟨t, ht, hkey⟩ := hlast.declared
    have hns := hall last t (.bare hfree hlast) ht
    rw [show t.nspace.map Text.lowerText = none from congrArg Prod.fst hkey] at hns
    cases hns
  · intro hor id t hid ht
    rcases hid.nspace ht with hns | ⟨hnone, hfree⟩
    · exact hns
    · rcases hid with hid | ⟨-, hid⟩
      · exact absurd hfree hid.not_isFree
      · rcases hor with hbare | hdeclared
        · exact absurd hbare hid.not_isFree
        · exact absurd hfree hdeclared

/-! ## What is written of a name -/

/-- What is written of a table under a declared name is done to no table, and an issue says that there
is none. -/
structure GoesNowhere (b : Builder) (nspace : Option String) (name : String) : Prop where
  lookup : b.lookup nspace name = none
  changes : ∀ s n cs, Dump.splitName n = (nspace, name) →
    Dump.Reader.applyChanges s b [.alterTable n cs] = .ok (Dump.Reader.missingTable b s name)
  identity : ∀ (s : Dump.Statement) (table column : List Char),
    Dump.wordAfter? ["TABLE", "ONLY"] (Text.words s.text.toList) = some table →
    Dump.wordAfter? ["COLUMN"] (Text.words s.text.toList) = some column →
    (Dump.splitDotted table).1.map String.ofList = nspace →
    String.ofList (Dump.splitDotted table).2 = name →
      Dump.Reader.addIdentity b s = Dump.Reader.missingTable b s name
  index : ∀ s iname n unique parts predicate, Dump.splitName n = (nspace, name) →
    Dump.Reader.addIndex s b (.createIndex iname n unique parts predicate)
      = Dump.Reader.missingTable b s name

/-- A name that is not found leads nowhere. -/
theorem goesNowhere_of_lookup {nspace : Option String} {name : String}
    (hl : b.lookup nspace name = none) : b.GoesNowhere nspace name where
  lookup := hl
  changes s n cs hn := by
    have hname : b.lookup (Dump.splitName n).1 (Dump.splitName n).2 = none := by rw [hn, hl]
    unfold Dump.Reader.applyChanges
    dsimp only
    rw [hname, hn]
    rfl
  identity s table column htable hcolumn hnspace hname := by
    unfold Dump.Reader.addIdentity
    dsimp only
    rw [htable, hcolumn]
    dsimp only
    rw [hnspace, hname, hl]
  index s iname n unique parts predicate hn := by
    have hname : b.lookup (Dump.splitName n).1 (Dump.splitName n).2 = none := by rw [hn, hl]
    unfold Dump.Reader.addIndex
    dsimp only
    rw [hname, hn]

/-- What is written of a name with a schema is done to the table it stands for. -/
theorem IsBuilt.goesTo_iff (h : b.IsBuilt) {ns name : String} :
    b.GoesTo (some ns) name id ↔ StandsFor b.model ns name id := by
  rw [← h.lookup_eq_some_iff]
  exact ⟨fun hg => hg.lookup, fun hl => goesTo_of_lookup h.sound hl⟩

/-- If it stands for none, nothing is done to any. -/
theorem IsBuilt.goesNowhere (h : b.IsBuilt) {ns name : String}
    (hnone : ∀ id, ¬ StandsFor b.model ns name id) : b.GoesNowhere (some ns) name := by
  refine goesNowhere_of_lookup (Option.eq_none_iff_forall_ne_some.2 fun id hid => ?_)
  exact hnone id (h.lookup_eq_some_iff.1 hid)

/-- A table that the policy leaves out leaves nothing behind. -/
theorem addTable_skipped {draft : TableDraft} (hr : b.addTable draft = (.ok none, b')) :
    (∃ kept, b.model.tableByName? draft.name = some kept) ∧ b'.model.tables = b.model.tables
      ∧ b'.pending = b.pending := by
  unfold addTable at hr
  rcases hname : b.chooseName draft with ⟨e | _ | choice, b₀⟩
  all_goals rw [hname] at hr
  · cases hr
  · cases hr
    unfold chooseName at hname
    split at hname
    · cases hname
    · rename_i kept hkept
      refine ⟨⟨kept, hkept⟩, ?_⟩
      split at hname <;> cases hname
      exact ⟨rfl, rfl⟩
  · dsimp only at hr
    split at hr
    · cases hr
    · split at hr <;> cases hr

end Builder

/-! ## Whole runs -/

/-- Calls lead to builders that are built by calls. -/
theorem Work.IsReached.isBuilt {w : Work} {calls : List (TableId × ForeignKeyDraft)}
    (h : w.IsReached calls) : w.builder.IsBuilt := by
  induction h with
  | start source target policy audit => exact .start source target policy audit
  | @call w calls hw op hpermitted hown ih =>
    cases op with
    | addTable draft => exact .addTable ih draft
    | lookup nspace name => exact ih
    | setPrimaryKey table columns => exact .setPrimaryKey ih table columns
    | addIndex table draft => exact .addIndex ih table draft
    | addForeignKey table draft => exact .addForeignKey ih table draft
    | addCheck table draft => exact .addCheck ih table draft
    | setColumnDefault table column expr => exact .setColumnDefault ih table column expr
    | setIdentity table column => exact .setIdentity ih table column
    | shouldStop => exact .shouldStop ih
    | issue category target detail =>
      rcases hpermitted with rfl | ⟨id, hid, rfl⟩
      · exact .issueSchema ih category detail
      · exact .issueTable ih category (hw.waits.1.told id hid) detail
    | cancel => exact .cancel ih

/-- What a foreign key that gives a schema becomes: one that refers to the table that is meant, or an
issue about a missing reference. -/
def Builder.RefersAsTold (m : Model) (call : TableId × ForeignKeyDraft) (s : Builder.Settled) : Prop :=
  ∀ ns, call.2.referencedNamespace = some ns → match s.2 with
    | .ok f => Builder.StandsFor m ns call.2.referencedTable f.referencedTable
    | .error i => i.category = .missingReference ∧ i.target = .table call.1

/-- What names that give a schema come to. -/
structure Work.KeepsSchemas (w : Work) (calls : List (TableId × ForeignKeyDraft)) : Prop where
  applied : ∀ ns name id, w.builder.GoesTo (some ns) name id
    ↔ Builder.StandsFor w.builder.model ns name id
  unknown : ∀ ns name, (∀ id, ¬ Builder.StandsFor w.builder.model ns name id) →
    w.builder.GoesNowhere (some ns) name
  /-- When no table but those of the schema is meant. -/
  schema : ∀ ns name, (∀ id t, Builder.StandsFor w.builder.model ns name id →
      w.builder.model.table? id = some t → t.nspace.map Text.lowerText = some (Text.lowerText ns))
    ↔ Builder.IsFree w.builder.model (sourceKey none name)
      ∨ ¬ Builder.IsFree w.builder.model (sourceKey (some ns) name)
  foreignKeys : ∃ l : List Builder.Settled, List.Forall₂ w.builder.Becomes calls l
    ∧ List.Forall₂ (Builder.RefersAsTold w.builder.model) calls l
    ∧ w.builder.finish.tables = w.builder.model.tables.map
      (fun e => (e.1, { e.2 with foreignKeys := Builder.keysOf e.1 l }))
    ∧ w.builder.finish.issues = w.builder.model.issues ++ Builder.issuesOf l
  /-- When what is written of a table that is left out is done to the one that is kept. -/
  skipped : ∀ draft b', w.builder.addTable draft = (.ok none, b') →
    ∃ kept, w.builder.model.tableByName? draft.name = some kept
      ∧ b'.model.tables = w.builder.model.tables ∧ b'.pending = w.builder.pending
      ∧ ∀ ns, draft.nspace = some ns → (b'.GoesTo (some ns) draft.name kept.id
        ↔ Builder.StandsFor w.builder.model ns draft.name kept.id)

/-- **Names that give a schema.**  After any calls, what is written of such a name is done to the table
it stands for and to no other, and a foreign key that gives a schema refers to this table or is dropped
with an issue. -/
theorem Work.IsReached.qualified {w : Work} {calls : List (TableId × ForeignKeyDraft)}
    (h : w.IsReached calls) : w.KeepsSchemas calls := by
  obtain ⟨hsound, hwaits⟩ := h.waits
  have hbuilt := h.isBuilt
  refine ⟨fun _ _ _ => hbuilt.goesTo_iff, fun _ _ => hbuilt.goesNowhere, hbuilt.nspace_iff, ?_, ?_⟩
  · obtain ⟨l, hl, htables, hissues, -⟩ := hwaits.finish hsound.builder
    refine ⟨l, hl, hl.imp fun call s hs ns hns => ?_, htables, hissues⟩
    obtain ⟨-, child, -, hbecomes⟩ := hs
    cases hs : s.2 with
    | error i =>
      rw [hs] at hbecomes
      obtain ⟨-, why, rfl⟩ := hbecomes
      exact ⟨rfl, rfl⟩
    | ok f =>
      rw [hs] at hbecomes
      -- a key that gives a schema is not looked up without it
      have hparent := hbecomes.parent
      unfold Builder.parentOf at hparent
      rw [show (Builder.waiting child call.1 call.2).draft.referencedNamespace = some ns from hns]
        at hparent
      exact hbuilt.lookup_eq_some_iff.1 hparent
  · intro draft b' hr
    obtain ⟨⟨kept, hkept⟩, htables, hpending⟩ := Builder.addTable_skipped hr
    have hbuilt' : b'.IsBuilt := by
      have hadded := Builder.IsBuilt.addTable hbuilt draft
      rw [hr] at hadded
      exact hadded
    refine ⟨kept, hkept, htables, hpending, fun ns _ => hbuilt'.goesTo_iff.trans ?_⟩
    exact ⟨fun hid => hid.of_tables htables.symm, fun hid => hid.of_tables htables⟩

/-- A table of a schema that is left out, as its name is taken by one that was declared without. -/
def salesDraft : TableDraft :=
  { TableDraft.empty (some "sales") "orders" with
    columns := [.plain "x" ⟨"integer", [], [], 0, "integer"⟩]
    primaryKey := [("x", false)] }

/-- A foreign key that names the schema. -/
def salesReference : ForeignKeyDraft :=
  ⟨none, ["a"], some "Sales", "orders", [], .noAction, .noAction⟩

/-- A table without a schema is kept, one of a schema is left out, and a third refers to the latter. -/
def skippedWork : Work :=
  ([.addTable { salesDraft with nspace := none }, .addTable salesDraft,
    .addTable { TableDraft.empty (some "shop") "items" with
      columns := [.plain "a" ⟨"integer", [], [], 0, "integer"⟩]
      foreignKeys := [salesReference] }] :
    List Operation).foldl (fun w op => op.leave w) (Work.start .postgres .google .skip default)

theorem qualified_skippedWork :
    skippedWork.IsReached [(⟨3⟩, salesReference)]
      ∧ skippedWork.KeepsSchemas [(⟨3⟩, salesReference)] := by
  have h₁ := Work.IsReached.call (.start .postgres .google .skip default)
    (show (Operation.addTable { salesDraft with nspace := none }).IsPermitted _ from trivial) trivial
  have h₂ := h₁.call (show (Operation.addTable salesDraft).IsPermitted _ from trivial) trivial
  have h₃ := h₂.call (show (Operation.addTable { TableDraft.empty (some "shop") "items" with
    columns := [.plain "a" ⟨"integer", [], [], 0, "integer"⟩]
    foreignKeys := [salesReference] }).IsPermitted _ from trivial) trivial
  have hcalls : ∀ calls, calls = [(⟨3⟩, salesReference)] → skippedWork.IsReached calls →
      skippedWork.IsReached [(⟨3⟩, salesReference)] := fun _ hc h => hc ▸ h
  have hreached := hcalls _ (by decide +kernel) h₃
  exact ⟨hreached, hreached.qualified⟩

/-- A dump of a table without a schema, one of a schema and the same name, a key for the latter, and a
table that refers to it. -/
def skippedDump : String :=
  "CREATE TABLE orders (id integer, n integer);
CREATE TABLE sales.orders (id integer);
ALTER TABLE ONLY sales.orders ADD CONSTRAINT orders_pkey PRIMARY KEY (id);
CREATE TABLE items (order_id integer REFERENCES sales.orders (id));"

/-- The schemas and names of the tables of a model, how many columns their keys have, and the tables
they refer to. -/
def keysAndParents (m : Model) : List (Option String × String × Nat × List Nat) :=
  m.tables.map fun e => (e.2.nspace, e.2.sourceName, e.2.primaryKey.length,
    e.2.foreignKeys.map (·.referencedTable.val))

/-- The table that was declared without a schema is given the key of the one that is left out, and the
foreign key that names the schema refers to it. -/
theorem rebound_skippedDump :
    ((Dump.Reader.postgresReader.read (Builder.start .postgres .google .skip default)
      skippedDump).map fun p => keysAndParents p.2.finish)
      = .ok [(none, "orders", 1, []), (none, "items", 0, [1])] := by
  decide +kernel

end SchemaBridge
