/-
# What is asked for and what becomes of it

Each index and check that is asked for becomes one of its table or, in the case of an index, an issue
about it.  A foreign key waits, and becomes one of its table or an issue about it once every table is
known.  So nothing that is asked for gets lost, whatever calls are made, failing ones among them.

## Key statements

* `exists_answers`, `exists_checks`: indexes and checks of one table.
* `Waits.finish`: what becomes of the foreign keys that wait.
* `Work.IsReached.waits`: which ones wait after any calls.
* `Work.IsReached.accounts`: what has become of everything that was asked for.
-/
import Mathlib.Algebra.BigOperators.Group.List.Lemmas
import SchemaBridge.Proofs.Assembly.Outline
import SchemaBridge.Proofs.Assembly.Resolution
import SchemaBridge.Proofs.Assembly.Runs

namespace SchemaBridge

namespace Builder

variable {b b' b'' : Builder} {id : TableId} {t : Table}

/-! ## Indexes -/

/-- What becomes of an index: one with the columns that were named, in their order and directions, or
an issue about the table that says which name is no column. -/
def Answers (id : TableId) (t : Table) (d : IndexDraft) : Except Issue Index → Prop
  | .ok i => List.Forall₂ t.NamesPart d.columns i.keys ∧ i.unique = d.unique
      ∧ ∀ n, d.name = some n → i.name = n
  | .error issue => ∃ k ∈ d.columns, t.columnByName? k.1 = none ∧ issue = lostIndexIssue id t d k.1

/-- A model with what has become of indexes of a table. -/
def withIndexes (m : Model) (id : TableId) (l : List (Except Issue Index)) : Model :=
  { m with
    tables := changeIn m.tables id fun t => { t with indexes := t.indexes ++ kept l }
    issues := m.issues ++ lost l
    nextId := m.nextId + l.length }

/-- An index is asked for.  Either the table has it as its last one and nothing is said, or one issue is
raised and no table is changed. -/
def AnswersIndex (id : TableId) (d : IndexDraft) (b b' : Builder) : Prop :=
  ∃ t a, b.model.table? id = some t ∧ Answers id t d a ∧ b'.model = withIndexes b.model id [a]

/-- If no index is kept, the model has issues and a counter that went on. -/
theorem withIndexes_of_kept_eq_nil (m : Model) (id : TableId) {l : List (Except Issue Index)}
    (h : kept l = []) : withIndexes m id l
      = { m with issues := m.issues ++ lost l, nextId := m.nextId + l.length } := by
  have hself : ∀ t : Table, { t with indexes := t.indexes ++ kept l } = t := by
    intro t
    rw [h, List.append_nil]
  unfold withIndexes
  rw [changeIn_eq_self m.tables id hself]

/-- Nothing is asked for. -/
theorem withIndexes_nil (m : Model) (id : TableId) : withIndexes m id [] = m := by
  rw [withIndexes_of_kept_eq_nil m id rfl, show lost ([] : List (Except Issue Index)) = [] from rfl,
    List.append_nil]
  rfl

/-- One thing is asked for, and then others. -/
theorem withIndexes_cons (m : Model) (id : TableId) (a : Except Issue Index)
    (l : List (Except Issue Index)) :
    withIndexes (withIndexes m id [a]) id l = withIndexes m id (a :: l) := by
  have hnext : m.nextId + [a].length + l.length = m.nextId + (a :: l).length := by
    simp only [List.length_cons, List.length_nil]
    omega
  unfold withIndexes
  simp only [Mapper.changeIn_changeIn, List.append_assoc, kept_cons a l, lost_cons a l, hnext]

/-- The indexes that are kept come after those of the table. -/
theorem table?_withIndexes {m : Model} (ht : m.table? id = some t)
    (l : List (Except Issue Index)) :
    (withIndexes m id l).table? id = some { t with indexes := t.indexes ++ kept l } := by
  unfold withIndexes
  rw [Model.table?_eq_tableIn, tableIn_changeIn, if_pos rfl, ← Model.table?_eq_tableIn, ht]
  rfl

/-- What is answered depends on the name and the columns of the table alone. -/
theorem answers_congr {t' : Table} (hname : t'.name = t.name) (hcolumns : t'.columns = t.columns)
    {d : IndexDraft} {a : Except Issue Index} (h : Answers id t' d a) : Answers id t d a := by
  have hfind : ∀ n, t'.columnByName? n = t.columnByName? n := by
    intro n
    unfold Table.columnByName?
    rw [hcolumns]
  cases a with
  | ok i =>
    obtain ⟨hkeys, hrest⟩ := h
    refine ⟨hkeys.imp fun k part hk => ?_, hrest⟩
    obtain ⟨⟨c, hc, hid⟩, hdesc⟩ := hk
    exact ⟨⟨c, (hfind k.1).symm.trans hc, hid⟩, hdesc⟩
  | error issue =>
    obtain ⟨k, hk, hmissing, hissue⟩ := h
    refine ⟨k, hk, (hfind k.1).symm.trans hmissing, ?_⟩
    rw [hissue]
    unfold lostIndexIssue indexName
    rw [hname]

/-- One index. -/
theorem exists_answer (ht : b.model.table? id = some t) (d : IndexDraft) :
    ∃ a, Answers id t d a ∧ (b.addIndex id d).model = withIndexes b.model id [a] := by
  cases hk : resolveKeys t d.columns with
  | ok keys =>
    refine ⟨.ok (newIndex b t d keys), ⟨resolveKeys_eq_ok_iff.1 hk, rfl, ?_⟩, ?_⟩
    · exact (follows_newIndex hk).name
    · rw [addIndex_ok ht hk]
      unfold withPart withIndexes Model.modifyTable
      rw [show lost [Except.ok (newIndex b t d keys)] = [] from rfl, List.append_nil]
      rfl
  | error missing =>
    obtain ⟨k, hmem, rfl, hmissing⟩ := exists_of_resolveEach_error hk
    refine ⟨.error (lostIndexIssue id t d k.1), ⟨k, hmem, hmissing, rfl⟩, ?_⟩
    rw [addIndex_error ht hk, withIndexes_of_kept_eq_nil b.model id rfl]
    rfl

/-- One index after another. -/
theorem exists_answers (ht : b.model.table? id = some t) (ds : List IndexDraft) :
    ∃ l, List.Forall₂ (Answers id t) ds l
      ∧ (ds.foldl (·.addIndex id ·) b).model = withIndexes b.model id l := by
  induction ds generalizing b t with
  | nil => exact ⟨[], .nil, (withIndexes_nil b.model id).symm⟩
  | cons d ds ih =>
    obtain ⟨a, ha, hstep⟩ := exists_answer ht d
    have ht₁ : (b.addIndex id d).model.table? id
        = some { t with indexes := t.indexes ++ kept [a] } := by
      rw [hstep, table?_withIndexes ht]
    obtain ⟨l, hl, hmodel⟩ := ih ht₁
    -- a table with more indexes has the same columns to choose from
    refine ⟨a :: l, .cons ha (hl.imp fun _ _ h => answers_congr rfl rfl h), ?_⟩
    rw [List.foldl_cons, hmodel, hstep, withIndexes_cons]

/-! ## Checks -/

/-- A check is asked for.  The table has it as its last one, and nothing else has changed. -/
def AnswersCheck (id : TableId) (d : CheckDraft) (b b' : Builder) : Prop :=
  ∃ t c, b.model.table? id = some t ∧ CheckConstraint.Follows d c
    ∧ b'.model.table? id = some { t with checks := t.checks ++ [c] }
    ∧ (∀ k, k ≠ id → b'.model.table? k = b.model.table? k) ∧ b'.model.issues = b.model.issues

/-- A check that is asked for is made. -/
theorem answersCheck_addCheck (ht : b.model.table? id = some t) (d : CheckDraft) :
    AnswersCheck id d b (b.addCheck id d) := by
  refine ⟨t, newCheck b t d, ht, follows_newCheck b t d, table?_withPart_self ht _, fun k hk => ?_,
    rfl⟩
  rw [addCheck_eq, table?_withPart, if_neg hk]

/-- One check after another. -/
theorem exists_checks (ht : b.model.table? id = some t) (ds : List CheckDraft) :
    ∃ cs, List.Forall₂ CheckConstraint.Follows ds cs
      ∧ (ds.foldl (·.addCheck id ·) b).model.table? id = some { t with checks := t.checks ++ cs }
      ∧ (ds.foldl (·.addCheck id ·) b).model.issues = b.model.issues := by
  induction ds generalizing b t with
  | nil => exact ⟨[], .nil, by rw [List.append_nil]; exact ht, rfl⟩
  | cons d ds ih =>
    obtain ⟨t₁, c, hfound, hc, ht₁, -, hissues₁⟩ := answersCheck_addCheck ht d
    obtain rfl := Option.some.inj (ht.symm.trans hfound)
    obtain ⟨cs, hcs, ht', hissues⟩ := ih ht₁
    refine ⟨c :: cs, .cons hc hcs, ?_, hissues.trans hissues₁⟩
    rw [List.foldl_cons, ht']
    simp only [List.append_assoc, List.singleton_append]

/-! ## Foreign keys -/

/-- A foreign key with the table and the columns that were named, in their order, and the actions that
were declared. -/
structure Fulfils (b : Builder) (id : TableId) (child : Table) (d : ForeignKeyDraft)
    (f : ForeignKey) : Prop where
  parent : b.parentOf (waiting child id d) = some f.referencedTable
  columns : List.Forall₂ child.Names d.columns f.columns
  referencedColumns : ∃ parent, b.model.table? f.referencedTable = some parent
    ∧ List.Forall₂ parent.Names (referencedNames parent d) f.referencedColumns
  asMany : f.referencedColumns.length = f.columns.length
  nonempty : f.referencedColumns ≠ []
  onDelete : f.onDelete = .declared d.onDelete
  onUpdate : f.onUpdate = .declared d.onUpdate
  name : ∀ n, d.name = some n → f.name = n

/-- What becomes of a foreign key that was asked for: one of its table, or an issue about the table if
there can be none. -/
def Becomes (b : Builder) (call : TableId × ForeignKeyDraft) (s : Settled) : Prop :=
  s.1 = call.1 ∧ ∃ child, b.model.table? call.1 = some child ∧ match s.2 with
    | .ok f => b.Fulfils call.1 child call.2 f
    | .error i => (∀ f, ¬ b.Fulfils call.1 child call.2 f)
      ∧ ∃ why, i = lostForeignKeyIssue call.1 child call.2 why

/-- A foreign key that fulfils its draft is what the draft is resolved to. -/
theorem resolution_eq_of_fulfils {child : Table} {d : ForeignKeyDraft} {f : ForeignKey}
    (h : b.Fulfils id child d f) : b.resolution child (waiting child id d)
      = .ok (f.referencedTable, f.columns, f.referencedColumns) := by
  obtain ⟨parent, hparent, hnames⟩ := h.referencedColumns
  exact resolution_eq_ok_iff.2 ⟨h.parent, parent, hparent, h.columns, hnames, h.asMany, h.nonempty⟩

/-- What is settled is what becomes of a draft. -/
theorem becomes_of_settles {p : PendingForeignKey} {s : Settled} (h : b.Settles p s)
    (ht : ∃ t, b.model.table? p.table = some t ∧ t.nspace = p.nspace) :
    b.Becomes (p.table, p.draft) s := by
  obtain ⟨hid, raw, child, hchild, hs⟩ := h
  obtain ⟨t, ht, hnspace⟩ := ht
  -- the table is the one it was when the key was asked for
  obtain rfl : t = child := Option.some.inj (ht.symm.trans hchild)
  have hp : waiting t p.table p.draft = p := by
    unfold waiting
    rw [hnspace]
  refine ⟨hid, t, ht, ?_⟩
  rw [hs]
  unfold settle
  cases hr : b.resolution t p with
  | ok r =>
    obtain ⟨parentId, cs, rs⟩ := r
    obtain ⟨hparent, parent, hfound, hcs, hrs, hlen, hne⟩ := resolution_eq_ok_iff.1 hr
    refine ⟨hp.symm ▸ hparent, hcs, ⟨parent, hfound, hrs⟩, hlen, hne, rfl, rfl, fun n hn => ?_⟩
    show foreignKeyName t p.draft = n
    rw [foreignKeyName, hn]
    rfl
  | error why =>
    refine ⟨fun f hf => ?_, why, rfl⟩
    have hok := resolution_eq_of_fulfils hf
    rw [hp, hr] at hok
    cases hok

/-- The foreign keys of all tables are those that were kept. -/
theorem length_flatMap_keysOf {keys : List TableId} (hkeys : keys.Nodup) {l : List Settled}
    (hl : ∀ s ∈ l, s.1 ∈ keys) :
    (keys.flatMap fun k => keysOf k l).length = (kept (l.map (·.2))).length := by
  rw [List.length_flatMap]
  induction l with
  | nil =>
    show (keys.map fun _ => 0).sum = 0
    rw [List.map_const', List.sum_replicate_nat, Nat.mul_zero]
  | cons s l ih =>
    obtain ⟨hs, hrest⟩ := List.forall_mem_cons.1 hl
    have hcons : ∀ k, (keysOf k (s :: l)).length
        = (if s.1 = k then (kept [s.2]).length else 0) + (keysOf k l).length := by
      intro k
      rw [keysOf_cons]
      split
      · rw [List.length_append]
      · rw [Nat.zero_add]
    -- one key is the table's that it is about
    have hone : (keys.map fun k => if s.1 = k then (kept [s.2]).length else 0).sum
        = (kept [s.2]).length := by
      rw [List.sum_map_eq_nsmul_single s.1 _ fun k hk _ => if_neg (Ne.symm hk), if_pos rfl,
        List.count_eq_one_of_mem hkeys hs]
      exact Nat.one_mul _
    simp only [hcons]
    rw [List.sum_map_add, hone, ih hrest, List.map_cons, kept_cons s.2 (l.map _),
      List.length_append]

/-- The foreign keys that wait are those that were asked for, each of a table that is there, and no
table has one yet. -/
structure Waits (b : Builder) (calls : List (TableId × ForeignKeyDraft)) : Prop where
  calls : b.pending.map (fun p => (p.table, p.draft)) = calls
  there : ∀ p ∈ b.pending, ∃ t, b.model.table? p.table = some t ∧ t.nspace = p.nspace
  none : ∀ e ∈ b.model.tables, e.2.foreignKeys = []

/-- What becomes of the foreign keys that wait. -/
theorem Waits.finish {calls : List (TableId × ForeignKeyDraft)} (h : b.Waits calls)
    (hb : b.Sound) : ∃ l, List.Forall₂ b.Becomes calls l
      ∧ b.finish.tables = b.model.tables.map (fun e => (e.1, { e.2 with foreignKeys := keysOf e.1 l }))
      ∧ b.finish.issues = b.model.issues ++ issuesOf l
      ∧ calls.length = (b.finish.tables.flatMap (·.2.foreignKeys)).length
        + (issuesOf l).length := by
  obtain ⟨l, hsettles, hfinish⟩ := exists_settled_finish hb fun p hp => by
    obtain ⟨t, ht, -⟩ := h.there p hp
    exact Option.isSome_iff_exists.2 ⟨t, ht⟩
  have hbecomes : List.Forall₂ b.Becomes calls l := by
    rw [← h.calls, List.forall₂_map_left_iff]
    have hboth := (List.forall₂_and_left _ _).2 ⟨h.there, hsettles⟩
    exact hboth.imp fun p s hps => becomes_of_settles hps.2 hps.1
  have htables : b.finish.tables
      = b.model.tables.map fun e => (e.1, { e.2 with foreignKeys := keysOf e.1 l }) := by
    rw [hfinish]
    refine List.map_congr_left fun e he => ?_
    dsimp only
    rw [h.none e he, List.nil_append]
  refine ⟨l, hbecomes, htables, by rw [hfinish]; rfl, ?_⟩
  -- each of them is about a table that is there, so none is counted twice or left out
  have hmem : ∀ s ∈ l, s.1 ∈ b.model.tables.map (·.1) := by
    refine forall_right_of_forall₂ (fun call s hs => ?_) hbecomes
    obtain ⟨hid, child, hchild, -⟩ := hs
    rw [hid, ← isSome_tableIn_iff, ← Model.table?_eq_tableIn, hchild]
    rfl
  have hkept := length_flatMap_keysOf (nodup_keys_of_ordered hb.model.ordered) hmem
  rw [List.flatMap_map] at hkept
  rw [htables, List.flatMap_map, hkept]
  show calls.length = (kept (l.map (·.2))).length + (lost (l.map (·.2))).length
  rw [length_kept_add_lost, List.length_map, hbecomes.length_eq]

/-! ## What calls keep -/

namespace Waits

variable {calls : List (TableId × ForeignKeyDraft)}

/-- Nothing waits at the beginning. -/
theorem start (source : SourceDialect) (target : TargetDialect) (policy : CollisionPolicy)
    (audit : Audit) : (Builder.start source target policy audit).Waits [] :=
  ⟨rfl, List.forall_mem_nil _, List.forall_mem_nil _⟩

/-- What waits does so where only the contents of tables change. -/
theorem of_outline (h : b.Waits calls) (hsame : b.SameOutline b') : b'.Waits calls := by
  refine ⟨by rw [hsame.pending, h.calls], fun p hp => ?_, fun e he => ?_⟩
  · rw [hsame.pending] at hp
    obtain ⟨t, ht, hnspace⟩ := h.there p hp
    obtain ⟨t', ht', houtline⟩ := hsame.exists_table ht
    have hsameSpace := congrArg Table.nspace houtline
    exact ⟨t', ht', Eq.trans hsameSpace hnspace⟩
  · have hm : (e.1, e.2.outline) ∈ b.model.tables.map fun e => (e.1, e.2.outline) :=
      hsame.tables ▸ List.mem_map_of_mem he
    obtain ⟨e', he', heq⟩ := List.mem_map.1 hm
    have hkeys := congrArg (fun x : TableId × Table => x.2.foreignKeys) heq
    exact Eq.trans hkeys.symm (h.none e' he')

/-- Foreign keys that are queued for a table. -/
theorem queue (h : b.Waits calls) (ht : b.model.table? id = some t) (ds : List ForeignKeyDraft) :
    Waits { b with pending := b.pending ++ ds.map (waiting t id) }
      (calls ++ ds.map fun d => (id, d)) := by
  refine ⟨?_, fun p hp => ?_, h.none⟩
  · rw [List.map_append, h.calls, List.map_map]
    rfl
  · rcases List.mem_append.1 hp with hp | hp
    · exact h.there p hp
    · obtain ⟨d, -, rfl⟩ := List.mem_map.1 hp
      exact ⟨t, ht, rfl⟩

/-- A new table makes nothing wait. -/
theorem placed (h : b.Waits calls) (hlast : ∀ e ∈ b.model.tables, e.1.val < b.model.nextId)
    (draft : TableDraft) (name : String) (collided : Option String) (columns : List Column) :
    (b.placed draft name collided columns).Waits calls := by
  have hpending : (b.placed draft name collided columns).pending = b.pending := by
    cases collided <;> rfl
  have htables : (b.placed draft name collided columns).model.tables
      = b.model.tables ++ [(⟨b.model.nextId⟩, bareTable ⟨b.model.nextId⟩ draft name columns)] := by
    rw [← insertSorted_eq_append hlast]
    cases collided <;> rfl
  refine ⟨by rw [hpending, h.calls], fun p hp => ?_, ?_⟩
  · rw [hpending] at hp
    obtain ⟨t, ht, hnspace⟩ := h.there p hp
    refine ⟨t, ?_, hnspace⟩
    rw [table?_placed hlast, ht]
    rfl
  · rw [htables]
    exact List.forall_mem_append.2 ⟨h.none, List.forall_mem_singleton.2 rfl⟩

/-- A table that is added brings the foreign keys of its draft; one that is not brings none. -/
theorem addTable (h : b.Waits calls) (hb : b.Sound) (draft : TableDraft) :
    (b.addTable draft).2.Waits (calls ++ match (b.addTable draft).1 with
      | .ok (some id) => draft.foreignKeys.map fun d => (id, d)
      | _ => []) := by
  rcases addTable_cases b draft with ⟨hsame, hnone⟩ | ⟨name, collided, columns, -, hcases⟩
  · split
    · rename_i id hid
      exact absurd hid (hnone id)
    · rw [List.append_nil]
      exact h.of_outline hsame.outline
  have hlast : ∀ e ∈ b.model.tables, e.1.val < b.model.nextId := fun _ he => hb.model.key_lt he
  have hkeyed := (h.placed hlast draft name collided columns).of_outline
    (SameOutline.setKey _ ⟨b.model.nextId⟩ draft)
  rcases hcases with ⟨e, b₁, hkey, hr⟩ | ⟨b₁, hkey, hr⟩
  all_goals
    rw [hkey] at hkeyed
    rw [hr]
  · exact (List.append_nil calls).symm ▸ hkeyed
  · obtain ⟨t, ht, -⟩ := exists_table_setKey hlast hkey
    exact (hkeyed.queue ht draft.foreignKeys).of_outline (SameOutline.addParts ht draft)

end Waits

/-! ## The parts of a new table -/

/-- The indexes and checks of a draft that is added: each index is one of the new table or an issue
about it, each check is one of the table, and nothing else is said but that the table got another
name. -/
def AnswersDraft (id : TableId) (draft : TableDraft) (b b' : Builder) : Prop :=
  ∃ t l found, b'.model.table? id = some t ∧ List.Forall₂ (Answers id t) draft.indexes l
    ∧ t.indexes = kept l ∧ b'.model.issues = b.model.issues ++ found ++ lost l
    ∧ (∀ i ∈ found, i.category = .nameCollision)
    ∧ List.Forall₂ CheckConstraint.Follows draft.checks t.checks

/-- Setting a key raises no issue. -/
theorem issues_setKey (b : Builder) (id : TableId) (draft : TableDraft) :
    (b.setKey id draft).2.model.issues = b.model.issues := by
  unfold setKey
  split
  · rfl
  · unfold setPrimaryKey
    split
    · rfl
    · split <;> rfl

/-- A new table is told of if its name collides. -/
theorem issues_placed (b : Builder) (draft : TableDraft) (name : String) (collided : Option String)
    (columns : List Column) : ∃ found,
      (b.placed draft name collided columns).model.issues = b.model.issues ++ found
        ∧ ∀ i ∈ found, i.category = .nameCollision := by
  cases collided with
  | none => exact ⟨[], (List.append_nil _).symm, List.forall_mem_nil _⟩
  | some other => exact ⟨_, rfl, List.forall_mem_singleton.2 rfl⟩

/-- The parts of a draft that are put into its table. -/
theorem answers_addParts (ht : b.model.table? id = some t) (draft : TableDraft) :
    ∃ l cs, List.Forall₂ (Answers id t) draft.indexes l
      ∧ List.Forall₂ CheckConstraint.Follows draft.checks cs
      ∧ (b.addParts id draft).model.table? id
        = some { t with indexes := t.indexes ++ kept l, checks := t.checks ++ cs }
      ∧ (b.addParts id draft).model.issues = b.model.issues ++ lost l := by
  obtain ⟨l, hl, hmodel⟩ := exists_answers ht draft.indexes
  set b₁ := draft.indexes.foldl (·.addIndex id ·) b with hb₁
  have ht₁ : b₁.model.table? id = some { t with indexes := t.indexes ++ kept l } := by
    rw [hmodel, table?_withIndexes ht]
  have hqueued := foldl_addForeignKey ht₁ draft.foreignKeys
  set b₂ := draft.foreignKeys.foldl (·.addForeignKey id ·) b₁ with hb₂
  have ht₂ : b₂.model.table? id = some { t with indexes := t.indexes ++ kept l } := by
    rw [hqueued]
    exact ht₁
  obtain ⟨cs, hcs, ht', hissues⟩ := exists_checks ht₂ draft.checks
  refine ⟨l, cs, hl, hcs, ht', ?_⟩
  show (draft.checks.foldl (·.addCheck id ·) b₂).model.issues = _
  rw [hissues, hqueued]
  show b₁.model.issues = _
  rw [hmodel]
  rfl

/-- All that the draft of a table asks for is answered. -/
theorem answersDraft_addTable (hb : b.Sound) {draft : TableDraft}
    (hr : b.addTable draft = (.ok (some id), b')) : AnswersDraft id draft b b' := by
  obtain ⟨name, collided, columns, b₁, -, hkey, rfl, rfl⟩ := exists_of_addTable hr
  have hlast : ∀ e ∈ b.model.tables, e.1.val < b.model.nextId := fun _ he => hb.model.key_lt he
  obtain ⟨found, hfound, hcollision⟩ := issues_placed b draft name collided columns
  have hissues := issues_setKey (b.placed draft name collided columns) ⟨b.model.nextId⟩ draft
  rw [hkey, hfound] at hissues
  -- the new table has neither indexes nor checks before it gets those of its draft
  obtain ⟨-, cols, parts, ht, -⟩ :=
    setKey_ok (table?_placed_self hlast draft name collided columns) hkey
  obtain ⟨l, cs, hl, hcs, ht', hissues'⟩ := answers_addParts ht draft
  refine ⟨_, l, found, ht', hl.imp fun _ _ h => answers_congr rfl rfl h, rfl, ?_, hcollision, hcs⟩
  rw [hissues', hissues]

end Builder

/-! ## Runs with calls that fail -/

namespace Operation

/-- The table a caller is told of. -/
def toldBy : Outcome (Option TableId) → List TableId
  | .ok id => id.toList
  | .error _ => []

/-- What a call leaves, also if it fails. -/
def leave (w : Work) : Operation → Work
  | addTable draft =>
    ⟨(w.builder.addTable draft).2, toldBy (w.builder.addTable draft).1 ++ w.told⟩
  | setPrimaryKey table columns => ⟨(w.builder.setPrimaryKey table columns).2, w.told⟩
  | op =>
    match op.perform w with
    | .ok w' => w'
    | .error _ => w

/-- The foreign keys a call asks for.  A table that is added asks for those of its draft. -/
def asks (w : Work) : Operation → List (TableId × ForeignKeyDraft)
  | addForeignKey table draft => [(table, draft)]
  | addTable draft =>
    match (w.builder.addTable draft).1 with
    | .ok (some id) => draft.foreignKeys.map fun d => (id, d)
    | _ => []
  | _ => []

/-- Foreign keys are asked for of tables the caller was told of. -/
def IsOwn (w : Work) : Operation → Prop
  | addForeignKey table _ => table ∈ w.told
  | _ => True

end Operation

/-- A builder at work that calls lead to, some of which may have failed, with the foreign keys that were
asked for in the meantime. -/
inductive Work.IsReached : Work → List (TableId × ForeignKeyDraft) → Prop
  | start (source : SourceDialect) (target : TargetDialect) (policy : CollisionPolicy)
      (audit : Audit) : IsReached (.start source target policy audit) []
  | call {w : Work} {calls : List (TableId × ForeignKeyDraft)} (h : w.IsReached calls)
      {op : Operation} (hpermitted : op.IsPermitted w) (hown : op.IsOwn w) :
      (op.leave w).IsReached (calls ++ op.asks w)

/-- An operation that is permitted leaves sound work. -/
theorem Operation.leave_sound {w : Work} {op : Operation} (h : w.Sound)
    (hpermitted : op.IsPermitted w) : (op.leave w).Sound := by
  cases op with
  | addTable draft =>
    obtain ⟨hleads, hthere⟩ := Builder.Leads.addTable h.builder draft
    refine ⟨hleads.sound, fun k hk => ?_⟩
    rcases List.mem_append.1 hk with hk | hk
    · cases hr : (w.builder.addTable draft).1 with
      | error e =>
        rw [hr] at hk
        cases hk
      | ok id =>
        rw [hr] at hk
        obtain rfl : id = some k := Option.mem_toList.1 hk
        exact hthere k hr
    · exact hleads.keeps k (h.told k hk)
  | setPrimaryKey table columns =>
    exact h.of_leads (Builder.Leads.setPrimaryKey h.builder table columns)
  | _ => exact Operation.perform_sound h hpermitted rfl

/-- Calls ask for foreign keys, and nothing else makes one wait. -/
theorem Operation.leave_waits {w : Work} {op : Operation}
    {calls : List (TableId × ForeignKeyDraft)} (h : w.Sound) (hw : w.builder.Waits calls)
    (hown : op.IsOwn w) : (op.leave w).builder.Waits (calls ++ op.asks w) := by
  -- only new tables and calls for foreign keys have any wait
  cases op with
  | addTable draft =>
    exact hw.addTable h.builder draft
  | addForeignKey table draft =>
    obtain ⟨t, ht⟩ := Option.isSome_iff_exists.1 (h.told table hown)
    have hqueued := hw.queue ht [draft]
    rw [← Builder.foldl_addForeignKey ht] at hqueued
    exact hqueued
  | setPrimaryKey table columns =>
    exact (List.append_nil calls).symm ▸ hw.of_outline (.setPrimaryKey w.builder table columns)
  | addIndex table draft =>
    exact (List.append_nil calls).symm ▸ hw.of_outline (.addIndex w.builder table draft)
  | addCheck table draft =>
    exact (List.append_nil calls).symm ▸ hw.of_outline (.addCheck w.builder table draft)
  | setColumnDefault table column expr =>
    exact (List.append_nil calls).symm
      ▸ hw.of_outline (.setColumnDefault w.builder table column expr)
  | setIdentity table column =>
    exact (List.append_nil calls).symm ▸ hw.of_outline (.setIdentity w.builder table column)
  | shouldStop => exact (List.append_nil calls).symm ▸ hw.of_outline (.shouldStop w.builder)
  | lookup _ _ | issue _ _ _ | cancel =>
    exact (List.append_nil calls).symm ▸ hw.of_outline (.ofTables rfl rfl rfl)

/-- In all work that is reached, the foreign keys asked for wait. -/
theorem Work.IsReached.waits {w : Work} {calls : List (TableId × ForeignKeyDraft)}
    (h : w.IsReached calls) : w.Sound ∧ w.builder.Waits calls := by
  induction h with
  | start source target policy audit =>
    exact ⟨.start source target policy audit, .start source target policy audit⟩
  | call _ hpermitted hown ih =>
    exact ⟨Operation.leave_sound ih.1 hpermitted, Operation.leave_waits ih.1 ih.2 hown⟩

/-- Everything that is asked for of a builder at work is there, or an issue says that it is not. -/
structure Work.Accounts (w : Work) (calls : List (TableId × ForeignKeyDraft)) : Prop where
  indexes : ∀ id ∈ w.told, ∀ d, Builder.AnswersIndex id d w.builder (w.builder.addIndex id d)
  checks : ∀ id ∈ w.told, ∀ d, Builder.AnswersCheck id d w.builder (w.builder.addCheck id d)
  /-- What a new table is given is asked for as well. -/
  drafts : ∀ draft id b', w.builder.addTable draft = (.ok (some id), b') →
    Builder.AnswersDraft id draft w.builder b'
  /-- Each foreign key is one of its table or an issue about it once every table is known. -/
  foreignKeys : ∃ l : List Builder.Settled, List.Forall₂ w.builder.Becomes calls l
    ∧ w.builder.finish.tables = w.builder.model.tables.map
      (fun e => (e.1, { e.2 with foreignKeys := Builder.keysOf e.1 l }))
    ∧ w.builder.finish.issues = w.builder.model.issues ++ Builder.issuesOf l
    ∧ calls.length = (w.builder.finish.tables.flatMap (·.2.foreignKeys)).length
      + (Builder.issuesOf l).length

/-- **Nothing that is declared is lost without a record.**  After any calls, an index becomes one of its
table or an issue, a check one of its table, and of the foreign keys that were asked for as many are in
the finished model as there are no issues about. -/
theorem Work.IsReached.accounts {w : Work} {calls : List (TableId × ForeignKeyDraft)}
    (h : w.IsReached calls) : w.Accounts calls := by
  obtain ⟨hsound, hwaits⟩ := h.waits
  refine ⟨fun id hid d => ?_, fun id hid d => ?_, fun draft id b' hr => ?_,
    hwaits.finish hsound.builder⟩
  · obtain ⟨t, ht⟩ := Option.isSome_iff_exists.1 (hsound.told id hid)
    obtain ⟨a, ha, hmodel⟩ := Builder.exists_answer ht d
    exact ⟨t, a, ht, ha, hmodel⟩
  · obtain ⟨t, ht⟩ := Option.isSome_iff_exists.1 (hsound.told id hid)
    exact Builder.answersCheck_addCheck ht d
  · exact Builder.answersDraft_addTable hsound.builder hr

/-- A foreign key of a column `a` to a table. -/
def referenceTo (table : String) : ForeignKeyDraft :=
  ⟨none, ["a"], none, table, [], .cascade, .noAction⟩

/-- A table with a key. -/
def parentDraft : TableDraft :=
  { TableDraft.empty none "p" with
    columns := [.plain "x" ⟨"integer", [], [], 0, "integer"⟩]
    primaryKey := [("x", false)] }

/-- A table that refers to it and has an index on a column that is not there. -/
def childDraft : TableDraft :=
  { TableDraft.empty none "c" with
    columns := [.plain "a" ⟨"integer", [], [], 0, "integer"⟩]
    indexes := [⟨none, [("b", false)], true⟩]
    foreignKeys := [referenceTo "p"] }

/-- Both tables, and then a foreign key to a table that is nowhere. -/
def orphanWork : Work :=
  ([.addTable parentDraft, .addTable childDraft, .addForeignKey ⟨3⟩ (referenceTo "q")] :
    List Operation).foldl (fun w op => op.leave w) (Work.start .postgres .google .rename default)

theorem accounts_orphanWork :
    (⟨3⟩ : TableId) ∈ orphanWork.told
      ∧ orphanWork.IsReached [(⟨3⟩, referenceTo "p"), (⟨3⟩, referenceTo "q")]
      ∧ orphanWork.Accounts [(⟨3⟩, referenceTo "p"), (⟨3⟩, referenceTo "q")] := by
  have htold : (⟨3⟩ : TableId) ∈ orphanWork.told := by decide +kernel
  have h₁ := Work.IsReached.call (.start .postgres .google .rename default)
    (show (Operation.addTable parentDraft).IsPermitted _ from trivial) trivial
  have h₂ := h₁.call (show (Operation.addTable childDraft).IsPermitted _ from trivial) trivial
  have h₃ := h₂.call (show (Operation.addForeignKey ⟨3⟩ (referenceTo "q")).IsPermitted _ from trivial)
    htold
  have hcalls : ∀ calls, calls = [(⟨3⟩, referenceTo "p"), (⟨3⟩, referenceTo "q")] →
      orphanWork.IsReached calls →
      orphanWork.IsReached [(⟨3⟩, referenceTo "p"), (⟨3⟩, referenceTo "q")] :=
    fun _ hc h => hc ▸ h
  have hreached := hcalls _ (by decide +kernel) h₃
  exact ⟨htold, hreached, hreached.accounts⟩

/-- One foreign key is kept, and the index and the other one are spoken of. -/
example : (orphanWork.builder.finish.tables.map fun e => e.2.foreignKeys.length) = [0, 1]
    ∧ orphanWork.builder.finish.issues.map (·.category)
      = [.unsupportedConstraint, .missingReference] := by
  decide +kernel

end SchemaBridge
