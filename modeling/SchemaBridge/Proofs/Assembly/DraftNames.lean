/-
# Names of a model that is made of drafts

Every table of a model comes from a draft, and so do the parts of a table.  Where a draft gives no name
one is made of the names that are given, and a table whose name is taken gets another one.

## Key statements

* `exists_parts_addTable`: the indexes and checks of a new table, by their names.
* `HasTablesDrawnFrom.addTable`, `HasTablesDrawnFrom.addDrafts`: what one draft after another leaves.
* `HasTablesDrawnFrom.finish`: so it is once the foreign keys are resolved.
-/
import SchemaBridge.Proofs.Assembly.Additions
import SchemaBridge.Proofs.Assembly.ConstraintNames

namespace SchemaBridge

open Text (IsNumbered)

/-- A draft has a column of a name, up to the case of ASCII letters. -/
def TableDraft.HasColumn (d : TableDraft) (n : String) : Prop :=
  ∃ c ∈ d.columns, Text.sameFolded c.name n = true

/-- The name a table gets if its own is taken, but for a number behind it. -/
def renamedBase (nspace : Option String) (name : String) : String :=
  match nspace with
  | some ns => ns ++ "_" ++ name
  | none => name ++ "_1"

/-- A table with the names of a draft and, where the draft has none, names made of these. -/
structure Table.IsDrawnFrom (d : TableDraft) (t : Table) : Prop where
  name : t.name = d.name ∨ IsNumbered (renamedBase d.nspace d.name) t.name
  columns : t.columns.map (·.name) = d.columns.map (·.name)
  indexes : ∀ i ∈ t.indexes, ∃ x ∈ d.indexes, (∀ k ∈ x.columns, d.HasColumn k.1)
    ∧ i.name = Builder.indexName t x
  foreignKeys : ∀ f ∈ t.foreignKeys, ∃ x ∈ d.foreignKeys, (∀ n ∈ x.columns, d.HasColumn n)
    ∧ f.name = Builder.foreignKeyName t x
  checks : ∀ c ∈ t.checks, c.expr.status = .unverified
    ∧ ∃ x ∈ d.checks, ∃ i, c.name = x.name.getD (madeCheckName t.name i)

namespace Builder

variable {b b' : Builder} {id : TableId} {t : Table} {d : TableDraft}

/-- A name under which a table has a column is one of its draft. -/
theorem hasColumn_of_names (hcolumns : t.columns.map (·.name) = d.columns.map (·.name)) {n : String}
    {c : ColumnId} (h : t.Names n c) : d.HasColumn n := by
  obtain ⟨column, hfound, -⟩ := h
  have hmem : column.name ∈ d.columns.map (·.name) :=
    hcolumns ▸ List.mem_map_of_mem (List.mem_of_find?_eq_some hfound)
  obtain ⟨x, hx, hname⟩ := List.mem_map.1 hmem
  have hfolded := List.find?_some hfound
  exact ⟨x, hx, hname ▸ hfolded⟩

/-! ## One table -/

/-- Indexes that are put into a table. -/
theorem exists_indexes (ht : b.model.table? id = some t) (ds : List IndexDraft) :
    ∃ is, (ds.foldl (·.addIndex id ·) b).model.table? id = some { t with indexes := t.indexes ++ is }
      ∧ ∀ i ∈ is, ∃ x ∈ ds, i.Follows t x ∧ i.name = indexName t x := by
  induction ds generalizing b t with
  | nil => exact ⟨[], by rw [List.append_nil]; exact ht, List.forall_mem_nil _⟩
  | cons x ds ih =>
    have hlater : ∀ {i : Index}, (∃ y ∈ ds, i.Follows t y ∧ i.name = indexName t y) →
        ∃ y ∈ x :: ds, i.Follows t y ∧ i.name = indexName t y :=
      fun ⟨y, hy, h⟩ => ⟨y, List.mem_cons_of_mem _ hy, h⟩
    rw [List.foldl_cons]
    cases hk : resolveKeys t x.columns with
    | error missing =>
      have ht₁ : (b.addIndex id x).model.table? id = some t := by
        rw [addIndex_error ht hk]
        exact ht
      obtain ⟨is, ht', his⟩ := ih ht₁
      exact ⟨is, ht', fun i hi => hlater (his i hi)⟩
    | ok keys =>
      have ht₁ : (b.addIndex id x).model.table? id
          = some { t with indexes := t.indexes ++ [newIndex b t x keys] } := by
        rw [addIndex_ok ht hk, table?_withPart_self ht]
      obtain ⟨is, ht', his⟩ := ih ht₁
      refine ⟨newIndex b t x keys :: is, ?_, List.forall_mem_cons.2 ⟨?_, fun i hi => ?_⟩⟩
      · rw [ht']
        simp only [List.append_assoc, List.singleton_append]
      · exact ⟨x, List.mem_cons_self, follows_newIndex hk, rfl⟩
      · -- a table with more indexes has the same name and columns
        obtain ⟨y, hy, hfollows, hname⟩ := his i hi
        exact hlater ⟨y, hy, hfollows.congr rfl, hname⟩

/-- Checks that are put into a table. -/
theorem exists_namedChecks (ht : b.model.table? id = some t) (ds : List CheckDraft) :
    ∃ cs, (ds.foldl (·.addCheck id ·) b).model.table? id = some { t with checks := t.checks ++ cs }
      ∧ ∀ c ∈ cs, c.expr.status = .unverified
        ∧ ∃ x ∈ ds, ∃ i, c.name = x.name.getD (madeCheckName t.name i) := by
  induction ds generalizing b t with
  | nil => exact ⟨[], by rw [List.append_nil]; exact ht, List.forall_mem_nil _⟩
  | cons x ds ih =>
    have ht₁ : (b.addCheck id x).model.table? id
        = some { t with checks := t.checks ++ [newCheck b t x] } := by
      rw [addCheck_eq, table?_withPart_self ht]
    obtain ⟨cs, ht', hcs⟩ := ih ht₁
    refine ⟨newCheck b t x :: cs, ?_, List.forall_mem_cons.2 ⟨?_, fun c hc => ?_⟩⟩
    · rw [List.foldl_cons, ht']
      simp only [List.append_assoc, List.singleton_append]
    · exact ⟨rfl, x, List.mem_cons_self, t.checks.length, rfl⟩
    · obtain ⟨hstatus, y, hy, i, hname⟩ := hcs c hc
      exact ⟨hstatus, y, List.mem_cons_of_mem _ hy, i, hname⟩

variable {name : String} {collided : Option String} {columns : List Column}

/-- The indexes and checks of a new table. -/
theorem exists_parts_addTable (hlast : ∀ e ∈ b.model.tables, e.1.val < b.model.nextId)
    (hplaces : b.CanPlace d name collided columns) (hr : b.addTable d = (.ok (some id), b')) :
    ∃ t, b'.model.table? id = some t
      ∧ (∀ i ∈ t.indexes, ∃ x ∈ d.indexes, i.Follows t x ∧ i.name = indexName t x)
      ∧ ∀ c ∈ t.checks, c.expr.status = .unverified
        ∧ ∃ x ∈ d.checks, ∃ i, c.name = x.name.getD (madeCheckName t.name i) := by
  rw [addTable_of_places hplaces] at hr
  rcases hkey : (b.placed d name collided columns).setKey ⟨b.model.nextId⟩ d with ⟨e | _, b₁⟩
  all_goals rw [hkey] at hr
  case error => cases hr
  cases hr
  obtain ⟨-, cs, parts, ht, -⟩ := setKey_ok (table?_placed_self hlast d name collided columns) hkey
  obtain ⟨is, ht₁, his⟩ := exists_indexes ht d.indexes
  -- foreign keys only wait
  rw [← model_foldl_addForeignKey _ _ d.foreignKeys] at ht₁
  obtain ⟨checks, ht₂, hchecks⟩ := exists_namedChecks ht₁ d.checks
  -- there were neither indexes nor checks before
  refine ⟨_, ht₂, fun i hi => ?_, fun c hc => hchecks c hc⟩
  obtain ⟨x, hx, hfollows, hname⟩ := his i hi
  exact ⟨x, hx, hfollows.congr rfl, hname⟩

/-- A name that is chosen is the one declared, or one with a number. -/
theorem name_of_chooseName {choice : String × Option String}
    (h : b.chooseName d = (.ok (some choice), b')) :
    choice.1 = d.name ∨ IsNumbered (renamedBase d.nspace d.name) choice.1 := by
  unfold chooseName at h
  split at h
  · cases h
    exact Or.inl rfl
  · split at h <;> cases h
    exact Or.inr (Text.isNumbered_freshName _ _ _ _)

/-- A new table is drawn from its draft. -/
theorem exists_drawn_addTable (h : b.Sound) (hplaces : b.CanPlace d name collided columns)
    (hr : b.addTable d = (.ok (some ⟨b.model.nextId⟩), b')) :
    ∃ t, b'.model.tables = b.model.tables ++ [(⟨b.model.nextId⟩, t)] ∧ t.foreignKeys = []
      ∧ t.IsDrawnFrom d := by
  obtain ⟨t, htables, hname, hnone, hholds⟩ := tables_addTable h hplaces hr
  obtain ⟨u, hu, hindexes, hchecks⟩ := exists_parts_addTable (fun _ he => h.model.key_lt he) hplaces hr
  obtain rfl : t = u := Option.some.inj (hholds.found.symm.trans hu)
  have hcolumns := names_of_follows hholds.columns
  refine ⟨t, htables, hnone, hname ▸ name_of_chooseName hplaces.name, hcolumns, fun i hi => ?_, ?_,
    hchecks⟩
  · obtain ⟨x, hx, hfollows, hi⟩ := hindexes i hi
    have hkeys := (resolveKeys_eq_ok_iff.1 hfollows.keys).flip
    exact ⟨x, hx, forall_right_of_forall₂ (fun _ _ hk => hasColumn_of_names hcolumns hk.1) hkeys, hi⟩
  · rw [hnone]
    exact List.forall_mem_nil _

/-! ## All tables -/

/-- Tables are drawn from drafts, and the foreign keys of these wait. -/
structure HasTablesDrawnFrom (b : Builder) (ds : List TableDraft) : Prop where
  sound : b.Sound
  tables : ∀ e ∈ b.model.tables, e.2.foreignKeys = [] ∧ ∃ d ∈ ds, e.2.IsDrawnFrom d
    ∧ ∀ p ∈ b.pending, p.table = e.1 → p.draft ∈ d.foreignKeys
  there : ∀ p ∈ b.pending, p.table ∈ b.model.tables.map (·.1)

namespace HasTablesDrawnFrom

variable {ds : List TableDraft}

theorem start (source : SourceDialect) (target : TargetDialect) (policy : CollisionPolicy)
    (audit : Audit) : (Builder.start source target policy audit).HasTablesDrawnFrom [] :=
  ⟨.start source target policy audit, List.forall_mem_nil _, List.forall_mem_nil _⟩

/-- What is left when no table is added. -/
theorem of_same (h : b.HasTablesDrawnFrom ds) (hsound : b'.Sound)
    (htables : b'.model.tables = b.model.tables) (hpending : b'.pending = b.pending) :
    b'.HasTablesDrawnFrom (ds ++ [d]) := by
  refine ⟨hsound, ?_, ?_⟩
  all_goals rw [htables, hpending]
  · intro e he
    obtain ⟨hnone, x, hx, hdrawn⟩ := h.tables e he
    exact ⟨hnone, x, List.mem_append_left _ hx, hdrawn⟩
  · exact h.there

/-- One draft more. -/
theorem addTable (h : b.HasTablesDrawnFrom ds) {r : Option TableId} (hr : b.addTable d = (.ok r, b')) :
    b'.HasTablesDrawnFrom (ds ++ [d]) := by
  have hsound := sound_addTable h.sound hr
  cases r with
  | none =>
    obtain ⟨other, rfl⟩ := addTable_none hr
    exact h.of_same hsound rfl rfl
  | some id =>
    have hlast : ∀ e ∈ b.model.tables, e.1.val < b.model.nextId :=
      fun _ he => h.sound.model.key_lt he
    obtain ⟨name, collided, columns, -, hplaces, -, rfl, -⟩ := exists_of_addTable hr
    obtain ⟨t, htables, hnone, hdrawn⟩ := exists_drawn_addTable h.sound hplaces hr
    have hpending := (adds_addTable hlast hplaces hr).pending
    set id : TableId := ⟨b.model.nextId⟩ with hid
    have hnew : id ∉ b.model.tables.map (·.1) := nextId_not_mem_map_fst hlast
    refine ⟨hsound, ?_, ?_⟩
    all_goals rw [htables, hpending]
    · -- a foreign key that waits is of an earlier table or of this one
      refine List.forall_mem_append.2 ⟨fun e he => ?_, List.forall_mem_singleton.2 ?_⟩
      · obtain ⟨hempty, x, hx, hx', hkeys⟩ := h.tables e he
        refine ⟨hempty, x, List.mem_append_left _ hx, hx', ?_⟩
        refine List.forall_mem_append.2 ⟨hkeys, fun p hp heq => ?_⟩
        obtain ⟨y, -, rfl⟩ := List.mem_map.1 hp
        have hmem : e.1 ∈ b.model.tables.map (·.1) := List.mem_map_of_mem he
        have hid' : id = e.1 := heq
        exact absurd (hid' ▸ hmem) hnew
      · refine ⟨hnone, d, List.mem_append_right _ (List.mem_singleton_self d), hdrawn, ?_⟩
        refine List.forall_mem_append.2 ⟨fun p hp heq => ?_, fun p hp _ => ?_⟩
        · have hmem := h.there p hp
          rw [heq] at hmem
          exact absurd hmem hnew
        · obtain ⟨y, hy, rfl⟩ := List.mem_map.1 hp
          exact hy
    · rw [List.map_append]
      refine List.forall_mem_append.2 ⟨fun p hp => List.mem_append_left _ (h.there p hp), fun p hp => ?_⟩
      obtain ⟨y, -, rfl⟩ := List.mem_map.1 hp
      exact List.mem_append_right _ (List.mem_singleton_self id)

/-- More drafts. -/
theorem addDrafts (h : b.HasTablesDrawnFrom ds) {ds' : List TableDraft}
    (hr : b.addDrafts ds' = .ok b') :
    b'.HasTablesDrawnFrom (ds ++ ds') := by
  induction ds' generalizing b ds with
  | nil =>
    cases hr
    exact (List.append_nil ds).symm ▸ h
  | cons d ds' ih =>
    unfold Builder.addDrafts at hr
    split at hr
    · cases hr
    · rename_i hadd
      have hrest := ih (h.addTable hadd) hr
      rwa [List.append_assoc] at hrest

/-- Once the foreign keys are resolved, all parts of a table are drawn from its draft. -/
theorem finish (h : b.HasTablesDrawnFrom ds) {e : TableId × Table} (he : e ∈ b.finish.tables) :
    ∃ d ∈ ds, e.2.IsDrawnFrom d := by
  have hthere : ∀ p ∈ b.pending, (b.model.table? p.table).isSome = true := by
    intro p hp
    rw [Model.table?_eq_tableIn, isSome_tableIn_iff]
    exact h.there p hp
  obtain ⟨l, hl, hfinish⟩ := exists_settled_finish h.sound hthere
  rw [hfinish] at he
  obtain ⟨⟨id, t⟩, ht, rfl⟩ := List.mem_map.1 he
  obtain ⟨hnone, d, hd, hdrawn, hkeys⟩ := h.tables _ ht
  refine ⟨d, hd, hdrawn.name, hdrawn.columns, hdrawn.indexes, ?_, hdrawn.checks⟩
  show ∀ f ∈ t.foreignKeys ++ keysOf id l, _
  rw [hnone, List.nil_append]
  -- each of them was waiting for this table, and its columns were found there
  have hsettled := (List.forall₂_and_left _ _).2 ⟨fun p hp => hp, hl⟩
  have hall : ∀ s ∈ l, s.1 = id → ∀ f, s.2 = .ok f → ∃ x ∈ d.foreignKeys,
      (∀ n ∈ x.columns, d.HasColumn n) ∧ f.name = foreignKeyName t x := by
    refine forall_right_of_forall₂ (fun p s hps hid f hok => ?_) hsettled
    obtain ⟨hp, htable, raw, child, hchild, hs⟩ := hps
    rw [← htable, hid, Model.table?_eq_tableIn, tableIn_of_mem h.sound.model.nodup_keys ht] at hchild
    obtain rfl := Option.some.inj hchild
    rw [hok] at hs
    unfold settle at hs
    split at hs <;> cases hs
    rename_i r hr
    obtain ⟨parentId, cs, rs⟩ := r
    obtain ⟨-, -, -, hcs, -⟩ := resolution_eq_ok_iff.1 hr
    refine ⟨p.draft, hkeys p hp (htable.symm.trans hid), ?_, rfl⟩
    exact forall_right_of_forall₂ (fun _ _ hn => hasColumn_of_names hdrawn.columns hn) hcs.flip
  intro f hf
  obtain ⟨s, hs, hok⟩ := List.mem_map.1 (mem_kept hf)
  obtain ⟨hs, hid⟩ := List.mem_filter.1 hs
  exact hall s hs (of_decide_eq_true hid) f hok

end HasTablesDrawnFrom

end Builder

end SchemaBridge
