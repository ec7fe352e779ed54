/-
# Indexes of some rows

An index may cover only the rows that satisfy a predicate.  The reader of a catalogue leaves such an
index out and says so, so that what is unique in the model is unique in the source.  The reader of a
dump takes it for an index of all rows.

## Key statements

* `Live.readsIndexes_read`: the indexes of a catalogue in a model.
* `partialIndexes_read`: both readers.
-/
import SchemaBridge.Proofs.Dump.Accounting
import SchemaBridge.Proofs.Live.IndexRows
import SchemaBridge.Proofs.Mapper.ForeignKeys

namespace SchemaBridge

open Builder

/-! ## Rows of a catalogue -/

namespace Live

/-- An index that a list of rows describes, none of which has a predicate. -/
structure DescribedBy (run : List IndexRow) (t : Table) (i : Index) : Prop where
  whole : ∀ r ∈ run, r.isPartial = false
  name : ∀ r ∈ run, r.name = i.name
  unique : ∃ r ∈ run, r.unique = i.unique
  keys : resolveKeys t (run.map (·.keyDraft)) = .ok i.keys

/-- What follows a draft among those of some rows is described by a part of them. -/
theorem describedBy_of_follows {rows : List IndexRow} {d : IndexDraft} (hd : d ∈ indexDrafts rows)
    {t : Table} {i : Index} (h : i.Follows t d) : ∃ run, run ⊆ rows ∧ DescribedBy run t i := by
  -- a draft is made of the rows of one name, after those with a predicate were left out
  obtain ⟨run, hrun, hdraft⟩ := List.mem_filterMap.1 hd
  have hsub : ∀ r ∈ run, r ∈ rows.filter (!·.isPartial) := by
    intro r hr
    rw [← List.flatten_splitBy (·.name == ·.name) (rows.filter (!·.isPartial))]
    exact List.mem_flatten.2 ⟨run, hrun, hr⟩
  cases run with
  | nil => cases hdraft
  | cons r rest =>
    cases hdraft
    refine ⟨r :: rest, fun x hx => List.mem_of_mem_filter (hsub x hx), fun x hx => ?_, fun x hx => ?_,
      ⟨r, List.mem_cons_self, h.unique.symm⟩, h.keys⟩
    · simpa using (List.mem_filter.1 (hsub x hx)).2
    · exact (name_of_isChain (List.isChain_of_mem_splitBy hrun) x hx).trans (h.name r.name rfl).symm

/-! ## Tables of a catalogue -/

/-- What is said of an index of some rows. -/
def partialIndexIssue (id : TableId) (nspace table index : String) : Issue :=
  .raise .unsupportedConstraint .reader (.table id)
    ("Partial index " ++ index ++ " on " ++ (nspace ++ "." ++ table) ++ " not converted.")

/-- Every index in a model is one that the catalogue describes as one of all rows of its table, and
every other one is named in an issue about its table. -/
def ReadsIndexes (c : Catalogue) (m : Model) : Prop :=
  ∀ id t, m.table? id = some t → ∃ nspace rows, t.nspace = some nspace
    ∧ c.indexes nspace t.sourceName = .ok rows
    ∧ (∀ i ∈ t.indexes, ∃ run, run ⊆ rows ∧ DescribedBy run t i)
    ∧ ∀ r ∈ rows, r.isPartial = true →
      partialIndexIssue id nspace t.sourceName r.name ∈ m.issues

/-- An index is not in its table when all rows of its name are of some rows only. -/
theorem ReadsIndexes.name_ne {c : Catalogue} {m : Model} (h : ReadsIndexes c m) {id : TableId}
    {t : Table} (ht : m.table? id = some t) {nspace : String} (hnspace : t.nspace = some nspace)
    {rows : List IndexRow} (hrows : c.indexes nspace t.sourceName = .ok rows) {name : String}
    (hpartial : ∀ r ∈ rows, r.name = name → r.isPartial = true) : ∀ i ∈ t.indexes, i.name ≠ name := by
  obtain ⟨nspace', rows', hnspace', hrows', hindexes, -⟩ := h id t ht
  obtain rfl : nspace' = nspace := Option.some.inj (hnspace'.symm.trans hnspace)
  obtain rfl : rows' = rows := Except.ok.inj (hrows'.symm.trans hrows)
  rintro i hi rfl
  -- the rows that describe the index have its name, and none of them has a predicate
  obtain ⟨run, hsub, hrun⟩ := hindexes i hi
  obtain ⟨r, hr, -⟩ := hrun.unique
  have hsome := hpartial r (hsub hr) (hrun.name r hr)
  rw [hrun.whole r hr] at hsome
  exact Bool.false_ne_true hsome

/-- A model whose tables differ from those of another at most in their foreign keys. -/
def SameIndexes (m m' : Model) : Prop :=
  ∀ id t', m'.table? id = some t' → ∃ t, m.table? id = some t ∧
    ∃ keys, t' = { t with foreignKeys := keys }

/-- A step that changes no table changes no index. -/
theorem SameIndexes.ofTables {m m' : Model} (h : m'.tables = m.tables) : SameIndexes m m' := by
  intro id t ht
  refine ⟨t, ?_, t.foreignKeys, rfl⟩
  rw [Model.table?_eq_tableIn, ← h]
  exact ht

theorem SameIndexes.trans {m m' m'' : Model} (h : SameIndexes m m') (h' : SameIndexes m' m'') :
    SameIndexes m m'' := by
  intro id t'' ht''
  obtain ⟨t', ht', keys', rfl⟩ := h' id t'' ht''
  obtain ⟨t, ht, keys, rfl⟩ := h id t' ht'
  exact ⟨t, ht, keys', rfl⟩

/-- Indexes that have been read stay read. -/
theorem ReadsIndexes.mono {c : Catalogue} {m m' : Model} (h : ReadsIndexes c m)
    (htables : SameIndexes m m') (hissues : m.issues ⊆ m'.issues) : ReadsIndexes c m' := by
  intro id t' ht'
  obtain ⟨t, ht, keys, rfl⟩ := htables id t' ht'
  obtain ⟨nspace, rows, hnspace, hrows, hindexes, htold⟩ := h id t ht
  refine ⟨nspace, rows, hnspace, hrows, fun i hi => ?_, fun r hr hp => hissues (htold r hr hp)⟩
  obtain ⟨run, hsub, hrun⟩ := hindexes i hi
  have hcolumns : ({ t with foreignKeys := keys } : Table).columns.map Column.core
      = t.columns.map Column.core := rfl
  exact ⟨run, hsub, hrun.whole, hrun.name, hrun.unique,
    (resolveKeys_congr hcolumns _).trans hrun.keys⟩

variable {b b' : Builder} {c : Catalogue}

/-- What the draft of a table has of the rows about its indexes. -/
theorem table_eq_ok {nspace name : String} {draft : TableDraft} {skipped : List String}
    (h : c.table nspace name = .ok (draft, skipped)) : draft.nspace = some nspace
      ∧ draft.name = name ∧ ∃ rows, c.indexes nspace name = .ok rows
        ∧ draft.indexes = indexDrafts rows ∧ skipped = partialIndexes rows := by
  unfold Catalogue.table at h
  obtain ⟨columns, -, h⟩ := bind_eq_ok_iff.1 h
  obtain ⟨primaryKey, -, h⟩ := bind_eq_ok_iff.1 h
  obtain ⟨rows, hrows, h⟩ := bind_eq_ok_iff.1 h
  obtain ⟨foreignKeys, -, h⟩ := bind_eq_ok_iff.1 h
  obtain ⟨checks, -, h⟩ := bind_eq_ok_iff.1 h
  cases h
  exact ⟨rfl, rfl, rows, hrows, rfl, rfl⟩

/-- One table. -/
theorem readsIndexes_readTable {nspace name : String} (h : b.Sound) (hb : ReadsIndexes c b.model)
    (hr : readTable c b nspace name = .ok b') : ReadsIndexes c b'.model := by
  unfold readTable at hr
  obtain ⟨⟨draft, skipped⟩, htable, hr⟩ := bind_eq_ok_iff.1 hr
  obtain ⟨hnspace, hname, rows, hrows, hindexes, rfl⟩ := table_eq_ok htable
  have hgrows := Grows.addTable h draft
  dsimp only at hr
  split at hr
  · cases hr
  · rename_i b₁ heq
    cases hr
    obtain ⟨other, rfl⟩ := addTable_none heq
    exact hb.mono (.ofTables rfl) (List.subset_append_left _ _)
  rename_i id b₁ heq
  rw [heq] at hgrows
  obtain ⟨-, hothers, t, hholds⟩ := holds_addTable h heq
  set found := (partialIndexes rows).map (partialIndexIssue id nspace name) with hfound
  have hreported : b' = { b₁ with
      model := { b₁.model with issues := b₁.model.issues ++ found } } := by
    cases hr
    have hissues := foldl_issue b₁ .unsupportedConstraint (.table id) ((partialIndexes rows).map
      fun i => "Partial index " ++ i ++ " on " ++ (nspace ++ "." ++ name) ++ " not converted.")
    rw [List.foldl_map, List.map_map] at hissues
    exact hissues
  subst hreported
  intro k u hu
  by_cases hk : k = id
  · -- the new table has what its draft asks for and nothing else
    subst hk
    obtain rfl : t = u := Option.some.inj (hholds.found.symm.trans hu)
    have hsame : t.sourceName = name := hholds.sourceName.trans hname
    rw [hsame]
    refine ⟨nspace, rows, hholds.nspace.trans hnspace, hrows, fun i hi => ?_, fun r hr hp => ?_⟩
    · obtain ⟨d, hd, hf⟩ := hholds.nothingElse i hi
      exact describedBy_of_follows (hindexes ▸ hd) hf
    · exact List.mem_append_right _ (List.mem_map_of_mem (mem_partialIndexes_iff.2 ⟨r, hr, rfl, hp⟩))
  · obtain ⟨nspace', rows', hnspace', hrows', hindexes', htold⟩ := hb k u ((hothers k hk).symm.trans hu)
    refine ⟨nspace', rows', hnspace', hrows', hindexes', fun r hr hp => ?_⟩
    exact List.mem_append_left _ (hgrows.keeps.issues.subset (htold r hr hp))

/-! ## Finishing -/

/-- Resolving a foreign key touches nothing but foreign keys. -/
theorem sameIndexes_resolveForeignKey (b : Builder) (p : PendingForeignKey) :
    SameIndexes b.model (b.resolveForeignKey p).model := by
  unfold resolveForeignKey
  simp only [Model.allocate]
  split
  · exact .ofTables rfl
  split
  · exact .ofTables rfl
  split
  · split <;> exact .ofTables rfl
  split
  · exact .ofTables rfl
  intro id t' ht'
  dsimp only at ht'
  rw [table?_modifyTable] at ht'
  split at ht'
  · obtain ⟨t, ht, rfl⟩ := Option.map_eq_some_iff.1 ht'
    exact ⟨t, ht, _, rfl⟩
  · exact ⟨t', ht', t'.foreignKeys, rfl⟩

/-- Foreign keys change no index. -/
theorem sameIndexes_finish (b : Builder) : SameIndexes b.model b.finish := by
  have hfold : ∀ (ps : List PendingForeignKey) (b : Builder),
      SameIndexes b.model (ps.foldl resolveForeignKey b).model := by
    intro ps
    induction ps with
    | nil => exact fun b => .ofTables rfl
    | cons p ps ih => exact fun b => (sameIndexes_resolveForeignKey b p).trans (ih _)
  exact hfold b.pending { b with pending := [] }

/-! ## Reading -/

/-- A reading of a catalogue that may be cancelled at any moment: its tables, then its views. -/
def Reading (c : Catalogue) (b b' : Builder) : Prop :=
  ∃ tables views b₁, Reads (step c) () b tables () b₁ ∧ Reads viewsStep () b₁ views () b'

/-- The reading of a catalogue, as a relation. -/
theorem reading_read (hr : read c b = .ok b') : Reading c b b' := by
  obtain ⟨tables, views, b₁, htables, hviews⟩ := reads_read hr
  exact ⟨tables, [views], b₁, htables, hviews⟩

/-- A reading leads from a sound builder to a sound one. -/
theorem Reading.leads (hr : Reading c b b') (h : b.Sound) : b.Leads b' := by
  obtain ⟨tables, views, b₁, htables, hviews⟩ := hr
  have hfirst := (htables.moves calls_step h).leads h
  exact hfirst.trans ((hviews.moves (fun _ => calls_viewsStep) hfirst.sound).leads hfirst.sound)

/-- The next table changes no index that has been read. -/
theorem readsIndexes_step {u u' : Unit} {t : String × String} (h : b.Sound)
    (hb : ReadsIndexes c b.model) (hr : step c u b t = .ok (u', b')) : ReadsIndexes c b'.model := by
  obtain ⟨b₁, h₁, heq⟩ := bind_eq_ok_iff.1 hr
  cases heq
  exact readsIndexes_readTable h hb h₁

/-- Views change no index. -/
theorem readsIndexes_viewsStep {u u' : Unit} {views : List ViewRow}
    (hb : ReadsIndexes c b.model) (hr : viewsStep u b views = .ok (u', b')) :
    ReadsIndexes c b'.model := by
  cases hr
  have hissues := foldl_issue b .unsupportedConstruct .schema (views.map fun v =>
    "Skipped " ++ (if v.materialized then "materialized view " else "view ") ++ v.nspace ++ "."
      ++ v.name)
  rw [List.foldl_map] at hissues
  have hviews : views.foldl reportView b = _ := hissues
  rw [hviews]
  exact hb.mono (.ofTables rfl) (List.subset_append_left _ _)

/-- **Indexes of a catalogue.**  Whenever a reading is cancelled, the finished model has no index but
those of all rows, and an issue for each other index of a table that it has. -/
theorem readsIndexes_read (h : b.Sound) (hb : ReadsIndexes c b.model) (hr : Reading c b b') :
    ReadsIndexes c b'.finish := by
  obtain ⟨tables, views, b₁, htables, hviews⟩ := hr
  have hissues : ∀ b b' : Builder, b'.model.tables = b.model.tables →
      b.model.issues ⊆ b'.model.issues → ReadsIndexes c b.model → ReadsIndexes c b'.model :=
    fun _ _ htables hsub hb => hb.mono (.ofTables htables) hsub
  have hread := htables.invariant (Q := fun b => ReadsIndexes c b.model) calls_step
    readsIndexes_step hissues h hb
  have hsound := ((htables.moves calls_step h).leads h).sound
  have hviewed := hviews.invariant (Q := fun b => ReadsIndexes c b.model) (fun _ => calls_viewsStep)
    (fun _ => readsIndexes_viewsStep) hissues hsound hread
  refine hviewed.mono (sameIndexes_finish b') ?_
  obtain ⟨found, hfound, -⟩ := (Grows.finish b').issues
  rw [hfound]
  exact List.subset_append_left _ _

end Live

/-! ## Statements of a dump -/

namespace Dump.Reader

open Sql (Definition Ident IndexPart)

variable {r r' : Reader} {b b' : Builder}

/-- An index is left out, and an issue about its table names it. -/
def LeavesOut (id : TableId) (t : Table) (d : IndexDraft) (b b' : Builder) : Prop :=
  b'.model.tables = b.model.tables
    ∧ ∃ missing, b'.model.issues = b.model.issues ++ [lostIndexIssue id t d missing]

/-- An index of a definition is taken for one of all rows.  It goes to its table, and nothing is said of
it; it is left out just when one of its keys is no column. -/
def TakesForWhole (s : Statement) (name : Option (List Ident)) (table : List Ident) (unique : Bool)
    (parts : List IndexPart) (b b' : Builder) : Prop :=
  match b.lookup (splitName table).1 (splitName table).2 with
  | none => b' = missingTable b s (splitName table).2
  | some id => ∃ t, b.model.table? id = some t
    ∧ (∀ keys, resolveKeys t (parts.map keyDraft) = .ok keys →
      b' = b.withPart id fun u =>
        { u with indexes := u.indexes ++ [newIndex b t (indexDraft name unique parts) keys] })
    ∧ (LeavesOut id t (indexDraft name unique parts) b b'
      ↔ ∃ missing, resolveKeys t (parts.map keyDraft) = .error missing)

/-- An index that was added is not left out. -/
theorem not_leavesOut_withPart {id : TableId} {t : Table} (ht : b.model.table? id = some t)
    (d : IndexDraft) (i : Index) :
    ¬ LeavesOut id t d b (b.withPart id fun u => { u with indexes := u.indexes ++ [i] }) := by
  rintro ⟨htables, -⟩
  have hadded := table?_withPart_self ht fun u => { u with indexes := u.indexes ++ [i] }
  rw [Model.table?_eq_tableIn, htables, ← Model.table?_eq_tableIn, ht] at hadded
  have hindexes : t.indexes = t.indexes ++ [i] := congrArg Table.indexes (Option.some.inj hadded)
  exact absurd (List.self_eq_append_right.1 hindexes) (List.cons_ne_nil i [])

/-- An index with a predicate is taken for one without. -/
theorem takesForWhole_addIndex (h : b.Sound) (s : Statement) (name : Option (List Ident))
    (table : List Ident) (unique : Bool) (parts : List IndexPart) (predicate : Option String) :
    TakesForWhole s name table unique parts b
      (addIndex s b (.createIndex name table unique parts predicate)) := by
  unfold TakesForWhole addIndex
  dsimp only
  cases hl : b.lookup (splitName table).1 (splitName table).2 with
  | none => rfl
  | some id =>
    obtain ⟨t, ht⟩ := Option.isSome_iff_exists.1 (isSome_of_lookup h hl)
    change ∃ t, _ ∧ (∀ keys, _ → b.addIndex id (indexDraft name unique parts) = _)
      ∧ (LeavesOut id t _ b (b.addIndex id (indexDraft name unique parts)) ↔ _)
    refine ⟨t, ht, fun keys hk => addIndex_ok ht hk, fun hleft => ?_, fun ⟨missing, hk⟩ => ?_⟩
    · cases hk : resolveKeys t (parts.map keyDraft) with
      | ok keys =>
        rw [addIndex_ok ht hk] at hleft
        exact absurd hleft (not_leavesOut_withPart ht _ _)
      | error missing => exact ⟨missing, rfl⟩
    · rw [addIndex_error ht hk]
      exact ⟨rfl, missing, rfl⟩

/-- The indexes with a predicate that a statement defines. -/
def TakesPartialIndexes (r : Reader) (s : Statement) (b b' : Builder) : Prop :=
  Kind.ofText s.text.toList = .createIndex →
    ∀ ds, r.definitions s.text = .ok ds →
      ∀ name table unique parts predicate,
        Definition.createIndex name table unique parts (some predicate) ∈ ds →
          b.Within b' (TakesForWhole s name table unique parts)

/-- How indexes with predicates are taken depends on the parser alone. -/
theorem TakesPartialIndexes.congr {r₁ : Reader} {s : Statement} (h : TakesPartialIndexes r₁ s b b')
    (hr : r.Alike r₁) : TakesPartialIndexes r s b b' := by
  unfold TakesPartialIndexes at h ⊢
  rwa [← definitions_congr hr]

theorem takesPartialIndexes_readStatement {s : Statement} (h : b.Sound)
    (hr : r.readStatement b s = .ok (r', b')) : TakesPartialIndexes r s b b' := by
  intro hkind ds hds name table unique parts predicate hd
  unfold readStatement at hr
  rw [hkind] at hr
  cases hr
  unfold createIndex
  rw [hds]
  exact within_foldl_addIndex s h
    (fun b hb => takesForWhole_addIndex hb s name table unique parts _) hd

theorem reads_takesPartialIndexes {dump : String} (h : b.Sound) (hnot : b.aborted = false)
    (hr : Reads readStatement r b (statements r.dialect dump) r' b') :
    (∃ i ∈ b'.model.issues, i.category = .aborted) ∨ ∀ s ∈ statements r.dialect dump,
      b.Within b' (TakesPartialIndexes r s) :=
  hr.each (I := r.Alike) (P := TakesPartialIndexes r) calls_readStatement
    (fun hb hi hs => ⟨hi.trans (alike_readStatement hs),
      (takesPartialIndexes_readStatement hb hs).congr hi⟩) (.refl r) h hnot

end Dump.Reader

/-! ## Both readers -/

/-- **Indexes of some rows.**  The reader of a catalogue adds none, and says so of each; what a foreign
key refers to after a mapping is a primary key or a unique index of all rows.  The reader of a dump
adds every such index whose keys are columns, as one of all rows, and says nothing of it. -/
theorem partialIndexes_read {c : Live.Catalogue} {r r' : Dump.Reader} {b b' d d' : Builder}
    {dump : String} (h : b.Sound) (hempty : b.model.tables = []) (hr : Live.Reading c b b')
    (hd : d.Sound) (hnot : d.aborted = false)
    (hreads : Reads Dump.Reader.readStatement r d (Dump.statements r.dialect dump) r' d') :
    (Live.ReadsIndexes c b'.finish
      ∧ (∀ id t nspace rows name, b'.finish.table? id = some t → t.nspace = some nspace →
        c.indexes nspace t.sourceName = .ok rows →
        (∀ r ∈ rows, r.name = name → r.isPartial = true) → ∀ i ∈ t.indexes, i.name ≠ name)
      ∧ ∀ synthetic id t', (Mapper.map synthetic b'.finish).table? id = some t' →
        ∀ f ∈ t'.foreignKeys, ∃ p p', b'.finish.table? f.referencedTable = some p
          ∧ (Mapper.map synthetic b'.finish).table? f.referencedTable = some p'
          ∧ (Table.coversKey f.referencedColumns.eraseDups p'.primaryKey = true
            ∨ ∃ i ∈ p.indexes, i.unique = true
              ∧ Table.coversKey f.referencedColumns.eraseDups i.keys = true))
    ∧ ((∃ i ∈ d'.model.issues, i.category = .aborted)
      ∨ ∀ s ∈ Dump.statements r.dialect dump,
        d.Within d' (Dump.Reader.TakesPartialIndexes r s)) := by
  -- nothing was there before the catalogue was read, so nothing has to be left alone
  have hread : Live.ReadsIndexes c b'.finish := by
    refine Live.readsIndexes_read h (fun id t ht => ?_) hr
    rw [Model.table?_eq_tableIn, hempty] at ht
    cases ht
  refine ⟨⟨hread, fun id t nspace rows name ht hnspace hrows hpartial => ?_,
    fun synthetic id t' ht' f hf => ?_⟩, ?_⟩
  · exact hread.name_ne ht hnspace hrows hpartial
  · exact Mapper.exists_key_of_mem (Sound.finish (hr.leads h).sound).1 synthetic ht' hf
  · exact Dump.Reader.reads_takesPartialIndexes hd hnot hreads

/-- A catalogue of one table, with a unique index of some rows and one of all. -/
def partialCatalogue : Live.Catalogue where
  probe := .ok ()
  tables := .ok [("public", "t")]
  views := .ok []
  columns _ _ := .ok [⟨"a", "integer", true, none, "", "", none⟩]
  primaryKey _ _ := .ok []
  indexes _ _ := .ok [⟨"p", true, true, "a", false⟩, ⟨"w", true, false, "a", false⟩]
  foreignKeys _ _ := .ok []
  checks _ _ := .ok []

/-- A dump of one table with a unique index of some rows. -/
def partialDump : String :=
  "CREATE TABLE t (a integer);
CREATE UNIQUE INDEX i ON t (a) WHERE a > 0;"

/-- The names of the indexes of a model, whether they are unique, and what is said in its issues. -/
def indexesAndIssues (m : Model) : List (String × Bool) × List String :=
  (m.tables.flatMap fun e => e.2.indexes.map fun i => (i.name, i.unique), m.issues.map (·.detail))

theorem partialIndexes_read_partialSources :
    ∃ (r' : Dump.Reader) (b' d' : Builder), Live.Reading partialCatalogue (newBuilder .postgres) b'
      ∧ Reads Dump.Reader.readStatement Dump.Reader.postgresReader (newBuilder .postgres)
        (Dump.statements Dump.Reader.postgresReader.dialect partialDump) r' d'
      ∧ indexesAndIssues b'.finish
        = ([("w", true)], ["Partial index p on public.t not converted."])
      ∧ Live.ReadsIndexes partialCatalogue b'.finish
      ∧ ((∃ i ∈ d'.model.issues, i.category = .aborted)
        ∨ ∀ s ∈ Dump.statements Dump.Reader.postgresReader.dialect partialDump,
          (newBuilder .postgres).Within d'
            (Dump.Reader.TakesPartialIndexes Dump.Reader.postgresReader s)) := by
  have hsound : (newBuilder .postgres).Sound := Sound.start _ _ _ _
  have hlive : (Live.read partialCatalogue (newBuilder .postgres)).map
      (fun b => indexesAndIssues b.finish)
      = .ok ([("w", true)], ["Partial index p on public.t not converted."]) := by decide +kernel
  have hdump : ((Dump.Reader.postgresReader.read (newBuilder .postgres) partialDump).map
      fun _ => ()) = .ok () := by decide +kernel
  -- both readings are evaluated for what they give, not for the builder
  cases hr : Live.read partialCatalogue (newBuilder .postgres) with
  | error e =>
    rw [hr] at hlive
    cases hlive
  | ok b' =>
    cases hd : Dump.Reader.postgresReader.read (newBuilder .postgres) partialDump with
    | error e =>
      rw [hd] at hdump
      cases hdump
    | ok p =>
      rw [hr] at hlive
      have hreading := Live.reading_read hr
      have hreads := Dump.Reader.reads_read hd
      obtain ⟨⟨hindexes, -⟩, htakes⟩ :=
        partialIndexes_read hsound rfl hreading hsound rfl hreads
      exact ⟨p.1, b', p.2, hreading, hreads, Except.ok.inj hlive, hindexes, htakes⟩

/-- Whether a statement of a dump defines an index with a predicate. -/
def definesPartialIndex (s : Dump.Statement) : Bool :=
  match Dump.Reader.postgresReader.definitions s.text with
  | .error _ => false
  | .ok ds => ds.any fun
    | .createIndex _ _ _ _ (some _) => true
    | _ => false

/-- What the dump has as an index of some rows is in the model as one of all rows, and no issue says
so. -/
theorem unique_partialDump :
    (Dump.statements .postgres partialDump).any definesPartialIndex = true
      ∧ ((Dump.Reader.postgresReader.read (newBuilder .postgres) partialDump).map
        fun p => indexesAndIssues p.2.finish) = .ok ([("i", true)], []) := by
  decide +kernel

end SchemaBridge
