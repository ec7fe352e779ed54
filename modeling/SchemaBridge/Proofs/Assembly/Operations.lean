/-
# What the operations of a builder keep

A sound builder holds a sound model, knows only tables of it, and has given no table a synthetic
column or two columns of one name, and no two tables names that differ in the case of ASCII letters
alone.  Every operation leads from one sound builder to another in which no table is lost.

## Key statements

* `Leads.addTable`, `Leads.setPrimaryKey`, `Leads.addIndex`, …: one statement for each operation.
* `Sound.finish`: the finished model is sound.
-/
import SchemaBridge.Assembly.Builder
import SchemaBridge.Proofs.Schema.Validity
import SchemaBridge.Proofs.Text.FoldedNames

namespace SchemaBridge

/-! ## Columns as the builder leaves them -/

/-- What no change of a column touches. -/
def Column.core (c : Column) : Column :=
  { c with nullable := true, default := none, identity := false }

/-- What tells the columns of a table apart. -/
def Column.face (c : Column) : ColumnId × String × Bool := (c.id, c.name, c.synthetic)

/-- Two relations between lists, one after the other. -/
theorem forall₂_comp {α β γ : Type} {R : α → β → Prop} {S : β → γ → Prop} {T : α → γ → Prop}
    (h : ∀ a b c, R a b → S b c → T a c) {l : List α} {l' : List β} {l'' : List γ}
    (hr : List.Forall₂ R l l') (hs : List.Forall₂ S l' l'') : List.Forall₂ T l l'' := by
  induction hr generalizing l'' with
  | nil =>
    cases hs
    exact .nil
  | cons hr _ ih =>
    cases hs with
    | cons hs hrest => exact .cons (h _ _ _ hr hs) (ih hrest)

/-- What each pair of a relation says of its second member. -/
theorem forall_right_of_forall₂ {α β : Type} {R : α → β → Prop} {P : β → Prop}
    (h : ∀ a b, R a b → P b) {l : List α} {l' : List β} (hl : List.Forall₂ R l l') :
    ∀ b ∈ l', P b := by
  induction hl with
  | nil => exact List.forall_mem_nil _
  | cons hr _ ih => exact List.forall_mem_cons.2 ⟨h _ _ hr, ih⟩

/-- A column that may have become one of a key. -/
def Column.Tightened (c c' : Column) : Prop := c' = c ∨ c' = { c with nullable := false }

theorem Column.Tightened.trans {c c' c'' : Column} (h : c.Tightened c') (h' : c'.Tightened c'') :
    c.Tightened c'' := by
  rcases h with rfl | rfl
  · exact h'
  · rcases h' with rfl | rfl <;> exact Or.inr rfl

/-- Columns of a key keep all but whether they may be missing. -/
theorem map_core_of_tightened {cs cs' : List Column} (h : List.Forall₂ Column.Tightened cs cs') :
    cs'.map Column.core = cs.map Column.core := by
  induction h with
  | nil => rfl
  | cons hc _ ih =>
    rw [List.map_cons, List.map_cons, ih]
    rcases hc with rfl | rfl <;> rfl

/-- What tells columns apart is part of what no change touches. -/
theorem map_face_of_core {cs cs' : List Column} (h : cs'.map Column.core = cs.map Column.core) :
    cs'.map Column.face = cs.map Column.face := by
  have hm := congrArg (List.map Column.face) h
  rwa [List.map_map, List.map_map] at hm

/-- A table as readers describe it: no two columns have one name, and none is synthetic. -/
structure Table.IsPlain (t : Table) : Prop where
  names : (t.columns.map fun c => Text.lowerText c.name).Nodup
  notSynthetic : ∀ c ∈ t.columns, c.synthetic = false

/-- Their identifiers are part of it. -/
theorem map_id_of_face {cs cs' : List Column} (h : cs'.map Column.face = cs.map Column.face) :
    cs'.map (·.id) = cs.map (·.id) := by
  have hm := congrArg (List.map (·.1)) h
  rwa [List.map_map, List.map_map] at hm

/-- Whether a table is plain depends on what tells its columns apart. -/
theorem Table.IsPlain.of_face {t t' : Table} (h : t.IsPlain)
    (hf : t'.columns.map Column.face = t.columns.map Column.face) : t'.IsPlain := by
  constructor
  · have hm := congrArg (List.map fun x => Text.lowerText x.2.1) hf
    rw [List.map_map, List.map_map] at hm
    have hn : (t'.columns.map fun c => Text.lowerText c.name)
        = t.columns.map fun c => Text.lowerText c.name := hm
    rw [hn]
    exact h.names
  · intro c hc
    have hm : c.face ∈ t.columns.map Column.face := hf ▸ List.mem_map_of_mem hc
    obtain ⟨c', hc', he⟩ := List.mem_map.1 hm
    have hs : c'.synthetic = c.synthetic := congrArg (·.2.2) he
    rw [← hs]
    exact h.notSynthetic c' hc'

/-- Tables as readers describe them: no two have one name up to the case of ASCII letters. -/
structure AsDescribed (l : KeyedTables) : Prop where
  plain : ∀ e ∈ l, e.2.IsPlain
  names : (l.map fun e => Text.folded e.2.name).Nodup

/-- A column that is found by its name is one of the table. -/
theorem Table.mem_of_columnByName? {t : Table} {n : String} {c : Column}
    (h : t.columnByName? n = some c) : t.hasColumn c.id = true := by
  rw [Table.hasColumn_iff]
  exact List.mem_map_of_mem (List.mem_of_find?_eq_some h)

/-- A change of a table that is not there changes nothing. -/
theorem Model.modifyTable_of_none {m : Model} {id : TableId} (h : m.table? id = none)
    (f : Table → Table) : m.modifyTable id f = m := by
  have hm : id ∉ m.tables.map (·.1) := by
    rw [← isSome_tableIn_iff, ← Model.table?_eq_tableIn, h]
    simp
  have ht : (m.modifyTable id f).tables = m.tables := changeIn_of_not_mem hm f
  cases m
  exact congrArg (fun l => (⟨_, _, l, _, _, _⟩ : Model)) ht

/-- What is true of every table stays so through a change that keeps it. -/
theorem forall_changeIn {P : Table → Prop} {l : KeyedTables} (h : ∀ e ∈ l, P e.2) (id : TableId)
    {f : Table → Table} (hf : ∀ t, P t → P (f t)) : ∀ e ∈ changeIn l id f, P e.2 := by
  intro e he
  obtain ⟨⟨k, t⟩, hm, rfl⟩ := List.mem_map.1 he
  by_cases hk : k = id
  · simp only [hk, if_true]
    exact hf t (h _ hm)
  · simp only [if_neg hk]
    exact h _ hm

/-- Tables stay as they were described through a change that keeps names and columns. -/
theorem AsDescribed.changeIn {l : KeyedTables} (h : AsDescribed l) (id : TableId) {f : Table → Table}
    (hname : ∀ t, (f t).name = t.name) (hplain : ∀ t : Table, t.IsPlain → (f t).IsPlain) :
    AsDescribed (changeIn l id f) := by
  refine ⟨forall_changeIn h.plain id hplain, ?_⟩
  have hnames : (SchemaBridge.changeIn l id f).map (fun e => Text.folded e.2.name)
      = l.map fun e => Text.folded e.2.name := by
    unfold SchemaBridge.changeIn
    rw [List.map_map]
    refine List.map_congr_left fun e _ => ?_
    by_cases hid : e.1 = id
    · simp [hid, hname]
    · simp [hid]
  rw [hnames]
  exact h.names

/-! ## Names that are resolved -/

/-- A column goes by a name. -/
def Table.Names (t : Table) (n : String) (c : ColumnId) : Prop :=
  ∃ column, t.columnByName? n = some column ∧ column.id = c

/-- A part of a key is the column of a name, in the direction asked for. -/
def Table.NamesPart (t : Table) (k : KeyDraft) (part : KeyPart) : Prop :=
  t.Names k.1 part.column ∧ part.desc = k.2

/-- A column that goes by a name is one of the table. -/
theorem Table.Names.hasColumn {t : Table} {n : String} {c : ColumnId} (h : t.Names n c) :
    t.hasColumn c = true := by
  obtain ⟨column, hcolumn, rfl⟩ := h
  exact Table.mem_of_columnByName? hcolumn

namespace Builder

section

variable {α β : Type} {t t' : Table} {name : α → String} {make : α → ColumnId → β} {l : List α}

/-- What is resolved is made of the columns that go by the names, one for each name. -/
theorem resolveEach_eq_ok_iff {made : List β} : resolveEach t name make l = .ok made
    ↔ List.Forall₂ (fun a b => ∃ c, t.Names (name a) c ∧ make a c = b) l made := by
  induction l generalizing made with
  | nil =>
    rw [List.forall₂_nil_left_iff]
    exact ⟨fun h => (Except.ok.inj h).symm, fun h => h ▸ rfl⟩
  | cons a l ih =>
    rw [List.forall₂_cons_left_iff]
    unfold resolveEach
    constructor
    · intro h
      split at h
      · cases h
      rename_i c hc
      -- what is made of the first name counts only if all others are columns too
      cases hr : resolveEach t name make l with
      | error e =>
        rw [hr] at h
        cases h
      | ok rest =>
        rw [hr] at h
        cases h
        exact ⟨_, rest, ⟨c.id, ⟨c, hc, rfl⟩, rfl⟩, ih.1 hr, rfl⟩
    · rintro ⟨-, rest, ⟨-, ⟨c, hc, rfl⟩, rfl⟩, hrest, rfl⟩
      rw [hc]
      dsimp only
      rw [ih.2 hrest]
      rfl

/-- If nothing is resolved, one of the names is no column's. -/
theorem exists_of_resolveEach_error {missing : String}
    (h : resolveEach t name make l = .error missing) :
    ∃ a ∈ l, name a = missing ∧ t.columnByName? (name a) = none := by
  induction l with
  | nil => cases h
  | cons a l ih =>
    unfold resolveEach at h
    split at h
    · rename_i hc
      exact ⟨a, List.mem_cons_self, Except.error.inj h, hc⟩
    · cases hr : resolveEach t name make l with
      | ok rest =>
        rw [hr] at h
        cases h
      | error e =>
        rw [hr] at h
        cases h
        obtain ⟨a', ha', hmissing⟩ := ih hr
        exact ⟨a', List.mem_cons_of_mem _ ha', hmissing⟩

/-- Two tables resolve alike, as far as what is made is read, if they do so for each name. -/
theorem map_resolveEach_congr {γ : Type} {read read' : β → γ}
    (h : ∀ a, (t'.columnByName? (name a)).map (fun c => read' (make a c.id))
      = (t.columnByName? (name a)).map fun c => read (make a c.id)) (l : List α) :
    (resolveEach t' name make l).map (·.map read')
      = (resolveEach t name make l).map (·.map read) := by
  -- what is made first is read first
  have hstep (r : Except String (List β)) (b : β) (f : β → γ) :
      (r.map (b :: ·)).map (·.map f) = (r.map (·.map f)).map (f b :: ·) := by
    cases r <;> rfl
  induction l with
  | nil => rfl
  | cons a l ih =>
    have hsame := h a
    unfold resolveEach
    cases hc : t.columnByName? (name a) with
    | none =>
      rw [hc] at hsame
      rw [Option.map_eq_none_iff.1 hsame]
      rfl
    | some c =>
      rw [hc] at hsame
      obtain ⟨c', hc', hread⟩ := Option.map_eq_some_iff.1 hsame
      rw [hc']
      dsimp only
      rw [hstep, hstep, ih, hread]

/-- Two tables whose names stand for the same columns resolve alike. -/
theorem resolveEach_congr
    (h : ∀ n, (t'.columnByName? n).map (·.id) = (t.columnByName? n).map (·.id)) (l : List α) :
    resolveEach t' name make l = resolveEach t name make l := by
  have hread : (resolveEach t' name make l).map (·.map id)
      = (resolveEach t name make l).map (·.map id) := by
    refine map_resolveEach_congr (fun a => ?_) l
    have hmade := congrArg (Option.map (make a)) (h (name a))
    rwa [Option.map_map, Option.map_map] at hmade
  have hid (r : Except String (List β)) : r.map (·.map id) = r := by
    cases r <;> simp [Except.map]
  rwa [hid, hid] at hread

end

/-- Columns are resolved to those that go by the names. -/
theorem resolveColumns_eq_ok_iff {t : Table} {names : List String} {ids : List ColumnId} :
    resolveColumns t names = .ok ids ↔ List.Forall₂ t.Names names ids := by
  have hmade : (fun (n : String) (c' : ColumnId) => ∃ c, t.Names (id n) c ∧ c = c') = t.Names := by
    funext n c
    exact propext exists_eq_right
  rw [← hmade]
  exact resolveEach_eq_ok_iff

/-- What names are resolved to depends on the columns alone. -/
theorem resolveColumns_congr {t t' : Table} (h : t'.columns = t.columns) (names : List String) :
    resolveColumns t' names = resolveColumns t names :=
  resolveEach_congr (fun n => by unfold Table.columnByName?; rw [h]) names

/-- Key parts are resolved to the columns that go by the names, in the directions asked for. -/
theorem resolveKeys_eq_ok_iff {t : Table} {columns : List KeyDraft} {keys : List KeyPart} :
    resolveKeys t columns = .ok keys ↔ List.Forall₂ t.NamesPart columns keys := by
  have hmade : (fun (k : KeyDraft) part => ∃ c, t.Names k.1 c ∧ (⟨c, k.2⟩ : KeyPart) = part)
      = t.NamesPart := by
    funext k part
    refine propext ⟨?_, fun h => ⟨_, h.1, by rw [← h.2]⟩⟩
    rintro ⟨c, hc, rfl⟩
    exact ⟨hc, rfl⟩
  rw [← hmade]
  exact resolveEach_eq_ok_iff

/-- There are as many columns as names, all of the table. -/
theorem resolveColumns_spec {t : Table} {names : List String} {ids : List ColumnId}
    (h : resolveColumns t names = .ok ids) :
    ids.length = names.length ∧ ∀ c ∈ ids, t.hasColumn c = true := by
  have hnamed := resolveColumns_eq_ok_iff.1 h
  exact ⟨hnamed.length_eq.symm, forall_right_of_forall₂ (fun _ _ hc => hc.hasColumn) hnamed⟩

/-- There are as many key parts as names, all of the table. -/
theorem resolveKeys_spec {t : Table} {columns : List KeyDraft} {keys : List KeyPart}
    (h : resolveKeys t columns = .ok keys) :
    keys.length = columns.length ∧ ∀ k ∈ keys, t.hasColumn k.column = true := by
  have hnamed := resolveKeys_eq_ok_iff.1 h
  exact ⟨hnamed.length_eq.symm, forall_right_of_forall₂ (fun _ _ hk => hk.1.hasColumn) hnamed⟩

/-! ## Sound builders -/

/-- A sound model, of which only its own tables are known, each of them as it was described. -/
structure Sound (b : Builder) : Prop where
  model : b.model.Sound
  known : ∀ e ∈ b.bySource, (b.model.table? e.2).isSome = true
  described : AsDescribed b.model.tables

/-- From one builder to a sound one that still has every table. -/
structure Leads (b b' : Builder) : Prop where
  sound : b'.Sound
  keeps : ∀ id, (b.model.table? id).isSome = true → (b'.model.table? id).isSome = true

/-- A builder of an empty model is sound. -/
theorem Sound.start (source : SourceDialect) (target : TargetDialect) (policy : CollisionPolicy)
    (audit : Audit) : (start source target policy audit).Sound where
  model := Model.Sound.empty source target audit
  known := by intro e he; cases he
  described := ⟨fun _ he => (List.not_mem_nil he).elim, List.nodup_nil⟩

/-- A cancellation changes nothing that soundness is about. -/
theorem Sound.cancel {b : Builder} (h : b.Sound) : b.cancel.Sound :=
  ⟨h.model, h.known, h.described⟩

namespace Leads

variable {b b' b'' : Builder}

theorem refl (h : b.Sound) : b.Leads b := ⟨h, fun _ hid => hid⟩

theorem trans (h : b.Leads b') (h' : b'.Leads b'') : b.Leads b'' :=
  ⟨h'.sound, fun id hid => h'.keeps id (h.keeps id hid)⟩

/-- What every operation keeps, a list of them keeps. -/
theorem foldl {α : Type} {f : Builder → α → Builder} (l : List α)
    (hf : ∀ b : Builder, ∀ a ∈ l, b.Sound → b.Leads (f b a)) (h : b.Sound) :
    b.Leads (l.foldl f b) := by
  induction l generalizing b with
  | nil => exact refl h
  | cons a l ih =>
    have hstep := hf b a List.mem_cons_self h
    exact hstep.trans (ih (fun b a ha => hf b a (List.mem_cons_of_mem _ ha)) hstep.sound)

/-- Issues of the reader are about the schema or a table that is there. -/
theorem issue (h : b.Sound) (c : IssueCategory) {target : IssueTarget}
    (ht : HasTargetIn b.model.tables target) (hb : target.IsBroad) (detail : String) :
    b.Leads (b.issue c target detail) :=
  ⟨⟨h.model.addIssue ht fun _ => hb, h.known, h.described⟩, fun _ hid => hid⟩

/-- An issue about the whole schema. -/
theorem issue_schema (h : b.Sound) (c : IssueCategory) (detail : String) :
    b.Leads (b.issue c .schema detail) :=
  issue h c (HasTargetIn.schema _) trivial detail

/-- An issue about a table that is there. -/
theorem issue_table (h : b.Sound) (c : IssueCategory) {id : TableId}
    (hid : (b.model.table? id).isSome = true) (detail : String) :
    b.Leads (b.issue c (.table id) detail) := by
  obtain ⟨t, ht⟩ := Option.isSome_iff_exists.1 hid
  exact issue h c (HasTargetIn.of_tableIn ht) trivial detail

/-- What is said of a cancellation is about the whole schema. -/
theorem shouldStop (h : b.Sound) : b.Leads b.shouldStop.2 := by
  unfold Builder.shouldStop
  split
  · have hissue := issue_schema h .aborted ("Reading cancelled after " ++ Text.decimal b.tableCount
      ++ " tables; the model is partial.")
    exact ⟨⟨hissue.sound.model, hissue.sound.known, hissue.sound.described⟩, hissue.keeps⟩
  · exact refl h

/-! ## Changes of a table -/

/-- An identifier that is taken and not used. -/
theorem allocate (h : b.Sound) : b.Leads { b with model := b.model.allocate.2 } :=
  ⟨⟨h.model.allocate, h.known, h.described⟩, fun _ hid => hid⟩

/-- A change of one table for another that may take its place. -/
theorem modifyTable (h : b.Sound) {id : TableId} {t : Table} {f : Table → Table}
    (ht : b.model.table? id = some t) (hf : t.MayReplace b.model (f t))
    (hname : ∀ t, (f t).name = t.name) (hplain : ∀ t : Table, t.IsPlain → (f t).IsPlain) :
    b.Leads { b with model := b.model.modifyTable id f } := by
  have hkeeps : ∀ k, (b.model.table? k).isSome = true →
      ((b.model.modifyTable id f).table? k).isSome = true := by
    intro k hk
    rw [Model.table?_eq_tableIn, Model.modifyTable_tables, tableIn_changeIn]
    rw [Model.table?_eq_tableIn] at hk
    split
    · simpa using hk
    · exact hk
  exact ⟨⟨h.model.modifyTable ht hf, fun e he => hkeeps _ (h.known e he),
    h.described.changeIn id hname hplain⟩, hkeeps⟩

/-- A change of columns that touches no face. -/
theorem modifyColumns (h : b.Sound) (id : TableId) {f : List Column → List Column}
    (hf : ∀ cs, (f cs).map Column.face = cs.map Column.face) :
    b.Leads { b with
      model := b.model.modifyTable id fun t => { t with columns := f t.columns } } := by
  cases ht : b.model.table? id with
  | none =>
    rw [Model.modifyTable_of_none ht]
    exact refl h
  | some t =>
    refine modifyTable h ht ?_ (fun _ => rfl) fun t hp => hp.of_face (hf t.columns)
    exact Table.MayReplace.ofSameParts h.model ht rfl (map_id_of_face (hf t.columns)) rfl rfl rfl
      (h.model.refers _ (mem_of_tableIn ht)).primaryKey

/-- A change of a column that leaves what tells it apart. -/
theorem modifyColumnByName (h : b.Sound) (id : TableId) (column : String) {f : Column → Column}
    (hf : ∀ c, (f c).face = c.face) : b.Leads (b.modifyColumnByName id column f) :=
  modifyColumns h id fun cs => Table.modifyFirst_map _ f Column.face hf cs

/-- A column becomes an identity column. -/
theorem setIdentity (h : b.Sound) (id : TableId) (column : String) :
    b.Leads (b.setIdentity id column) :=
  modifyColumnByName h id column fun _ => rfl

/-- A column is given a default. -/
theorem setColumnDefault (h : b.Sound) (id : TableId) (column expr : String) :
    b.Leads (b.setColumnDefault id column expr) := by
  unfold Builder.setColumnDefault
  split
  · exact refl h
  · rename_i t ht
    split
    · exact issue_table h _ (by rw [ht]; rfl) _
    · refine modifyColumnByName h id column fun c => ?_
      split <;> rfl

/-- A column that may not be missing any more. -/
theorem tightened_modifyFirst (p : Column → Bool) (cs : List Column) : List.Forall₂
    Column.Tightened cs (Table.modifyFirst p (fun c => { c with nullable := false }) cs) := by
  induction cs with
  | nil => exact .nil
  | cons c cs ih =>
    unfold Table.modifyFirst
    split
    · exact .cons (Or.inr rfl) (List.forall₂_same.2 fun _ _ => Or.inl rfl)
    · exact .cons (Or.inl rfl) ih

/-- The columns of a primary key become non-nullable, and nothing else changes. -/
theorem foldl_require (keys : List KeyPart) (t : Table) :
    ∃ cs, List.Forall₂ Column.Tightened t.columns cs ∧
      keys.foldl (fun t k => t.modifyColumn k.column fun c => { c with nullable := false }) t
        = { t with columns := cs } := by
  induction keys generalizing t with
  | nil => exact ⟨t.columns, List.forall₂_same.2 fun _ _ => Or.inl rfl, rfl⟩
  | cons k keys ih =>
    obtain ⟨cs, hcs, he⟩ := ih (t.modifyColumn k.column fun c => { c with nullable := false })
    have hfirst : List.Forall₂ Column.Tightened t.columns _ :=
      tightened_modifyFirst (·.id = k.column) t.columns
    exact ⟨cs, forall₂_comp (fun _ _ _ h h' => h.trans h') hfirst hcs, he⟩

/-- A key is set, or refused. -/
theorem setPrimaryKey (h : b.Sound) (id : TableId) (columns : List KeyDraft) :
    b.Leads (b.setPrimaryKey id columns).2 := by
  unfold Builder.setPrimaryKey
  split
  · exact refl h
  · rename_i t ht
    split
    · exact refl h
    · rename_i keys hkeys
      refine modifyTable h ht ?_ ?_ ?_
      · obtain ⟨cs, hcs, he⟩ := foldl_require keys t
        simp only [he]
        exact Table.MayReplace.ofSameParts h.model ht rfl
          (map_id_of_face (map_face_of_core (map_core_of_tightened hcs))) rfl rfl rfl
          (resolveKeys_spec hkeys).2
      · intro t
        obtain ⟨cs, -, he⟩ := foldl_require keys t
        simp only [he]
      · intro t hp
        obtain ⟨cs, hcs, he⟩ := foldl_require keys t
        simp only [he]
        exact hp.of_face (map_face_of_core (map_core_of_tightened hcs))

/-! ## New parts of a table -/

/-- One more part in a table, under the identifier given out for it. -/
theorem newPart (h : b.Sound) {id : TableId} {t : Table} {f : Table → Table}
    (ht : b.model.table? id = some t) (hid : (f t).id = t.id)
    (hids : (f t).ids.Perm (b.model.nextId :: t.ids)) (hname : ∀ t, (f t).name = t.name)
    (hcolumns : ∀ t, (f t).columns = t.columns) (hrefers : (f t).RefersIn b.model.tables)
    (hparts : ∀ target, t.HasPart target → (f t).HasPart target) :
    b.Leads { b with model := b.model.allocate.2.modifyTable id f } := by
  have hkept : ∀ c, t.hasColumn c = true → (f t).hasColumn c = true := by
    intro c hc
    rw [Table.hasColumn_congr (congrArg _ (hcolumns t))]
    exact hc
  have hreplace : t.MayReplace b.model.allocate.2 (f t) :=
    Table.MayReplace.ofNewPart h.model ht hid hids hkept hrefers hparts
  exact (allocate h).trans (modifyTable (allocate h).sound ht hreplace hname
    fun t hp => hp.of_face (congrArg _ (hcolumns t)))

/-- An index is added, or an issue about it. -/
theorem addIndex (h : b.Sound) (id : TableId) (draft : IndexDraft) :
    b.Leads (b.addIndex id draft) := by
  unfold Builder.addIndex
  simp only [Model.allocate]
  -- the number of an index is given out before its table is looked up
  split
  · exact allocate h
  rename_i t ht
  have ht' : b.model.table? id = some t := ht
  have hsome : (b.model.table? id).isSome = true := by rw [ht']; rfl
  have hrefers : t.RefersIn b.model.tables := h.model.refers _ (mem_of_tableIn ht')
  split
  · rename_i keys hkeys
    refine newPart h ht' rfl ?_ (fun _ => rfl) (fun _ => rfl) ?_ ?_
    · simp only [Table.ids, List.map_append, List.map_cons, List.map_nil]
      grind
    · refine ⟨hrefers.primaryKey, ?_, ?_⟩
      · intro i hi k hk
        rcases List.mem_append.1 hi with hi | hi
        · exact hrefers.indexes i hi k hk
        · rw [List.mem_singleton.1 hi] at hk
          exact (resolveKeys_spec hkeys).2 k hk
      · intro f hf
        exact (hrefers.foreignKeys f hf).mono (fun _ p hp => ⟨p, hp, fun _ hc => hc⟩)
          fun _ hc => hc
    · intro target hp
      cases target with
      | index _ i =>
        obtain ⟨x, hx, rfl⟩ := hp
        exact ⟨x, List.mem_append_left _ hx, rfl⟩
      | _ => exact hp
  · exact (allocate h).trans (issue_table (allocate h).sound _ hsome _)

/-- A check is added. -/
theorem addCheck (h : b.Sound) (id : TableId) (draft : CheckDraft) :
    b.Leads (b.addCheck id draft) := by
  unfold Builder.addCheck
  simp only [Model.allocate]
  cases ht : b.model.table? id with
  | none =>
    rw [Model.modifyTable_of_none (by exact ht)]
    exact allocate h
  | some t =>
    have hrefers : t.RefersIn b.model.tables := h.model.refers _ (mem_of_tableIn ht)
    refine newPart h ht rfl ?_ (fun _ => rfl) (fun _ => rfl) ?_ ?_
    · simp only [Table.ids, List.map_append, List.map_cons, List.map_nil]
      grind
    · exact ⟨hrefers.primaryKey, hrefers.indexes, fun f hf =>
        (hrefers.foreignKeys f hf).mono (fun _ p hp => ⟨p, hp, fun _ hc => hc⟩) fun _ hc => hc⟩
    · intro target hp
      cases target with
      | check _ c =>
        obtain ⟨x, hx, rfl⟩ := hp
        exact ⟨x, List.mem_append_left _ hx, rfl⟩
      | _ => exact hp

/-- A foreign key waits. -/
theorem addForeignKey (h : b.Sound) (id : TableId) (draft : ForeignKeyDraft) :
    b.Leads (b.addForeignKey id draft) :=
  ⟨⟨h.model, h.known, h.described⟩, fun _ hid => hid⟩

/-- The key and the other parts of a draft. -/
theorem addConstraints (h : b.Sound) (id : TableId) (draft : TableDraft) :
    b.Leads (b.addConstraints id draft).2 := by
  unfold Builder.addConstraints
  have hkey : b.Leads (if draft.primaryKey.isEmpty then ((.ok (), b) : Outcome Unit × Builder)
      else b.setPrimaryKey id draft.primaryKey).2 := by
    split
    · exact refl h
    · exact setPrimaryKey h id draft.primaryKey
  split
  · rename_i heq
    rw [heq] at hkey
    exact hkey
  · rename_i b₁ heq
    rw [heq] at hkey
    refine hkey.trans ?_
    have hindexes := foldl draft.indexes (fun _ d _ h => addIndex h id d) hkey.sound
    have hkeys := foldl draft.foreignKeys (fun _ d _ h => addForeignKey h id d) hindexes.sound
    have hchecks := foldl draft.checks (fun _ d _ h => addCheck h id d) hkeys.sound
    exact (hindexes.trans hkeys).trans hchecks

end Leads

/-! ## New tables -/

/-- Columns of a draft take identifiers off the counter and nothing else. -/
theorem allocateColumns_model (m : Model) (seen : List String) (ds : List ColumnDraft) :
    ∃ n, m.nextId ≤ n ∧ (allocateColumns m seen ds).2 = { m with nextId := n } := by
  induction ds generalizing m seen with
  | nil => exact ⟨m.nextId, Nat.le_refl _, rfl⟩
  | cons d r ih =>
    unfold allocateColumns
    simp only [Model.allocate]
    split
    · exact ⟨m.nextId, Nat.le_refl _, rfl⟩
    · obtain ⟨n, hn, he⟩ := ih { m with nextId := m.nextId + 1 } (Text.lowerText d.name :: seen)
      refine ⟨n, Nat.le_of_succ_le hn, ?_⟩
      split
      · rename_i heq
        rw [heq] at he
        exact he
      · rename_i heq
        rw [heq] at he
        exact he

/-- The columns of a draft that is accepted have consecutive identifiers and distinct names. -/
theorem allocateColumns_spec {m m' : Model} {seen : List String} {ds : List ColumnDraft}
    {cs : List Column} (h : allocateColumns m seen ds = (.ok cs, m')) :
    m' = { m with nextId := m.nextId + ds.length }
      ∧ cs.map (·.id.val) = List.range' m.nextId ds.length
      ∧ Unmet seen (cs.map fun c => Text.lowerText c.name)
      ∧ ∀ c ∈ cs, c.synthetic = false := by
  -- the names that have been seen grow with the columns
  induction ds generalizing m seen cs with
  | nil =>
    cases h
    exact ⟨rfl, rfl, unmet_nil seen, by simp⟩
  | cons d r ih =>
    unfold allocateColumns at h
    simp only [Model.allocate] at h
    split at h
    · cases h
    rename_i hseen
    split at h
    · rename_i columns model heq
      cases h
      obtain ⟨rfl, hids, hnames, hplain⟩ := ih heq
      refine ⟨?_, ?_, ?_, ?_⟩
      · simp only [List.length_cons]
        rw [Nat.add_assoc, Nat.add_comm 1]
      · rw [List.map_cons, hids, List.length_cons, List.range'_succ]
      · rw [List.map_cons, unmet_cons]
        exact ⟨hseen, hnames⟩
      · intro c hc
        rcases List.mem_cons.1 hc with rfl | hc
        · rfl
        · exact hplain c hc
    · cases h

namespace Leads

variable {b : Builder}

/-- A table is found by a name if one has it up to case. -/
theorem isSome_tableByName? (m : Model) (n : String) :
    (m.tableByName? n).isSome = (m.tables.map (·.2.name)).any fun x => Text.sameFolded x n := by
  unfold Model.tableByName? Model.tableList
  rw [List.isSome_find?, List.any_map, List.any_map]
  rfl

/-- A fresh name is that of no table, whatever its case. -/
theorem freshTableName_fresh (b : Builder) (nspace : Option String) (name : String) :
    ∀ e ∈ b.model.tables, Text.folded e.2.name ≠ Text.folded (b.freshTableName nspace name) := by
  intro e he
  have hlength : b.tableCount = (b.model.tables.map (·.2.name)).length := by
    rw [List.length_map]
    rfl
  unfold Builder.freshTableName
  rw [hlength]
  exact Text.folded_ne_freshName (isSome_tableByName? b.model) _ 2 e.2.name
    (List.mem_map_of_mem he)

/-- The name that is chosen for a new table belongs to no other. -/
theorem chooseName_fresh {b' : Builder} {draft : TableDraft} {name : String}
    {collided : Option String} (hc : b.chooseName draft = (.ok (some (name, collided)), b')) :
    ∀ e ∈ b'.model.tables, Text.folded e.2.name ≠ Text.folded name := by
  have hfree : ∀ n, (b.model.tableByName? n).isSome = false →
      ∀ e ∈ b.model.tables, Text.folded e.2.name ≠ Text.folded n := by
    intro n hn e he hsame
    rw [isSome_tableByName?, List.any_eq_false] at hn
    exact hn e.2.name (List.mem_map_of_mem he) (Text.sameFolded_iff.2 hsame)
  unfold Builder.chooseName at hc
  split at hc
  · rename_i hnone
    cases hc
    exact hfree _ (by rw [hnone]; rfl)
  · split at hc
    · cases hc
    · cases hc
    · cases hc
      exact freshTableName_fresh b draft.nspace draft.name

/-- A name is chosen, with an issue or without. -/
theorem chooseName (h : b.Sound) (draft : TableDraft) : b.Leads (b.chooseName draft).2 := by
  unfold Builder.chooseName
  split
  · exact refl h
  · split
    · exact refl h
    · exact issue_schema h _ _
    · exact refl h

/-- A counter that moves on. -/
theorem advance (h : b.Sound) {n : Nat} (hn : b.model.nextId ≤ n) :
    b.Leads { b with model := { b.model with nextId := n } } := by
  refine ⟨⟨⟨?_, h.model.ordered, h.model.keyed, h.model.distinct, ?_, h.model.refers,
    h.model.targets, h.model.broad⟩, h.known, h.described⟩, fun _ hid => hid⟩
  · exact Nat.lt_of_lt_of_le h.model.positive hn
  · intro i hi
    exact ⟨(h.model.inRange i hi).1, Nat.lt_of_lt_of_le (h.model.inRange i hi).2 hn⟩

/-- A name is remembered for a table that is there. -/
theorem remember (h : b.Sound) (key : SourceKey) {id : TableId}
    (hid : (b.model.table? id).isSome = true) : b.Leads (b.remember key id) := by
  refine ⟨⟨h.model, ?_, h.described⟩, fun _ hid => hid⟩
  intro e he
  rcases List.mem_append.1 he with he | he
  · exact h.known e (List.mem_of_mem_filter he)
  · rw [List.mem_singleton.1 he]
    exact hid

/-- A new table with nothing but columns. -/
theorem insertTable (h : b.Sound) {t : Table} (hkey : t.primaryKey = []) (hindexes : t.indexes = [])
    (hforeign : t.foreignKeys = []) (hids : ∀ i ∈ t.ids, b.model.nextId ≤ i) {n : Nat}
    (hbound : ∀ i ∈ t.ids, i < n) (hdistinct : t.ids.Nodup) (hplain : t.IsPlain)
    (hfresh : ∀ e ∈ b.model.tables, Text.folded e.2.name ≠ Text.folded t.name) :
    b.Leads { b with model := ({ b.model with nextId := n } : Model).insertTable t } := by
  have hid : t.id.val ∈ t.ids := List.mem_cons_self
  have hle : b.model.nextId ≤ n :=
    Nat.le_of_lt (Nat.lt_of_le_of_lt (hids _ hid) (hbound _ hid))
  have hadvanced := (advance h hle).sound
  have hlast : ∀ e ∈ b.model.tables, e.1.val < t.id.val :=
    fun e he => Nat.lt_of_lt_of_le (h.model.key_lt he) (hids _ hid)
  have htables : (({ b.model with nextId := n } : Model).insertTable t).tables
      = b.model.tables ++ [(t.id, t)] := insertSorted_eq_append hlast t
  have hkeeps : ∀ k, (b.model.table? k).isSome = true →
      ((({ b.model with nextId := n } : Model).insertTable t).table? k).isSome = true := by
    intro k hk
    rw [Model.table?_eq_tableIn, htables, tableIn_append_singleton]
    rw [Model.table?_eq_tableIn] at hk
    simp [hk]
  refine ⟨⟨hadvanced.model.insertTable hlast hdistinct ?_ ?_, fun e he => hkeeps _ (h.known e he),
    ?_⟩, hkeeps⟩
  · intro i hi
    refine ⟨?_, Nat.lt_of_lt_of_le h.model.positive (hids i hi), hbound i hi⟩
    -- identifiers given out before are below the counter
    intro hm
    exact absurd (h.model.inRange i hm).2 (Nat.not_lt.2 (hids i hi))
  · refine ⟨?_, ?_, ?_⟩
    · rw [hkey]
      simp
    · rw [hindexes]
      simp
    · rw [hforeign]
      simp
  · rw [htables]
    constructor
    · intro e he
      rcases List.mem_append.1 he with he | he
      · exact h.described.plain e he
      · rw [List.mem_singleton.1 he]
        exact hplain
    · rw [List.map_append, List.nodup_append]
      refine ⟨h.described.names, List.nodup_singleton _, ?_⟩
      intro f hf g hg hfg
      obtain ⟨e, he, rfl⟩ := List.mem_map.1 hf
      exact hfresh e he (hfg.trans (List.mem_singleton.1 hg))

/-- The table of a draft whose columns are accepted. -/
theorem insertDraft (h : b.Sound) (draft : TableDraft) {name : String} {columns : List Column}
    {model : Model} (hfresh : ∀ e ∈ b.model.tables, Text.folded e.2.name ≠ Text.folded name)
    (hcols : allocateColumns b.model.allocate.2 [] draft.columns = (.ok columns, model)) :
    b.Leads { b with
        model := model.insertTable
          { Table.empty ⟨b.model.nextId⟩ name with
            nspace := draft.nspace, sourceName := draft.name, columns } }
      ∧ ((model.insertTable
          { Table.empty ⟨b.model.nextId⟩ name with
            nspace := draft.nspace, sourceName := draft.name, columns }).table?
          ⟨b.model.nextId⟩).isSome = true := by
  obtain ⟨rfl, hids, hnames, hplain⟩ := allocateColumns_spec hcols
  set t : Table := { Table.empty ⟨b.model.nextId⟩ name with
    nspace := draft.nspace, sourceName := draft.name, columns } with ht
  -- the table has the next numbers in a row
  have hall : t.ids = List.range' b.model.nextId (draft.columns.length + 1) := by
    rw [List.range'_succ]
    show b.model.nextId :: (columns.map (·.id.val) ++ []) = _
    rw [List.append_nil, hids]
    rfl
  constructor
  · refine insertTable h rfl rfl rfl ?_ ?_ ?_ ⟨hnames.1, hplain⟩ hfresh
    · intro i hi
      rw [hall, List.mem_range'_1] at hi
      exact hi.1
    · intro i hi
      rw [hall, List.mem_range'_1] at hi
      simp only [Model.allocate]
      omega
    · rw [hall]
      exact List.nodup_range'
  · have hlast : ∀ e ∈ b.model.tables, e.1.val < t.id.val := fun e he => h.model.key_lt he
    have htables : (Model.insertTable
        { b.model.allocate.2 with nextId := b.model.allocate.2.nextId + draft.columns.length } t).tables
        = b.model.tables ++ [(t.id, t)] := insertSorted_eq_append hlast t
    rw [Model.table?_eq_tableIn, htables, isSome_tableIn_iff]
    simp [ht, Table.empty]

/-- The issue of a renamed table is recorded just before the table; the order makes no difference. -/
theorem placeTable (h : b.Sound) (draft : TableDraft) {name : String} (collided : Option String)
    {columns : List Column} {model : Model}
    (hfresh : ∀ e ∈ b.model.tables, Text.folded e.2.name ≠ Text.folded name)
    (hcols : allocateColumns b.model.allocate.2 [] draft.columns = (.ok columns, model)) :
    b.Leads (({ b with model } : Builder).placeTable ⟨b.model.nextId⟩ draft name collided columns)
      ∧ ((({ b with model } : Builder).placeTable ⟨b.model.nextId⟩ draft name collided
          columns).model.table? ⟨b.model.nextId⟩).isSome = true := by
  obtain ⟨hinsert, hthere⟩ := insertDraft h draft hfresh hcols
  cases collided with
  | none =>
    exact ⟨hinsert.trans (remember hinsert.sound (sourceKey draft.nspace draft.name) hthere), hthere⟩
  | some other =>
    have hissue := hinsert.trans (issue_table hinsert.sound .nameCollision hthere
      ("Table " ++ qualifiedName draft.nspace draft.name ++ " renamed to '" ++ name
        ++ "': its name collides with " ++ other ++ "."))
    exact ⟨hissue.trans (remember hissue.sound (sourceKey draft.nspace draft.name) hthere), hthere⟩

/-- A table that is added is there afterwards, under the identifier that is returned. -/
theorem addTable (h : b.Sound) (draft : TableDraft) :
    b.Leads (b.addTable draft).2 ∧ ∀ id, (b.addTable draft).1 = .ok (some id) →
      ((b.addTable draft).2.model.table? id).isSome = true := by
  have hname := chooseName h draft
  unfold Builder.addTable
  -- a name may not be found, a column may be twice, a key may be refused
  split
  · rename_i heq
    rw [heq] at hname
    exact ⟨hname, fun _ he => by cases he⟩
  · rename_i heq
    rw [heq] at hname
    exact ⟨hname, fun _ he => by cases he⟩
  rename_i name collided b₁ heq
  have hname : b.Leads b₁ := by rwa [heq] at hname
  dsimp only [Model.allocate]
  split
  · rename_i n model hcols
    obtain ⟨k, hk, he⟩ := allocateColumns_model b₁.model.allocate.2 [] draft.columns
    obtain rfl : model = { b₁.model with nextId := k } := (congrArg Prod.snd hcols).symm.trans he
    exact ⟨hname.trans (advance hname.sound (Nat.le_of_succ_le hk)), fun _ he => by cases he⟩
  · rename_i columns model hcols
    obtain ⟨hplace, hthere⟩ := placeTable hname.sound draft collided (chooseName_fresh heq) hcols
    have hadd := addConstraints hplace.sound ⟨b₁.model.nextId⟩ draft
    have hsome := hadd.keeps _ hthere
    split
    · rename_i hr
      rw [hr] at hadd
      exact ⟨hname.trans (hplace.trans hadd), fun _ he => by cases he⟩
    · rename_i hr
      rw [hr] at hadd hsome
      refine ⟨hname.trans (hplace.trans hadd), fun id he => ?_⟩
      cases he
      exact hsome

end Leads

/-! ## Finishing -/

/-- What is found is there. -/
theorem mem_of_lookup {α β : Type} [BEq α] [LawfulBEq α] {l : List (α × β)} {a : α} {b : β}
    (h : l.lookup a = some b) : (a, b) ∈ l := by
  induction l with
  | nil => cases h
  | cons e l ih =>
    obtain ⟨k, v⟩ := e
    rw [List.lookup_cons] at h
    split at h
    · rename_i hk
      rw [Option.some.inj h, eq_of_beq hk]
      exact List.mem_cons_self
    · exact List.mem_cons_of_mem _ (ih h)

/-- A table that is found by its declared name is there. -/
theorem isSome_of_lookup {b : Builder} (h : b.Sound) {nspace : Option String} {name : String}
    {id : TableId} (hl : b.lookup nspace name = some id) : (b.model.table? id).isSome = true := by
  unfold lookup at hl
  split at hl
  · rename_i found heq
    cases hl
    exact h.known _ (mem_of_lookup heq)
  · dsimp only at hl
    split at hl
    · rename_i e heq
      cases hl
      refine h.known e (List.mem_of_mem_filter (p := fun e => e.1.2 == Text.lowerText name
        && (nspace.isNone || e.1.1.isNone)) ?_)
      rw [heq]
      exact List.mem_cons_self
    · cases hl

/-- The columns of a foreign key that is kept: as many on both sides, at least one, and all there. -/
theorem resolveReference_spec {child parent : Table} {draft : ForeignKeyDraft}
    {columns referenced : List ColumnId}
    (h : resolveReference child parent draft = .ok (columns, referenced)) :
    columns ≠ [] ∧ columns.length = referenced.length
      ∧ (∀ c ∈ columns, child.hasColumn c = true)
      ∧ ∀ c ∈ referenced, parent.hasColumn c = true := by
  unfold resolveReference at h
  split at h
  · cases h
  rename_i cs hcs
  split at h
  · cases h
  rename_i rs hrs
  split at h
  · rename_i hlen
    cases h
    refine ⟨?_, hlen.1.symm, (resolveColumns_spec hcs).2, (resolveColumns_spec hrs).2⟩
    rintro rfl
    exact hlen.2 (List.eq_nil_of_length_eq_zero hlen.1)
  · cases h

namespace Leads

variable {b : Builder}

/-- A foreign key that is kept. -/
theorem insertForeignKey (h : b.Sound) {id : TableId} {child : Table}
    (ht : b.model.table? id = some child) {f : ForeignKey} (hf : f.RefersIn b.model.tables child)
    (hid : f.id.val = b.model.nextId) :
    b.Leads { b with model := b.model.allocate.2.modifyTable id fun t =>
      { t with foreignKeys := t.foreignKeys ++ [f] } } := by
  have hrefers : child.RefersIn b.model.tables := h.model.refers _ (mem_of_tableIn ht)
  refine newPart h ht rfl ?_ (fun _ => rfl) (fun _ => rfl) ⟨hrefers.primaryKey, hrefers.indexes, ?_⟩ ?_
  · simp only [Table.ids, List.map_append, List.map_cons, List.map_nil, hid]
    grind
  · intro g hg
    have hg' : g.RefersIn b.model.tables child := by
      rcases List.mem_append.1 hg with hg | hg
      · exact hrefers.foreignKeys g hg
      · rw [List.mem_singleton.1 hg]
        exact hf
    exact hg'.mono (fun _ p hp => ⟨p, hp, fun _ hc => hc⟩) fun _ hc => hc
  · intro target hp
    cases target with
    | foreignKey _ g =>
      obtain ⟨x, hx, rfl⟩ := hp
      exact ⟨x, List.mem_append_left _ hx, rfl⟩
    | _ => exact hp

/-- A foreign key is resolved or dropped. -/
theorem resolveForeignKey (h : b.Sound) (p : PendingForeignKey) :
    b.Leads (b.resolveForeignKey p) := by
  have hallocated := allocate h
  unfold Builder.resolveForeignKey
  simp only [Model.allocate]
  split
  · exact hallocated
  rename_i child hchild
  have hchild' : b.model.table? p.table = some child := hchild
  have hsome : (b.model.table? p.table).isSome = true := by rw [hchild']; rfl
  -- whatever the reason, a foreign key that is dropped is told of in the same way
  have hdropped : ∀ detail, b.Leads (({ b with model := b.model.allocate.2 } : Builder).issue
      .missingReference (.table p.table) detail) :=
    fun detail => hallocated.trans (issue_table hallocated.sound _ hsome detail)
  split
  · exact hdropped _
  rename_i parentId _
  split
  · split
    · exact hdropped _
    · exact hallocated
  rename_i parent hparent
  split
  · exact hdropped _
  rename_i columns referenced hresolved
  obtain ⟨hne, hlen, hcs, hrs⟩ := resolveReference_spec hresolved
  exact insertForeignKey h hchild' ⟨hne, hlen, hcs, parent, hparent, hrs⟩ rfl

end Leads

/-- The finished model is sound, and its tables are as they were described. -/
theorem Sound.finish {b : Builder} (h : b.Sound) :
    b.finish.Sound ∧ AsDescribed b.finish.tables := by
  have hstart : ({ b with pending := [] } : Builder).Sound := ⟨h.model, h.known, h.described⟩
  have hall := Leads.foldl b.pending (fun _ p _ h => Leads.resolveForeignKey h p) hstart
  exact ⟨hall.sound.model, hall.sound.described⟩

end Builder

end SchemaBridge
