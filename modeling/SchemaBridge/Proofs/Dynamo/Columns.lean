/-
# Columns of exported tables

The attributes of an exported table become its columns: those of the key first, hash keys before
others, then those with a definition in the order of their definitions, then those that only the
sample has in the order of their bytes.  Each of them is there once and has the type that is declared
or inferred, and one issue is raised for each whose type cannot be told.  A type is inferred if it
leads the sample, which is to say, in every sample that is not too large, if nine tenths of the values
have it.  The order of the items of a sample is not seen.

## Key statements

* `appendNew_eq`: names that are appended unless they are there.
* `inOrder_attributeOrder`: the order of the columns.
* `Reflects.readTable`, `Reflects.of_reads`: the tables of a model that is read, table by table.
* `read_infers`: the whole reading, and one of samples in another order.
-/
import SchemaBridge.Proofs.Assembly.Additions
import SchemaBridge.Proofs.Assembly.Cancelling
import SchemaBridge.Proofs.Assembly.Readers
import SchemaBridge.Proofs.Dynamo.Inference
import SchemaBridge.Proofs.Schema.Keys
import SchemaBridge.Proofs.Text.Utf8

namespace SchemaBridge.Dynamo

open Builder

/-! ## The order of the columns -/

/-- Names are appended in the order in which they occur first. -/
theorem appendNew_eq (order names : List String) :
    appendNew order names = order ++ (names.filter (· ∉ order)).eraseDups := by
  induction names generalizing order with
  | nil => exact (List.append_nil order).symm
  | cons n names ih =>
    have hcons : appendNew order (n :: names)
        = appendNew (if n ∈ order then order else order ++ [n]) names := rfl
    rw [hcons]
    by_cases hn : n ∈ order
    · rw [if_pos hn, ih, List.filter_cons_of_neg (by simpa using hn)]
    · rw [if_neg hn, ih, List.filter_cons_of_pos (by simpa using hn), List.eraseDups_cons,
        List.append_assoc, List.filter_filter]
      have hsame : ∀ m ∈ names, decide (m ∉ order ++ [n]) = (!m == n && decide (m ∉ order)) := by
        intro m _
        by_cases hm : m = n <;> simp [hm]
      rw [List.filter_congr hsame]
      rfl

/-- The names of the key's attributes, hash keys before others. -/
def keyNames (t : TableExport) : List String :=
  (t.key.filter isHash).map (·.attributeName)
    ++ (t.key.filter fun k => !isHash k).map (·.attributeName)

/-- The names of the other attributes with a definition, in the order of their first definitions. -/
def definedNames (t : TableExport) : List String :=
  ((t.definitions.map (·.name)).filter (· ∉ keyNames t)).eraseDups

/-- The names of a table's attributes in the order of its columns. -/
structure InOrder (t : TableExport) (names : List String) : Prop where
  once : names.Nodup
  parts : ∃ sampled, names = keyNames t ++ definedNames t ++ sampled
    ∧ sampled.Pairwise (fun a b => a.toUTF8.toList < b.toUTF8.toList)
    ∧ ∀ n, n ∈ sampled ↔ (∃ i ∈ t.items, n ∈ i.map (·.1)) ∧ n ∉ keyNames t
      ∧ ∀ d ∈ t.definitions, d.name ≠ n

/-- The names of the key attributes, hash keys before others. -/
theorem map_attributeName_orderedKey (t : TableExport) :
    (orderedKey t.key).map (·.attributeName) = keyNames t :=
  List.map_append

/-- Attributes with a definition are those of the key that have one, and the others. -/
theorem mem_append_definedNames {t : TableExport} {n : String} :
    n ∈ keyNames t ++ definedNames t ↔ n ∈ keyNames t ∨ ∃ d ∈ t.definitions, d.name = n := by
  unfold definedNames
  rw [List.mem_append, List.mem_eraseDups, List.mem_filter, List.mem_map, decide_eq_true_eq]
  constructor
  · rintro (hkey | ⟨hdefined, -⟩)
    · exact Or.inl hkey
    · exact Or.inr hdefined
  · rintro (hkey | hdefined)
    · exact Or.inl hkey
    · by_cases hkey : n ∈ keyNames t
      · exact Or.inl hkey
      · exact Or.inr ⟨hdefined, hkey⟩

/-- Attributes are in the order in which columns are made of them. -/
theorem inOrder_attributeOrder {t : TableExport} (hnodup : t.attributeOrder.Nodup) :
    InOrder t t.attributeOrder := by
  refine ⟨hnodup, (sampledNames t.items).filter (· ∉ keyNames t ++ definedNames t), ?_, ?_, ?_⟩
  · have hnodup : ((sampledNames t.items).filter (· ∉ keyNames t ++ definedNames t)).Nodup :=
      (nodup_nameSet _).filter _
    unfold TableExport.attributeOrder
    rw [map_attributeName_orderedKey, appendNew_eq _ (t.definitions.map (·.name)),
      appendNew_eq _ (sampledNames t.items)]
    show _ ++ ((sampledNames t.items).filter (· ∉ keyNames t ++ definedNames t)).eraseDups = _
    rw [eraseDups_of_nodup hnodup]
    rfl
  · exact ((pairwise_nameSet _).filter _).imp Text.toUTF8_lt
  · intro n
    rw [List.mem_filter, decide_eq_true_eq, mem_append_definedNames, not_or]
    unfold sampledNames
    rw [mem_nameSet, List.mem_flatMap]
    simp only [not_exists, not_and, ne_eq]

/-! ## Tables that were read -/

/-- An attribute with its type, and what is said if this is not known. -/
structure Attribute where
  name : String
  type : String
  doubt : Option String

/-- The attributes of a table in the order of its columns. -/
def TableExport.attributes (t : TableExport) : List Attribute :=
  t.attributeOrder.map fun n => ⟨n, (t.attributeType n).1, (t.attributeType n).2⟩

/-- A table of an export with what has become of it. -/
structure Entry where
  table : TableExport
  id : TableId
  attributes : List Attribute

/-- What is said of the attributes of a table whose types are not known. -/
def Entry.issues (e : Entry) : List Issue :=
  (e.attributes.filterMap (·.doubt)).map (.raise .ambiguousMapping .reader (.table e.id))

/-- The attributes of a table are its columns in a model, under the types that win. -/
structure Entry.IsIn (Wins : String → List String → Prop) (e : Entry) (m : Model) : Prop where
  typed : ∀ a ∈ e.attributes, HasType Wins e.table a.name a.type a.doubt
  order : InOrder e.table (e.attributes.map (·.name))
  found : ∃ t, m.table? e.id = some t ∧ t.sourceName = e.table.name
    ∧ t.columns.map (fun c => (c.name, c.sourceType))
      = e.attributes.map fun a => (a.name, SourceType.parse a.type)

/-- The tables of a model are some of those of an export, and what the model says of types that are not
known it says of them. -/
def Infers (Wins : String → List String → Prop) (ts : List TableExport) (m : Model) : Prop :=
  ∃ entries : List Entry, (entries.map (·.table)).Sublist ts
    ∧ m.tables.map (·.1) = entries.map (·.id) ∧ (∀ e ∈ entries, e.IsIn Wins m)
    ∧ m.issues.filter (·.category = .ambiguousMapping) = entries.flatMap (·.issues)

/-- Of no tables nothing is inferred. -/
theorem Infers.start (source : SourceDialect) (target : TargetDialect) (policy : CollisionPolicy)
    (audit : Audit) : Infers Leads [] (Builder.start source target policy audit).model :=
  ⟨[], List.Sublist.refl _, rfl, List.forall_mem_nil _, rfl⟩

/-- Further tables and issues of other kinds change nothing. -/
theorem Infers.mono {ts ts' : List TableExport} {m m' : Model} (h : Infers Leads ts m)
    (hsub : ts.Sublist ts') (htables : m'.tables = m.tables)
    (hissues : m'.issues.filter (·.category = .ambiguousMapping)
      = m.issues.filter (·.category = .ambiguousMapping)) : Infers Leads ts' m' := by
  obtain ⟨entries, hentries, hids, hin, hsaid⟩ := h
  refine ⟨entries, hentries.trans hsub, htables ▸ hids, fun e he => ?_, hissues.trans hsaid⟩
  obtain ⟨typed, order, t, ht, hname, hcolumns⟩ := hin e he
  refine ⟨typed, order, t, ?_, hname, hcolumns⟩
  rw [Model.table?_eq_tableIn, htables]
  exact ht

/-- In samples that are not too large the types that lead are those that dominate. -/
theorem Infers.dominates {ts : List TableExport} {m : Model} (h : Infers Leads ts m)
    (hsize : ∀ t ∈ ts, t.items.length ≤ exactSample) : Infers Dominates ts m := by
  obtain ⟨entries, hentries, hids, hin, hsaid⟩ := h
  refine ⟨entries, hentries, hids, fun e he => ?_, hsaid⟩
  have ht := hsize e.table (hentries.subset (List.mem_map_of_mem he))
  exact ⟨fun a ha => ((hin e he).typed a ha).dominates ht, (hin e he).order, (hin e he).found⟩

/-- What is inferred of an export: the types that lead are taken, and they are those with nine tenths of
the values in all samples that are not too large. -/
def InfersTypes (ts : List TableExport) (m : Model) : Prop :=
  Infers Leads ts m ∧ ((∀ t ∈ ts, t.items.length ≤ exactSample) → Infers Dominates ts m)

/-! ## Reading one table -/

variable {b b' : Builder} {t : TableExport} {ts : List TableExport}

/-- The columns of a table that follows the draft of an export. -/
theorem columns_of_follows {cs : List Column} (h : List.Forall₂ Column.Follows t.draft.columns cs) :
    cs.map (fun c => (c.name, c.sourceType))
      = t.attributes.map fun a => (a.name, SourceType.parse a.type) := by
  have hcolumns : t.draft.columns = t.attributeOrder.map t.columnDraft := rfl
  rw [hcolumns, List.forall₂_map_left_iff] at h
  unfold TableExport.attributes
  rw [List.map_map]
  generalize t.attributeOrder = names at h
  induction h with
  | nil => rfl
  | cons hc _ ih =>
    rw [List.map_cons, List.map_cons, ih, hc.name, hc.sourceType]
    rfl

/-- No two attributes of a table that was added have one name. -/
theorem nodup_attributeOrder (h : b.Sound) {id : TableId} {u : Table}
    (hu : b.model.table? id = some u)
    (hcolumns : u.columns.map (fun c => (c.name, c.sourceType))
      = t.attributes.map fun a => (a.name, SourceType.parse a.type)) : t.attributeOrder.Nodup := by
  have hplain := (h.described.plain (id, u) (mem_of_tableIn hu)).names
  have hnames : u.columns.map (·.name) = t.attributeOrder := by
    have hfst := congrArg (List.map Prod.fst) hcolumns
    unfold TableExport.attributes at hfst
    rw [List.map_map, List.map_map, List.map_map] at hfst
    exact hfst.trans (List.map_id _)
  rw [← hnames]
  refine List.Nodup.of_map Text.lowerText ?_
  rw [List.map_map]
  exact hplain

/-- The issues about attributes whose types cannot be told. -/
theorem issues_ambiguities (t : TableExport) (id : TableId) :
    t.ambiguities.map (.raise .ambiguousMapping .reader (.table id))
      = Entry.issues ⟨t, id, t.attributes⟩ := by
  unfold Entry.issues TableExport.attributes TableExport.ambiguities
  rw [List.filterMap_map]
  rfl

/-- A table that is added and then spoken of. -/
theorem Infers.added (hb : b.Sound) (h : Infers Leads ts b.model) {id : TableId} {b₁ : Builder}
    (hr : b.addTable t.draft = (.ok (some id), b₁)) :
    Infers Leads (ts ++ [t]) (t.ambiguities.foldl (fun b d => b.issue .ambiguousMapping (.table id) d)
      b₁).model := by
  obtain ⟨entries, hentries, hids, hin, hsaid⟩ := h
  obtain ⟨name, collided, columns, -, hplaces, -, hid, -⟩ := exists_of_addTable hr
  subst hid
  obtain ⟨u, htables, -, -, hholds⟩ := tables_addTable hb hplaces hr
  obtain ⟨v, l, found, -, hanswers, -, hissues, hfound, -⟩ := answersDraft_addTable hb hr
  have hcolumns := columns_of_follows hholds.columns
  have hnodup := nodup_attributeOrder (sound_addTable hb hr) hholds.found hcolumns
  rw [foldl_issue]
  refine ⟨entries ++ [⟨t, ⟨b.model.nextId⟩, t.attributes⟩], ?_, ?_, ?_, ?_⟩
  · rw [List.map_append]
    exact hentries.append (List.Sublist.refl _)
  · show b₁.model.tables.map (·.1) = _
    rw [htables, List.map_append, List.map_append, hids]
    rfl
  · refine List.forall_mem_append.2 ⟨fun e he => ?_, List.forall_mem_singleton.2 ?_⟩
    · obtain ⟨typed, order, v, hv, hname, hcolumns⟩ := hin e he
      refine ⟨typed, order, v, ?_, hname, hcolumns⟩
      show b₁.model.table? e.id = some v
      rw [Model.table?_eq_tableIn, htables, tableIn_append_singleton, ← Model.table?_eq_tableIn, hv]
      rfl
    · have hnames : t.attributes.map (·.name) = t.attributeOrder := by
        unfold TableExport.attributes
        rw [List.map_map]
        exact List.map_id _
      refine ⟨?_, hnames ▸ inOrder_attributeOrder hnodup, u, hholds.found, hholds.sourceName,
        hcolumns⟩
      intro a ha
      obtain ⟨n, -, rfl⟩ := List.mem_map.1 ha
      exact hasType_iff.2 rfl
  · -- what `addTable` says is of names and indexes
    have hnone : (found ++ lost l).filter (·.category = .ambiguousMapping) = [] := by
      refine List.filter_eq_nil_iff.2 fun i hi => ?_
      rcases List.mem_append.1 hi with hi | hi
      · simp [hfound i hi]
      · simp [category_of_answers hanswers i hi]
    have hall : (t.ambiguities.map (Issue.raise .ambiguousMapping .reader
        (.table ⟨b.model.nextId⟩))).filter (·.category = .ambiguousMapping)
        = t.ambiguities.map (Issue.raise .ambiguousMapping .reader (.table ⟨b.model.nextId⟩)) := by
      refine List.filter_eq_self.2 fun i hi => ?_
      obtain ⟨d, -, rfl⟩ := List.mem_map.1 hi
      rfl
    show (b₁.model.issues ++ _).filter _ = _
    rw [hissues, List.append_assoc b.model.issues, List.filter_append, List.filter_append, hsaid,
      hnone, hall, issues_ambiguities, List.append_nil, List.flatMap_append, List.flatMap_singleton]

/-- A builder with tables of an export and no foreign keys that wait. -/
structure Reflects (ts : List TableExport) (b : Builder) : Prop where
  sound : b.Sound
  infers : Infers Leads ts b.model
  pending : b.pending = []

/-- One table more, if it is added. -/
theorem Reflects.readTable (h : Reflects ts b) (hr : readTable b t = .ok b') :
    Reflects (ts ++ [t]) b' := by
  have hsound := ((calls_readTable h.sound hr).leads h.sound).sound
  unfold Dynamo.readTable at hr
  obtain ⟨⟨⟩, -, hr⟩ := bind_eq_ok_iff.1 hr
  split at hr
  · cases hr
  · rename_i hnone
    cases hr
    obtain ⟨other, rfl⟩ := addTable_none hnone
    refine ⟨hsound, h.infers.mono (List.sublist_append_left _ _) rfl ?_, h.pending⟩
    show (b.model.issues ++ [skippedIssue t.draft other]).filter _ = _
    rw [List.filter_append]
    exact List.append_nil _
  · rename_i id b₁ hsome
    cases hr
    refine ⟨hsound, h.infers.added h.sound hsome, ?_⟩
    obtain ⟨name, collided, columns, -, hplaces, -⟩ := exists_of_addTable hsome
    have hadds := adds_addTable (fun _ he => h.sound.model.key_lt he) hplaces hsome
    rw [foldl_issue]
    show b₁.pending = []
    rw [hadds.pending, h.pending]
    rfl

/-! ## Reading an export -/

/-- A model of some tables is one of more tables that are not all added. -/
theorem Reflects.mono {ts' : List TableExport} (h : Reflects ts b) (hsub : ts.Sublist ts') :
    Reflects ts' b :=
  ⟨h.sound, h.infers.mono hsub rfl rfl, h.pending⟩

/-- A cancellation changes no table. -/
theorem Reflects.shouldStop (h : Reflects ts b) : Reflects ts b.shouldStop.2 := by
  have hsound := (Leads.shouldStop h.sound).sound
  unfold Builder.shouldStop at hsound ⊢
  split at hsound
  · rename_i hfirst
    rw [if_pos hfirst]
    refine ⟨hsound, h.infers.mono (List.Sublist.refl _) rfl ?_, h.pending⟩
    show (b.model.issues ++ [_]).filter _ = _
    rw [List.filter_append]
    exact List.append_nil _
  · rename_i hlater
    rw [if_neg hlater]
    exact h

/-- Whenever a reading is cancelled, its model has some of the tables. -/
theorem Reflects.of_reads {u u' : Unit} {rest : List TableExport} (h : Reflects ts b)
    (hr : Reads step u b rest u' b') : Reflects (ts ++ rest) b' := by
  induction hr generalizing ts with
  | done u b => exact h.mono (List.sublist_append_left _ _)
  | @stop _ b _ _ _ hstop =>
    have hasked := h.shouldStop
    rw [hstop] at hasked
    exact hasked.mono (List.sublist_append_left _ _)
  | @next _ _ _ b _ _ _ t rest hgo hstep _ ih =>
    have hasked := h.shouldStop
    rw [hgo] at hasked
    obtain ⟨b₂, hread, heq⟩ := bind_eq_ok_iff.1 hstep
    cases heq
    have hall := ih (hasked.readTable hread)
    rwa [List.append_assoc] at hall
  | cancel _ ih => exact ih ⟨h.sound.cancel, h.infers, h.pending⟩

/-- The finished model is the one that was read: no foreign key waits. -/
theorem Reflects.finish (h : Reflects ts b) : Infers Leads ts b.finish := by
  unfold Builder.finish
  rw [h.pending]
  exact h.infers

/-- The order of samples is not seen, in however many tables. -/
theorem readTables_resampled {ts' : List TableExport}
    (h : List.Forall₂ TableExport.Resampled ts ts') (b : Builder) :
    readTables b ts' = readTables b ts := by
  induction h generalizing b with
  | nil => rfl
  | cons ht _ ih =>
    unfold readTables
    simp only [readTable_resampled ht, ih]

/-- Whenever the reading is cancelled. -/
theorem reads_resampled {ts' : List TableExport} (h : List.Forall₂ TableExport.Resampled ts ts')
    (b b' : Builder) : Reads step () b ts' () b' ↔ Reads step () b ts () b' := by
  have hstep : ∀ t t' : TableExport, t.Resampled t' → ∀ u b, step u b t' = step u b t := by
    intro t t' ht u b
    unfold step
    rw [readTable_resampled ht]
  constructor
  · intro hr
    exact hr.congr (h.flip.imp fun t' t ht u b => (hstep t t' ht u b).symm)
  · intro hr
    exact hr.congr (h.imp hstep)

/-- **Types are inferred of a sample.**  Whenever the reading of an export is cancelled, its tables have
the attributes of the export as columns, in order and each once, under declared types and those that
nine tenths of the sampled values have; of each other one it is said once that it is taken for a string.
The quotient is rounded, and in larger samples than any that fits into memory the types are those that
lead.  A sample in another order is read in the same way. -/
theorem read_infers {path text : String} (hparse : Export.parse text = .ok ts)
    (source : SourceDialect) (target : TargetDialect) (policy : CollisionPolicy) (audit : Audit) :
    (∀ b', read path (.start source target policy audit) text = .ok b' → InfersTypes ts b'.finish)
      ∧ (∀ b', Reads step () (.start source target policy audit) ts () b' → InfersTypes ts b'.finish)
      ∧ ∀ ts', List.Forall₂ TableExport.Resampled ts ts' →
        (∀ path' text', Export.parse text' = .ok ts' →
          read path' (.start source target policy audit) text'
            = read path (.start source target policy audit) text)
          ∧ ∀ b', Reads step () (.start source target policy audit) ts' () b'
            ↔ Reads step () (.start source target policy audit) ts () b' := by
  have hread (path text ts) (h : Export.parse text = .ok ts) (b : Builder) :
      read path b text = readTables b ts := by
    unfold read
    rw [h]
  -- a text that can be decoded is read as its tables are
  have hreads : ∀ b', Reads step () (.start source target policy audit) ts () b' →
      InfersTypes ts b'.finish := by
    intro b' hr
    have hstart : Reflects [] (.start source target policy audit) :=
      ⟨.start source target policy audit, .start source target policy audit, rfl⟩
    have hinfers := (hstart.of_reads hr).finish
    exact ⟨hinfers, hinfers.dominates⟩
  refine ⟨?_, hreads, ?_⟩
  · intro b' hr
    rw [hread path text ts hparse] at hr
    exact hreads b' (reads_readTables hr)
  · intro ts' hsame
    refine ⟨?_, reads_resampled hsame _⟩
    intro path' text' hparse'
    rw [hread path text ts hparse, hread path' text' ts' hparse']
    exact readTables_resampled hsame _

/-- A text that is read is one of tables. -/
theorem exists_parse {path text : String} (hr : read path b text = .ok b') :
    ∃ ts, Export.parse text = .ok ts := by
  unfold read at hr
  cases hparse : Export.parse text with
  | error why =>
    rw [hparse] at hr
    cases hr
  | ok ts => exact ⟨ts, rfl⟩

/-- A table with an attribute of one type and one of two. -/
def mixedExport : String :=
  "\x7b\"Tables\":[\x7b\"TableName\":\"t\",\"KeySchema\":[\x7b\"AttributeName\":\"k\",\"KeyType\":\"HASH\"\x7d],
\"AttributeDefinitions\":[\x7b\"AttributeName\":\"k\",\"AttributeType\":\"N\"\x7d],
\"Items\":[\x7b\"b\":\x7b\"S\":\"\"\x7d,\"a\":\x7b\"B\":\"\"\x7d\x7d,\x7b\"b\":\x7b\"N\":\"1\"\x7d\x7d]\x7d]\x7d"

/-- The same table with its items in reverse order. -/
def TableExport.reversed (t : TableExport) : TableExport := { t with items := t.items.reverse }

/-- The columns of the tables of a model, by their names and types, and what is said of types. -/
def told (m : Model) : List (String × String) × List String :=
  (m.tables.flatMap fun e => e.2.columns.map fun c => (c.name, c.sourceType.name),
    (m.issues.filter (·.category = .ambiguousMapping)).map (·.detail))

theorem read_infers_mixedExport : ∃ ts b', Export.parse mixedExport = .ok ts
    ∧ read "t.json" (newBuilder .dynamo) mixedExport = .ok b'
    ∧ told b'.finish = ([("k", "n"), ("a", "b"), ("b", "s")],
      ["Attribute t.b has mixed types in the sample (N x1, S x1); mapped as string."])
    ∧ Infers Dominates ts b'.finish
    ∧ ∀ b'', Reads step () (newBuilder .dynamo) (ts.map TableExport.reversed) () b''
      ↔ Reads step () (newBuilder .dynamo) ts () b'' := by
  have htold : (read "t.json" (newBuilder .dynamo) mixedExport).map (fun b => told b.finish)
      = .ok ([("k", "n"), ("a", "b"), ("b", "s")],
        ["Attribute t.b has mixed types in the sample (N x1, S x1); mapped as string."]) := by
    decide +kernel
  -- the export is evaluated once, to what it tells
  generalize hread : read "t.json" (newBuilder .dynamo) mixedExport = result at htold
  cases result with
  | error e => cases htold
  | ok b' =>
    obtain ⟨ts, hparse⟩ := exists_parse hread
    obtain ⟨hinfers, -, hsame⟩ :=
      read_infers hparse .dynamo .google .rename (Audit.start "request" ⟨0, 0⟩)
    have hreversed : List.Forall₂ TableExport.Resampled ts (ts.map TableExport.reversed) := by
      rw [List.forall₂_map_right_iff, List.forall₂_same]
      intro t _
      exact ⟨t.items.reverse, t.items.reverse_perm, rfl⟩
    have hsize : ∀ t ∈ ts, t.items.length ≤ exactSample := by
      have hall : (Export.parse mixedExport).map (·.all (·.items.length ≤ exactSample)) = .ok true := by
        decide +kernel
      rw [hparse] at hall
      simpa using Except.ok.inj hall
    exact ⟨ts, b', hparse, rfl, Except.ok.inj htold, (hinfers b' hread).2 hsize, (hsame _ hreversed).2⟩

end SchemaBridge.Dynamo
