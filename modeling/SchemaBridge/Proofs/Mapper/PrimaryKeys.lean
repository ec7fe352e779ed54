/-
# Primary keys of a mapped model

A table whose key was set keeps it through every mapping.  One without a key gets a synthetic column in
front of its own, once, and it is said that it did; later mappings find that column and say the same
again.

## Key statements

* `keyMapped_of_places`: what the first phase makes of a table with the key that was set for it.
* `syntheticIssues_map`: what a mapping says of synthetic keys.
* `syntheticIssues_foldl_map`: that later mappings say the same.
* `Runs.map_primaryKeys`: the keys of a model after any calls and any number of mappings.
-/
import SchemaBridge.Proofs.Assembly.PrimaryKeys
import SchemaBridge.Proofs.Mapper.Columns

namespace SchemaBridge

namespace Mapper

/-- A table has been given a synthetic key: a column of UUIDs with a default, in front of those it
had, with a name that none of them has. -/
structure HasSyntheticKey (d : TargetDialect) (c : Column) (t t' : Table) : Prop where
  front : t'.columns.head? = some c
  synthetic : c.synthetic = true
  type : c.targetType = some ⟨.string, some 36, false⟩
  default : c.default = some (.fresh (syntheticDefault d))
  key : t'.primaryKey = [⟨c.id, false⟩]
  declared : ∀ c' ∈ t'.columns.tail, c'.synthetic = false
  name : ∀ c' ∈ t'.columns.tail, Text.sameFolded c'.name c.name = false
  others : t'.columns.tail.map Column.asDeclared = t.columns.map Column.asDeclared

/-- A table has kept its key and its columns. -/
structure HasGivenKey (key : List KeyDraft) (t t' : Table) : Prop where
  named : List.Forall₂ t'.NamesPart key t'.primaryKey
  key : t'.primaryKey = t.primaryKey
  declared : ∀ c ∈ t'.columns, c.synthetic = false
  columns : t'.columns.map Column.asDeclared = t.columns.map Column.asDeclared

/-- What mappings have made of a table, given the key that was set for it last. -/
structure KeyMapped (d : TargetDialect) (key : List KeyDraft) (t t' : Table) : Prop where
  nonempty : t'.primaryKey ≠ []
  required : ∀ k ∈ t'.primaryKey, (t'.column? k.column).map (·.nullable) = some false
  given : key ≠ [] → HasGivenKey key t t'
  missing : key = [] → ∃ c, HasSyntheticKey d c t t'

/-- What is said of a table with a synthetic key. -/
def announced (e : TableId × Table) : Option Issue :=
  e.2.syntheticKey?.map fun c => syntheticIssue e.1 e.2.name c.name

/-! ## Tables -/

section Tables

variable {source : SourceDialect} {d : TargetDialect} {synthetic : String} {t t' : Table}
  {key : List KeyDraft}

/-- What the type of a column has no part in is found among mapped columns as before. -/
theorem find?_map_mapColumn (source : SourceDialect) {p : Column → Bool}
    (hp : ∀ c, p (mapColumn source c) = p c) (cs : List Column) :
    (cs.map (mapColumn source)).find? p = (cs.find? p).map (mapColumn source) := by
  rw [List.find?_map, show p ∘ mapColumn source = p from funext hp]

/-- A column of the mapped table is the mapped column. -/
theorem column?_withColumns (source : SourceDialect) (t : Table) (id : ColumnId) :
    (withColumns source t).column? id = (t.column? id).map (mapColumn source) :=
  find?_map_mapColumn source (fun c => by rw [mapColumn_id]) t.columns

theorem columnByName?_withColumns (source : SourceDialect) (t : Table) (n : String) :
    (withColumns source t).columnByName? n = (t.columnByName? n).map (mapColumn source) :=
  find?_map_mapColumn source (fun c => by rw [mapColumn_name]) t.columns

/-- A mapping leaves whether a column may be missing. -/
theorem mapColumn_nullable (source : SourceDialect) (c : Column) :
    (mapColumn source c).nullable = c.nullable := by
  unfold mapColumn
  split <;> rfl

theorem asDeclared_withColumns (source : SourceDialect) (t : Table) :
    (withColumns source t).columns.map Column.asDeclared = t.columns.map Column.asDeclared := by
  unfold withColumns
  rw [List.map_map]
  exact List.map_congr_left fun c _ => asDeclared_mapColumn source c

/-- A key has as many parts as were asked for. -/
theorem primaryKey_eq_nil_iff (h : t.KeepsKey key) : t.primaryKey = [] ↔ key = [] := by
  have hlength := (Builder.resolveKeys_spec h.named).1
  rw [← List.length_eq_zero_iff, ← List.length_eq_zero_iff, hlength]

/-- A table whose columns are mapped names the parts of its key as before. -/
theorem namesPart_withColumns (source : SourceDialect) {k : KeyDraft} {part : KeyPart}
    (h : t.NamesPart k part) : (withColumns source t).NamesPart k part := by
  obtain ⟨⟨c, hc, hid⟩, hdesc⟩ := h
  refine ⟨⟨mapColumn source c, ?_, by rw [mapColumn_id, hid]⟩, hdesc⟩
  rw [columnByName?_withColumns, hc]
  rfl

/-- A key that is set stays. -/
theorem keyMapped_withColumns (source : SourceDialect) (d : TargetDialect) (h : t.KeepsKey key)
    (hplain : t.IsPlain) (hne : key ≠ []) : KeyMapped d key t (withColumns source t) where
  nonempty := mt (primaryKey_eq_nil_iff h).1 hne
  required := by
    intro k hk
    rw [column?_withColumns, Option.map_map, ← h.required k hk]
    exact congrArg (Option.map · _) (funext fun c => mapColumn_nullable source c)
  given _ := {
    named := (Builder.resolveKeys_eq_ok_iff.1 h.named).imp fun _ _ => namesPart_withColumns source
    key := rfl
    declared := notSynthetic_withColumns source hplain
    columns := asDeclared_withColumns source t }
  missing hnone := absurd hnone hne

/-- The synthetic column is there. -/
theorem column?_withSyntheticKey (d : TargetDialect) (synthetic : String) (n : Nat) (t : Table) :
    (withSyntheticKey d synthetic n t).column? ⟨n⟩
      = some (syntheticColumn d ⟨n⟩ (syntheticName t synthetic)) :=
  List.find?_cons_of_pos (decide_eq_true rfl)

/-- A table without a key is given one. -/
theorem keyMapped_withSyntheticKey (source : SourceDialect) (d : TargetDialect) (synthetic : String)
    (n : Nat) (hplain : t.IsPlain) :
    KeyMapped d [] t (withSyntheticKey d synthetic n (withColumns source t)) where
  nonempty := List.cons_ne_nil _ _
  required := by
    intro k hk
    rw [List.mem_singleton.1 hk]
    rw [column?_withSyntheticKey]
    rfl
  given hne := absurd rfl hne
  missing _ := ⟨_, {
    front := rfl
    synthetic := rfl
    type := rfl
    default := rfl
    key := rfl
    declared := notSynthetic_withColumns source hplain
    name := fun c hc => Bool.eq_false_iff.2 fun hsame =>
      folded_ne_syntheticName (withColumns source t) synthetic c hc (Text.sameFolded_iff.1 hsame)
    others := asDeclared_withColumns source t }⟩

/-- The key of a table shows in its columns and its primary key alone. -/
theorem KeyMapped.congr {t'' : Table} (h : KeyMapped d key t t') (hcolumns : t''.columns = t'.columns)
    (hkey : t''.primaryKey = t'.primaryKey) : KeyMapped d key t t'' := by
  have hbyId (id : ColumnId) : t''.column? id = t'.column? id := by
    unfold Table.column?
    rw [hcolumns]
  have hbyName (n : String) : t''.columnByName? n = t'.columnByName? n := by
    unfold Table.columnByName?
    rw [hcolumns]
  refine ⟨hkey ▸ h.nonempty, fun k hk => ?_, fun hne => ?_, fun hnone => ?_⟩
  · rw [hbyId]
    exact h.required k (hkey ▸ hk)
  · obtain ⟨hnamed, hsame, hdeclared, hrest⟩ := h.given hne
    rw [← hcolumns] at hdeclared hrest
    refine ⟨?_, hkey.trans hsame, hdeclared, hrest⟩
    rw [hkey]
    refine hnamed.imp ?_
    rintro k part ⟨⟨c, hc, hid⟩, hdesc⟩
    exact ⟨⟨c, (hbyName k.1).trans hc, hid⟩, hdesc⟩
  · obtain ⟨c, hfront, hsynthetic, htype, hdefault, hown, hdeclared, hname, hrest⟩ := h.missing hnone
    rw [← hcolumns] at hfront hdeclared hname hrest
    exact ⟨c, hfront, hsynthetic, htype, hdefault, hkey.trans hown, hdeclared, hname, hrest⟩

/-- What the first phase makes of a table with the key that was set for it. -/
theorem keyMapped_of_places {e e' : TableId × Table} (hplaces : IsPlacedAs source d synthetic e e')
    (h : e.2.KeepsKey key) (hplain : e.2.IsPlain) : KeyMapped d key e.2 e'.2 := by
  obtain ⟨-, n, hparts⟩ := hplaces
  obtain ⟨hcolumns, hkey, -⟩ := parts_of_withoutParts hparts
  refine KeyMapped.congr ?_ hcolumns hkey
  by_cases hnone : key = []
  · have hempty := (primaryKey_eq_nil_iff h).2 hnone
    rw [place_of_no_key source d synthetic n e.1 hplain hempty, hnone]
    exact keyMapped_withSyntheticKey source d synthetic n hplain
  · have hnonempty := mt (primaryKey_eq_nil_iff h).1 hnone
    rw [place_of_key source d synthetic n e.1 hplain hnonempty]
    exact keyMapped_withColumns source d h hplain hnone

end Tables

/-! ## Findings -/

section Findings

variable {m : Model} {i : Issue}

/-- No part of a mapping but that of keys tells of a synthetic one. -/
theorem category_ne_of_part (h : i.category ∈ partCategories) : i.category ≠ .syntheticKey := by
  intro hc
  rw [hc] at h
  exact absurd h (by decide)

/-- The first phase speaks of a synthetic key wherever there is one. -/
theorem filter_syntheticKey_place (source : SourceDialect) (d : TargetDialect) (synthetic : String)
    (n : Nat) (id : TableId) (t : Table) :
    (place source d synthetic n id t).issues.filter (fun i => i.category = .syntheticKey)
      = (announced (id, (place source d synthetic n id t).table)).toList := by
  have hcolumns : (t.columns.flatMap (columnIssues source d id t.name)).filter
      (fun i => i.category = .syntheticKey) = [] := by
    refine List.filter_eq_nil_iff.2 fun i hi => ?_
    obtain ⟨c, -, hi⟩ := List.mem_flatMap.1 hi
    simpa using category_ne_of_part (mem_columnIssues hi).2.2
  have hkeys : (keyIssues d id (withColumns source t)).filter
      (fun i => i.category = .syntheticKey) = [] :=
    List.filter_eq_nil_iff.2 fun i hi => by simpa using category_ne_of_part (mem_keyIssues hi).2.1
  unfold place announced
  dsimp only
  rw [List.filter_append, hcolumns, List.nil_append]
  -- a table that has a key gets none, whether the key is synthetic or not
  unfold placeKey
  split
  · rename_i c hc
    dsimp only
    rw [hc]
    rfl
  · rename_i hnone
    split
    · dsimp only
      rw [hnone, hkeys]
      rfl
    · rfl

/-- Each synthetic key is told of once. -/
theorem filter_syntheticKey_placeAll (source : SourceDialect) (d : TargetDialect)
    (synthetic : String) (n : Nat) (l : KeyedTables) :
    (placeAll source d synthetic n l).issues.filter (fun i => i.category = .syntheticKey)
      = (placeAll source d synthetic n l).tables.filterMap announced := by
  induction l generalizing n with
  | nil => rfl
  | cons e l ih =>
    obtain ⟨id, t⟩ := e
    unfold placeAll
    dsimp only
    rw [List.filter_append, filter_syntheticKey_place, ih, List.filterMap_cons]
    cases announced (id, (place source d synthetic n id t).table) <;> rfl

/-- What is chosen of related lists. -/
theorem filterMap_of_forall₂ {α β γ : Type} {f : α → Option γ} {g : β → Option γ} {l : List α}
    {l' : List β} (h : List.Forall₂ (fun a b => g b = f a) l l') :
    l'.filterMap g = l.filterMap f := by
  induction h with
  | nil => rfl
  | cons hab _ ih => rw [List.filterMap_cons, List.filterMap_cons, hab, ih]

/-- What is announced depends on the columns and the key. -/
theorem announced_congr {e e' : TableId × Table} (hid : e'.1 = e.1)
    (hparts : withoutParts e'.2 = withoutParts e.2) : announced e' = announced e := by
  have hbare (e : TableId × Table) : announced e = announced (e.1, withoutParts e.2) := rfl
  rw [hbare e', hid, hparts, ← hbare e]

/-- What a mapping says of synthetic keys: what others have said of them, and for each table that has
one that it does. -/
theorem syntheticIssues_map (h : m.Sound) (synthetic : String) : (map synthetic m).syntheticIssues
    = (m.clearIssues .mapper).syntheticIssues ++ (map synthetic m).tables.filterMap announced := by
  have hlate (i : Issue) (hi : IsLate i) : decide (i.category = .syntheticKey) = false := by
    rcases hi.category with hc | hc | hc <;> simp [hc]
  have hsame := filterMap_of_forall₂ (f := announced) (g := announced)
    ((map_tables_placed h synthetic).imp fun _ _ he => announced_congr he.1 he.2)
  rw [hsame]
  unfold Model.syntheticIssues
  rw [filter_map h synthetic hlate]
  exact congrArg (_ ++ ·) (filter_syntheticKey_placeAll _ _ _ _ _)

/-- What is said of synthetic keys is said of tables, each once. -/
theorem filter_announced {l : KeyedTables} (hl : (l.map (·.1)).Nodup) {e : TableId × Table}
    (he : e ∈ l) : (l.filterMap announced).filter
      (fun i => i.stage = .mapper && i.target = .table e.1) = (announced e).toList := by
  have hmem {e : TableId × Table} {i : Issue} (hi : i ∈ (announced e).toList) :
      i.stage = .mapper ∧ i.target = .table e.1 := by
    obtain ⟨c, -, rfl⟩ := Option.map_eq_some_iff.1 (Option.mem_toList.1 hi)
    exact ⟨rfl, rfl⟩
  rw [List.filterMap_eq_flatMap_toList, filter_flatMap_of_key hl he]
  · refine List.filter_eq_self.2 fun i hi => ?_
    simp [hmem hi]
  · intro e' _ hne
    refine List.filter_eq_nil_iff.2 fun i hi => ?_
    simp [hmem hi, hne]

/-- That a key is synthetic is not taken back. -/
theorem isSpent_of_syntheticKey (h : i.category = .syntheticKey) : isSpent i = false := by
  unfold isSpent
  split
  · rename_i hc
    rw [h] at hc
    cases hc
  · rename_i hc _
    rw [h] at hc
    cases hc
  · rfl

/-- No later mapping says anything else. -/
theorem syntheticIssues_foldl_map (h : m.Sound) (synthetic : String) (names : List String) :
    (names.foldl (fun m synthetic => map synthetic m) (map synthetic m)).syntheticIssues
      = (map synthetic m).syntheticIssues := by
  have hunspent : (unspent (map synthetic m).issues).filter (fun i => i.category = .syntheticKey)
      = (map synthetic m).syntheticIssues := by
    unfold unspent Model.syntheticIssues
    rw [List.filter_filter]
    refine List.filter_congr fun i _ => ?_
    by_cases hc : i.category = .syntheticKey
    · simp [isSpent_of_syntheticKey hc]
    · simp [hc]
  rw [foldl_map h synthetic names]
  by_cases hnames : names = []
  · simp only [hnames, if_true]
  · simp only [if_neg hnames]
    exact hunspent

end Findings

/-- What mappings have made of the keys of a model, given the keys that were set last and what callers
have said of synthetic keys. -/
structure KeysMapped (keys : TableId → List KeyDraft) (said : List Issue) (m m' : Model) : Prop where
  /-- Tables keep their order, and each has the key that was set for it, or a synthetic one. -/
  tables : List.Forall₂ (fun e e' => e'.1 = e.1 ∧ KeyMapped m.target (keys e.1) e.2 e'.2)
    m.tables m'.tables
  /-- Besides callers, mappings speak of synthetic keys, table by table. -/
  issues : m'.syntheticIssues = said ++ m'.tables.filterMap announced
  /-- Of each table with a synthetic key they say once that it has one, and of no other. -/
  once : ∀ e ∈ m'.tables, (m'.syntheticIssues.filter fun i =>
    i.stage = .mapper && i.target = .table e.1) = (announced e).toList

/-- A model whose tables have the keys that were set for them, after mappings. -/
theorem keysMapped_foldl_map {m : Model} (h : m.Sound) (hplain : ∀ e ∈ m.tables, e.2.IsPlain)
    {keys : TableId → List KeyDraft} (hkeys : ∀ e ∈ m.tables, e.2.KeepsKey (keys e.1))
    (hsaid : ∀ i ∈ m.syntheticIssues, i.stage ≠ .mapper) (synthetic : String)
    (names : List String) : KeysMapped keys m.syntheticIssues m
      (names.foldl (fun m synthetic => map synthetic m) (map synthetic m)) := by
  -- later mappings change no table
  have htables : (names.foldl (fun m synthetic => map synthetic m) (map synthetic m)).tables
      = (map synthetic m).tables := by
    rw [foldl_map h synthetic names]
  have hothers : (m.clearIssues .mapper).syntheticIssues = m.syntheticIssues := by
    unfold Model.syntheticIssues Model.clearIssues
    rw [List.filter_comm]
    exact List.filter_eq_self.2 fun i hi => decide_eq_true (hsaid i hi)
  have hissues : (names.foldl (fun m synthetic => map synthetic m) (map synthetic m)).syntheticIssues
      = m.syntheticIssues ++ (map synthetic m).tables.filterMap announced := by
    rw [syntheticIssues_foldl_map h, syntheticIssues_map h, hothers]
  refine ⟨?_, ?_, ?_⟩
  · rw [htables]
    have hall : ∀ e ∈ m.tables, e.2.IsPlain ∧ e.2.KeepsKey (keys e.1) :=
      fun e he => ⟨hplain e he, hkeys e he⟩
    refine ((List.forall₂_and_left _ _).2 ⟨hall, map_places h synthetic⟩).imp ?_
    rintro e e' ⟨⟨hplain, hkey⟩, hplaces⟩
    exact ⟨hplaces.1, keyMapped_of_places hplaces hkey hplain⟩
  · rw [hissues, htables]
  · intro e he
    rw [htables] at he
    have hnone : m.syntheticIssues.filter (fun i => i.stage = .mapper && i.target = .table e.1) = [] :=
      List.filter_eq_nil_iff.2 fun i hi => by simp [hsaid i hi]
    rw [hissues, List.filter_append, hnone, List.nil_append]
    exact filter_announced (sound_map h synthetic).nodup_keys he

end Mapper

/-- **Primary keys.**  After any calls of a builder none of which fails, and any number of mappings,
every table has a primary key of columns that cannot be null: the one that was set last, or a synthetic
one, of which it is said once that it was added. -/
theorem Runs.map_primaryKeys {source : SourceDialect} {target : TargetDialect}
    {policy : CollisionPolicy} {audit : Audit} {ops : List Operation} {w : Work}
    (h : Runs (Work.start source target policy audit) ops w) (synthetic : String)
    (names : List String) :
    Mapper.KeysMapped (lastKeys (Work.start source target policy audit) (fun _ => []) ops)
      (raisedSynthetic ops) w.builder.finish
      (names.foldl (fun m synthetic => Mapper.map synthetic m)
        (Mapper.map synthetic w.builder.finish)) := by
  have hstart := Work.Sound.start source target policy audit
  obtain ⟨hsound, hdescribed⟩ := (h.sound hstart).builder.finish
  obtain ⟨hkeys, hsaid⟩ := (h.keysKept hstart (.start source target policy audit)).finish
  rw [List.nil_append] at hsaid
  rw [← hsaid]
  refine Mapper.keysMapped_foldl_map hsound hdescribed.plain (fun e he => ?_) (fun i hi => ?_)
    synthetic names
  · exact hkeys e.1 e.2 (tableIn_of_mem hsound.nodup_keys he)
  · rw [stage_of_mem_raisedSynthetic (hsaid ▸ hi)]
    exact Stage.noConfusion

/-- A table whose key is set anew, and one whose key is taken back and whose own column has the name
of synthetic keys. -/
def rekeyedRun : List Operation :=
  [.addTable { TableDraft.empty none "p" with
      columns := [.plain "x" ⟨"integer", [], [], 0, "integer"⟩,
        .plain "y" ⟨"text", [], [], 0, "text"⟩]
      primaryKey := [("x", false)] },
    .addTable { TableDraft.empty none "c" with
      columns := [.plain "ID" ⟨"integer", [], [], 0, "integer"⟩] },
    .setPrimaryKey ⟨1⟩ [("Y", true), ("x", false)],
    .setPrimaryKey ⟨4⟩ [("id", false)],
    .setPrimaryKey ⟨4⟩ [],
    .issue .unsupportedConstraint (.table ⟨4⟩) "Constraint 'EXCLUDE' on c not converted."]

theorem map_primaryKeys_rekeyedRun :
    ∃ w, Runs (Work.start .postgres .google .rename default) rekeyedRun w
      ∧ lastKeys (Work.start .postgres .google .rename default) (fun _ => []) rekeyedRun ⟨1⟩
        = [("Y", true), ("x", false)]
      ∧ lastKeys (Work.start .postgres .google .rename default) (fun _ => []) rekeyedRun ⟨4⟩ = []
      ∧ raisedSynthetic rekeyedRun = []
      ∧ Mapper.KeysMapped
        (lastKeys (Work.start .postgres .google .rename default) (fun _ => []) rekeyedRun)
        (raisedSynthetic rekeyedRun) w.builder.finish
        (["key"].foldl (fun m synthetic => Mapper.map synthetic m)
          (Mapper.map "id" w.builder.finish)) := by
  have hrun : ∃ w, Runs (Work.start .postgres .google .rename default) rekeyedRun w := by
    refine ⟨_, .step trivial rfl (.step trivial rfl (.step trivial rfl (.step trivial rfl
      (.step trivial rfl (.step ?_ rfl (.done _))))))⟩
    exact Or.inr ⟨⟨4⟩, by decide, rfl⟩
  obtain ⟨w, h⟩ := hrun
  exact ⟨w, h, rfl, rfl, rfl, Runs.map_primaryKeys h "id" ["key"]⟩

end SchemaBridge
