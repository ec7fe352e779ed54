/-
# Scripts that apply

The statements of a mapped model can be carried out one after the other: whatever a statement refers
to is made by one before it, in tables that refer to each other in a circle as well.

## Key statements

* `statements_writes`, `statements_eq`: one statement for each part of a model, in order, unless a name
  is refused.
* `Model.IsMapped.refersToKey`: in a mapped model every foreign key refers to a key.
* `statements_applies`: what stands before what.
-/
import SchemaBridge.Ddl.Script
import SchemaBridge.Proofs.Ddl.Statement
import SchemaBridge.Proofs.Mapper.ForeignKeys
import SchemaBridge.Proofs.Schema.Keys
import SchemaBridge.Proofs.Verification.Expressions

namespace SchemaBridge

/-- A model that is the result of a mapping, whatever has become of its expressions since. -/
def Model.IsMapped (m : Model) : Prop :=
  ∃ m₀ synthetic, (Mapper.map synthetic m₀).SameBare m

/-- Whether a foreign key refers to a key does not depend on verdicts. -/
theorem Model.SameBare.refersToKey {m m' : Model} (h : m.SameBare m') :
    m'.refersToKey = m.refersToKey := by
  funext f
  have hkeys := h.map_table? (f := fun t => t.isUniqueKey f.referencedColumns) (fun _ => rfl)
    f.referencedTable
  unfold Model.refersToKey
  cases hp : m.table? f.referencedTable <;> cases hp' : m'.table? f.referencedTable <;>
    rw [hp, hp'] at hkeys
  case none.some | some.none => cases hkeys
  case some.some => exact Option.some.inj hkeys

/-- Every foreign key of a mapped model refers to a key. -/
theorem Model.IsMapped.refersToKey {m : Model} (h : m.IsMapped) {t : Table} (ht : t ∈ m.tableList)
    {f : ForeignKey} (hf : f ∈ t.foreignKeys) : m.refersToKey f = true := by
  obtain ⟨m₀, synthetic, hbare⟩ := h
  obtain ⟨e, he, rfl⟩ := List.mem_map.1 ht
  have hmem : (e.1, e.2.bare) ∈ (Mapper.map synthetic m₀).tables.map fun e => (e.1, e.2.bare) :=
    hbare.tables ▸ List.mem_map_of_mem he
  obtain ⟨e₀, he₀, heq⟩ := List.mem_map.1 hmem
  have hkeys := congrArg (fun x : TableId × Table => x.2.foreignKeys) heq
  have hf₀ : f ∈ e₀.2.foreignKeys := Eq.mpr (congrArg (f ∈ ·) hkeys) hf
  rw [hbare.refersToKey]
  exact Mapper.refersToKey_of_mem_map m₀ synthetic he₀ hf₀

namespace Ddl

/-! ## What statements are written for -/

/-- What a statement is written for. -/
inductive Part
  | table (t : Table)
  | index (t : Table) (i : Index)
  | foreignKey (t parent : Table) (f : ForeignKey)
  deriving DecidableEq, Repr

namespace Part

/-- The statement for a part of a model. -/
def text (s : Style) : Part → String
  | table t => tableText s t
  | index t i => indexText s t i
  | foreignKey t parent f => foreignKeyText s t parent f

/-- The names in the statement for a part. -/
def names : Part → List String
  | table t => tableNames t
  | index t i => indexNames t i
  | foreignKey t parent f => foreignKeyNames t parent f

/-- The key that a statement makes, and the table it is one of. -/
def key? : Part → Option (Table × List KeyPart)
  | table t => some (t, t.primaryKey)
  | index t i => if i.unique then some (t, i.keys) else none
  | foreignKey _ _ _ => none

/-- The columns in the lists of a statement, each with the table it is one of. -/
def listed : Part → List (Table × ColumnId)
  | table t => t.primaryKey.map fun k => (t, k.column)
  | index t i => i.keys.map fun k => (t, k.column)
  | foreignKey t parent f =>
    f.columns.map (fun c => (t, c)) ++ f.referencedColumns.map fun c => (parent, c)

end Part

/-- The foreign keys of a table whose parents are in the model. -/
def keyParts (m : Model) (t : Table) : List Part :=
  t.foreignKeys.filterMap fun f =>
    (m.table? f.referencedTable).map fun parent => .foreignKey t parent f

/-- What a model consists of: its tables, then their indexes, then their foreign keys. -/
def parts (m : Model) : List Part :=
  m.tableList.map .table ++ m.tableList.flatMap (fun t => t.indexes.map (.index t))
    ++ m.tableList.flatMap (keyParts m)

/-! ## One statement after another -/

variable {m : Model} {t : Table}

/-- The references of a table that is among the tables of a valid model. -/
theorem refersIn_of_mem (h : m.WellFormed) (ht : t ∈ m.tableList) : t.RefersIn m.tables := by
  obtain ⟨e, he, rfl⟩ := List.mem_map.1 ht
  exact (h.tables e he).refers

/-- The table that a foreign key refers to is one of the model. -/
theorem exists_parent (h : m.WellFormed) (ht : t ∈ m.tableList) {f : ForeignKey}
    (hf : f ∈ t.foreignKeys) : ∃ parent ∈ m.tableList, m.table? f.referencedTable = some parent
      ∧ ∀ c ∈ f.referencedColumns, parent.hasColumn c = true := by
  obtain ⟨parent, hparent, hcolumns⟩ := ((refersIn_of_mem h ht).foreignKeys f hf).parent
  exact ⟨parent, List.mem_map_of_mem (mem_of_tableIn hparent), hparent, hcolumns⟩

/-- The part that a foreign key of a table is. -/
def keyPart? (m : Model) (t : Table) (f : ForeignKey) : Option Part :=
  (m.table? f.referencedTable).map fun parent => .foreignKey t parent f

/-- The statements of foreign keys write their texts. -/
theorem foreignKeyStatements_writes (s : Style) (m : Model) (t : Table) :
    Writes ((keyParts m t).flatMap Part.names) (foreignKeyStatements s m t)
      ((keyParts m t).map (Part.text s)) := by
  have hparts : keyParts m t = t.foreignKeys.filterMap (keyPart? m t) := rfl
  have htexts : (keyParts m t).map (Part.text s)
      = (t.foreignKeys.map fun f => (keyPart? m t f).map (Part.text s)).filterMap id := by
    rw [hparts, List.filterMap_map, List.map_filterMap]
    rfl
  have hnames : (keyParts m t).flatMap Part.names
      = t.foreignKeys.flatMap fun f => (keyPart? m t f).toList.flatMap Part.names := by
    rw [hparts, List.filterMap_eq_flatMap_toList, List.flatMap_assoc]
  rw [htexts, hnames]
  refine (Writes.mapM fun f _ => ?_).map fun texts => texts.filterMap id
  -- a foreign key whose parent is not there has no statement
  unfold keyPart?
  cases m.table? f.referencedTable with
  | none => exact .ok none
  | some parent =>
    rw [Option.map_some, Option.toList_some, List.flatMap_singleton]
    exact (addForeignKey_writes s t parent f).map some

/-- The statements of a model are the texts of its parts in their order, unless a name in one of these
is refused. -/
theorem statements_writes (m : Model) (d : TargetDialect) :
    Writes ((parts m).flatMap Part.names) (statements d m)
      ((parts m).map (Part.text ⟨m.source, d⟩)) := by
  have htables := Writes.mapM (l := m.tableList) fun t _ => createTable_writes ⟨m.source, d⟩ t
  have hindexes := Writes.mapM (l := m.tableList) fun t _ =>
    Writes.mapM (l := t.indexes) fun i _ => createIndex_writes ⟨m.source, d⟩ t i
  have hkeys := Writes.mapM (l := m.tableList) fun t _ =>
    foreignKeyStatements_writes ⟨m.source, d⟩ m t
  -- names are refused in the order of the statements, tables before indexes before keys
  have hnames : (parts m).flatMap Part.names = m.tableList.flatMap tableNames
      ++ (m.tableList.flatMap (fun t => t.indexes.flatMap (indexNames t))
        ++ m.tableList.flatMap fun t => (keyParts m t).flatMap Part.names) := by
    unfold parts
    rw [List.flatMap_append, List.flatMap_append, List.flatMap_map, List.flatMap_assoc,
      List.flatMap_assoc, List.append_assoc]
    simp only [List.flatMap_map]
    rfl
  have htexts : (parts m).map (Part.text ⟨m.source, d⟩)
      = m.tableList.map (tableText ⟨m.source, d⟩)
        ++ (m.tableList.map fun t => t.indexes.map (indexText ⟨m.source, d⟩ t)).flatten
        ++ (m.tableList.map fun t => (keyParts m t).map (Part.text ⟨m.source, d⟩)).flatten := by
    unfold parts
    simp only [List.map_append, List.map_map, List.map_flatMap]
    simp only [List.flatMap_def]
    rfl
  rw [hnames, htexts]
  refine htables.bind ?_
  refine hindexes.bind ?_
  exact hkeys.map _

/-- The names in the parts of a model are those of its tables and of what belongs to these. -/
theorem exists_knows_of_mem_parts {p : Part} (hp : p ∈ parts m) {n : String} (hn : n ∈ p.names) :
    ∃ t ∈ m.tableList, t.Knows n := by
  unfold parts at hp
  rw [List.mem_append, List.mem_append] at hp
  obtain (hp | hp) | hp := hp
  · obtain ⟨t, ht, rfl⟩ := List.mem_map.1 hp
    exact ⟨t, ht, tableNames_known t n hn⟩
  · obtain ⟨t, ht, hp⟩ := List.mem_flatMap.1 hp
    obtain ⟨i, hi, rfl⟩ := List.mem_map.1 hp
    exact ⟨t, ht, indexNames_known hi n hn⟩
  · obtain ⟨t, ht, hp⟩ := List.mem_flatMap.1 hp
    obtain ⟨f, hf, hp⟩ := List.mem_filterMap.1 hp
    obtain ⟨parent, hparent, rfl⟩ := Option.map_eq_some_iff.1 hp
    have hmem : parent ∈ m.tableList := List.mem_map_of_mem (mem_of_tableIn hparent)
    obtain hknown | hknown := foreignKeyNames_known parent hf n hn
    · exact ⟨t, ht, hknown⟩
    · exact ⟨parent, hmem, hknown⟩

/-- If all names are accepted, nothing is refused, and the statements are the texts of the parts in their
order. -/
theorem statements_eq (hnames : ∀ t ∈ m.tableList, t.HasAcceptedNames) (d : TargetDialect) :
    statements d m = .ok ((parts m).map (Part.text ⟨m.source, d⟩)) :=
  (statements_writes m d).eq_ok fun n hn => by
    obtain ⟨p, hp, hn⟩ := List.mem_flatMap.1 hn
    obtain ⟨t, ht, hknown⟩ := exists_knows_of_mem_parts hp hn
    exact (hnames t ht).accepts hknown

/-! ## What stands before what -/

/-- Of two members of a list the first stands before the second. -/
def Precedes {α : Type} (l : List α) (a b : α) : Prop := [a, b].Sublist l

/-- What is in a list comes before what is in another one after it. -/
theorem precedes_append {α : Type} {l l' : List α} {a b : α} (ha : a ∈ l) (hb : b ∈ l') :
    Precedes (l ++ l') a b :=
  (List.singleton_sublist.2 ha).append (List.singleton_sublist.2 hb)

/-- Each table has its statement. -/
theorem mem_parts_table (ht : t ∈ m.tableList) : .table t ∈ parts m :=
  List.mem_append_left _ (List.mem_append_left _ (List.mem_map_of_mem ht))

/-- A table comes before its indexes. -/
theorem precedes_index (ht : t ∈ m.tableList) {i : Index} (hi : i ∈ t.indexes) :
    Precedes (parts m) (.table t) (.index t i) := by
  have hindex : .index t i ∈ m.tableList.flatMap fun t => t.indexes.map (Part.index t) :=
    List.mem_flatMap.2 ⟨t, ht, List.mem_map_of_mem hi⟩
  exact (precedes_append (List.mem_map_of_mem ht) hindex).trans (List.sublist_append_left _ _)

/-- Tables and indexes stand before foreign keys. -/
theorem precedes_foreignKey (ht : t ∈ m.tableList) {f : ForeignKey} (hf : f ∈ t.foreignKeys)
    {parent : Table} (hparent : m.table? f.referencedTable = some parent) {p : Part}
    (hp : p ∈ m.tableList.map .table ++ m.tableList.flatMap fun t => t.indexes.map (.index t)) :
    Precedes (parts m) p (.foreignKey t parent f) := by
  refine precedes_append hp (List.mem_flatMap.2 ⟨t, ht, List.mem_filterMap.2 ⟨f, hf, ?_⟩⟩)
  rw [hparent]
  rfl

/-- A key that stands before a statement covers columns of a table, and consists of them if it repeats
no column. -/
def HasKeyBefore (m : Model) (parent : Table) (columns : List ColumnId) (q : Part) : Prop :=
  ∃ p keys, p.key? = some (parent, keys) ∧ Precedes (parts m) p q ∧ Covers columns keys
    ∧ ((keys.map (·.column)).Nodup → (keys.map (·.column)).Perm columns)

/-- Before a foreign key comes what makes its columns a key. -/
theorem hasKeyBefore_foreignKey (hmapped : m.IsMapped) (ht : t ∈ m.tableList) {f : ForeignKey}
    (hf : f ∈ t.foreignKeys) {parent : Table} (hmem : parent ∈ m.tableList)
    (hparent : m.table? f.referencedTable = some parent) :
    HasKeyBefore m parent f.referencedColumns (.foreignKey t parent f) := by
  have hrefers := hmapped.refersToKey ht hf
  unfold Model.refersToKey at hrefers
  rw [hparent] at hrefers
  obtain ⟨-, -, hcovers | ⟨i, hi, hunique, hcovers⟩⟩ := (parent.isUniqueKey_iff _).1 hrefers
  · refine ⟨.table parent, parent.primaryKey, rfl, ?_, hcovers, hcovers.perm⟩
    exact precedes_foreignKey ht hf hparent (List.mem_append_left _ (List.mem_map_of_mem hmem))
  · refine ⟨.index parent i, i.keys, if_pos hunique, ?_, hcovers, hcovers.perm⟩
    exact precedes_foreignKey ht hf hparent
      (List.mem_append_right _ (List.mem_flatMap.2 ⟨parent, hmem, List.mem_map_of_mem hi⟩))

/-! ## Each part once -/

/-- The table that a part belongs to. -/
def Part.owner : Part → Table
  | .table t | .index t _ | .foreignKey t _ _ => t

/-- Lists of parts with different owners have no part in common. -/
theorem nodup_flatMap_of_owner {l : List Table} (hl : l.Nodup) {g : Table → List Part}
    (hg : ∀ t ∈ l, (g t).Nodup) (howner : ∀ t, ∀ p ∈ g t, p.owner = t) : (l.flatMap g).Nodup :=
  List.nodup_flatMap.2 ⟨hg, hl.imp fun hne p hp hp' =>
    hne ((howner _ p hp).symm.trans (howner _ p hp'))⟩

/-- The foreign keys of a table whose tables are there. -/
theorem mem_keyParts {p : Part} : p ∈ keyParts m t ↔ ∃ f ∈ t.foreignKeys, ∃ parent,
    m.table? f.referencedTable = some parent ∧ .foreignKey t parent f = p := by
  unfold keyParts
  simp only [List.mem_filterMap, Option.map_eq_some_iff]

/-- No table is listed twice. -/
theorem nodup_tableList (h : m.WellFormed) : m.tableList.Nodup := by
  have hkeys : m.tables.map (·.2.id) = m.tables.map (·.1) := List.map_congr_left h.keyed
  refine List.Nodup.of_map Table.id ?_
  unfold Model.tableList
  rw [List.map_map]
  exact Eq.mpr (congrArg List.Nodup hkeys) h.nodup_keys

/-- No index is listed twice. -/
theorem nodup_indexParts (h : m.WellFormed) (ht : t ∈ m.tableList) :
    (t.indexes.map (Part.index t)).Nodup := by
  obtain ⟨e, he, rfl⟩ := List.mem_map.1 ht
  have hids := (List.nodup_flatMap.1 h.distinct).1 e he
  exact ((e.2.nodup_indexes hids).of_map _).map fun i j hij => (Part.index.inj hij).2

/-- No foreign key is listed twice. -/
theorem nodup_keyParts (h : m.WellFormed) (ht : t ∈ m.tableList) : (keyParts m t).Nodup := by
  obtain ⟨e, he, rfl⟩ := List.mem_map.1 ht
  refine List.Nodup.filterMap (fun f f' p hp hp' => ?_)
    ((Mapper.nodup_foreignKeys_of_distinct h.distinct he).of_map _)
  obtain ⟨parent, -, rfl⟩ := Option.map_eq_some_iff.1 hp
  obtain ⟨parent', -, heq⟩ := Option.map_eq_some_iff.1 hp'
  exact (Part.foreignKey.inj heq).2.2.symm

/-- So no statement is listed twice. -/
theorem nodup_parts (h : m.WellFormed) : (parts m).Nodup := by
  have hindexes : (m.tableList.flatMap fun t => t.indexes.map (Part.index t)).Nodup := by
    refine nodup_flatMap_of_owner (nodup_tableList h) (fun t => nodup_indexParts h) fun t p hp => ?_
    obtain ⟨i, -, rfl⟩ := List.mem_map.1 hp
    rfl
  have hkeys : (m.tableList.flatMap (keyParts m)).Nodup := by
    refine nodup_flatMap_of_owner (nodup_tableList h) (fun t => nodup_keyParts h) fun t p hp => ?_
    obtain ⟨f, -, parent, -, rfl⟩ := mem_keyParts.1 hp
    rfl
  -- parts of different kinds are different
  refine List.nodup_append.2 ⟨List.nodup_append.2
    ⟨(nodup_tableList h).map fun t t' => Part.table.inj, hindexes, fun p hp q hq => ?_⟩, hkeys,
      fun p hp q hq => ?_⟩
  · obtain ⟨t, -, rfl⟩ := List.mem_map.1 hp
    obtain ⟨u, -, hq⟩ := List.mem_flatMap.1 hq
    obtain ⟨i, -, rfl⟩ := List.mem_map.1 hq
    exact Part.noConfusion
  · obtain ⟨u, -, hq⟩ := List.mem_flatMap.1 hq
    obtain ⟨f, -, parent, -, rfl⟩ := mem_keyParts.1 hq
    rcases List.mem_append.1 hp with hp | hp
    · obtain ⟨t, -, rfl⟩ := List.mem_map.1 hp
      exact Part.noConfusion
    · obtain ⟨t, -, hp⟩ := List.mem_flatMap.1 hp
      obtain ⟨i, -, rfl⟩ := List.mem_map.1 hp
      exact Part.noConfusion

/-- There are as many parts as tables, indexes and foreign keys. -/
theorem length_parts (h : m.WellFormed) : (parts m).length = m.tableList.length
    + (m.tableList.flatMap (·.indexes)).length + (m.tableList.flatMap (·.foreignKeys)).length := by
  have hkeys : ∀ t ∈ m.tableList, (keyParts m t).length = t.foreignKeys.length := by
    intro t ht
    unfold keyParts
    rw [List.length_filterMap_eq_countP, List.countP_eq_length]
    intro f hf
    obtain ⟨parent, -, hparent, -⟩ := exists_parent h ht hf
    rw [hparent]
    rfl
  unfold parts
  rw [List.length_append, List.length_append, List.length_map]
  simp only [List.length_flatMap, List.length_map, List.map_congr_left hkeys]

/-- Columns in lists go by the names of columns that their tables have. -/
theorem exists_column_of_listed (h : m.WellFormed) {p : Part} (hp : p ∈ parts m)
    {x : Table × ColumnId} (hx : x ∈ p.listed) :
    x.1 ∈ m.tableList ∧ ∃ c ∈ x.1.columns, c.id = x.2 ∧ x.1.columnName x.2 = c.name := by
  suffices hcolumn : x.1 ∈ m.tableList ∧ x.1.hasColumn x.2 = true from
    ⟨hcolumn.1, x.1.exists_column hcolumn.2⟩
  unfold parts at hp
  rw [List.mem_append, List.mem_append] at hp
  obtain (hp | hp) | hp := hp
  · obtain ⟨t, ht, rfl⟩ := List.mem_map.1 hp
    obtain ⟨k, hk, rfl⟩ := List.mem_map.1 hx
    exact ⟨ht, (refersIn_of_mem h ht).primaryKey k hk⟩
  · obtain ⟨t, ht, hp⟩ := List.mem_flatMap.1 hp
    obtain ⟨i, hi, rfl⟩ := List.mem_map.1 hp
    obtain ⟨k, hk, rfl⟩ := List.mem_map.1 hx
    exact ⟨ht, (refersIn_of_mem h ht).indexes i hi k hk⟩
  · obtain ⟨t, ht, hp⟩ := List.mem_flatMap.1 hp
    obtain ⟨f, hf, parent, hparent, rfl⟩ := mem_keyParts.1 hp
    rcases List.mem_append.1 hx with hx | hx
    · obtain ⟨c, hc, rfl⟩ := List.mem_map.1 hx
      exact ⟨ht, ((refersIn_of_mem h ht).foreignKeys f hf).columns c hc⟩
    · obtain ⟨c, hc, rfl⟩ := List.mem_map.1 hx
      obtain ⟨parent', hmem, hparent', hcolumns⟩ := exists_parent h ht hf
      obtain rfl : parent' = parent := Option.some.inj (hparent'.symm.trans hparent)
      exact ⟨hmem, hcolumns c hc⟩

/-! ## Scripts of mapped models -/

/-- Every part of a model has one statement, and what a statement refers to is there before it. -/
structure AppliesInOrder (m : Model) : Prop where
  distinct : (parts m).Nodup
  count : (parts m).length = m.tableList.length + (m.tableList.flatMap (·.indexes)).length
    + (m.tableList.flatMap (·.foreignKeys)).length
  tables : ∀ t ∈ m.tableList, .table t ∈ parts m
  indexes : ∀ t ∈ m.tableList, ∀ i ∈ t.indexes, Precedes (parts m) (.table t) (.index t i)
  /-- A foreign key stands after both tables and after a key of the one it refers to. -/
  foreignKeys : ∀ t ∈ m.tableList, ∀ f ∈ t.foreignKeys, ∃ parent ∈ m.tableList,
    m.table? f.referencedTable = some parent
      ∧ Precedes (parts m) (.table t) (.foreignKey t parent f)
      ∧ Precedes (parts m) (.table parent) (.foreignKey t parent f)
      ∧ HasKeyBefore m parent f.referencedColumns (.foreignKey t parent f)
  /-- Columns in lists go by the names of columns that the statement of their table makes. -/
  columns : ∀ p ∈ parts m, ∀ x ∈ p.listed, x.1 ∈ m.tableList
    ∧ ∃ c ∈ x.1.columns, c.id = x.2 ∧ x.1.columnName x.2 = c.name

/-- **The script of a mapped model is complete and applies in order.**  There is one statement for each
table, index and foreign key of a valid model.  An index comes after its table, a foreign key after
both its tables and after a key of the one it refers to, which has as many parts as columns are
referred to, all among these; a key that repeats a column may leave some of them out. -/
theorem statements_applies {m : Model} (h : m.validate = .ok ()) (hmapped : m.IsMapped)
    (hnames : ∀ t ∈ m.tableList, t.HasAcceptedNames) (d : TargetDialect) :
    statements d m = .ok ((parts m).map (Part.text ⟨m.source, d⟩)) ∧ AppliesInOrder m := by
  have hw := (Model.validate_eq_ok_iff m).1 h
  refine ⟨statements_eq hnames d, nodup_parts hw, length_parts hw, fun t => mem_parts_table,
    fun t ht i => precedes_index ht, fun t ht f hf => ?_, fun p hp x => exists_column_of_listed hw hp⟩
  obtain ⟨parent, hmem, hparent, -⟩ := exists_parent hw ht hf
  refine ⟨parent, hmem, hparent, ?_, ?_, hasKeyBefore_foreignKey hmapped ht hf hmem hparent⟩
  · exact precedes_foreignKey ht hf hparent (List.mem_append_left _ (List.mem_map_of_mem ht))
  · exact precedes_foreignKey ht hf hparent (List.mem_append_left _ (List.mem_map_of_mem hmem))

/-- A mapped model of two tables that refer to each other, one of them by a unique index, and to
themselves. -/
def circularModel : Model :=
  Mapper.map "id" <| Builder.finish <|
    ((Builder.start .postgres .google .rename default).addTable
      { TableDraft.empty none "a" with
        columns := [.plain "x" ⟨"integer", [], [], 0, "integer"⟩, .plain "y" ⟨"integer", [], [], 0, "integer"⟩]
        primaryKey := [("x", false), ("y", true)]
        foreignKeys := [⟨some "k", ["y"], none, "b", ["u"], .noAction, .noAction⟩,
          ⟨some "l", ["y", "x"], none, "a", ["y", "x"], .cascade, .noAction⟩] }).2.addTable
      { TableDraft.empty none "b" with
        columns := [.plain "u" ⟨"integer", [], [], 0, "integer"⟩, .plain "v" ⟨"integer", [], [], 0, "integer"⟩]
        indexes := [⟨some "i", [("u", true)], true⟩, ⟨some "j", [("v", false)], false⟩]
        foreignKeys := [⟨some "m", ["u", "v"], none, "a", [], .cascade, .noAction⟩] } |>.2

theorem statements_applies_circularModel : circularModel.validate = .ok () ∧ circularModel.IsMapped
    ∧ (∀ t ∈ circularModel.tableList, t.HasAcceptedNames)
    ∧ statements .google circularModel
      = .ok ((parts circularModel).map (Part.text ⟨circularModel.source, .google⟩))
    ∧ AppliesInOrder circularModel := by
  have h : circularModel.validate = .ok () := by decide +kernel
  have hmapped : circularModel.IsMapped := ⟨_, "id", .refl _⟩
  have hnames : ∀ t ∈ circularModel.tableList, t.HasAcceptedNames := by decide +kernel
  exact ⟨h, hmapped, hnames, statements_applies h hmapped hnames .google⟩

/-- A mapped model with a foreign key to two columns of a table whose key names the first one twice. -/
def repeatingModel : Model :=
  Mapper.map "id" <| Builder.finish <|
    ((Builder.start .postgres .google .rename default).addTable
      { TableDraft.empty none "p" with
        columns := [.plain "a" ⟨"integer", [], [], 0, "integer"⟩, .plain "b" ⟨"integer", [], [], 0, "integer"⟩]
        primaryKey := [("a", false), ("a", false)] }).2.addTable
      { TableDraft.empty none "c" with
        columns := [.plain "x" ⟨"integer", [], [], 0, "integer"⟩, .plain "y" ⟨"integer", [], [], 0, "integer"⟩]
        primaryKey := [("x", false)]
        foreignKeys := [⟨some "k", ["x", "y"], none, "p", ["a", "b"], .noAction, .noAction⟩] } |>.2

/-- It has a statement for the foreign key and none that makes the columns it refers to a key. -/
theorem keyless_repeatingModel : repeatingModel.validate = .ok () ∧ repeatingModel.IsMapped
    ∧ (∀ t ∈ repeatingModel.tableList, t.HasAcceptedNames)
    ∧ ∃ t ∈ repeatingModel.tableList, ∃ f ∈ t.foreignKeys, ∃ parent ∈ repeatingModel.tableList,
      repeatingModel.table? f.referencedTable = some parent
        ∧ .foreignKey t parent f ∈ parts repeatingModel
        ∧ ∀ x ∈ (parts repeatingModel).filterMap Part.key?, x.1 = parent →
          ∃ c ∈ f.referencedColumns, c ∉ x.2.map (·.column) := by
  refine ⟨?_, ⟨_, "id", .refl _⟩, ?_, ?_⟩
  all_goals decide +kernel

end Ddl

end SchemaBridge
