/-
# Columns of a mapped model

The first phase gives every column a target type and says what the type loses.  No other phase speaks
of columns in these terms, and none changes a column, so what is said can be read off the columns of
the mapped model: a mapped column is spoken of as the column it was.

## Key statements

* `isMapped_of_places`: what a column of a mapped table is.
* `filter_isColumnFinding_map`: among the findings of a mapping, those about the types of columns.
* `Builder.IsBuilt.map_columns`: what a mapping does with columns, and that it does nothing else.
-/
import SchemaBridge.Proofs.Mapper.ForeignKeys
import SchemaBridge.Proofs.Mapper.Placing
import SchemaBridge.Proofs.TypeMap.Mapping

namespace SchemaBridge

/-- A column without what a mapping adds to it. -/
def Column.asDeclared (c : Column) : Column := { c with targetType := none, confidence := none }

/-- The columns of a table that the source has. -/
def Table.declaredColumns (t : Table) : List Column :=
  (t.columns.filter fun c => !c.synthetic).map Column.asDeclared

/-- A column with the identifier and the name of its table. -/
structure PlacedColumn where
  table : TableId
  tableName : String
  column : Column

/-- The columns of all tables, in order. -/
def columnsIn (l : KeyedTables) : List PlacedColumn :=
  l.flatMap fun e => e.2.columns.map fun c => ⟨e.1, e.2.name, c⟩

namespace Mapper

/-! ## What is said of columns -/

/-- The findings of the mapper of a category. -/
def findingsOf (m : Model) (c : IssueCategory) : List Issue :=
  m.issues.filter fun i => i.stage = .mapper && i.category = c

/-- How a finding about values that the source numbers ends. -/
def numberingText : String := " is auto-incrementing; values must be supplied on insert."

/-- Whether a finding says that the source numbers the values of a column. -/
def tellsOfNumbering (i : Issue) : Bool :=
  match i.target with
  | .column _ _ =>
    i.category = .unsupportedConstraint && numberingText.toList.isSuffixOf i.detail.toList
  | _ => false

/-- An issue about numbering is one about a constraint. -/
theorem category_of_tellsOfNumbering {i : Issue} (h : tellsOfNumbering i = true) :
    i.category = .unsupportedConstraint := by
  unfold tellsOfNumbering at h
  split at h
  · exact of_decide_eq_true (Bool.and_eq_true_iff.1 h).1
  · cases h

/-- A finding that the type of a column is not exact: it names the column, its source type, the type
it has in the target and what is lost. -/
def TellsOfLoss (m : Model) (p : PlacedColumn) (i : Issue) : Prop :=
  ∃ type confidence note, p.column.targetType = some type ∧ p.column.confidence = some confidence
    ∧ (TypeMap.map m.source p.column.sourceType).note = some note
    ∧ i = issue .lossyType (.column p.table p.column.id)
      (Text.trimEndText (p.tableName ++ "." ++ p.column.name ++ ": " ++ p.column.sourceType.raw
        ++ " mapped to " ++ type.render m.target ++ " (" ++ confidence.name ++ "). " ++ note))

/-- A finding that several types fit a column. -/
def TellsOfChoice (m : Model) (p : PlacedColumn) (i : Issue) : Prop :=
  ∃ why, (TypeMap.map m.source p.column.sourceType).ambiguity = some why
    ∧ i = issue .ambiguousMapping (.column p.table p.column.id)
      (p.tableName ++ "." ++ p.column.name ++ ": " ++ why)

/-- The finding that the source numbers the values of a column. -/
def numberingIssue (p : PlacedColumn) : Issue :=
  issue .unsupportedConstraint (.column p.table p.column.id)
    (p.tableName ++ "." ++ p.column.name ++ numberingText)

/-- What the columns of a mapped model are, and what is said of them. -/
structure ColumnsMapped (m : Model) : Prop where
  /-- Every column has a type and a confidence, a declared one those of its source type. -/
  typed : ∀ p ∈ columnsIn m.tables, p.column.targetType.isSome = true
    ∧ p.column.confidence.isSome = true ∧ (p.column.synthetic = false →
      p.column.targetType = some (TypeMap.map m.source p.column.sourceType).target
      ∧ p.column.confidence = some (TypeMap.map m.source p.column.sourceType).confidence)
  /-- One finding for each column that is not exact. -/
  losses : List.Forall₂ (TellsOfLoss m)
    ((columnsIn m.tables).filter fun p => p.column.confidence ≠ some .exact)
    (findingsOf m .lossyType)
  /-- One for each column of a type that several types fit. -/
  choices : List.Forall₂ (TellsOfChoice m)
    ((columnsIn m.tables).filter fun p =>
      (TypeMap.map m.source p.column.sourceType).ambiguity.isSome)
    (findingsOf m .ambiguousMapping)
  /-- One for each column whose values the source numbers. -/
  numberings : List.Forall₂ (fun p i => i = numberingIssue p)
    ((columnsIn m.tables).filter fun p => p.column.identity)
    ((findingsOf m .unsupportedConstraint).filter tellsOfNumbering)

/-- What a mapping leaves as it is. -/
structure Leaves (m m' : Model) : Prop where
  source : m'.source = m.source
  target : m'.target = m.target
  audit : m'.audit = m.audit
  /-- Tables keep their order, and each keeps all but its types, keys and indexes. -/
  tables : List.Forall₂ (fun e e' => e'.1 = e.1 ∧ e'.2.frame = e.2.frame
    ∧ e'.2.declaredColumns = e.2.declaredColumns) m.tables m'.tables
  /-- So do the findings of other stages. -/
  issues : m'.issues.filter (fun i => i.stage ≠ .mapper)
    = m.issues.filter fun i => i.stage ≠ .mapper

/-! ## Mapped columns -/

section Tables

variable {m : Model} {source : SourceDialect} {d : TargetDialect} {synthetic : String}

/-- A mapping leaves what is declared of a column. -/
theorem asDeclared_mapColumn (source : SourceDialect) (c : Column) :
    (mapColumn source c).asDeclared = c.asDeclared := by
  unfold mapColumn
  split <;> rfl

/-- A column of a mapped model: a synthetic key, or one with the type its source type is mapped to. -/
def IsMapped (source : SourceDialect) (d : TargetDialect) (c : Column) : Prop :=
  (∃ id name, c = syntheticColumn d id name)
    ∨ c.synthetic = false
      ∧ c.targetType = some (TypeMap.map source c.sourceType).target
      ∧ c.confidence = some (TypeMap.map source c.sourceType).confidence

/-- A declared column is mapped. -/
theorem isMapped_mapColumn (source : SourceDialect) (d : TargetDialect) {c : Column}
    (h : c.synthetic = false) : IsMapped source d (mapColumn source c) := by
  rw [mapColumn, if_neg (by simp [h])]
  exact .inr ⟨h, rfl, rfl⟩

theorem isMapped_of_places {e e' : TableId × Table} (h : IsPlacedAs source d synthetic e e')
    (hplain : e.2.IsPlain) : ∀ c ∈ e'.2.columns, IsMapped source d c := by
  obtain ⟨-, n, hparts⟩ := h
  obtain ⟨front, hcolumns, hfront⟩ := place_columns source d synthetic n e.1 e.2
  intro c hc
  rw [(parts_of_withoutParts hparts).1, hcolumns] at hc
  rcases List.mem_append.1 hc with hc | hc
  · obtain ⟨i, name, rfl⟩ := hfront c hc
    exact .inl ⟨i, name, rfl⟩
  · obtain ⟨c', hc', rfl⟩ := List.mem_map.1 hc
    exact isMapped_mapColumn source d (hplain.notSynthetic c' hc')

/-- The declared columns of a table stay when it is placed. -/
theorem declaredColumns_of_places {e e' : TableId × Table}
    (h : IsPlacedAs source d synthetic e e') (hplain : e.2.IsPlain) :
    e'.2.declaredColumns = e.2.declaredColumns := by
  obtain ⟨-, n, hparts⟩ := h
  obtain ⟨front, hcolumns, hfront⟩ := place_columns source d synthetic n e.1 e.2
  have hnone : front.filter (fun c => !c.synthetic) = [] := by
    refine List.filter_eq_nil_iff.2 fun c hc => ?_
    obtain ⟨i, name, rfl⟩ := hfront c hc
    simp [syntheticColumn]
  have hall : (e.2.columns.map (mapColumn source)).filter (fun c => !c.synthetic)
      = e.2.columns.map (mapColumn source) := by
    refine List.filter_eq_self.2 fun c hc => ?_
    obtain ⟨c', hc', rfl⟩ := List.mem_map.1 hc
    simp [hplain.notSynthetic c' hc']
  have hsame : e.2.columns.filter (fun c => !c.synthetic) = e.2.columns :=
    List.filter_eq_self.2 fun c hc => by simp [hplain.notSynthetic c hc]
  rw [Table.declaredColumns, Table.declaredColumns, (parts_of_withoutParts hparts).1, hcolumns,
    List.filter_append, hnone, hall, hsame, List.nil_append, List.map_map]
  exact List.map_congr_left fun c _ => asDeclared_mapColumn source c

/-- A mapping changes nothing but types, keys and indexes. -/
theorem leaves_map (h : m.Sound) (hplain : ∀ e ∈ m.tables, e.2.IsPlain) (synthetic : String) :
    Leaves m (map synthetic m) where
  source := by rw [map_eq h]
  target := by rw [map_eq h]
  audit := by rw [map_eq h]
  tables := by
    refine ((List.forall₂_and_left _ _).2 ⟨hplain, map_places h synthetic⟩).imp ?_
    rintro e e' ⟨hplain, hplaces⟩
    obtain ⟨hid, n, hparts⟩ := hplaces
    refine ⟨hid, ?_, declaredColumns_of_places ⟨hid, n, hparts⟩ hplain⟩
    rw [(parts_of_withoutParts hparts).2.2, place_frame]
  issues := clearIssues_map h synthetic

end Tables

/-! ## Findings about columns -/

section Findings

variable {m : Model} {source : SourceDialect} {d : TargetDialect} {id : TableId} {t : Table}

/-- Whether a finding is about the type of a column. -/
def isColumnFinding (i : Issue) : Bool :=
  i.stage = .mapper
    && (i.category = .lossyType || i.category = .ambiguousMapping || tellsOfNumbering i)

/-- The issue about an identity column tells of numbering. -/
theorem tellsOfNumbering_numberingIssue (p : PlacedColumn) :
    tellsOfNumbering (numberingIssue p) = true := by
  have hends : numberingText.toList <:+ (numberingIssue p).detail.toList := by
    show _ <:+ (p.tableName ++ "." ++ p.column.name ++ numberingText).toList
    rw [String.toList_append]
    exact List.suffix_append _ _
  exact List.isSuffixOf_iff_suffix.2 hends

/-- The issues about keys say that a column cannot be part of one. -/
theorem exists_of_mem_keyIssues {i : Issue} (hi : i ∈ keyIssues d id t) :
    ∃ c subject, i = issue .unsupportedConstraint (.column id c)
      (subject ++ ", which cannot be part of a key.") := by
  obtain ⟨k, -, hi⟩ := List.mem_filterMap.1 hi
  obtain ⟨c, -, hi⟩ := Option.bind_eq_some_iff.1 hi
  obtain ⟨type, -, hi⟩ := Option.bind_eq_some_iff.1 hi
  split at hi
  · cases hi
  · exact ⟨c.id, _, (Option.some.inj hi).symm⟩

/-- A finding about a column of a key ends in another way than one about numbering. -/
theorem isColumnFinding_keyIssues (d : TargetDialect) (id : TableId) (t : Table) :
    ∀ i ∈ keyIssues d id t, isColumnFinding i = false := by
  intro i hi
  obtain ⟨c, subject, rfl⟩ := exists_of_mem_keyIssues hi
  have hother : ¬ numberingText.toList <:+ (subject ++ ", which cannot be part of a key.").toList := by
    intro hends
    have hkey : ", which cannot be part of a key.".toList
        <:+ (subject ++ ", which cannot be part of a key.").toList := by
      rw [String.toList_append]
      exact List.suffix_append _ _
    have hboth := List.suffix_of_suffix_length_le hkey hends (by decide)
    exact absurd (List.isSuffixOf_iff_suffix.2 hboth) (by decide)
  have htells : numberingText.toList.isSuffixOf
      (subject ++ ", which cannot be part of a key.").toList = false :=
    Bool.eq_false_iff.2 fun h => hother (List.isSuffixOf_iff_suffix.1 h)
  exact htells

/-- What is said of a primary key is not about the types of columns. -/
theorem isColumnFinding_placeKey (d : TargetDialect) (synthetic : String) (n : Nat) (id : TableId)
    (t : Table) : ∀ i ∈ (placeKey d synthetic n id t).issues, isColumnFinding i = false := by
  unfold placeKey
  split
  · intro i hi
    rw [List.mem_singleton.1 hi]
    rfl
  · split
    · exact isColumnFinding_keyIssues d id t
    · intro i hi
      rw [List.mem_singleton.1 hi]
      rfl

/-- What is said of a column is about columns. -/
theorem isColumnFinding_columnIssues (source : SourceDialect) (d : TargetDialect) (id : TableId)
    (table : String) (c : Column) :
    ∀ i ∈ columnIssues source d id table c, isColumnFinding i = true := by
  intro i hi
  unfold columnIssues at hi
  split at hi
  · cases hi
  rcases List.mem_append.1 hi with hi | hi
  · rcases List.mem_append.1 hi with hi | hi
    · unfold lossIssue at hi
      split at hi
      · cases hi
      · rw [List.mem_singleton.1 hi]
        rfl
    · unfold ambiguityIssue at hi
      split at hi
      · cases hi
      · rw [List.mem_singleton.1 hi]
        rfl
  · unfold identityIssue at hi
    split at hi
    · rw [List.mem_singleton.1 hi]
      exact tellsOfNumbering_numberingIssue ⟨id, table, c⟩
    · cases hi

/-- What is said of the columns of the tables of a list. -/
def columnFindings (source : SourceDialect) (d : TargetDialect) (l : KeyedTables) : List Issue :=
  (columnsIn l).flatMap fun p => columnIssues source d p.table p.tableName p.column

/-- What is said of one table and of the others. -/
theorem columnFindings_cons (source : SourceDialect) (d : TargetDialect) (e : TableId × Table)
    (l : KeyedTables) : columnFindings source d (e :: l)
      = e.2.columns.flatMap (columnIssues source d e.1 e.2.name) ++ columnFindings source d l := by
  rw [columnFindings, columnsIn, List.flatMap_cons, List.flatMap_append, List.flatMap_map]
  rfl

/-- Among the findings of the first phase, those about the types of columns. -/
theorem filter_isColumnFinding_placeAll (source : SourceDialect) (d : TargetDialect)
    (synthetic : String) (n : Nat) (l : KeyedTables) :
    (placeAll source d synthetic n l).issues.filter isColumnFinding = columnFindings source d l := by
  induction l generalizing n with
  | nil => rfl
  | cons e l ih =>
    have hcolumns : (e.2.columns.flatMap (columnIssues source d e.1 e.2.name)).filter isColumnFinding
        = e.2.columns.flatMap (columnIssues source d e.1 e.2.name) := by
      refine List.filter_eq_self.2 fun i hi => ?_
      obtain ⟨c, -, hi⟩ := List.mem_flatMap.1 hi
      exact isColumnFinding_columnIssues source d e.1 e.2.name c i hi
    have hkey : (placeKey d synthetic n e.1 (withColumns source e.2)).issues.filter isColumnFinding
        = [] :=
      List.filter_eq_nil_iff.2 fun i hi => by
        simp [isColumnFinding_placeKey d synthetic n e.1 _ i hi]
    unfold placeAll place
    dsimp only
    rw [List.filter_append, List.filter_append, hcolumns, hkey, ih, columnFindings_cons,
      List.append_nil]

/-- The columns a mapped table has are spoken of as those it had. -/
theorem columnFindings_of_places {synthetic : String} {l l' : KeyedTables}
    (h : List.Forall₂ (IsPlacedAs source d synthetic) l l') :
    columnFindings source d l' = columnFindings source d l := by
  induction h with
  | nil => rfl
  | @cons e e' l l' hplaces _ ih =>
    obtain ⟨hid, n, hparts⟩ := hplaces
    obtain ⟨front, hcolumns, hfront⟩ := place_columns source d synthetic n e.1 e.2
    obtain ⟨hsame, -, hframe⟩ := parts_of_withoutParts hparts
    have hname : e'.2.name = e.2.name := by
      have hn := congrArg Table.name (hframe.trans (place_frame source d synthetic n e.1 e.2))
      exact hn
    have hnone : front.flatMap (columnIssues source d e.1 e.2.name) = [] := by
      refine List.flatMap_eq_nil_iff.2 fun c hc => ?_
      obtain ⟨i, name, rfl⟩ := hfront c hc
      rfl
    rw [columnFindings_cons, columnFindings_cons, ih, hid, hname, hsame, hcolumns,
      List.flatMap_append, hnone, List.nil_append, List.flatMap_map]
    exact congrArg (· ++ _) (List.flatMap_congr fun c _ => columnIssues_mapColumn e.2.name c)

/-- What is said later is not about columns. -/
theorem isColumnFinding_of_isLate {i : Issue} (h : IsLate i) : isColumnFinding i = false := by
  have htells : tellsOfNumbering i = false := by
    unfold tellsOfNumbering
    split
    · exact absurd ‹_› (h.target _ _)
    · rfl
  rcases h.category with hc | hc | hc <;> simp [isColumnFinding, hc, htells]

/-- Among the findings of a mapping, those about the types of columns: what is to be said of the
columns of the mapped model. -/
theorem filter_isColumnFinding_map (h : m.Sound) (synthetic : String) :
    (map synthetic m).issues.filter isColumnFinding
      = columnFindings m.source m.target (map synthetic m).tables := by
  have hother : ((m.clearIssues .mapper).issues).filter isColumnFinding = [] := by
    refine List.filter_eq_nil_iff.2 fun i hi => ?_
    have hs : i.stage ≠ .mapper := by simpa using (List.mem_filter.1 hi).2
    simp [isColumnFinding, hs]
  rw [columnFindings_of_places (map_places h synthetic),
    filter_map h synthetic fun _ => isColumnFinding_of_isLate, hother, List.nil_append]
  exact filter_isColumnFinding_placeAll _ _ _ _ _

end Findings

/-! ## Findings of each kind -/

section Kinds

variable {m : Model} {source : SourceDialect} {d : TargetDialect} {id : TableId} {table : String}
  {c : Column} {p : PlacedColumn}

/-- What is said of a column, by kinds. -/
theorem filter_columnIssues (source : SourceDialect) (d : TargetDialect) (id : TableId)
    (table : String) (h : c.synthetic = false) :
    (columnIssues source d id table c).filter (fun i => i.category = .lossyType)
      = lossIssue d table (.column id c.id) c (TypeMap.map source c.sourceType)
    ∧ (columnIssues source d id table c).filter (fun i => i.category = .ambiguousMapping)
      = ambiguityIssue table (.column id c.id) c (TypeMap.map source c.sourceType)
    ∧ (columnIssues source d id table c).filter tellsOfNumbering
      = if c.identity then [numberingIssue ⟨id, table, c⟩] else [] := by
  have hnumbering : [numberingIssue ⟨id, table, c⟩].filter tellsOfNumbering
      = [numberingIssue ⟨id, table, c⟩] := by
    rw [List.filter_cons_of_pos (tellsOfNumbering_numberingIssue _), List.filter_nil]
  have hidentity : identityIssue table (.column id c.id) c
      = if c.identity then [numberingIssue ⟨id, table, c⟩] else [] := rfl
  rw [columnIssues, if_neg (by simp [h])]
  dsimp only
  rw [hidentity]
  unfold lossIssue ambiguityIssue
  simp only [List.filter_append]
  refine ⟨?_, ?_, ?_⟩
  · split <;> split <;> split <;> rfl
  · split <;> split <;> split <;> rfl
  · split <;> split <;> split <;> first | exact hnumbering | rfl

/-- A column is one of a table. -/
theorem exists_of_mem_columnsIn {l : KeyedTables} (hp : p ∈ columnsIn l) :
    ∃ e ∈ l, p.column ∈ e.2.columns := by
  obtain ⟨e, he, hp⟩ := List.mem_flatMap.1 hp
  obtain ⟨c, hc, rfl⟩ := List.mem_map.1 hp
  exact ⟨e, he, hc⟩

/-- All columns of a mapped model are mapped. -/
theorem isMapped_columnsIn (h : m.Sound) (hplain : ∀ e ∈ m.tables, e.2.IsPlain)
    (synthetic : String) :
    ∀ p ∈ columnsIn (map synthetic m).tables, IsMapped m.source m.target p.column := by
  intro p hp
  obtain ⟨e, he, hc⟩ := exists_of_mem_columnsIn hp
  have hall := forall_right_of_forall₂
    (P := fun e' => ∀ c ∈ e'.2.columns, IsMapped m.source m.target c)
    (fun _ _ hab => isMapped_of_places hab.2 hab.1)
    ((List.forall₂_and_left _ _).2 ⟨hplain, map_places h synthetic⟩)
  exact hall e he p.column hc

/-- A synthetic key is of a type that fits in one way. -/
theorem ambiguity_uuid (source : SourceDialect) (d : TargetDialect) (id : ColumnId) (name : String) :
    (TypeMap.map source (syntheticColumn d id name).sourceType).ambiguity = none := by
  show (TypeMap.map source (SourceType.parse "uuid")).ambiguity = none
  cases source <;> decide +kernel

/-- The findings of a mapping of a kind, column by column. -/
theorem filter_columnFindings (h : m.Sound) (synthetic : String) {q r : Issue → Bool}
    (hq : ∀ i, (r i && isColumnFinding i) = q i) : (map synthetic m).issues.filter q
      = (columnsIn (map synthetic m).tables).flatMap fun p =>
        (columnIssues m.source m.target p.table p.tableName p.column).filter r := by
  have hfirst := filter_isColumnFinding_map h synthetic
  rw [← List.filter_flatMap, ← columnFindings, ← hfirst, List.filter_filter]
  exact List.filter_congr fun i _ => (hq i).symm

/-- Each column that is not exact is told of once. -/
theorem losses_map (h : m.Sound) (hplain : ∀ e ∈ m.tables, e.2.IsPlain) (synthetic : String) :
    List.Forall₂ (TellsOfLoss (map synthetic m))
      ((columnsIn (map synthetic m).tables).filter fun p => p.column.confidence ≠ some .exact)
      (findingsOf (map synthetic m) .lossyType) := by
  have hsource : (map synthetic m).source = m.source := by rw [map_eq h]
  have htarget : (map synthetic m).target = m.target := by rw [map_eq h]
  have hfound := filter_columnFindings h synthetic
    (q := fun i => i.stage = .mapper && i.category = .lossyType) (r := fun i => i.category = .lossyType)
    (fun i => by by_cases hc : i.category = .lossyType <;> simp [hc, isColumnFinding])
  rw [findingsOf, hfound]
  refine forall₂_filter_flatMap ?_ ?_
  · intro p hp hexact
    -- a synthetic column is exact, and nothing is told of it
    rcases isMapped_columnsIn h hplain synthetic p hp with ⟨i, name, hc⟩ | ⟨hc, -, hconfidence⟩
    · rw [hc]
      rfl
    · rw [hconfidence] at hexact
      rw [(filter_columnIssues _ _ _ _ hc).1]
      exact if_pos (by simpa using hexact)
  · intro p hp hlossy
    rcases isMapped_columnsIn h hplain synthetic p hp with ⟨i, name, hc⟩ | ⟨hc, htype, hconfidence⟩
    · rw [hc] at hlossy
      simp [syntheticColumn] at hlossy
    · rw [hconfidence] at hlossy
      have hinexact : (TypeMap.map m.source p.column.sourceType).confidence ≠ .exact := by
        simpa using hlossy
      obtain ⟨note, hnote⟩ := Option.ne_none_iff_exists'.1
        (mt (TypeMap.confidence_map m.source p.column.sourceType).2 hinexact)
      rw [(filter_columnIssues _ _ _ _ hc).1]
      refine ⟨_, if_neg hinexact, _, _, note, htype, hconfidence, by rw [hsource]; exact hnote, ?_⟩
      rw [hnote, htarget]
      rfl

/-- Each column that could be read in several ways is told of once. -/
theorem choices_map (h : m.Sound) (hplain : ∀ e ∈ m.tables, e.2.IsPlain) (synthetic : String) :
    List.Forall₂ (TellsOfChoice (map synthetic m))
      ((columnsIn (map synthetic m).tables).filter fun p =>
        (TypeMap.map (map synthetic m).source p.column.sourceType).ambiguity.isSome)
      (findingsOf (map synthetic m) .ambiguousMapping) := by
  have hsource : (map synthetic m).source = m.source := by rw [map_eq h]
  have hfound := filter_columnFindings h synthetic
    (q := fun i => i.stage = .mapper && i.category = .ambiguousMapping)
    (r := fun i => i.category = .ambiguousMapping)
    (fun i => by by_cases hc : i.category = .ambiguousMapping <;> simp [hc, isColumnFinding])
  rw [findingsOf, hfound]
  refine forall₂_filter_flatMap ?_ ?_
  · intro p hp hclear
    rw [hsource] at hclear
    rcases isMapped_columnsIn h hplain synthetic p hp with ⟨i, name, hc⟩ | ⟨hc, -, -⟩
    · rw [hc]
      rfl
    · -- where the mapper had no choice it says nothing
      have hnone := Option.not_isSome_iff_eq_none.1 (Bool.eq_false_iff.1 hclear)
      rw [(filter_columnIssues _ _ _ _ hc).2.1, ambiguityIssue, hnone]
  · intro p hp hseveral
    rw [hsource] at hseveral
    obtain ⟨why, hwhy⟩ := Option.isSome_iff_exists.1 hseveral
    rcases isMapped_columnsIn h hplain synthetic p hp with ⟨i, name, hc⟩ | ⟨hc, -, -⟩
    · rw [hc, ambiguity_uuid] at hwhy
      cases hwhy
    · rw [(filter_columnIssues _ _ _ _ hc).2.1]
      exact ⟨_, by rw [ambiguityIssue, hwhy], why, by rw [hsource]; exact hwhy, rfl⟩

/-- Each identity column is told of once. -/
theorem numberings_map (h : m.Sound) (hplain : ∀ e ∈ m.tables, e.2.IsPlain) (synthetic : String) :
    List.Forall₂ (fun p i => i = numberingIssue p)
      ((columnsIn (map synthetic m).tables).filter fun p => p.column.identity)
      ((findingsOf (map synthetic m) .unsupportedConstraint).filter tellsOfNumbering) := by
  have hfound := filter_columnFindings h synthetic
    (q := fun i => tellsOfNumbering i && (i.stage = .mapper && i.category = .unsupportedConstraint))
    (r := tellsOfNumbering) (fun i => by
      cases ht : tellsOfNumbering i with
      | false => rfl
      | true => simp [isColumnFinding, ht, category_of_tellsOfNumbering ht])
  rw [findingsOf, List.filter_filter, hfound]
  refine forall₂_filter_flatMap ?_ ?_
  · intro p hp hgiven
    rcases isMapped_columnsIn h hplain synthetic p hp with ⟨i, name, hc⟩ | ⟨hc, -, -⟩
    · rw [hc]
      rfl
    · rw [(filter_columnIssues _ _ _ _ hc).2.2, hgiven]
      rfl
  · intro p hp hnumbered
    rcases isMapped_columnsIn h hplain synthetic p hp with ⟨i, name, hc⟩ | ⟨hc, -, -⟩
    · rw [hc] at hnumbered
      cases hnumbered
    · rw [(filter_columnIssues _ _ _ _ hc).2.2, hnumbered]
      exact ⟨_, rfl, rfl⟩

/-- What a mapping makes of columns. -/
theorem columnsMapped_map (h : m.Sound) (hplain : ∀ e ∈ m.tables, e.2.IsPlain)
    (synthetic : String) : ColumnsMapped (map synthetic m) where
  typed := by
    intro p hp
    have hsource : (map synthetic m).source = m.source := by rw [map_eq h]
    rcases isMapped_columnsIn h hplain synthetic p hp with ⟨i, name, hc⟩ | ⟨-, htype, hconfidence⟩
    · rw [hc]
      exact ⟨rfl, rfl, fun hdeclared => by cases hdeclared⟩
    · rw [hsource, htype, hconfidence]
      exact ⟨rfl, rfl, fun _ => ⟨rfl, rfl⟩⟩
  losses := losses_map h hplain synthetic
  choices := choices_map h hplain synthetic
  numberings := numberings_map h hplain synthetic

end Kinds

end Mapper

/-! ## Models of a builder -/

/-- **What a mapping does with columns.**  Every column of a model that a builder has made gets a
type; each one whose type is not exact, or is one of several that fit, or whose values the source
numbers, is spoken of once, and nothing else in these terms.  Besides that a mapping changes nothing
of a table but its keys and indexes, and no findings of other stages. -/
theorem Builder.IsBuilt.map_columns {b : Builder} (h : b.IsBuilt) (synthetic : String) :
    Mapper.ColumnsMapped (Mapper.map synthetic b.finish)
      ∧ Mapper.Leaves b.finish (Mapper.map synthetic b.finish) := by
  obtain ⟨hsound, hdescribed⟩ := h.sound.finish
  exact ⟨Mapper.columnsMapped_map hsound hdescribed.plain synthetic,
    Mapper.leaves_map hsound hdescribed.plain synthetic⟩

/-- A table with a column the source numbers, one that several types fit and one of an enumeration. -/
def taggedBuilder : Builder :=
  ((Builder.start .mysql .google .rename (Audit.start "request" ⟨0, 0⟩)).addTable
    { TableDraft.empty none "t" with
      columns := [{ ColumnDraft.plain "n" ⟨"int", [11], [], 0, "int(11)"⟩ with identity := true },
        .plain "flag" ⟨"tinyint", [1], [], 0, "tinyint(1)"⟩,
        .plain "kind" ⟨"enum", [], ["a", "b"], 0, "enum('a','b')"⟩] }).2

/-- The builder with the table is reached. -/
theorem isBuilt_taggedBuilder : taggedBuilder.IsBuilt := .addTable (.start _ _ _ _) _

theorem map_columns_taggedBuilder : taggedBuilder.IsBuilt
    ∧ (Mapper.findingsOf (Mapper.map "id" taggedBuilder.finish) .lossyType).length = 1
    ∧ (Mapper.findingsOf (Mapper.map "id" taggedBuilder.finish) .ambiguousMapping).length = 1
    ∧ ((Mapper.findingsOf (Mapper.map "id" taggedBuilder.finish) .unsupportedConstraint).filter
      Mapper.tellsOfNumbering).length = 1
    ∧ Mapper.Leaves taggedBuilder.finish (Mapper.map "id" taggedBuilder.finish) := by
  obtain ⟨hcolumns, hleaves⟩ := isBuilt_taggedBuilder.map_columns "id"
  refine ⟨isBuilt_taggedBuilder, ?_, ?_, ?_, hleaves⟩
  · rw [← hcolumns.losses.length_eq]
    decide +kernel
  · rw [← hcolumns.choices.length_eq]
    decide +kernel
  · rw [← hcolumns.numberings.length_eq]
    decide +kernel

end SchemaBridge
