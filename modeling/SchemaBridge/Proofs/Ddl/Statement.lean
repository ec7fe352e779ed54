/-
# What statements say

A statement is written if every name in it is accepted, and then it is the text given here; otherwise
one of its names is refused.

## Key statements

* `Writes`: a value that is there if all of some names are accepted.
* `createTable_writes`, `createIndex_writes`, `addForeignKey_writes`: the statements and their names.
* `tableNames_known`, `indexNames_known`, `foreignKeyNames_known`: whose names these are.
* `Table.exists_column`: a column that is referred to goes by the name of one that the table has.
-/
import SchemaBridge.Ddl.Statement
import SchemaBridge.Proofs.Schema.Soundness
import SchemaBridge.Proofs.Schema.Validity

namespace SchemaBridge

/-- A member of lists that are put together is one of these or of what stands between them. -/
theorem Text.mem_or_mem_of_mem_intercalate {α : Type} {sep : List α} {ls : List (List α)} {a : α}
    (h : a ∈ sep.intercalate ls) : a ∈ sep ∨ ∃ l ∈ ls, a ∈ l := by
  induction ls with
  | nil => cases h
  | cons l ls ih =>
    cases ls with
    | nil =>
      rw [List.intercalate_singleton] at h
      exact .inr ⟨l, List.mem_cons_self, h⟩
    | cons l' ls =>
      rw [List.intercalate_cons_cons, List.mem_append, List.mem_append] at h
      obtain (h | h) | h := h
      · exact .inr ⟨l, List.mem_cons_self, h⟩
      · exact .inl h
      · obtain hsep | ⟨l'', hl'', ha⟩ := ih h
        · exact .inl hsep
        · exact .inr ⟨l'', List.mem_cons_of_mem l hl'', ha⟩

/-! ## Names -/

/-- A name may stand in a statement. -/
def Identifier.Accepts (name : String) : Prop := Identifier.validate name = .ok ()

instance (name : String) : Decidable (Identifier.Accepts name) :=
  inferInstanceAs (Decidable (Identifier.validate name = .ok ()))

/-- A name that is accepted is written. -/
theorem Identifier.quote_eq {d : TargetDialect} {name : String} (h : Identifier.Accepts name) :
    quote d name = .ok (write d name) := by
  unfold quote
  rw [show validate name = .ok () from h]
  rfl

/-- The names of a table and of what belongs to it may stand in statements. -/
structure Table.HasAcceptedNames (t : Table) : Prop where
  name : Identifier.Accepts t.name
  columns : ∀ c ∈ t.columns, Identifier.Accepts c.name
  indexes : ∀ i ∈ t.indexes, Identifier.Accepts i.name
  foreignKeys : ∀ f ∈ t.foreignKeys, Identifier.Accepts f.name
  checks : ∀ c ∈ t.checks, Identifier.Accepts c.name

/-- The names of a table are those of itself and of its parts. -/
theorem Table.hasAcceptedNames_iff (t : Table) : t.HasAcceptedNames ↔ Identifier.Accepts t.name
    ∧ (∀ c ∈ t.columns, Identifier.Accepts c.name) ∧ (∀ i ∈ t.indexes, Identifier.Accepts i.name)
    ∧ (∀ f ∈ t.foreignKeys, Identifier.Accepts f.name) ∧ ∀ c ∈ t.checks, Identifier.Accepts c.name :=
  ⟨fun h => ⟨h.name, h.columns, h.indexes, h.foreignKeys, h.checks⟩,
    fun ⟨hname, hcolumns, hindexes, hkeys, hchecks⟩ => ⟨hname, hcolumns, hindexes, hkeys, hchecks⟩⟩

instance (t : Table) : Decidable t.HasAcceptedNames :=
  decidable_of_iff _ t.hasAcceptedNames_iff.symm

/-- A column that is there goes by its name. -/
theorem Table.exists_column {t : Table} {id : ColumnId} (h : t.hasColumn id = true) :
    ∃ c ∈ t.columns, c.id = id ∧ t.columnName id = c.name := by
  obtain ⟨c, hc⟩ := Option.isSome_iff_exists.1 h
  have hfound : t.columns.find? (·.id = id) = some c := hc
  refine ⟨c, List.mem_of_find?_eq_some hfound, by simpa using List.find?_some hfound, ?_⟩
  unfold columnName
  rw [hc]
  rfl

/-- The names of a table and of what belongs to it. -/
def Table.nameList (t : Table) : List String :=
  t.name :: (t.columns.map (·.name) ++ t.indexes.map (·.name) ++ t.foreignKeys.map (·.name)
    ++ t.checks.map (·.name))

theorem Table.hasAcceptedNames_iff_nameList (t : Table) :
    t.HasAcceptedNames ↔ ∀ n ∈ t.nameList, Identifier.Accepts n := by
  rw [t.hasAcceptedNames_iff]
  unfold nameList
  simp only [List.forall_mem_cons, List.forall_mem_append, List.forall_mem_map]
  tauto

/-- A name is one of a table or stands for a column that is not there. -/
def Table.Knows (t : Table) (n : String) : Prop := n ∈ t.nameList ∨ n = "?"

/-- A name that a table knows is accepted. -/
theorem Table.HasAcceptedNames.accepts {t : Table} (h : t.HasAcceptedNames) {n : String}
    (hn : t.Knows n) : Identifier.Accepts n := by
  rcases hn with hn | rfl
  · exact t.hasAcceptedNames_iff_nameList.1 h n hn
  · decide

/-- A table knows the names of its columns. -/
theorem Table.knows_columnName (t : Table) (id : ColumnId) : t.Knows (t.columnName id) := by
  cases hid : t.hasColumn id with
  | true =>
    obtain ⟨c, hc, -, hname⟩ := t.exists_column hid
    rw [hname]
    unfold Knows nameList
    simp only [List.mem_cons, List.mem_append]
    exact Or.inl (Or.inr (Or.inl (Or.inl (Or.inl (List.mem_map_of_mem hc)))))
  | false =>
    have hnone : t.column? id = none := Option.isNone_iff_eq_none.1 (Option.isSome_eq_false_iff.1 hid)
    refine Or.inr ?_
    unfold Table.columnName
    rw [hnone]
    rfl

namespace Ddl

variable {s : Style} {t parent : Table}

/-! ## Texts -/

/-- A name as a statement of a style writes it. -/
def Style.write (s : Style) (name : String) : String := Identifier.write s.target name

/-- The columns of a key by their names. -/
def keyText (s : Style) (t : Table) (directions : Bool) (keys : List KeyPart) : String :=
  ", ".intercalate (keys.map fun k =>
    if directions && k.desc then s.write (t.columnName k.column) ++ " DESC"
    else s.write (t.columnName k.column))

/-- The clause for a column whose name is accepted. -/
def columnText (s : Style) (t : Table) (c : Column) : String :=
  s.write c.name ++ " " ++ (c.targetType.getD (.string none)).render s.target
    ++ (if c.nullable then "" else " NOT NULL") ++ (columnClause s t c).1

/-- The clause for a check whose name is accepted. -/
def checkText? (s : Style) (t : Table) (c : CheckConstraint) : Option String :=
  (expressionText s t c.expr).map fun text =>
    "CONSTRAINT " ++ s.write c.name ++ " CHECK (" ++ text ++ ")"

/-- A table with all its columns, its checks and its primary key. -/
def tableText (s : Style) (t : Table) : String :=
  let items := t.columns.map (columnText s t) ++ t.checks.filterMap (checkText? s t)
  let head := String.join (tableNotes s t) ++ "CREATE TABLE " ++ s.write t.name ++ " (\n    "
  match s.target with
  | .google =>
    head ++ ",\n    ".intercalate items ++ "\n) PRIMARY KEY (" ++ keyText s t true t.primaryKey ++ ")"
  | .postgres =>
    head ++ ",\n    ".intercalate (items ++ if t.hasPrimaryKey then
      ["PRIMARY KEY (" ++ keyText s t false t.primaryKey ++ ")"] else []) ++ "\n)"

/-- The statement for an index whose names are accepted. -/
def indexText (s : Style) (t : Table) (i : Index) : String :=
  "CREATE " ++ (if i.unique then "UNIQUE " else "") ++ "INDEX " ++ s.write i.name ++ " ON "
    ++ s.write t.name ++ " (" ++ keyText s t true i.keys ++ ")"

/-- A foreign key with the columns on both sides. -/
def foreignKeyText (s : Style) (t parent : Table) (f : ForeignKey) : String :=
  "ALTER TABLE " ++ s.write t.name ++ " ADD CONSTRAINT " ++ s.write f.name ++ " FOREIGN KEY ("
    ++ ", ".intercalate (f.columns.map fun c => s.write (t.columnName c)) ++ ") REFERENCES "
    ++ s.write parent.name ++ " ("
    ++ ", ".intercalate (f.referencedColumns.map fun c => s.write (parent.columnName c)) ++ ")"
    ++ actionClause " ON DELETE " f.onDelete.effective
    ++ match s.target with
      | .google => ""
      | .postgres => actionClause " ON UPDATE " f.onUpdate.effective

/-! ## What is written if names are accepted -/

/-- What is written with some names: the value if all of them are accepted, and else the refusal of one
of them. -/
inductive Writes {α : Type} (names : List String) (x : Outcome α) (a : α) : Prop
  | written (hnames : ∀ n ∈ names, Identifier.Accepts n) (hx : x = .ok a)
  | refused {n : String} (hn : n ∈ names) {e : ConvertError} (he : Identifier.validate n = .error e)
      (hx : x = .error e)

namespace Writes

variable {α β : Type} {names names' : List String} {x : Outcome α} {a : α}

/-- If all names are accepted, the text is written. -/
theorem eq_ok (h : Writes names x a) (hnames : ∀ n ∈ names, Identifier.Accepts n) : x = .ok a := by
  cases h with
  | written _ hx => exact hx
  | refused hn he =>
    cases he.symm.trans (hnames _ hn)

/-- If the text is written, all names are accepted. -/
theorem eq_ok_iff (h : Writes names x a) {b : α} :
    x = .ok b ↔ (∀ n ∈ names, Identifier.Accepts n) ∧ b = a := by
  constructor
  · intro hx
    cases h with
    | written hnames hx' => exact ⟨hnames, Except.ok.inj (hx.symm.trans hx')⟩
    | refused hn he hx' => cases hx.symm.trans hx'
  · rintro ⟨hnames, rfl⟩
    exact h.eq_ok hnames

/-- If not, one of the names is refused, and nothing else. -/
theorem exists_of_error (h : Writes names x a) {e : ConvertError} (hx : x = .error e) :
    ∃ n ∈ names, Identifier.validate n = .error e := by
  cases h with
  | written _ hx' => cases hx.symm.trans hx'
  | refused hn he hx' =>
    cases hx.symm.trans hx'
    exact ⟨_, hn, he⟩

theorem ok (a : α) : Writes [] (.ok a) a := .written (List.forall_mem_nil _) rfl

/-- The order of the names, and how often one is there, does not matter. -/
theorem of_mem (h : Writes names x a) (hmem : ∀ n, n ∈ names' ↔ n ∈ names) : Writes names' x a := by
  cases h with
  | written hnames hx => exact .written (fun n hn => hnames n ((hmem n).1 hn)) hx
  | refused hn he hx => exact .refused ((hmem _).2 hn) he hx

/-- One after the other. -/
theorem bind {f : α → Outcome β} {b : β} (h : Writes names x a) (hf : Writes names' (f a) b) :
    Writes (names ++ names') (x >>= f) b := by
  cases h with
  | refused hn he hx => exact .refused (List.mem_append_left _ hn) he (by rw [hx]; rfl)
  | written hnames hx =>
    rw [hx, ok_bind]
    cases hf with
    | refused hn he hx => exact .refused (List.mem_append_right _ hn) he hx
    | written hnames' hx => exact .written (List.forall_mem_append.2 ⟨hnames, hnames'⟩) hx

/-- What is made of a text that is written. -/
theorem map (h : Writes names x a) (g : α → β) : Writes names (x >>= fun a => .ok (g a)) (g a) := by
  have hg := h.bind (f := fun a => .ok (g a)) (ok (g a))
  rwa [List.append_nil] at hg

/-- Texts one after another. -/
theorem mapM {f : α → Outcome β} {g : α → β} {names : α → List String} {l : List α}
    (h : ∀ a ∈ l, Writes (names a) (f a) (g a)) : Writes (l.flatMap names) (l.mapM f) (l.map g) := by
  induction l with
  | nil => exact ok []
  | cons a l ih =>
    obtain ⟨ha, hl⟩ := List.forall_mem_cons.1 h
    rw [List.mapM_cons]
    exact ha.bind ((ih hl).map (g a :: ·))

end Writes

/-- A quoted name writes its name. -/
theorem quote_writes (d : TargetDialect) (n : String) :
    Writes [n] (Identifier.quote d n) (Identifier.write d n) := by
  cases h : Identifier.validate n with
  | ok u => exact .written (List.forall_mem_singleton.2 h) (Identifier.quote_eq h)
  | error e =>
    refine .refused (List.mem_singleton_self n) h ?_
    unfold Identifier.quote
    rw [h]
    rfl

/-! ## Statements -/

/-- The names in a key. -/
def keyNames (t : Table) (keys : List KeyPart) : List String :=
  keys.map fun k => t.columnName k.column

/-- The checks of a table that were not rejected. -/
def writtenChecks (t : Table) : List CheckConstraint :=
  t.checks.filter fun c => c.expr.status ≠ .rejected

/-- The names in the statement of a table. -/
def tableNames (t : Table) : List String :=
  t.name :: (t.columns.map (·.name) ++ (writtenChecks t).map (·.name) ++ keyNames t t.primaryKey)

/-- The names in the statement of an index. -/
def indexNames (t : Table) (i : Index) : List String := i.name :: t.name :: keyNames t i.keys

/-- The names in a foreign key, on both sides. -/
def foreignKeyNames (t parent : Table) (f : ForeignKey) : List String :=
  t.name :: f.name :: parent.name
    :: (f.columns.map t.columnName ++ f.referencedColumns.map parent.columnName)

/-- A table knows the names in its keys. -/
theorem keyNames_known (t : Table) (keys : List KeyPart) : ∀ n ∈ keyNames t keys, t.Knows n :=
  List.forall_mem_map.2 fun k _ => t.knows_columnName k.column

/-- A table knows the names in its statement. -/
theorem tableNames_known (t : Table) : ∀ n ∈ tableNames t, t.Knows n := by
  have hown : ∀ n ∈ t.name :: (t.columns.map (·.name) ++ (writtenChecks t).map (·.name)),
      n ∈ t.nameList := by
    intro n hn
    unfold Table.nameList
    simp only [List.mem_cons, List.mem_append] at hn ⊢
    obtain rfl | hn | hn := hn
    · exact Or.inl rfl
    · exact Or.inr (Or.inl (Or.inl (Or.inl hn)))
    · exact Or.inr (Or.inr ((List.filter_sublist.map _).subset hn))
  have hall : ∀ n ∈ (t.name :: (t.columns.map (·.name) ++ (writtenChecks t).map (·.name)))
      ++ keyNames t t.primaryKey, t.Knows n :=
    List.forall_mem_append.2 ⟨fun n hn => Or.inl (hown n hn), keyNames_known t _⟩
  exact hall

/-- A table knows the names in the statements of its indexes. -/
theorem indexNames_known {i : Index} (hi : i ∈ t.indexes) : ∀ n ∈ indexNames t i, t.Knows n := by
  refine List.forall_mem_cons.2 ⟨Or.inl ?_, List.forall_mem_cons.2
    ⟨Or.inl List.mem_cons_self, keyNames_known t _⟩⟩
  unfold Table.nameList
  simp only [List.mem_cons, List.mem_append]
  exact Or.inr (Or.inl (Or.inl (Or.inr (List.mem_map_of_mem hi))))

/-- Two tables know the names in the statement of a foreign key between them. -/
theorem foreignKeyNames_known (parent : Table) {f : ForeignKey} (hf : f ∈ t.foreignKeys) :
    ∀ n ∈ foreignKeyNames t parent f, t.Knows n ∨ parent.Knows n := by
  have hname : f.name ∈ t.nameList := by
    unfold Table.nameList
    simp only [List.mem_cons, List.mem_append]
    exact Or.inr (Or.inl (Or.inr (List.mem_map_of_mem hf)))
  refine List.forall_mem_cons.2 ⟨Or.inl (Or.inl List.mem_cons_self), List.forall_mem_cons.2
    ⟨Or.inl (Or.inl hname), List.forall_mem_cons.2 ⟨Or.inr (Or.inl List.mem_cons_self),
      List.forall_mem_append.2 ⟨?_, ?_⟩⟩⟩⟩
  · exact List.forall_mem_map.2 fun c _ => Or.inl (t.knows_columnName c)
  · exact List.forall_mem_map.2 fun c _ => Or.inr (parent.knows_columnName c)

/-- The columns of a key. -/
theorem keyList_writes (s : Style) (t : Table) (directions : Bool) (keys : List KeyPart) :
    Writes (keyNames t keys) (keyList s.target t directions keys) (keyText s t directions keys) := by
  have hparts : Writes (keys.flatMap fun k => [t.columnName k.column]) _ _ :=
    Writes.mapM (l := keys) fun k _ => (quote_writes s.target (t.columnName k.column)).map fun name =>
      if directions && k.desc then name ++ " DESC" else name
  rw [← List.map_eq_flatMap] at hparts
  exact hparts.map _

/-- Quoted names with commas between them. -/
theorem quoteList_writes (s : Style) (names : List String) :
    Writes names (Identifier.quoteList s.target names) (", ".intercalate (names.map s.write)) := by
  have hnames : Writes (names.flatMap fun n => [n]) _ _ :=
    Writes.mapM (l := names) fun n _ => quote_writes s.target n
  rw [List.flatMap_singleton'] at hnames
  exact hnames.map _

/-- The statement of an index. -/
theorem createIndex_writes (s : Style) (t : Table) (i : Index) :
    Writes (indexNames t i) (createIndex s t i) (indexText s t i) := by
  refine Writes.of_mem ((quote_writes s.target i.name).bind ((quote_writes s.target t.name).bind
    ((keyList_writes s t true i.keys).map _))) fun n => ?_
  unfold indexNames
  simp only [List.mem_cons, List.mem_append, List.not_mem_nil, or_false]

/-- The statement of a foreign key. -/
theorem addForeignKey_writes (s : Style) (t parent : Table) (f : ForeignKey) :
    Writes (foreignKeyNames t parent f) (addForeignKey s t parent f)
      (foreignKeyText s t parent f) := by
  have hcolumns := quoteList_writes s (f.columns.map t.columnName)
  have hreferenced := quoteList_writes s (f.referencedColumns.map parent.columnName)
  rw [List.map_map] at hcolumns hreferenced
  refine Writes.of_mem (hcolumns.bind (hreferenced.bind ((quote_writes s.target t.name).bind
    ((quote_writes s.target f.name).bind ((quote_writes s.target parent.name).map _))))) fun n => ?_
  unfold foreignKeyNames
  simp only [List.mem_cons, List.mem_append, List.not_mem_nil, or_false]
  tauto

/-- An expression has no text if it was rejected. -/
theorem expressionText_eq_none_iff (s : Style) (t : Table) (e : Expression) :
    expressionText s t e = none ↔ e.status = .rejected := by
  unfold expressionText
  cases e.status <;> simp

/-- The clause of a check. -/
theorem checkItem?_writes (s : Style) (t : Table) (c : CheckConstraint) :
    Writes (if c.expr.status ≠ .rejected then [c.name] else []) (checkItem? s t c)
      (checkText? s t c) := by
  have hnone := expressionText_eq_none_iff s t c.expr
  -- the name of a check that is left out is not looked at
  unfold checkItem? checkText?
  cases ht : expressionText s t c.expr with
  | none =>
    rw [if_neg (not_not.2 (hnone.1 ht))]
    exact .ok none
  | some text =>
    rw [if_pos fun h => by simp [hnone.2 h] at ht]
    exact (quote_writes s.target c.name).map _

/-- The statement of a table. -/
theorem createTable_writes (s : Style) (t : Table) :
    Writes (tableNames t) (createTable s t) (tableText s t) := by
  have hcolumns : Writes (t.columns.flatMap fun c => [c.name]) (t.columns.mapM (columnItem s t))
      (t.columns.map (columnText s t)) :=
    Writes.mapM fun c _ => (quote_writes s.target c.name).map _
  have hchecks := Writes.mapM (l := t.checks) fun c _ => checkItem?_writes s t c
  have hitems : (t.checks.map (checkText? s t)).filterMap id = t.checks.filterMap (checkText? s t) := by
    rw [List.filterMap_map]
    rfl
  have hname := quote_writes s.target t.name
  have hmem : ∀ n, n ∈ tableNames t ↔ n ∈ (t.columns.flatMap fun c => [c.name])
      ++ ((t.checks.flatMap fun c => if c.expr.status ≠ .rejected then [c.name] else [])
        ++ ([t.name] ++ keyNames t t.primaryKey)) := by
    intro n
    unfold tableNames writtenChecks
    simp only [List.mem_cons, List.mem_append, List.mem_map, List.mem_filter, List.mem_flatMap,
      decide_eq_true_eq]
    grind
  -- the name of the table is looked at after those of its columns and checks
  refine Writes.of_mem ?_ hmem
  unfold createTable tableText
  rw [← hitems]
  rcases s with ⟨source, _ | _⟩
  case google =>
    exact hcolumns.bind (hchecks.bind (hname.bind ((keyList_writes _ t true t.primaryKey).map _)))
  case postgres =>
    refine hcolumns.bind (hchecks.bind (hname.bind ?_))
    cases hkey : t.hasPrimaryKey with
    | true => exact (keyList_writes ⟨source, .postgres⟩ t false t.primaryKey).map _
    | false =>
      have hempty : t.primaryKey = [] := by simpa [Table.hasPrimaryKey] using hkey
      rw [hempty]
      exact (Writes.ok []).map _

end Ddl

end SchemaBridge
