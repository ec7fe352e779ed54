/-
# Drafts hold what definitions say

The columns of a definition become columns of a draft, one by one.  Every constraint, of the table or
of one of its columns, becomes a part of the draft or is listed as one that cannot be converted.  Of
several primary keys of the table the last one counts, and any of them counts more than those of the
columns.

## Key statements

* `applyConstraint_spec`: one constraint.
* `columnDraft_spec`: one column.
* `drafts_tableDraft`: a whole definition.
-/
import Mathlib.Data.List.Basic
import SchemaBridge.Dump.TableDrafting

namespace SchemaBridge.Dump

open Sql (Ident ColumnDefinition ColumnOption TableConstraint)

/-- A draft of the same table with more indexes, foreign keys and checks. -/
structure MoreParts (t t' : TableDraft) : Prop where
  nspace : t'.nspace = t.nspace
  name : t'.name = t.name
  indexes : t.indexes ⊆ t'.indexes
  foreignKeys : t.foreignKeys ⊆ t'.foreignKeys
  checks : t.checks ⊆ t'.checks

variable {t t' t'' : TableDraft} {lost lost' : List String} {c : TableConstraint}

namespace MoreParts

/-- Columns and primary keys are no such parts. -/
theorem ofSame (t : TableDraft) (columns : List ColumnDraft) (primaryKey : List KeyDraft) :
    MoreParts t { t with columns, primaryKey } :=
  ⟨rfl, rfl, List.Subset.refl _, List.Subset.refl _, List.Subset.refl _⟩

theorem refl (t : TableDraft) : MoreParts t t := ofSame t t.columns t.primaryKey

theorem trans (h : MoreParts t t') (h' : MoreParts t' t'') : MoreParts t t'' :=
  ⟨h'.nspace.trans h.nspace, h'.name.trans h.name, List.Subset.trans h.indexes h'.indexes,
    List.Subset.trans h.foreignKeys h'.foreignKeys, List.Subset.trans h.checks h'.checks⟩

/-- An index more. -/
theorem addIndex (t : TableDraft) (d : IndexDraft) :
    MoreParts t { t with indexes := t.indexes ++ [d] } :=
  ⟨rfl, rfl, List.subset_append_left _ _, List.Subset.refl _, List.Subset.refl _⟩

/-- A foreign key more. -/
theorem addForeignKey (t : TableDraft) (d : ForeignKeyDraft) :
    MoreParts t { t with foreignKeys := t.foreignKeys ++ [d] } :=
  ⟨rfl, rfl, List.Subset.refl _, List.subset_append_left _ _, List.Subset.refl _⟩

/-- A check more. -/
theorem addCheck (t : TableDraft) (d : CheckDraft) :
    MoreParts t { t with checks := t.checks ++ [d] } :=
  ⟨rfl, rfl, List.Subset.refl _, List.Subset.refl _, List.subset_append_left _ _⟩

end MoreParts

/-! ## Constraints -/

/-- What a constraint of a table becomes in a draft.  Primary keys are another matter, since a later one
takes the place of an earlier one. -/
def Drafted (t : TableDraft) (lost : List String) : TableConstraint → Prop
  | .primaryKey _ => True
  | .unique name columns => ⟨name.map (·.value), ascending columns, true⟩ ∈ t.indexes
  | .index name columns => ⟨name.map (·.value), ascending columns, false⟩ ∈ t.indexes
  | .foreignKey name columns r => foreignKeyDraft name (values columns) r ∈ t.foreignKeys
  | .check name text => ⟨name.map (·.value), text⟩ ∈ t.checks
  | .other text => "Constraint '" ++ text ++ "'" ∈ lost

/-- The columns of a constraint that is a primary key. -/
def keyColumns? : TableConstraint → Option (List Ident)
  | .primaryKey columns => some columns
  | _ => none

/-- The primary key of a draft, when constraints follow what it was before. -/
def keyAfter (before : List KeyDraft) (constraints : List TableConstraint) : List KeyDraft :=
  ((constraints.filterMap keyColumns?).getLast?.map ascending).getD before

/-- What has become of a constraint stays where parts are added. -/
theorem Drafted.mono (h : Drafted t lost c) (ht : MoreParts t t') (hl : lost ⊆ lost') :
    Drafted t' lost' c := by
  cases c with
  | primaryKey columns => trivial
  | unique name columns => exact ht.indexes h
  | index name columns => exact ht.indexes h
  | foreignKey name columns r => exact ht.foreignKeys h
  | check name e => exact ht.checks h
  | other text => exact hl h

/-- What one constraint makes of a draft. -/
theorem applyConstraint_spec (t : TableDraft) (c : TableConstraint) :
    match applyConstraint t c with
    | .error what => keyColumns? c = none ∧ Drafted t [what] c
    | .ok t' => MoreParts t t' ∧ Drafted t' [] c ∧ t'.columns = t.columns
        ∧ t'.primaryKey = keyAfter t.primaryKey [c] := by
  cases c with
  | primaryKey columns => exact ⟨.ofSame t _ _, trivial, rfl, rfl⟩
  | unique name columns | index name columns =>
    exact ⟨.addIndex t _, List.mem_append_right _ (List.mem_singleton_self _), rfl, rfl⟩
  | foreignKey name columns r =>
    exact ⟨.addForeignKey t _, List.mem_append_right _ (List.mem_singleton_self _), rfl, rfl⟩
  | check name e =>
    exact ⟨.addCheck t _, List.mem_append_right _ (List.mem_singleton_self _), rfl, rfl⟩
  | other text => exact ⟨rfl, List.mem_singleton_self _⟩

/-- The key after one constraint and then others. -/
theorem keyAfter_cons (before : List KeyDraft) (c : TableConstraint) (cs : List TableConstraint) :
    keyAfter before (c :: cs) = keyAfter (keyAfter before [c]) cs := by
  unfold keyAfter
  cases hc : keyColumns? c with
  | none => simp [hc]
  | some columns =>
    simp only [hc, List.filterMap_cons, List.filterMap_nil, List.getLast?_cons]
    cases (cs.filterMap keyColumns?).getLast? <;> rfl

/-- What constraints make of a draft. -/
theorem applyConstraints_spec (t : TableDraft) (cs : List TableConstraint) :
    let t' := (applyConstraints t cs).1
    MoreParts t t' ∧ (∀ c ∈ cs, Drafted t' (applyConstraints t cs).2 c) ∧ t'.columns = t.columns
      ∧ t'.primaryKey = keyAfter t.primaryKey cs := by
  induction cs generalizing t with
  | nil => exact ⟨.refl t, List.forall_mem_nil _, rfl, rfl⟩
  | cons c cs ih =>
    have hspec := applyConstraint_spec t c
    unfold applyConstraints
    cases happ : applyConstraint t c with
    | error what =>
      rw [happ] at hspec
      obtain ⟨hnone, hdrafted⟩ := hspec
      obtain ⟨hmore, hall, hcolumns, hkey⟩ := ih t
      -- a constraint that is lost is no primary key
      have hsame : keyAfter t.primaryKey [c] = t.primaryKey := by
        unfold keyAfter
        rw [List.filterMap_cons, hnone]
        rfl
      refine ⟨hmore, List.forall_mem_cons.2 ⟨?_, fun d hd => ?_⟩, hcolumns, ?_⟩
      · refine hdrafted.mono hmore fun _ hw => ?_
        rw [List.mem_singleton.1 hw]
        exact List.mem_cons_self
      · exact (hall d hd).mono (.refl _) (List.subset_cons_self _ _)
      · rw [keyAfter_cons, hsame]
        exact hkey
    | ok t₁ =>
      rw [happ] at hspec
      obtain ⟨hmore₁, hdrafted, hcolumns₁, hkey₁⟩ := hspec
      obtain ⟨hmore, hall, hcolumns, hkey⟩ := ih t₁
      refine ⟨hmore₁.trans hmore, List.forall_mem_cons.2 ⟨?_, hall⟩, hcolumns.trans hcolumns₁, ?_⟩
      · exact hdrafted.mono hmore (List.nil_subset _)
      · rw [keyAfter_cons, ← hkey₁]
        exact hkey

/-! ## Columns -/

/-- What an option of a column becomes among the parts of its table. -/
def DraftedInline (column : String) (t : TableDraft) : ColumnOption → Prop
  | .unique => ⟨none, [(column, false)], true⟩ ∈ t.indexes
  | .check text => ⟨none, text⟩ ∈ t.checks
  | .references r => foreignKeyDraft none [column] r ∈ t.foreignKeys
  | _ => True

/-- The primary key that an option makes of its column. -/
def inlineKey? (column : String) : ColumnOption → Option KeyDraft
  | .primaryKey => some (column, false)
  | _ => none

/-- The primary keys that stand with columns. -/
def inlineKeys (cs : List ColumnDefinition) : List KeyDraft :=
  cs.flatMap fun c => c.options.filterMap (inlineKey? c.name.value)

variable {column : String} {o : ColumnOption}

/-- What has become of an option stays where parts are added. -/
theorem DraftedInline.mono (h : DraftedInline column t o) (ht : MoreParts t t') :
    DraftedInline column t' o := by
  cases o with
  | unique => exact ht.indexes h
  | check e => exact ht.checks h
  | references r => exact ht.foreignKeys h
  | _ => trivial

/-- What one option makes of a draft. -/
theorem applyInline_spec (column : String) (t : TableDraft) (o : ColumnOption) :
    let t' := applyInline column t o
    MoreParts t t' ∧ DraftedInline column t' o ∧ t'.columns = t.columns
      ∧ t'.primaryKey = t.primaryKey ++ (inlineKey? column o).toList := by
  cases o with
  | primaryKey => exact ⟨.ofSame t _ _, trivial, rfl, rfl⟩
  | unique =>
    exact ⟨.addIndex t _, List.mem_append_right _ (List.mem_singleton_self _), rfl,
      (List.append_nil _).symm⟩
  | check e =>
    exact ⟨.addCheck t _, List.mem_append_right _ (List.mem_singleton_self _), rfl,
      (List.append_nil _).symm⟩
  | references r =>
    exact ⟨.addForeignKey t _, List.mem_append_right _ (List.mem_singleton_self _), rfl,
      (List.append_nil _).symm⟩
  | _ => exact ⟨.refl t, trivial, rfl, (List.append_nil _).symm⟩

/-- What the options of a column leave in the draft of their table. -/
theorem foldl_applyInline (column : String) (os : List ColumnOption) (t : TableDraft) :
    let t' := os.foldl (applyInline column) t
    MoreParts t t' ∧ (∀ o ∈ os, DraftedInline column t' o) ∧ t'.columns = t.columns
      ∧ t'.primaryKey = t.primaryKey ++ os.filterMap (inlineKey? column) := by
  induction os generalizing t with
  | nil => exact ⟨.refl t, List.forall_mem_nil _, rfl, (List.append_nil _).symm⟩
  | cons o os ih =>
    obtain ⟨hmore₁, hdrafted, hcolumns₁, hkey₁⟩ := applyInline_spec column t o
    obtain ⟨hmore, hall, hcolumns, hkey⟩ := ih (applyInline column t o)
    refine ⟨hmore₁.trans hmore, List.forall_mem_cons.2 ⟨hdrafted.mono hmore, hall⟩,
      hcolumns.trans hcolumns₁, ?_⟩
    rw [List.foldl_cons, hkey, hkey₁, List.append_assoc, List.filterMap_cons]
    cases inlineKey? column o <;> rfl

/-- What columns make of a draft. -/
theorem foldl_addColumn (enums : EnumLabels) (cs : List ColumnDefinition) (t : TableDraft) :
    let t' := cs.foldl (addColumn enums) t
    MoreParts t t' ∧ (∀ c ∈ cs, ∀ o ∈ c.options, DraftedInline c.name.value t' o)
      ∧ t'.columns = t.columns ++ cs.map (columnDraft enums)
      ∧ t'.primaryKey = t.primaryKey ++ inlineKeys cs := by
  induction cs generalizing t with
  | nil =>
    exact ⟨.refl t, List.forall_mem_nil _, (List.append_nil _).symm, (List.append_nil _).symm⟩
  | cons c cs ih =>
    obtain ⟨hmore₁, hall₁, hcolumns₁, hkey₁⟩ := foldl_applyInline c.name.value c.options t
    set t₁ := c.options.foldl (applyInline c.name.value) t with ht₁
    obtain ⟨hmore, hall, hcolumns, hkey⟩ := ih (addColumn enums t c)
    have hmore₂ := (MoreParts.ofSame t₁ (t₁.columns ++ [columnDraft enums c]) t₁.primaryKey).trans hmore
    refine ⟨hmore₁.trans hmore₂, List.forall_mem_cons.2 ⟨fun o ho => (hall₁ o ho).mono hmore₂, hall⟩,
      ?_, ?_⟩
    · rw [List.foldl_cons, hcolumns]
      show t₁.columns ++ [columnDraft enums c] ++ _ = _
      rw [hcolumns₁, List.append_assoc]
      rfl
    · rw [List.foldl_cons, hkey]
      show t₁.primaryKey ++ _ = _
      rw [hkey₁, List.append_assoc]
      rfl

/-! ## What options say of a column -/

/-- Whether an option makes its column an identity column. -/
def numbers : ColumnOption → Bool
  | .default text => isSequenceDefault text
  | .identity => true
  | .other text => Text.contains (Text.upperText text) "AUTO_INCREMENT"
  | _ => false

/-- An option leaves the name and the type of its column. -/
theorem applyOption_spec (c : ColumnDraft) (o : ColumnOption) : (applyOption c o).name = c.name
    ∧ (applyOption c o).sourceType = c.sourceType
    ∧ (applyOption c o).identity = (c.identity || numbers o) := by
  cases o with
  | default e =>
    unfold applyOption numbers
    dsimp only
    split
    · rename_i hsequence
      exact ⟨rfl, rfl, by rw [hsequence, Bool.or_true]⟩
    · rename_i hsequence
      exact ⟨rfl, rfl, by rw [eq_false_of_ne_true hsequence, Bool.or_false]⟩
  | other text =>
    unfold applyOption numbers
    dsimp only
    split
    · rename_i hcontains
      exact ⟨rfl, rfl, by rw [hcontains, Bool.or_true]⟩
    · rename_i hcontains
      exact ⟨rfl, rfl, by rw [eq_false_of_ne_true hcontains, Bool.or_false]⟩
  | identity => exact ⟨rfl, rfl, (Bool.or_true _).symm⟩
  | null | notNull | primaryKey | unique | generated | references | check =>
    exact ⟨rfl, rfl, (Bool.or_false _).symm⟩

/-- No option changes the name or the type of its column, and each may make it an identity column. -/
theorem foldl_applyOption (os : List ColumnOption) (c : ColumnDraft) :
    (os.foldl applyOption c).name = c.name ∧ (os.foldl applyOption c).sourceType = c.sourceType
      ∧ (os.foldl applyOption c).identity = (c.identity || os.any numbers) := by
  induction os generalizing c with
  | nil => exact ⟨rfl, rfl, (Bool.or_false _).symm⟩
  | cons o os ih =>
    obtain ⟨hname, htype, hidentity⟩ := applyOption_spec c o
    obtain ⟨hnames, htypes, hidentities⟩ := ih (applyOption c o)
    refine ⟨hnames.trans hname, htypes.trans htype, ?_⟩
    rw [List.foldl_cons, hidentities, hidentity, List.any_cons, Bool.or_assoc]

/-- **The draft of a column** has its name and the type that is declared.  It is an identity column if
its type says so, or one of its options. -/
theorem columnDraft_spec (enums : EnumLabels) (c : ColumnDefinition) :
    (columnDraft enums c).name = c.name.value
      ∧ (columnDraft enums c).sourceType = columnType enums c.type
      ∧ (columnDraft enums c).identity
        = (serialTypes.contains (columnType enums c.type).name || c.options.any numbers) :=
  foldl_applyOption c.options _

/-! ## Tables -/

/-- The draft of a table: its columns, and every constraint that stands in its definition. -/
structure Drafts (enums : EnumLabels) (name : List Ident) (cs : List ColumnDefinition)
    (constraints : List TableConstraint) (t : TableDraft) (lost : List String) : Prop where
  nspace : t.nspace = (splitName name).1
  name : t.name = (splitName name).2
  columns : t.columns = cs.map (columnDraft enums)
  primaryKey : t.primaryKey = keyAfter (inlineKeys cs) constraints
  constraints : ∀ c ∈ constraints, Drafted t lost c
  inline : ∀ c ∈ cs, ∀ o ∈ c.options, DraftedInline c.name.value t o

/-- **The draft of a definition** loses nothing of it that is not listed. -/
theorem drafts_tableDraft (enums : EnumLabels) (name : List Ident) (cs : List ColumnDefinition)
    (constraints : List TableConstraint) : Drafts enums name cs constraints
      (tableDraft enums name cs constraints).1 (tableDraft enums name cs constraints).2 := by
  obtain ⟨hmore, hinline, hcolumns, hkey⟩ :=
    foldl_addColumn enums cs (.empty (splitName name).1 (splitName name).2)
  set t := cs.foldl (addColumn enums) (.empty (splitName name).1 (splitName name).2) with ht
  obtain ⟨hmore', hall, hcolumns', hkey'⟩ := applyConstraints_spec t constraints
  exact ⟨hmore'.nspace.trans hmore.nspace, hmore'.name.trans hmore.name, hcolumns'.trans hcolumns,
    hkey'.trans (by rw [hkey]; rfl), hall, fun c hc o ho => (hinline c hc o ho).mono hmore'⟩

end SchemaBridge.Dump
