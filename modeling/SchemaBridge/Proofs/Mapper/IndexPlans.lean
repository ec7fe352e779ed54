/-
# Plans for indexes

The second phase goes through the indexes of all tables with a list of the names in use: at first those
of the tables, then also those of the indexes it has kept.  What it does with an index depends on
the types of its columns and on this list, and is decided once.  So the phase can be written as a
list of plans, from which the indexes that are kept, the names in use and the findings are read off.

## Key statements

* `keepIndex_eq`, `foldl_keepIndex_eq`: an index, and the indexes of a table, in terms of their plans.
* `mapTableIndexes_eq`: the second phase in terms of its plans.
* `nodup_planIndexes`, `nodup_plannedTables`: the names that come into use are new.
* `mem_planFindings`: what is said of an index.
-/
import SchemaBridge.Mapper.Run
import SchemaBridge.Proofs.Schema.Tables
import SchemaBridge.Proofs.Text.FoldedNames

namespace SchemaBridge.Mapper

/-! ## Indexes of a table -/

/-- What becomes of an index: it is dropped for a column, or kept under a name. -/
inductive IndexPlan
  | drop (c : Column)
  | keep (name : String)

/-- What becomes of an index of a table, given the names in use. -/
def planIndex (t : Table) (used : List String) (i : Index) : IndexPlan :=
  match unkeyableColumn? t.columns i with
  | some c => .drop c
  | none =>
    .keep (if Text.lowerText i.name ∈ used then freshIndexName used t.name i.name else i.name)

/-- The column for which an index is dropped. -/
def IndexPlan.column? : IndexPlan → Option Column
  | drop c => some c
  | keep _ => none

/-- The index that is kept. -/
def keptIndex? : Index × IndexPlan → Option Index
  | (_, .drop _) => none
  | (i, .keep name) => some { i with name }

/-- What is said of an index. -/
def planFindings (id : TableId) (table : String) : Index × IndexPlan → List Issue
  | (i, .drop c) => [droppedIndexIssue id table i c]
  | (i, .keep name) => if name = i.name then [] else [renamedIndexIssue id table i name]

/-- The indexes that are kept. -/
def keptIndexes (plans : List (Index × IndexPlan)) : List Index := plans.filterMap keptIndex?

/-- The names of indexes, as the second phase compares them. -/
def foldedIndexNames (l : List Index) : List String := l.map fun i => Text.lowerText i.name

/-- Indexes of a table with their plans; each name that is kept is in use for those that follow. -/
def planIndexes (t : Table) : List String → List Index → List (Index × IndexPlan)
  | _, [] => []
  | used, i :: l =>
    let plan := planIndex t used i
    (i, plan) :: planIndexes t (foldedIndexNames (keptIndex? (i, plan)).toList ++ used) l

section Plans

variable {id : TableId} {t : Table} {used : List String} {i : Index} {l : List Index}

/-- An index is dropped for its first column that no key may have. -/
theorem column?_planIndex (t : Table) (used : List String) (i : Index) :
    (planIndex t used i).column? = unkeyableColumn? t.columns i := by
  unfold planIndex
  cases unkeyableColumn? t.columns i <;> rfl

/-- A fresh name is another one. -/
theorem freshIndexName_ne (used : List String) (table name : String) :
    freshIndexName used table name ≠ name := by
  -- the base has the name of the table in front
  refine Text.freshName_ne ?_ _ 2 _
  rw [String.length_append, String.length_append]
  have hbar : "_".length = 1 := rfl
  omega

/-- A name that is kept is free. -/
theorem not_mem_of_planIndex {name : String} (h : planIndex t used i = .keep name) :
    Text.lowerText name ∉ used := by
  unfold planIndex at h
  split at h
  · cases h
  · cases h
    split
    · exact Text.lowerText_freshName_not_mem used _ 2
    · assumption

/-- One index, in terms of its plan. -/
theorem keepIndex_eq (id : TableId) (t : Table) (s : IndexState) (i : Index) :
    keepIndex id t s i =
      let p := (i, planIndex t s.used i)
      ⟨foldedIndexNames (keptIndex? p).toList ++ s.used, s.kept ++ (keptIndex? p).toList,
        s.issues ++ planFindings id t.name p⟩ := by
  unfold keepIndex planIndex
  cases unkeyableColumn? t.columns i with
  | some c => simp [keptIndex?, planFindings, foldedIndexNames]
  | none =>
    by_cases htaken : Text.lowerText i.name ∈ s.used
    · simp [htaken, keptIndex?, planFindings, foldedIndexNames, freshIndexName_ne]
    · simp [htaken, keptIndex?, planFindings, foldedIndexNames]

/-- The indexes of a table, in terms of their plans. -/
theorem foldl_keepIndex_eq (id : TableId) (t : Table) (l : List Index) (s : IndexState) :
    l.foldl (keepIndex id t) s =
      let plans := planIndexes t s.used l
      ⟨(foldedIndexNames (keptIndexes plans)).reverse ++ s.used, s.kept ++ keptIndexes plans,
        s.issues ++ plans.flatMap (planFindings id t.name)⟩ := by
  induction l generalizing s with
  | nil => simp [planIndexes, keptIndexes, foldedIndexNames]
  | cons i l ih =>
    rw [List.foldl_cons, ih, keepIndex_eq]
    dsimp only [planIndexes]
    cases hk : keptIndex? (i, planIndex t s.used i) with
    | none => simp [keptIndexes, foldedIndexNames, hk]
    | some i' => simp [keptIndexes, foldedIndexNames, hk]

/-- There is one plan for each index. -/
theorem map_fst_planIndexes (t : Table) (used : List String) (l : List Index) :
    (planIndexes t used l).map (·.1) = l := by
  induction l generalizing used with
  | nil => rfl
  | cons i l ih => exact congrArg (i :: ·) (ih _)

/-- Each plan drops its index for such a column. -/
theorem column?_of_mem_planIndexes {p : Index × IndexPlan} (h : p ∈ planIndexes t used l) :
    p.2.column? = unkeyableColumn? t.columns p.1 := by
  induction l generalizing used with
  | nil => cases h
  | cons i l ih =>
    rcases List.mem_cons.1 h with rfl | h
    · exact column?_planIndex t used i
    · exact ih h

/-- The names of the indexes that are kept are new, and differ from each other. -/
theorem nodup_planIndexes (t : Table) (l : List Index) (h : used.Nodup) :
    (foldedIndexNames (keptIndexes (planIndexes t used l)) ++ used).Nodup := by
  induction l generalizing used with
  | nil => exact h
  | cons i l ih =>
    unfold planIndexes keptIndexes
    dsimp only
    cases hplan : planIndex t used i with
    | drop c => exact ih h
    | keep name =>
      have hfree := not_mem_of_planIndex hplan
      exact List.nodup_middle.1 (ih (List.nodup_cons.2 ⟨hfree, h⟩))

end Plans

/-! ## Tables -/

/-- The tables of a list, each with the plans for its indexes. -/
def plannedTables : List String → KeyedTables → List ((TableId × Table) × List (Index × IndexPlan))
  | _, [] => []
  | used, e :: l =>
    let plans := planIndexes e.2 used e.2.indexes
    (e, plans) :: plannedTables ((foldedIndexNames (keptIndexes plans)).reverse ++ used) l

/-- A table with the indexes it keeps. -/
def withPlans (p : (TableId × Table) × List (Index × IndexPlan)) : TableId × Table :=
  (p.1.1, { p.1.2 with indexes := keptIndexes p.2 })

/-- What is said of the indexes of a table. -/
def tableFindings (p : (TableId × Table) × List (Index × IndexPlan)) : List Issue :=
  p.2.flatMap (planFindings p.1.1 p.1.2.name)

section Tables

variable {used : List String} {l : KeyedTables}

/-- The second phase, in terms of its plans. -/
theorem mapTableIndexes_eq (used : List String) (l : KeyedTables) : mapTableIndexes used l
    = ((plannedTables used l).map withPlans, (plannedTables used l).flatMap tableFindings) := by
  induction l generalizing used with
  | nil => rfl
  | cons e l ih =>
    obtain ⟨id, t⟩ := e
    unfold mapTableIndexes
    rw [foldl_keepIndex_eq]
    dsimp only
    rw [ih]
    rfl

/-- There are plans for each table. -/
theorem map_fst_plannedTables (used : List String) (l : KeyedTables) :
    (plannedTables used l).map (·.1) = l := by
  induction l generalizing used with
  | nil => rfl
  | cons e l ih => exact congrArg (e :: ·) (ih _)

/-- Whatever names are in use by then, every table has plans for all of its indexes. -/
theorem exists_plans {e : TableId × Table} (he : e ∈ l) :
    ∃ used', (e, planIndexes e.2 used' e.2.indexes) ∈ plannedTables used l := by
  induction l generalizing used with
  | nil => cases he
  | cons e' l ih =>
    rcases List.mem_cons.1 he with rfl | he
    · exact ⟨used, List.mem_cons_self⟩
    · obtain ⟨used', h⟩ := ih he
      exact ⟨used', List.mem_cons_of_mem _ h⟩

/-- The names of all indexes that are kept are new, and differ from each other. -/
theorem nodup_plannedTables (l : KeyedTables) (h : used.Nodup) :
    ((plannedTables used l).flatMap (fun p => foldedIndexNames (keptIndexes p.2)) ++ used).Nodup := by
  induction l generalizing used with
  | nil => exact h
  | cons e l ih =>
    unfold plannedTables
    dsimp only
    have hhead := nodup_planIndexes e.2 e.2.indexes h
    generalize hplans : planIndexes e.2 used e.2.indexes = plans at hhead
    -- the names come into the list of those in use last first
    have hswap := (List.reverse_perm (foldedIndexNames (keptIndexes plans))).append_right used
    have hrest := ih (hswap.nodup_iff.2 hhead)
    rw [List.flatMap_cons, List.append_assoc]
    exact ((hswap.append_left _).trans (List.perm_append_comm_assoc _ _ _)).nodup_iff.1 hrest

end Tables

/-! ## Findings -/

/-- An index is spoken of where it stands, or on its table if it is dropped. -/
theorem mem_planFindings {id : TableId} {table : String} {p : Index × IndexPlan} {f : Issue}
    (h : f ∈ planFindings id table p) : (∃ c, p.2 = .drop c ∧ f = droppedIndexIssue id table p.1 c)
      ∨ ∃ name, p.2 = .keep name ∧ f = renamedIndexIssue id table p.1 name := by
  obtain ⟨i, plan⟩ := p
  cases plan with
  | drop c => exact .inl ⟨c, rfl, List.mem_singleton.1 h⟩
  | keep name =>
    unfold planFindings at h
    dsimp only at h
    split at h
    · cases h
    · exact .inr ⟨name, rfl, List.mem_singleton.1 h⟩

/-- What is said of indexes is about their table. -/
theorem table?_of_mem_planFindings {id : TableId} {table : String} {p : Index × IndexPlan} {f : Issue}
    (h : f ∈ planFindings id table p) : f.target.table? = some id := by
  rcases mem_planFindings h with ⟨c, -, rfl⟩ | ⟨name, -, rfl⟩
  · rfl
  · rfl

/-- What the second phase says is said of an index that has a plan. -/
theorem exists_of_mem_mapTableIndexes {used : List String} {l : KeyedTables} {f : Issue}
    (h : f ∈ (mapTableIndexes used l).2) : ∃ e ∈ plannedTables used l, ∃ p ∈ e.2,
      f ∈ planFindings e.1.1 e.1.2.name p := by
  rw [mapTableIndexes_eq] at h
  obtain ⟨e, he, h⟩ := List.mem_flatMap.1 h
  obtain ⟨p, hp, h⟩ := List.mem_flatMap.1 h
  exact ⟨e, he, p, hp, h⟩

end SchemaBridge.Mapper
