/-
# Lists of keyed tables

The tables of a model stand in a list, each under its identifier.  Here is what finding, changing
and adding one of them does to the list, and which identifiers a list of tables holds.

## Key statements

* `exists_split_of_tableIn`: a table that is found splits the list at one place.
* `insertSorted_eq_append`: a table under a new identifier goes to the end.
* `mem_idsIn_iff`: the identifiers of a list are those of its tables.
-/
import Mathlib.Data.List.Nodup
import Mathlib.Data.List.Perm.Basic
import SchemaBridge.Schema.Model

namespace SchemaBridge

/-- Of elements with distinct keys, each is found by its own. -/
theorem find?_of_mem {α κ : Type} [DecidableEq κ] {g : α → κ} {l : List α} (hl : (l.map g).Nodup)
    {a : α} (ha : a ∈ l) : l.find? (fun b => g b = g a) = some a := by
  induction l with
  | nil => cases ha
  | cons b l ih =>
    rw [List.map_cons, List.nodup_cons] at hl
    rw [List.find?_cons]
    rcases List.mem_cons.1 ha with rfl | ha
    · simp
    · have hne : g b ≠ g a := by
        intro h
        exact hl.1 (h ▸ List.mem_map_of_mem ha)
      simp [hne, ih hl.2 ha]

/-- Tables under their identifiers. -/
abbrev KeyedTables := List (TableId × Table)

/-- The table under an identifier. -/
def tableIn (l : KeyedTables) (id : TableId) : Option Table :=
  (l.find? (·.1 = id)).map (·.2)

/-- The table of a model is that among its tables. -/
theorem Model.table?_eq_tableIn (m : Model) (id : TableId) : m.table? id = tableIn m.tables id := rfl

/-- Among no tables none is found. -/
@[simp] theorem tableIn_nil (id : TableId) : tableIn [] id = none := rfl

/-- The first table that has the identifier is found. -/
theorem tableIn_cons (e : TableId × Table) (l : KeyedTables) (id : TableId) :
    tableIn (e :: l) id = if e.1 = id then some e.2 else tableIn l id := by
  unfold tableIn
  rw [List.find?_cons]
  by_cases h : e.1 = id <;> simp [h]

/-- A table that is found is in the list. -/
theorem mem_of_tableIn {l : KeyedTables} {id : TableId} {t : Table} (h : tableIn l id = some t) :
    (id, t) ∈ l := by
  unfold tableIn at h
  obtain ⟨⟨k, u⟩, hf, rfl⟩ := Option.map_eq_some_iff.1 h
  have hk : k = id := by simpa using List.find?_some hf
  subst hk
  exact List.mem_of_find?_eq_some hf

/-- An identifier has a table exactly when it is a key. -/
theorem isSome_tableIn_iff (l : KeyedTables) (id : TableId) :
    (tableIn l id).isSome ↔ id ∈ l.map (·.1) := by
  induction l with
  | nil => simp
  | cons e l ih =>
    rw [tableIn_cons]
    by_cases h : e.1 = id
    · simp [h]
    · rw [if_neg h, ih, List.map_cons, List.mem_cons]
      constructor
      · exact Or.inr
      · rintro (rfl | h')
        · exact absurd rfl h
        · exact h'

/-- Of a list without repeated keys, every member is found. -/
theorem tableIn_of_mem {l : KeyedTables} (hl : (l.map (·.1)).Nodup) {id : TableId} {t : Table}
    (h : (id, t) ∈ l) : tableIn l id = some t := by
  induction l with
  | nil => simp at h
  | cons e l ih =>
    rw [List.map_cons, List.nodup_cons] at hl
    rw [tableIn_cons]
    rcases List.mem_cons.1 h with rfl | h
    · simp
    · have hne : e.1 ≠ id := by
        intro he
        exact hl.1 (he ▸ List.mem_map_of_mem (f := (·.1)) h)
      rw [if_neg hne]
      exact ih hl.2 h

/-- Tables under the same identifiers in the same order are the same if the same ones are found. -/
theorem eq_of_tableIn {l l' : KeyedTables} (hl : (l.map (·.1)).Nodup)
    (hkeys : l'.map (·.1) = l.map (·.1)) (h : ∀ id, tableIn l' id = tableIn l id) : l' = l := by
  induction l generalizing l' with
  | nil => exact List.map_eq_nil_iff.1 hkeys
  | cons e l ih =>
    obtain ⟨e', l', rfl, hkey, hrest⟩ := List.map_eq_cons_iff.1 hkeys
    rw [List.map_cons, List.nodup_cons] at hl
    have hhead := h e.1
    rw [tableIn_cons, tableIn_cons, if_pos hkey, if_pos rfl] at hhead
    have he : e' = e := Prod.ext hkey (Option.some.inj hhead)
    rw [he, ih hl.2 hrest fun id => ?_]
    -- the first key is none of the others, in both lists
    by_cases hid : e.1 = id
    · have hnone : ∀ l₁ : KeyedTables, l₁.map (·.1) = l.map (·.1) → tableIn l₁ id = none := by
        intro l₁ hsame
        rw [← Option.not_isSome_iff_eq_none, isSome_tableIn_iff, hsame, ← hid]
        exact hl.1
      rw [hnone l' hrest, hnone l rfl]
    · have htail := h id
      rwa [tableIn_cons, tableIn_cons, hkey, if_neg hid, if_neg hid] at htail

/-- A table that is found splits the list, and no other entry has its key. -/
theorem exists_split_of_tableIn {l : KeyedTables} (hl : (l.map (·.1)).Nodup) {id : TableId}
    {t : Table} (h : tableIn l id = some t) :
    ∃ pre post, l = pre ++ (id, t) :: post ∧ id ∉ pre.map (·.1) ∧ id ∉ post.map (·.1) := by
  obtain ⟨pre, post, rfl⟩ := List.append_of_mem (mem_of_tableIn h)
  refine ⟨pre, post, rfl, ?_, ?_⟩
  · intro hm
    rw [List.map_append, List.map_cons, List.nodup_append] at hl
    exact hl.2.2 id hm id (by simp) rfl
  · rw [List.map_append, List.map_cons] at hl
    exact (List.nodup_cons.1 (List.nodup_append.1 hl).2.1).1

/-! ## Changing one table -/

/-- Change the table under an identifier. -/
def changeIn (l : KeyedTables) (id : TableId) (f : Table → Table) : KeyedTables :=
  l.map fun (k, t) => if k = id then (k, f t) else (k, t)

/-- A change of one table of a model is one among its tables. -/
@[simp] theorem Model.modifyTable_tables (m : Model) (id : TableId) (f : Table → Table) :
    (m.modifyTable id f).tables = changeIn m.tables id f := rfl

/-- A change of one table changes no identifier of a table. -/
@[simp] theorem map_fst_changeIn (l : KeyedTables) (id : TableId) (f : Table → Table) :
    (changeIn l id f).map (·.1) = l.map (·.1) := by
  unfold changeIn
  rw [List.map_map]
  apply List.map_congr_left
  rintro ⟨k, t⟩ -
  by_cases h : k = id <;> simp [h]

/-- A change that does nothing. -/
theorem changeIn_eq_self (l : KeyedTables) (id : TableId) {f : Table → Table} (hf : ∀ t, f t = t) :
    changeIn l id f = l := by
  refine (List.map_congr_left fun e _ => ?_).trans (List.map_id l)
  show (if e.1 = id then (e.1, f e.2) else e) = e
  rw [hf]
  exact ite_self e

/-- A change touches no list without the key. -/
theorem changeIn_of_not_mem {l : KeyedTables} {id : TableId} (h : id ∉ l.map (·.1))
    (f : Table → Table) : changeIn l id f = l := by
  unfold changeIn
  conv_rhs => rw [← List.map_id l]
  apply List.map_congr_left
  rintro ⟨k, t⟩ hk
  have hne : k ≠ id := by
    rintro rfl
    exact h (List.mem_map_of_mem (f := (·.1)) hk)
  simp [hne]

/-- A change at the place where the list splits. -/
theorem changeIn_split {pre post : KeyedTables} {id : TableId} {t : Table}
    (hpre : id ∉ pre.map (·.1)) (hpost : id ∉ post.map (·.1)) (f : Table → Table) :
    changeIn (pre ++ (id, t) :: post) id f = pre ++ (id, f t) :: post := by
  have happ : changeIn (pre ++ (id, t) :: post) id f
      = changeIn pre id f ++ (id, f t) :: changeIn post id f := by
    simp [changeIn]
  rw [happ, changeIn_of_not_mem hpre, changeIn_of_not_mem hpost]

/-- What is found after a change. -/
theorem tableIn_changeIn (l : KeyedTables) (id k : TableId) (f : Table → Table) :
    tableIn (changeIn l id f) k = if k = id then (tableIn l k).map f else tableIn l k := by
  induction l with
  | nil => simp [changeIn]
  | cons e l ih =>
    have hcons : changeIn (e :: l) id f
        = (if e.1 = id then (e.1, f e.2) else e) :: changeIn l id f := by
      simp [changeIn]
    rw [hcons, tableIn_cons, tableIn_cons, ih]
    by_cases hk : e.1 = k
    · subst hk
      by_cases he : e.1 = id <;> simp [he]
    · by_cases he : e.1 = id <;> simp [he, hk]
      all_goals
        rw [he] at hk
        simp [hk, Ne.symm hk]

/-- What is found after a change of every table. -/
theorem tableIn_map (l : KeyedTables) (g : TableId → Table → Table) (id : TableId) :
    tableIn (l.map fun e => (e.1, g e.1 e.2)) id = (tableIn l id).map (g id) := by
  induction l with
  | nil => rfl
  | cons e l ih =>
    rw [List.map_cons, tableIn_cons, tableIn_cons, ih]
    by_cases h : e.1 = id
    · subst h
      simp
    · simp [h]

/-! ## Adding a table -/

/-- Keys in ascending order are distinct. -/
theorem nodup_keys_of_ordered {l : KeyedTables} (h : (l.map (·.1.val)).Pairwise (· < ·)) :
    (l.map (·.1)).Nodup := by
  rw [List.Nodup, List.pairwise_map]
  rw [List.pairwise_map] at h
  refine h.imp ?_
  rintro a b hlt heq
  rw [heq] at hlt
  exact Nat.lt_irrefl _ hlt

/-- A table under an identifier above all others goes to the end. -/
theorem insertSorted_eq_append {l : KeyedTables} {id : TableId} (h : ∀ e ∈ l, e.1.val < id.val)
    (t : Table) : Model.insertSorted id t l = l ++ [(id, t)] := by
  induction l with
  | nil => rfl
  | cons e l ih =>
    have hlt : e.1.val < id.val := h e List.mem_cons_self
    have hne : id ≠ e.1 := by
      rintro rfl
      exact Nat.lt_irrefl _ hlt
    unfold Model.insertSorted
    rw [if_neg (by omega), if_neg hne, ih fun e he => h e (List.mem_cons_of_mem _ he)]
    rfl

/-- A table under a key of its own is added to the others. -/
theorem perm_insertSorted {l : KeyedTables} {id : TableId} (h : id ∉ l.map (·.1)) (t : Table) :
    (Model.insertSorted id t l).Perm ((id, t) :: l) := by
  induction l with
  | nil => exact List.Perm.refl _
  | cons e l ih =>
    rw [List.map_cons, List.mem_cons, not_or] at h
    unfold Model.insertSorted
    split
    · exact List.Perm.refl _
    · rw [if_neg h.1]
      exact ((ih h.2).cons e).trans (List.Perm.swap _ _ _)

/-- Tables stay in ascending order of their keys. -/
theorem ordered_insertSorted {l : KeyedTables} (h : l.Pairwise fun a b => a.1.val < b.1.val)
    {id : TableId} (hid : id ∉ l.map (·.1)) (t : Table) :
    (Model.insertSorted id t l).Pairwise fun a b => a.1.val < b.1.val := by
  induction l with
  | nil => exact List.pairwise_singleton _ _
  | cons e l ih =>
    obtain ⟨hhead, htail⟩ := List.pairwise_cons.1 h
    rw [List.map_cons, List.mem_cons, not_or] at hid
    unfold Model.insertSorted
    split
    · rename_i hlt
      refine List.pairwise_cons.2 ⟨?_, h⟩
      intro a ha
      rcases List.mem_cons.1 ha with rfl | ha
      · exact hlt
      · exact Nat.lt_trans hlt (hhead a ha)
    · rename_i hle
      rw [if_neg hid.1]
      refine List.pairwise_cons.2 ⟨?_, ih htail hid.2⟩
      intro a ha
      rcases List.mem_cons.1 ((perm_insertSorted hid.2 t).subset ha) with rfl | ha
      · -- keys are compared by their numbers, and equal numbers would be equal keys
        have hne : id.val ≠ e.1.val := by
          intro heq
          exact hid.1 (congrArg TableId.mk heq)
        show e.1.val < id.val
        omega
      · exact hhead a ha

/-- Tables that are put in their places are in order, and none is lost. -/
theorem foldl_insertSorted {fields done : KeyedTables}
    (hdone : done.Pairwise fun a b => a.1.val < b.1.val)
    (h : ((done ++ fields).map (·.1)).Nodup) :
    ((fields.foldl (fun done e => Model.insertSorted e.1 e.2 done) done).Pairwise
        fun a b => a.1.val < b.1.val)
      ∧ (fields.foldl (fun done e => Model.insertSorted e.1 e.2 done) done).Perm
        (done ++ fields) := by
  induction fields generalizing done with
  | nil => simpa using hdone
  | cons e r ih =>
    have hmiddle : (done ++ e :: r).Perm (e :: (done ++ r)) := List.perm_middle
    have hnodup := (hmiddle.map (·.1)).nodup h
    have hkey : e.1 ∉ done.map (·.1) := by
      intro he
      refine (List.nodup_cons.1 hnodup).1 ?_
      rw [List.map_append]
      exact List.mem_append_left _ he
    have hinsert : (Model.insertSorted e.1 e.2 done ++ r).Perm (e :: (done ++ r)) :=
      (perm_insertSorted hkey e.2).append_right r
    obtain ⟨hordered, hperm⟩ := ih (ordered_insertSorted hdone hkey e.2)
      ((hinsert.map (·.1)).symm.nodup hnodup)
    exact ⟨hordered, hperm.trans (hinsert.trans hmiddle.symm)⟩

/-- Tables in ascending order are what they are put together to, in whatever order. -/
theorem foldl_insertSorted_eq {l fields : KeyedTables}
    (hl : (l.map (·.1.val)).Pairwise (· < ·)) (h : fields.Perm l) :
    fields.foldl (fun done e => Model.insertSorted e.1 e.2 done) [] = l := by
  have hfields : ((([] : KeyedTables) ++ fields).map (·.1)).Nodup :=
    (h.map (·.1)).symm.nodup (nodup_keys_of_ordered hl)
  obtain ⟨hordered, hperm⟩ := foldl_insertSorted List.Pairwise.nil hfields
  refine List.Perm.eq_of_pairwise ?_ hordered (List.pairwise_map.1 hl) (hperm.trans h)
  intro a b _ _ hab hba
  exact absurd (Nat.lt_trans hab hba) (Nat.lt_irrefl _)

/-- What is found in a list with one more table at its end. -/
theorem tableIn_append_singleton (l : KeyedTables) (id k : TableId) (t : Table) :
    tableIn (l ++ [(id, t)]) k = (tableIn l k).or (if id = k then some t else none) := by
  induction l with
  | nil => simp [tableIn_cons]
  | cons e l ih =>
    rw [List.cons_append, tableIn_cons, tableIn_cons, ih]
    by_cases h : e.1 = k <;> simp [h]

/-! ## Identifiers of a list -/

/-- The identifiers of a table and of its parts. -/
def Table.ids (t : Table) : List Nat :=
  t.id.val :: (t.columns.map (·.id.val) ++ (t.indexes.map (·.id.val) ++
    (t.checks.map (·.id.val) ++ t.foreignKeys.map (·.id.val))))

/-- No two columns have one identifier. -/
theorem Table.nodup_columns {t : Table} (h : t.ids.Nodup) : (t.columns.map (·.id)).Nodup := by
  have hcolumns := (List.nodup_append.1 (List.nodup_cons.1 h).2).1
  refine List.Nodup.of_map ColumnId.val ?_
  rwa [List.map_map]

/-- No two indexes have one identifier. -/
theorem Table.nodup_indexes {t : Table} (h : t.ids.Nodup) : (t.indexes.map (·.id)).Nodup := by
  have hrest := (List.nodup_append.1 (List.nodup_cons.1 h).2).2.1
  refine List.Nodup.of_map IndexId.val ?_
  rw [List.map_map]
  exact (List.nodup_append.1 hrest).1

/-- The identifiers of tables and of their parts. -/
def idsIn (l : KeyedTables) : List Nat := l.flatMap fun e => e.2.ids

/-- The identifiers of all objects of a model. -/
def Model.ids (m : Model) : List Nat := idsIn m.tables

/-- No tables have no identifiers. -/
@[simp] theorem idsIn_nil : idsIn [] = [] := rfl

/-- The identifiers of one table and of the others. -/
@[simp] theorem idsIn_cons (e : TableId × Table) (l : KeyedTables) :
    idsIn (e :: l) = e.2.ids ++ idsIn l := rfl

/-- The identifiers of two lists of tables. -/
@[simp] theorem idsIn_append (a b : KeyedTables) : idsIn (a ++ b) = idsIn a ++ idsIn b := by
  simp [idsIn]

/-- An identifier is one of a table. -/
theorem mem_idsIn_iff (l : KeyedTables) (i : Nat) : i ∈ idsIn l ↔ ∃ e ∈ l, i ∈ e.2.ids := by
  simp [idsIn]

/-- The identifiers of a table in the middle can be brought to the front. -/
theorem idsIn_split_perm (pre post : KeyedTables) (e : TableId × Table) :
    (idsIn (pre ++ e :: post)).Perm (e.2.ids ++ idsIn (pre ++ post)) := by
  rw [idsIn_append, idsIn_cons, idsIn_append]
  exact List.perm_append_comm_assoc _ _ _

end SchemaBridge
