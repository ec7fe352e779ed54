/-
# What validity means

`Model.validate` walks through a model with the identifiers and names it has met in hand.
`Model.WellFormed` says the same of the model as a whole.

## Key statements

* `validate_eq_ok_iff`: a model is accepted exactly when it is well formed.
-/
import SchemaBridge.Proofs.Schema.Soundness
import SchemaBridge.Schema.Validity

namespace SchemaBridge

/-- What succeeds has a result. -/
theorem exists_of_isOk {ε α : Type} {x : Except ε α} (h : x.isOk = true) : ∃ a, x = .ok a := by
  cases x with
  | error e => cases h
  | ok a => exact ⟨a, rfl⟩

/-- A step after which another one follows succeeds when both do. -/
theorem bind_eq_ok_iff {ε α β : Type} {x : Except ε α} {f : α → Except ε β} {b : β} :
    (x >>= f) = .ok b ↔ ∃ a, x = .ok a ∧ f a = .ok b := by
  cases x with
  | error e =>
    constructor
    · intro h
      cases h
    · rintro ⟨a, h, -⟩
      cases h
  | ok a =>
    constructor
    · intro h
      exact ⟨a, rfl, h⟩
    · rintro ⟨b, hb, h⟩
      cases hb
      exact h

/-- A result that is changed is there when it was there before. -/
theorem map_eq_ok_iff {ε α β : Type} {x : Except ε α} {f : α → β} {b : β} :
    x.map f = .ok b ↔ ∃ a, x = .ok a ∧ f a = b := by
  cases x with
  | error e =>
    constructor
    · intro h
      cases h
    · rintro ⟨a, h, -⟩
      cases h
  | ok a =>
    constructor
    · intro h
      cases h
      exact ⟨a, rfl, rfl⟩
    · rintro ⟨a, ha, rfl⟩
      cases ha
      rfl

/-- A step after one that succeeds. -/
theorem ok_bind {ε α β : Type} (a : α) (f : α → Except ε β) : (Except.ok a >>= f) = f a := rfl

/-! ## Values not met before -/

/-- No value of a list is repeated or among those met before. -/
def Unmet {α : Type} (seen l : List α) : Prop := l.Nodup ∧ ∀ x ∈ l, x ∉ seen

/-- Nothing has been met. -/
theorem unmet_nil {α : Type} (seen : List α) : Unmet seen [] :=
  ⟨List.nodup_nil, fun _ hx => absurd hx List.not_mem_nil⟩

/-- The first element is new, and the others are new after it. -/
theorem unmet_cons {α : Type} (seen l : List α) (a : α) :
    Unmet seen (a :: l) ↔ a ∉ seen ∧ Unmet (a :: seen) l := by
  unfold Unmet
  rw [List.nodup_cons]
  constructor
  · rintro ⟨⟨ha, hl⟩, hseen⟩
    refine ⟨hseen a List.mem_cons_self, hl, ?_⟩
    intro x hx hx'
    rcases List.mem_cons.1 hx' with rfl | hx'
    · exact ha hx
    · exact hseen x (List.mem_cons_of_mem _ hx) hx'
  · rintro ⟨ha, hl, hseen⟩
    refine ⟨⟨fun hm => hseen a hm List.mem_cons_self, hl⟩, ?_⟩
    intro x hx hx'
    rcases List.mem_cons.1 hx with rfl | hx
    · exact ha hx'
    · exact hseen x hx (List.mem_cons_of_mem _ hx')

theorem unmet_append {α : Type} (seen a b : List α) :
    Unmet seen (a ++ b) ↔ Unmet seen a ∧ Unmet (a.reverse ++ seen) b := by
  induction a generalizing seen with
  | nil => simp [unmet_nil]
  | cons x a ih =>
    rw [List.cons_append, unmet_cons, unmet_cons, ih, and_assoc]
    simp

/-! ## Identifiers -/

/-- Identifiers in range that have not been met before. -/
def Admits (nextId : Nat) (seen ids : List Nat) : Prop :=
  (∀ i ∈ ids, 0 < i ∧ i < nextId) ∧ Unmet seen ids

/-- No identifiers are admitted. -/
theorem admits_nil (nextId : Nat) (seen : List Nat) : Admits nextId seen [] :=
  ⟨fun _ hi => absurd hi List.not_mem_nil, unmet_nil seen⟩

/-- The first identifier is admitted, and the others after it. -/
theorem admits_cons (nextId : Nat) (seen ids : List Nat) (i : Nat) :
    Admits nextId seen (i :: ids)
      ↔ ((0 < i ∧ i < nextId) ∧ i ∉ seen) ∧ Admits nextId (i :: seen) ids := by
  unfold Admits
  rw [unmet_cons, List.forall_mem_cons]
  tauto

theorem admits_append (nextId : Nat) (seen a b : List Nat) :
    Admits nextId seen (a ++ b) ↔ Admits nextId seen a ∧ Admits nextId (a.reverse ++ seen) b := by
  unfold Admits
  rw [unmet_append, List.forall_mem_append]
  tauto

namespace Model

/-- A corrupt session is no result. -/
@[simp] theorem corrupt_ne_ok {α : Type} (text : String) (a : α) :
    (corrupt text : Outcome α) ≠ .ok a := by
  intro h
  cases h

/-- An identifier is reserved if it is in range and new. -/
theorem reserve_eq_ok_iff (nextId : Nat) (seen : List Nat) (raw : Nat) (what : String)
    (s : List Nat) :
    reserve nextId seen raw what = .ok s
      ↔ ((0 < raw ∧ raw < nextId) ∧ raw ∉ seen) ∧ s = raw :: seen := by
  unfold reserve
  by_cases hr : raw = 0 ∨ raw ≥ nextId
  · rw [if_pos hr]
    constructor
    · intro h
      exact absurd h (corrupt_ne_ok _ _)
    · rintro ⟨⟨⟨h1, h2⟩, -⟩, -⟩
      omega
  · rw [if_neg hr]
    by_cases hs : raw ∈ seen
    · simp [hs]
    · rw [if_neg hs]
      have hrange : 0 < raw ∧ raw < nextId := by omega
      simp [hrange, hs, eq_comm]

/-! ## Parts of a table -/

/-- When columns are valid. -/
theorem validateColumns_eq_ok_iff (nextId : Nat) (table : String) (seen : List Nat)
    (names : List String) (cs : List Column) (s : List Nat) :
    validateColumns nextId table seen names cs = .ok s
      ↔ Admits nextId seen (cs.map (·.id.val))
        ∧ Unmet names (cs.map fun c => Text.lowerText c.name)
        ∧ s = (cs.map (·.id.val)).reverse ++ seen := by
  induction cs generalizing seen names with
  | nil => simp [validateColumns, admits_nil, unmet_nil, eq_comm]
  | cons c cs ih =>
    rw [validateColumns, bind_eq_ok_iff]
    simp only [reserve_eq_ok_iff, List.map_cons, admits_cons, unmet_cons]
    constructor
    · rintro ⟨s', ⟨hid, rfl⟩, h⟩
      split at h
      · exact absurd h (corrupt_ne_ok _ _)
      · rename_i hn
        obtain ⟨ha, hu, rfl⟩ := (ih _ _).1 h
        exact ⟨⟨hid, ha⟩, ⟨hn, hu⟩, by simp⟩
    · rintro ⟨⟨hid, ha⟩, ⟨hn, hu⟩, rfl⟩
      refine ⟨_, ⟨hid, rfl⟩, ?_⟩
      rw [if_neg hn, ih]
      exact ⟨ha, hu, by simp⟩

/-- The key of an index is not empty and made of columns of its table. -/
def HasKey (t : Table) (i : Index) : Prop :=
  i.keys ≠ [] ∧ ∀ k ∈ i.keys, t.hasColumn k.column = true

/-- When indexes are valid. -/
theorem validateIndexes_eq_ok_iff (nextId : Nat) (t : Table) (seen : List Nat) (is : List Index)
    (s : List Nat) :
    validateIndexes nextId t seen is = .ok s
      ↔ Admits nextId seen (is.map (·.id.val)) ∧ (∀ i ∈ is, HasKey t i)
        ∧ s = (is.map (·.id.val)).reverse ++ seen := by
  -- numbers that are taken grow from index to index
  induction is generalizing seen with
  | nil => simp [validateIndexes, admits_nil, eq_comm]
  | cons i is ih =>
    rw [validateIndexes, bind_eq_ok_iff]
    simp only [reserve_eq_ok_iff, List.map_cons, admits_cons, List.forall_mem_cons]
    constructor
    · rintro ⟨s', ⟨hid, rfl⟩, h⟩
      split at h
      · exact absurd h (corrupt_ne_ok _ _)
      · rename_i hk
        split at h
        · exact absurd h (corrupt_ne_ok _ _)
        · rename_i hf
          obtain ⟨ha, hks, rfl⟩ := (ih _).1 h
          refine ⟨⟨hid, ha⟩, ⟨⟨by simpa using hk, ?_⟩, hks⟩, by simp⟩
          intro k hk'
          simpa using List.find?_eq_none.1 hf k hk'
    · rintro ⟨⟨hid, ha⟩, ⟨⟨hk, hcs⟩, hks⟩, rfl⟩
      refine ⟨_, ⟨hid, rfl⟩, ?_⟩
      have hf : i.keys.find? (fun k => !t.hasColumn k.column) = none := by
        rw [List.find?_eq_none]
        intro k hk'
        simp [hcs k hk']
      rw [if_neg (by simpa using hk), hf]
      exact (ih _).2 ⟨ha, hks, by simp⟩

/-- When checks are valid. -/
theorem validateChecks_eq_ok_iff (nextId : Nat) (seen : List Nat) (cs : List CheckConstraint)
    (s : List Nat) :
    validateChecks nextId seen cs = .ok s
      ↔ Admits nextId seen (cs.map (·.id.val)) ∧ s = (cs.map (·.id.val)).reverse ++ seen := by
  induction cs generalizing seen with
  | nil => simp [validateChecks, admits_nil, eq_comm]
  | cons c cs ih =>
    rw [validateChecks, bind_eq_ok_iff]
    simp only [reserve_eq_ok_iff, List.map_cons, admits_cons]
    constructor
    · rintro ⟨s', ⟨hid, rfl⟩, h⟩
      obtain ⟨ha, rfl⟩ := (ih _).1 h
      exact ⟨⟨hid, ha⟩, by simp⟩
    · rintro ⟨⟨hid, ha⟩, rfl⟩
      exact ⟨_, ⟨hid, rfl⟩, (ih _).2 ⟨ha, by simp⟩⟩

/-- When a reference is valid. -/
theorem validateReference_eq_ok_iff (m : Model) (t : Table) (f : ForeignKey) :
    validateReference m t f = .ok () ↔ f.RefersIn m.tables t := by
  unfold validateReference
  -- the lengths are looked at first, so the parent is not needed for them
  by_cases hlen : f.columns.isEmpty ∨ f.columns.length ≠ f.referencedColumns.length
  · rw [if_pos hlen]
    constructor
    · intro h
      exact absurd h (corrupt_ne_ok _ _)
    · intro h
      rcases hlen with he | he
      · exact absurd (List.isEmpty_iff.1 he) h.nonempty
      · exact absurd h.sameLength he
  rw [if_neg hlen]
  rw [not_or, List.isEmpty_iff, not_not] at hlen
  constructor
  · intro h
    split at h
    · exact absurd h (corrupt_ne_ok _ _)
    rename_i hc
    split at h
    · exact absurd h (corrupt_ne_ok _ _)
    rename_i p hp
    split at h
    · exact absurd h (corrupt_ne_ok _ _)
    rename_i hr
    refine ⟨hlen.1, hlen.2, ?_, p, hp, ?_⟩
    · intro c hc'
      simpa using List.find?_eq_none.1 hc c hc'
    · intro c hc'
      simpa using List.find?_eq_none.1 hr c hc'
  · rintro ⟨-, -, hcs, p, hp, hrs⟩
    have hc : f.columns.find? (fun c => !t.hasColumn c) = none := by
      rw [List.find?_eq_none]
      intro c hc'
      simp [hcs c hc']
    have hr : f.referencedColumns.find? (fun c => !p.hasColumn c) = none := by
      rw [List.find?_eq_none]
      intro c hc'
      simp [hrs c hc']
    rw [← Model.table?_eq_tableIn] at hp
    rw [hc, hp]
    simp only [hr]

/-- When foreign keys are valid. -/
theorem validateForeignKeys_eq_ok_iff (m : Model) (t : Table) (seen : List Nat)
    (fs : List ForeignKey) (s : List Nat) :
    validateForeignKeys m t seen fs = .ok s
      ↔ Admits m.nextId seen (fs.map (·.id.val)) ∧ (∀ f ∈ fs, f.RefersIn m.tables t)
        ∧ s = (fs.map (·.id.val)).reverse ++ seen := by
  induction fs generalizing seen with
  | nil => simp [validateForeignKeys, admits_nil, eq_comm]
  | cons f fs ih =>
    rw [validateForeignKeys, bind_eq_ok_iff]
    simp only [bind_eq_ok_iff, reserve_eq_ok_iff, List.map_cons, admits_cons,
      List.forall_mem_cons]
    constructor
    · rintro ⟨s', ⟨hid, rfl⟩, ⟨⟩, hf, h⟩
      obtain ⟨ha, hfs, rfl⟩ := (ih _).1 h
      exact ⟨⟨hid, ha⟩, ⟨(validateReference_eq_ok_iff m t f).1 hf, hfs⟩, by simp⟩
    · rintro ⟨⟨hid, ha⟩, ⟨hf, hfs⟩, rfl⟩
      exact ⟨_, ⟨hid, rfl⟩, (), (validateReference_eq_ok_iff m t f).2 hf,
        (ih _).2 ⟨ha, hfs, by simp⟩⟩

/-! ## Whole tables -/

end Model

/-- What validity asks of one table among others. -/
structure Table.WellFormed (l : KeyedTables) (t : Table) : Prop where
  columnNames : (t.columns.map fun c => Text.lowerText c.name).Nodup
  indexKeys : ∀ i ∈ t.indexes, i.keys ≠ []
  refers : t.RefersIn l

namespace Model

/-- The walk through the parts of a table, after its name. -/
theorem validateTable_of_key (m : Model) (seen : List Nat) (names : List String) (t : Table) :
    validateTable m seen names t.id t = (reserve m.nextId seen t.id.val "table" >>= fun seen =>
      if Text.lowerText t.name ∈ names then corrupt ("duplicate table name '" ++ t.name ++ "'")
      else validateColumns m.nextId t.name seen [] t.columns >>= fun seen =>
        match t.primaryKey.find? fun k => !t.hasColumn k.column with
        | some k =>
          corrupt ("table '" ++ t.name ++ "': primary key references unknown column "
            ++ k.column.text)
        | none =>
          validateIndexes m.nextId t seen t.indexes >>= fun seen =>
            validateChecks m.nextId seen t.checks >>= fun seen =>
              validateForeignKeys m t seen t.foreignKeys >>= fun seen =>
                .ok (seen, Text.lowerText t.name :: names)) := by
  unfold validateTable
  rw [if_neg (by simp)]
  refine congrArg _ (funext fun seen => ?_)
  by_cases hn : Text.lowerText t.name ∈ names
  · rw [if_pos hn, if_pos hn]
    rfl
  · rw [if_neg hn, if_neg hn]
    rfl

/-- When a table is valid. -/
theorem validateTable_eq_ok_iff (m : Model) (seen : List Nat) (names : List String) (key : TableId)
    (t : Table) (r : List Nat × List String) :
    validateTable m seen names key t = .ok r
      ↔ t.id = key ∧ Admits m.nextId seen t.ids ∧ Text.lowerText t.name ∉ names
        ∧ t.WellFormed m.tables ∧ r = (t.ids.reverse ++ seen, Text.lowerText t.name :: names) := by
  by_cases hkey : t.id = key
  swap
  · have herr : validateTable m seen names key t
        = corrupt ("table " ++ t.id.text ++ " stored under key " ++ key.text) := by
      unfold validateTable
      rw [if_pos (Ne.symm hkey)]
      rfl
    rw [herr]
    constructor
    · intro h
      exact absurd h (corrupt_ne_ok _ _)
    · rintro ⟨h, -⟩
      exact absurd h hkey
  subst hkey
  rw [validateTable_of_key]
  simp only [bind_eq_ok_iff, reserve_eq_ok_iff, Table.ids, admits_cons, admits_append]
  constructor
  · rintro ⟨s, ⟨hid, rfl⟩, h⟩
    split at h
    · exact absurd h (corrupt_ne_ok _ _)
    rename_i hname
    obtain ⟨s, hcols, h⟩ := bind_eq_ok_iff.1 h
    obtain ⟨hc, hnames, rfl⟩ := (validateColumns_eq_ok_iff ..).1 hcols
    split at h
    · exact absurd h (corrupt_ne_ok _ _)
    rename_i hpk
    obtain ⟨s, hidx, h⟩ := bind_eq_ok_iff.1 h
    obtain ⟨hi, hkeys, rfl⟩ := (validateIndexes_eq_ok_iff ..).1 hidx
    obtain ⟨s, hck, h⟩ := bind_eq_ok_iff.1 h
    obtain ⟨hk, rfl⟩ := (validateChecks_eq_ok_iff ..).1 hck
    obtain ⟨s, hfk, h⟩ := bind_eq_ok_iff.1 h
    obtain ⟨hf, hrefs, rfl⟩ := (validateForeignKeys_eq_ok_iff ..).1 hfk
    cases h
    -- each part was admitted after those before it
    refine ⟨trivial, ⟨hid, hc, hi, hk, hf⟩, hname, ⟨hnames.1, fun i hi => (hkeys i hi).1, ?_,
      fun i hi => (hkeys i hi).2, hrefs⟩, by simp⟩
    intro k hk
    simpa using List.find?_eq_none.1 hpk k hk
  · rintro ⟨-, ⟨hid, hc, hi, hk, hf⟩, hname, hwf, rfl⟩
    refine ⟨_, ⟨hid, rfl⟩, ?_⟩
    have hpk : t.primaryKey.find? (fun k => !t.hasColumn k.column) = none := by
      rw [List.find?_eq_none]
      intro k hk
      simp [hwf.refers.primaryKey k hk]
    have hcols := (validateColumns_eq_ok_iff m.nextId t.name (t.id.val :: seen) [] t.columns _).2
      ⟨hc, ⟨hwf.columnNames, by simp⟩, rfl⟩
    have hidx := (validateIndexes_eq_ok_iff m.nextId t _ t.indexes _).2
      ⟨hi, fun i hi => ⟨hwf.indexKeys i hi, hwf.refers.indexes i hi⟩, rfl⟩
    have hck := (validateChecks_eq_ok_iff m.nextId _ t.checks _).2 ⟨hk, rfl⟩
    have hfk := (validateForeignKeys_eq_ok_iff m t _ t.foreignKeys _).2
      ⟨hf, hwf.refers.foreignKeys, rfl⟩
    rw [if_neg hname, hcols, ok_bind, hpk]
    simp only [hidx, hck, hfk, ok_bind]
    simp

/-- When tables are valid. -/
theorem validateTables_eq_ok_iff (m : Model) (seen : List Nat) (names : List String)
    (l : KeyedTables) :
    validateTables m seen names l = .ok ()
      ↔ (∀ e ∈ l, e.2.id = e.1 ∧ e.2.WellFormed m.tables) ∧ Admits m.nextId seen (idsIn l)
        ∧ Unmet names (l.map fun e => Text.lowerText e.2.name) := by
  induction l generalizing seen names with
  | nil => simp [validateTables, admits_nil, unmet_nil]
  | cons e l ih =>
    obtain ⟨key, t⟩ := e
    rw [validateTables, bind_eq_ok_iff]
    simp only [validateTable_eq_ok_iff, List.forall_mem_cons, idsIn_cons, List.map_cons,
      admits_append, unmet_cons]
    constructor
    · rintro ⟨r, ⟨hkey, hids, hname, hwf, rfl⟩, h⟩
      obtain ⟨hl, ha, hu⟩ := (ih _ _).1 h
      exact ⟨⟨⟨hkey, hwf⟩, hl⟩, ⟨hids, ha⟩, hname, hu⟩
    · rintro ⟨⟨⟨hkey, hwf⟩, hl⟩, ⟨hids, ha⟩, hname, hu⟩
      exact ⟨_, ⟨hkey, hids, hname, hwf, rfl⟩, (ih _ _).2 ⟨hl, ha, hu⟩⟩

/-- The table an issue is about, if it is about one, is in the model. -/
def HasTableOf (m : Model) (i : Issue) : Prop :=
  ∀ id, i.target.table? = some id → (m.table? id).isSome = true

/-- When issues are valid. -/
theorem validateIssues_eq_ok_iff (m : Model) (is : List Issue) :
    validateIssues m is = .ok () ↔ ∀ i ∈ is, m.HasTableOf i := by
  induction is with
  | nil => simp [validateIssues]
  | cons i is ih =>
    rw [validateIssues, List.forall_mem_cons, ← ih]
    cases ht : i.target.table? with
    | none => simp [HasTableOf, ht]
    | some id =>
      by_cases hm : (m.table? id).isSome = true
      · simp [HasTableOf, ht, hm]
      · simp [HasTableOf, ht, hm]

/-- What validity asks of a model. -/
structure WellFormed (m : Model) : Prop where
  keyed : ∀ e ∈ m.tables, e.2.id = e.1
  distinct : m.ids.Nodup
  inRange : ∀ i ∈ m.ids, 0 < i ∧ i < m.nextId
  tableNames : (m.tables.map fun e => Text.lowerText e.2.name).Nodup
  tables : ∀ e ∈ m.tables, e.2.WellFormed m.tables
  issues : ∀ i ∈ m.issues, m.HasTableOf i

/-- Every table of a well formed model has a key of its own. -/
theorem WellFormed.nodup_keys {m : Model} (h : m.WellFormed) : (m.tables.map (·.1)).Nodup := by
  have hsub (l : KeyedTables) : (l.map (·.2.id.val)).Sublist (idsIn l) := by
    induction l with
    | nil => exact List.Sublist.refl _
    | cons x l ih => exact (ih.trans (List.sublist_append_right _ _)).cons_cons _
  have hids : (m.tables.map (·.2.id)).Nodup := by
    refine List.Nodup.of_map TableId.val ?_
    rw [List.map_map]
    exact h.distinct.sublist (hsub m.tables)
  rwa [List.map_congr_left fun x hx => h.keyed x hx] at hids

/-- A model is valid exactly if it is well-formed. -/
theorem validate_eq_ok_iff (m : Model) : m.validate = .ok () ↔ m.WellFormed := by
  unfold validate
  rw [bind_eq_ok_iff]
  constructor
  · rintro ⟨⟨⟩, ht, hi⟩
    obtain ⟨hl, ⟨hrange, hids⟩, hnames⟩ := (validateTables_eq_ok_iff ..).1 ht
    exact ⟨fun e he => (hl e he).1, hids.1, hrange, hnames.1, fun e he => (hl e he).2,
      (validateIssues_eq_ok_iff ..).1 hi⟩
  · intro h
    refine ⟨(), (validateTables_eq_ok_iff ..).2 ⟨fun e he => ⟨h.keyed e he, h.tables e he⟩, ?_, ?_⟩,
      (validateIssues_eq_ok_iff ..).2 h.issues⟩
    · exact ⟨h.inRange, h.distinct, by simp⟩
    · exact ⟨h.tableNames, by simp⟩

/-- Of a sound model, validity asks that names are distinct and that no index is empty. -/
theorem Sound.validate_eq_ok_iff {m : Model} (h : m.Sound) :
    m.validate = .ok () ↔
      (m.tables.map fun e => Text.lowerText e.2.name).Nodup
        ∧ ∀ e ∈ m.tables, (e.2.columns.map fun c => Text.lowerText c.name).Nodup
          ∧ ∀ i ∈ e.2.indexes, i.keys ≠ [] := by
  rw [Model.validate_eq_ok_iff]
  constructor
  · intro hw
    exact ⟨hw.tableNames, fun e he => ⟨(hw.tables e he).columnNames, (hw.tables e he).indexKeys⟩⟩
  · rintro ⟨hnames, htables⟩
    refine ⟨h.keyed, h.distinct, h.inRange, hnames, ?_, ?_⟩
    · intro e he
      exact ⟨(htables e he).1, (htables e he).2, h.refers e he⟩
    · intro i hi id hid
      obtain ⟨t, ht, -⟩ := h.targets i hi id hid
      rw [Model.table?_eq_tableIn, ht]
      rfl

end Model

end SchemaBridge
