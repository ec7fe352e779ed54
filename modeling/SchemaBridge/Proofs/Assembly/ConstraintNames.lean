/-
# Names of constraints

A foreign key without a name is named for its table and columns, a check without one for its table and
its number there.  Neither looks at the names that are there already or still to come.  So among the
names of a finished table there are two that are the same just when a name that was given is one that
is made, or when two foreign keys without names have the same columns.

## Key statements

* `Builder.HasConstraintsAsked.addTable`, `Builder.NamesConstraints.resolveForeignKey`: what calls do
  to the names of constraints.
* `Operation.asked_leave`, `Operation.asked_leaveAll`: the same for any call, and for any list of them.
* `nodup_constraintNames_iff`: when no two constraints of a finished table have the same name.
-/
import SchemaBridge.Proofs.Assembly.Ledger

namespace SchemaBridge

open Text (Comparison)

/-! ## Names that are given and names that are made -/

/-- The name that is made for a foreign key. -/
def madeKeyName (table : String) (d : ForeignKeyDraft) : String :=
  "fk_" ++ table ++ "_" ++ "_".intercalate d.columns

/-- The name that is made for a check, of which there are `i` before it. -/
def madeCheckName (table : String) (i : Nat) : String :=
  table ++ "_check" ++ Text.decimal (i + 1)

/-- The names of the checks of a table, in the order in which they were asked for. -/
def checkNames (table : String) (ds : List CheckDraft) : List String :=
  ds.zipIdx.map fun x => x.1.name.getD (madeCheckName table x.2)

/-- One check more, with the name that is given or made for its place. -/
theorem checkNames_concat (table : String) (ds : List CheckDraft) (d : CheckDraft) :
    checkNames table (ds ++ [d])
      = checkNames table ds ++ [d.name.getD (madeCheckName table ds.length)] := by
  unfold checkNames
  rw [List.zipIdx_append, List.map_append, Nat.zero_add]
  rfl

/-- Every check has one name. -/
theorem length_checkNames (table : String) (ds : List CheckDraft) :
    (checkNames table ds).length = ds.length := by
  unfold checkNames
  rw [List.length_map, List.length_zipIdx]

/-- The names that are given among those of foreign keys and checks. -/
def givenNames (keys : List ForeignKeyDraft) (checks : List CheckDraft) : List String :=
  keys.filterMap (·.name) ++ checks.filterMap (·.name)

/-- The foreign keys that have no name of their own. -/
def unnamedKeys (keys : List ForeignKeyDraft) : List ForeignKeyDraft := keys.filter (·.name.isNone)

/-- How many checks there are before each of those that have no name of their own. -/
def unnamedChecks (checks : List CheckDraft) : List Nat :=
  (checks.zipIdx.filter (·.1.name.isNone)).map (·.2)

/-- The names that are made among those of foreign keys and checks. -/
def madeNames (table : String) (keys : List ForeignKeyDraft) (checks : List CheckDraft) :
    List String :=
  (unnamedKeys keys).map (madeKeyName table) ++ (unnamedChecks checks).map (madeCheckName table)

/-- The names of all constraints of a table. -/
def Table.constraintNames (t : Table) : List String :=
  t.foreignKeys.map (·.name) ++ t.checks.map (·.name)

/-- Names are those that are given, and those that are made for want of one. -/
theorem perm_map_getD {α : Type} (given : α → Option String) (made : α → String) (l : List α) :
    (l.map fun a => (given a).getD (made a)).Perm
      (l.filterMap given ++ (l.filter fun a => (given a).isNone).map made) := by
  induction l with
  | nil => exact .nil
  | cons a l ih =>
    cases h : given a with
    | some n =>
      rw [List.map_cons, List.filterMap_cons_some h, List.filter_cons_of_neg (by simp [h]), h]
      exact ih.cons n
    | none =>
      rw [List.map_cons, List.filterMap_cons_none h, List.filter_cons_of_pos (by simp [h]), h]
      exact (ih.cons (made a)).trans List.perm_middle.symm

/-- The names of checks are those given and those made, in some order. -/
theorem perm_checkNames (table : String) (ds : List CheckDraft) : (checkNames table ds).Perm
    (ds.filterMap (·.name) ++ (unnamedChecks ds).map (madeCheckName table)) := by
  have hperm := perm_map_getD (fun x : CheckDraft × Nat => x.1.name)
    (fun x => madeCheckName table x.2) ds.zipIdx
  have hgiven : ds.zipIdx.filterMap (fun x => x.1.name) = ds.filterMap (·.name) := by
    conv_rhs => rw [← List.zipIdx_map_fst 0 ds, List.filterMap_map]
    rfl
  rw [hgiven] at hperm
  unfold unnamedChecks
  rw [List.map_map]
  exact hperm

/-- The names of constraints are those given and those made, in some order. -/
theorem perm_constraintNames {t : Table} {keys : List ForeignKeyDraft} {checks : List CheckDraft}
    (hkeys : t.foreignKeys.map (·.name) = keys.map (Builder.foreignKeyName t))
    (hchecks : t.checks.map (·.name) = checkNames t.name checks) :
    t.constraintNames.Perm (givenNames keys checks ++ madeNames t.name keys checks) := by
  have hk : (keys.map (Builder.foreignKeyName t)).Perm
      (keys.filterMap (·.name) ++ (unnamedKeys keys).map (madeKeyName t.name)) :=
    perm_map_getD ForeignKeyDraft.name (madeKeyName t.name) keys
  unfold Table.constraintNames givenNames madeNames
  rw [hkeys, hchecks]
  refine (hk.append (perm_checkNames t.name checks)).trans ?_
  -- what is made for foreign keys and what is given for checks change places
  rw [List.append_assoc, List.append_assoc, ← List.append_assoc _ (checks.filterMap _),
    ← List.append_assoc _ ((unnamedKeys keys).map _)]
  exact List.perm_append_comm.append_right _ |>.append_left _

/-! ## Names that are made, compared -/

section Made

variable (c : Comparison) (table : String)

/-- How the name made for a foreign key begins. -/
theorem form_madeKeyName (d : ForeignKeyDraft) : c.form (madeKeyName table d)
    = 'f' :: 'k' :: '_' :: (c.form table ++ '_' :: c.form ("_".intercalate d.columns)) := by
  have hascii : Text.IsAscii "fk" := by decide
  have hfk : c.form ("fk" ++ "_" ++ table) = c.form "fk" ++ '_' :: c.form table := c.form_sign _ _
  have hjoin : c.form (madeKeyName table d)
      = c.form ("fk" ++ "_" ++ table) ++ '_' :: c.form ("_".intercalate d.columns) := c.form_sign _ _
  rw [hjoin, hfk, c.form_of_ascii hascii]
  rfl

/-- How the name made for a check ends. -/
theorem form_madeCheckName (i : Nat) : c.form (madeCheckName table i)
    = c.form table ++ '_' :: 'c' :: ("heck".toList ++ Nat.toDigits 10 (i + 1)) := by
  have hascii : Text.IsAscii "check" := by decide
  have hname : madeCheckName table i = table ++ "_" ++ ("check" ++ Text.decimal (i + 1)) := by
    show table ++ ("_" ++ "check") ++ _ = _
    simp only [String.append_assoc]
  have hdigits : Text.folded ("check" ++ Text.decimal (i + 1))
      = "check".toList ++ Nat.toDigits 10 (i + 1) := by
    have hlist : (Text.decimal (i + 1)).toList = Nat.toDigits 10 (i + 1) := String.toList_ofList
    have hfolded := Text.asciiFold_toDigits (i + 1)
    unfold Text.asciiFold at hfolded
    unfold Text.folded Text.asciiFold
    rw [String.toList_append, List.map_append, hlist, hfolded]
    rfl
  rw [hname, c.form_sign, c.form_of_ascii (hascii.append (Text.isAscii_decimal (i + 1))), hdigits]
  rfl

/-- If a name that starts with `fk_` went on like one that is made for a check, it would start with `fk_`
once more, and so on. -/
theorem fk_ne_check (name rest number : List Char) :
    'f' :: 'k' :: '_' :: (name ++ '_' :: rest) ≠ name ++ '_' :: 'c' :: number := by
  intro h
  match name with
  | [] => simp at h
  | [_] => simp at h
  | [_, _] =>
    simp only [List.cons_append, List.nil_append, List.cons.injEq] at h
    obtain ⟨rfl, -, -, hc, -⟩ := h
    exact absurd hc (by decide)
  | _ :: _ :: _ :: name =>
    simp only [List.cons_append, List.cons.injEq] at h
    obtain ⟨rfl, rfl, rfl, h⟩ := h
    exact fk_ne_check name rest number h

/-- No name made for a foreign key is one made for a check. -/
theorem form_madeKeyName_ne (d : ForeignKeyDraft) (i : Nat) :
    c.form (madeKeyName table d) ≠ c.form (madeCheckName table i) := by
  rw [form_madeKeyName, form_madeCheckName]
  exact fk_ne_check _ _ _

/-- Names made for foreign keys are the same if the columns read the same in a row. -/
theorem form_madeKeyName_inj {d d' : ForeignKeyDraft} :
    c.form (madeKeyName table d) = c.form (madeKeyName table d')
      ↔ c.form ("_".intercalate d.columns) = c.form ("_".intercalate d'.columns) := by
  rw [form_madeKeyName, form_madeKeyName]
  simp

/-- Names made for checks tell their places. -/
theorem form_madeCheckName_inj {i j : Nat}
    (h : c.form (madeCheckName table i) = c.form (madeCheckName table j)) : i = j := by
  rw [form_madeCheckName, form_madeCheckName] at h
  have htail := (List.cons.inj (List.cons.inj (List.append_cancel_left h)).2).2
  have hdecimal : Text.decimal (i + 1) = Text.decimal (j + 1) :=
    congrArg String.ofList (List.append_cancel_left htail)
  exact Nat.succ.inj (Text.decimal_inj hdecimal)

/-- No place of a check is listed twice. -/
theorem nodup_unnamedChecks (checks : List CheckDraft) : (unnamedChecks checks).Nodup := by
  have hall : (checks.zipIdx.map (·.2)).Nodup := by
    rw [List.zipIdx_map_snd]
    exact List.nodup_range'
  exact hall.sublist (List.filter_sublist.map _)

/-- Names that are made differ, but for foreign keys with the same columns. -/
theorem nodup_madeNames_iff (keys : List ForeignKeyDraft) (checks : List CheckDraft) :
    ((madeNames table keys checks).map c.form).Nodup
      ↔ ((unnamedKeys keys).map fun d => c.form ("_".intercalate d.columns)).Nodup := by
  have hchecks : ((unnamedChecks checks).map fun i => c.form (madeCheckName table i)).Nodup :=
    (nodup_unnamedChecks checks).map_on fun i _ j _ => form_madeCheckName_inj c table
  have hdisjoint : ((unnamedKeys keys).map fun d => c.form (madeKeyName table d)).Disjoint
      ((unnamedChecks checks).map fun i => c.form (madeCheckName table i)) := by
    intro f hf hf'
    obtain ⟨d, -, rfl⟩ := List.mem_map.1 hf
    obtain ⟨i, -, hi⟩ := List.mem_map.1 hf'
    exact form_madeKeyName_ne c table d i hi.symm
  have hkeys : ((unnamedKeys keys).map fun d => c.form (madeKeyName table d)).Nodup
      ↔ ((unnamedKeys keys).map fun d => c.form ("_".intercalate d.columns)).Nodup := by
    unfold List.Nodup
    rw [List.pairwise_map, List.pairwise_map]
    simp only [ne_eq, form_madeKeyName_inj]
  unfold madeNames
  rw [List.map_append, List.map_map, List.map_map, List.nodup_append', ← hkeys]
  exact ⟨fun h => h.1, fun h => ⟨h, hchecks, hdisjoint⟩⟩

end Made

/-- Names are distinct when those that are given are, none of these is one that is made, and no two
foreign keys without names have the same columns. -/
theorem nodup_constraintNames_iff_of_given {t : Table} {keys : List ForeignKeyDraft}
    {checks : List CheckDraft} (hkeys : t.foreignKeys.map (·.name) = keys.map (Builder.foreignKeyName t))
    (hchecks : t.checks.map (·.name) = checkNames t.name checks) (c : Comparison)
    (hgiven : ((givenNames keys checks).map c.form).Nodup) :
    (t.constraintNames.map c.form).Nodup
      ↔ (∀ n ∈ givenNames keys checks, ∀ n' ∈ madeNames t.name keys checks, c.form n ≠ c.form n')
        ∧ ((unnamedKeys keys).map fun d => c.form ("_".intercalate d.columns)).Nodup := by
  rw [((perm_constraintNames hkeys hchecks).map c.form).nodup_iff, List.map_append,
    List.nodup_append, nodup_madeNames_iff]
  simp only [List.forall_mem_map]
  exact ⟨fun h => ⟨h.2.2, h.2.1⟩, fun h => ⟨hgiven, h.2, h.1⟩⟩

/-- What the constraints of a table are called, by the drafts of its foreign keys and checks, and when
these names are distinct. -/
structure Table.ClearlyNamed (t : Table) (keys : List ForeignKeyDraft) (checks : List CheckDraft) :
    Prop where
  ofForeignKeys : t.foreignKeys.map (·.name) = keys.map (Builder.foreignKeyName t)
  ofChecks : t.checks.map (·.name) = checkNames t.name checks
  distinct : ∀ c : Comparison, ((givenNames keys checks).map c.form).Nodup →
    ((t.constraintNames.map c.form).Nodup
      ↔ (∀ n ∈ givenNames keys checks, ∀ n' ∈ madeNames t.name keys checks, c.form n ≠ c.form n')
        ∧ ((unnamedKeys keys).map fun d => c.form ("_".intercalate d.columns)).Nodup)

/-! ## What is asked for of one table -/

/-- What is asked for of one table. -/
def askedOf {α : Type} (id : TableId) (l : List (TableId × α)) : List α :=
  (l.filter (·.1 = id)).map (·.2)

/-- What is asked of a table, with more of it. -/
theorem askedOf_append {α : Type} (id k : TableId) (l : List (TableId × α)) (as : List α) :
    askedOf k (l ++ as.map fun a => (id, a)) = askedOf k l ++ if id = k then as else [] := by
  unfold askedOf
  rw [List.filter_append, List.map_append, List.filter_map]
  by_cases h : id = k <;> simp [Function.comp_def, h]

/-- Of a table that nothing is asked of, nothing is asked. -/
theorem askedOf_eq_nil {α : Type} {id : TableId} {l : List (TableId × α)} (h : id ∉ l.map (·.1)) :
    askedOf id l = [] := by
  unfold askedOf
  rw [List.map_eq_nil_iff, List.filter_eq_nil_iff]
  rintro x hx hid
  exact h (of_decide_eq_true hid ▸ List.mem_map_of_mem hx)

/-- The constraints of a table go by names that are given or made.  Its checks are those that were asked
for, its foreign keys some of those. -/
structure Table.IsNamedBy (t : Table) (checks : List CheckDraft) (keys : List ForeignKeyDraft) :
    Prop where
  checks : t.checks.map (·.name) = checkNames t.name checks
  foreignKeys : ∃ ds : List ForeignKeyDraft, ds.Sublist keys
    ∧ t.foreignKeys.map (·.name) = ds.map (Builder.foreignKeyName t)

namespace Table.IsNamedBy

variable {t t' : Table} {checks : List CheckDraft} {keys : List ForeignKeyDraft}

/-- The names of a table depend on its constraints alone. -/
theorem of_constraints (h : t.IsNamedBy checks keys) (hsame : t.constraints = t'.constraints) :
    t'.IsNamedBy checks keys := by
  have hname : t.name = t'.name := by
    have h := congrArg Table.name hsame
    exact h
  have hchecks : t.checks = t'.checks := by
    have h := congrArg Table.checks hsame
    exact h
  have hkeys : t.foreignKeys = t'.foreignKeys := by
    have h := congrArg Table.foreignKeys hsame
    exact h
  obtain ⟨hnames, ds, hsub, hkeyNames⟩ := h
  unfold Builder.foreignKeyName at hkeyNames
  rw [hchecks, hname] at hnames
  rw [hkeys, hname] at hkeyNames
  exact ⟨hnames, ds, hsub, hkeyNames⟩

/-- One more check. -/
theorem check (h : t.IsNamedBy checks keys) (b : Builder) (d : CheckDraft) :
    IsNamedBy { t with checks := t.checks ++ [Builder.newCheck b t d] } (checks ++ [d]) keys := by
  have hcount : t.checks.length = checks.length := by
    rw [← List.length_map (·.name), h.checks, length_checkNames]
  refine ⟨?_, h.foreignKeys⟩
  rw [checkNames_concat, ← h.checks, ← hcount, List.map_append]
  rfl

/-- One more foreign key. -/
theorem foreignKey (h : t.IsNamedBy checks keys) {d : ForeignKeyDraft} {key : ForeignKey}
    (hkey : key.name = Builder.foreignKeyName t d) :
    IsNamedBy { t with foreignKeys := t.foreignKeys ++ [key] } checks (keys ++ [d]) := by
  obtain ⟨ds, hsub, hnames⟩ := h.foreignKeys
  refine ⟨h.checks, ds ++ [d], hsub.append (List.Sublist.refl _), ?_⟩
  rw [List.map_append, hnames, List.map_append, List.map_singleton, hkey]
  rfl

/-- A table that has fewer foreign keys than were asked for is named by more as well. -/
theorem mono (h : t.IsNamedBy checks keys) {keys' : List ForeignKeyDraft}
    (hsub : keys.Sublist keys') : t.IsNamedBy checks keys' := by
  obtain ⟨ds, hds, hnames⟩ := h.foreignKeys
  exact ⟨h.checks, ds, hds.trans hsub, hnames⟩

end Table.IsNamedBy

namespace Builder

variable {b b' : Builder} {id : TableId} {checks : List (TableId × CheckDraft)}
  {keys : List (TableId × ForeignKeyDraft)}

/-- A part that is added to a table changes no identifier of a table. -/
theorem map_fst_withPart (b : Builder) (id : TableId) (f : Table → Table) :
    (b.withPart id f).model.tables.map (·.1) = b.model.tables.map (·.1) :=
  map_fst_changeIn b.model.tables id f

/-- The constraints of all tables go by names that are given or made. -/
structure NamesConstraints (b : Builder) (checks : List (TableId × CheckDraft))
    (keys : List (TableId × ForeignKeyDraft)) : Prop where
  distinct : (b.model.tables.map (·.1)).Nodup
  below : ∀ id ∈ b.model.tables.map (·.1), id.val < b.model.nextId
  there : ∀ x ∈ checks, x.1 ∈ b.model.tables.map (·.1)
  tables : ∀ e ∈ b.model.tables, e.2.IsNamedBy (askedOf e.1 checks) (askedOf e.1 keys)

namespace NamesConstraints

/-- An empty model has no constraints. -/
theorem start (source : SourceDialect) (target : TargetDialect) (policy : CollisionPolicy)
    (audit : Audit) : (Builder.start source target policy audit).NamesConstraints [] [] :=
  ⟨List.nodup_nil, List.forall_mem_nil _, List.forall_mem_nil _, List.forall_mem_nil _⟩

/-- The names of constraints stay if nothing about constraints changes. -/
theorem of_same (h : b.NamesConstraints checks keys) (hsame : b.SameConstraints b') :
    b'.NamesConstraints checks keys := by
  have hids := hsame.map_fst
  refine ⟨hids ▸ h.distinct, fun id hid => ?_, hids ▸ h.there, fun e he => ?_⟩
  · exact Nat.lt_of_lt_of_le (h.below id (hids ▸ hid)) hsame.counter
  · obtain ⟨e', he', hid, heq⟩ := hsame.exists_mem he
    exact hid ▸ (h.tables e' he').of_constraints heq

/-- A change of one table, for which something was asked. -/
theorem withPart (h : b.NamesConstraints checks keys) {f : Table → Table}
    {checks' : List (TableId × CheckDraft)} {keys' : List (TableId × ForeignKeyDraft)}
    (hthere : ∀ x ∈ checks', x.1 ∈ b.model.tables.map (·.1))
    (hself : ∀ t, (id, t) ∈ b.model.tables → (f t).IsNamedBy (askedOf id checks') (askedOf id keys'))
    (hothers : ∀ k, k ≠ id → askedOf k checks' = askedOf k checks ∧ askedOf k keys' = askedOf k keys) :
    (b.withPart id f).NamesConstraints checks' keys' := by
  have hids := map_fst_withPart b id f
  refine ⟨hids ▸ h.distinct, fun k hk => ?_, hids ▸ hthere, fun e he => ?_⟩
  · exact Nat.lt_succ_of_lt (h.below k (hids ▸ hk))
  · obtain ⟨⟨k, t⟩, ht, rfl⟩ := List.mem_map.1 he
    by_cases hk : k = id
    · subst hk
      simp only [if_true]
      exact hself t ht
    · simp only [if_neg hk]
      rw [(hothers k hk).1, (hothers k hk).2]
      exact h.tables _ ht

/-- A check of a table that is there. -/
theorem addCheck (h : b.NamesConstraints checks keys) (hid : id ∈ b.model.tables.map (·.1))
    (d : CheckDraft) :
    (b.addCheck id d).NamesConstraints (checks ++ [d].map fun d => (id, d)) keys := by
  rw [addCheck_eq]
  refine h.withPart ?_ (fun t ht => ?_) fun k hk => ⟨?_, rfl⟩
  · exact List.forall_mem_append.2 ⟨h.there, List.forall_mem_singleton.2 hid⟩
  · rw [askedOf_append, if_pos rfl]
    exact (h.tables _ ht).check b d
  · rw [askedOf_append, if_neg (Ne.symm hk), List.append_nil]

/-- Checks that are added one after another. -/
theorem foldl_addCheck (h : b.NamesConstraints checks keys) (hid : id ∈ b.model.tables.map (·.1))
    (ds : List CheckDraft) :
    (ds.foldl (·.addCheck id ·) b).NamesConstraints (checks ++ ds.map fun d => (id, d)) keys := by
  induction ds generalizing b checks with
  | nil => exact (List.append_nil checks).symm ▸ h
  | cons d ds ih =>
    have hrest := ih (h.addCheck hid d) (map_fst_withPart b id _ ▸ hid)
    rw [List.append_assoc] at hrest
    exact hrest

/-- A new table has no constraints yet. -/
theorem placed (h : b.NamesConstraints checks keys) (draft : TableDraft) (name : String)
    (collided : Option String) (columns : List Column) :
    (b.placed draft name collided columns).NamesConstraints checks keys := by
  set id : TableId := ⟨b.model.nextId⟩ with hid
  have hlast : ∀ e ∈ b.model.tables, e.1.val < b.model.nextId :=
    fun e he => h.below e.1 (List.mem_map_of_mem he)
  have htables : (b.placed draft name collided columns).model.tables
      = b.model.tables ++ [(id, bareTable id draft name columns)] := by
    rw [← insertSorted_eq_append hlast]
    cases collided <;> rfl
  have hcounter : (b.placed draft name collided columns).model.nextId
      = b.model.nextId + 1 + draft.columns.length := by
    cases collided <;> rfl
  have hnew : id ∉ b.model.tables.map (·.1) := nextId_not_mem_map_fst hlast
  -- nothing was asked for of a table that was not there
  have hnone : askedOf id checks = [] := by
    refine askedOf_eq_nil fun hmem => ?_
    obtain ⟨x, hx, heq⟩ := List.mem_map.1 hmem
    exact hnew (heq ▸ h.there x hx)
  refine ⟨?_, ?_, ?_, ?_⟩
  all_goals rw [htables]
  · rw [List.map_append]
    exact h.distinct.append (List.nodup_singleton _) (List.disjoint_singleton.2 hnew)
  · rw [hcounter, List.map_append]
    refine List.forall_mem_append.2 ⟨fun k hk => ?_, List.forall_mem_singleton.2 ?_⟩
    · exact Nat.lt_of_lt_of_le (h.below k hk) (by omega)
    · show b.model.nextId < _
      omega
  · intro x hx
    rw [List.map_append]
    exact List.mem_append_left _ (h.there x hx)
  · refine List.forall_mem_append.2 ⟨h.tables, List.forall_mem_singleton.2 ?_⟩
    rw [hnone]
    exact ⟨rfl, [], List.nil_sublist _, rfl⟩

/-! ### Foreign keys -/

/-- A foreign key that is kept. -/
theorem withForeignKey (h : b.NamesConstraints checks keys) {child : Table}
    (ht : b.model.table? id = some child) {d : ForeignKeyDraft} {key : ForeignKey}
    (hkey : key.name = foreignKeyName child d) :
    (b.withPart id fun t => { t with foreignKeys := t.foreignKeys ++ [key] }).NamesConstraints checks
      (keys ++ [d].map fun d => (id, d)) := by
  refine h.withPart h.there (fun t hmem => ?_) fun k hk => ⟨rfl, ?_⟩
  · -- the table under the identifier is the one for which the foreign key was named
    rw [Model.table?_eq_tableIn, tableIn_of_mem h.distinct hmem] at ht
    obtain rfl := Option.some.inj ht
    rw [askedOf_append, if_pos rfl]
    exact (h.tables _ hmem).foreignKey hkey
  · rw [askedOf_append, if_neg (Ne.symm hk), List.append_nil]

/-- A foreign key that is dropped. -/
theorem dropped (h : b.NamesConstraints checks keys) (id : TableId) (d : ForeignKeyDraft) :
    b.NamesConstraints checks (keys ++ [d].map fun d => (id, d)) := by
  refine ⟨h.distinct, h.below, h.there, fun e he => (h.tables e he).mono ?_⟩
  rw [askedOf_append]
  exact List.sublist_append_left _ _

end NamesConstraints

/-- A foreign key is dropped, or its table has it under its name. -/
theorem resolveForeignKey_cases (b : Builder) (p : PendingForeignKey) :
    b.SameConstraints (b.resolveForeignKey p) ∨ ∃ child key, b.model.table? p.table = some child
      ∧ key.name = foreignKeyName child p.draft
      ∧ b.resolveForeignKey p
        = b.withPart p.table fun t => { t with foreignKeys := t.foreignKeys ++ [key] } := by
  have hsame : ∀ b' : Builder, b'.model.tables = b.model.tables → b'.bySource = b.bySource →
      b'.pending = b.pending → b'.model.nextId = b.model.nextId + 1 → b.SameConstraints b' :=
    fun b' htables hnames hpending hnext =>
      .ofTables htables hnames hpending (hnext ▸ Nat.le_succ _)
  -- the number of a foreign key that is dropped is used up
  unfold resolveForeignKey
  simp only [Model.allocate]
  split
  · exact Or.inl (hsame _ rfl rfl rfl rfl)
  rename_i child hchild
  split
  · exact Or.inl (hsame _ rfl rfl rfl rfl)
  split
  · split <;> exact Or.inl (hsame _ rfl rfl rfl rfl)
  split
  · exact Or.inl (hsame _ rfl rfl rfl rfl)
  · exact Or.inr ⟨child, _, hchild, rfl, rfl⟩

/-- A foreign key that is resolved is kept under its name or dropped. -/
theorem NamesConstraints.resolveForeignKey (h : b.NamesConstraints checks keys) (p : PendingForeignKey) :
    (b.resolveForeignKey p).NamesConstraints checks (keys ++ [p.draft].map fun d => (p.table, d)) := by
  rcases resolveForeignKey_cases b p with hsame | ⟨child, key, ht, hkey, hr⟩
  · exact (h.of_same hsame).dropped p.table p.draft
  · rw [hr]
    exact h.withForeignKey ht hkey

theorem NamesConstraints.foldl_resolveForeignKey (h : b.NamesConstraints checks keys)
    (ps : List PendingForeignKey) :
    (ps.foldl Builder.resolveForeignKey b).NamesConstraints checks
      (keys ++ ps.map fun p => (p.table, p.draft)) := by
  induction ps generalizing b keys with
  | nil => exact (List.append_nil keys).symm ▸ h
  | cons p ps ih =>
    have hrest := ih (h.resolveForeignKey p)
    rw [List.append_assoc] at hrest
    exact hrest

/-! ## Calls -/

/-- Foreign keys that wait are not in the model. -/
theorem model_foldl_addForeignKey (b : Builder) (id : TableId) (ds : List ForeignKeyDraft) :
    (ds.foldl (·.addForeignKey id ·) b).model = b.model := by
  induction ds generalizing b with
  | nil => rfl
  | cons d ds ih => exact ih (b.addForeignKey id d)

/-- Checks that were asked for are there under their names, and foreign keys wait. -/
structure HasConstraintsAsked (b : Builder) (checks : List (TableId × CheckDraft))
    (keys : List (TableId × ForeignKeyDraft)) : Prop where
  names : b.NamesConstraints checks []
  waiting : b.pending.map (fun p => (p.table, p.draft)) = keys

namespace HasConstraintsAsked

theorem of_same (h : b.HasConstraintsAsked checks keys) (hsame : b.SameConstraints b') :
    b'.HasConstraintsAsked checks keys :=
  ⟨h.names.of_same hsame, by rw [hsame.pending, h.waiting]⟩

/-- One foreign key more that waits. -/
theorem addForeignKey (h : b.HasConstraintsAsked checks keys) (id : TableId) (d : ForeignKeyDraft) :
    (b.addForeignKey id d).HasConstraintsAsked checks (keys ++ [(id, d)]) := by
  obtain ⟨⟨hdistinct, hbelow, hthere, htables⟩, hwaiting⟩ := h
  refine ⟨⟨hdistinct, hbelow, hthere, htables⟩, ?_⟩
  rw [← hwaiting]
  exact List.map_append

/-- More foreign keys that wait. -/
theorem foldl_addForeignKey (h : b.HasConstraintsAsked checks keys) (id : TableId)
    (ds : List ForeignKeyDraft) :
    (ds.foldl (·.addForeignKey id ·) b).HasConstraintsAsked checks (keys ++ ds.map fun d => (id, d)) := by
  induction ds generalizing b keys with
  | nil => exact (List.append_nil keys).symm ▸ h
  | cons d ds ih =>
    have hrest := ih (h.addForeignKey id d)
    rw [List.append_assoc] at hrest
    exact hrest

/-- A check makes no foreign key wait. -/
theorem pending_addCheck (b : Builder) (id : TableId) (ds : List CheckDraft) :
    (ds.foldl (·.addCheck id ·) b).pending = b.pending := by
  induction ds generalizing b with
  | nil => rfl
  | cons d ds ih => exact ih (b.addCheck id d)

/-- More checks that are asked for. -/
theorem foldl_addCheck (h : b.HasConstraintsAsked checks keys) (hid : id ∈ b.model.tables.map (·.1))
    (ds : List CheckDraft) :
    (ds.foldl (·.addCheck id ·) b).HasConstraintsAsked (checks ++ ds.map fun d => (id, d)) keys :=
  ⟨h.names.foldl_addCheck hid ds, by rw [pending_addCheck, h.waiting]⟩

/-- The parts of a draft. -/
theorem addParts (h : b.HasConstraintsAsked checks keys) (hid : id ∈ b.model.tables.map (·.1))
    (draft : TableDraft) :
    (b.addParts id draft).HasConstraintsAsked (checks ++ draft.checks.map fun d => (id, d))
      (keys ++ draft.foreignKeys.map fun d => (id, d)) := by
  have hindexes := SameConstraints.foldl (fun b d => .addIndex b id d) draft.indexes b
  have hqueued := (h.of_same hindexes).foldl_addForeignKey id draft.foreignKeys
  refine hqueued.foldl_addCheck ?_ draft.checks
  rw [model_foldl_addForeignKey, hindexes.map_fst]
  exact hid

/-- A table that is added brings the checks and foreign keys of its draft; one that is not brings none. -/
theorem addTable (h : b.HasConstraintsAsked checks keys) (draft : TableDraft) :
    (b.addTable draft).2.HasConstraintsAsked
      (checks ++ match (b.addTable draft).1 with
        | .ok (some id) => draft.checks.map fun d => (id, d)
        | _ => [])
      (keys ++ match (b.addTable draft).1 with
        | .ok (some id) => draft.foreignKeys.map fun d => (id, d)
        | _ => []) := by
  rcases addTable_cases b draft with ⟨hsame, hnone⟩ | ⟨name, collided, columns, -, hcases⟩
  · split
    · rename_i id hid
      exact absurd hid (hnone id)
    · rw [List.append_nil, List.append_nil]
      exact h.of_same hsame
  have hpending : (b.placed draft name collided columns).pending = b.pending := by
    cases collided <;> rfl
  have hplaced : (b.placed draft name collided columns).HasConstraintsAsked checks keys :=
    ⟨h.names.placed draft name collided columns, by rw [hpending, h.waiting]⟩
  have hkeyed := hplaced.of_same (SameConstraints.setKey _ ⟨b.model.nextId⟩ draft)
  -- even if its key is refused the table stays, and then it has no constraints
  rcases hcases with ⟨e, b₁, hkey, hr⟩ | ⟨b₁, hkey, hr⟩
  all_goals
    rw [hkey] at hkeyed
    rw [hr]
  · exact (List.append_nil checks).symm ▸ (List.append_nil keys).symm ▸ hkeyed
  · have hlast : ∀ e ∈ b.model.tables, e.1.val < b.model.nextId :=
      fun e he => h.names.below e.1 (List.mem_map_of_mem he)
    obtain ⟨t, ht, -⟩ := exists_table_setKey hlast hkey
    refine hkeyed.addParts ?_ draft
    rw [← isSome_tableIn_iff, ← Model.table?_eq_tableIn, ht]
    rfl

end HasConstraintsAsked

/-- When the foreign keys are resolved, the constraints of each table go by names given or made. -/
theorem HasConstraintsAsked.finish (h : b.HasConstraintsAsked checks keys) {e : TableId × Table}
    (he : e ∈ b.finish.tables) :
    e.2.IsNamedBy (askedOf e.1 checks) (askedOf e.1 keys) := by
  obtain ⟨⟨hdistinct, hbelow, hthere, htables⟩, hwaiting⟩ := h
  have hstart : NamesConstraints { b with pending := [] } checks [] := ⟨hdistinct, hbelow, hthere, htables⟩
  have hall := hstart.foldl_resolveForeignKey b.pending
  rw [List.nil_append, hwaiting] at hall
  exact hall.tables e he

end Builder

/-! ## Lists of calls -/

namespace Operation

/-- The checks a call asks for.  One of a table that is not there is none. -/
def asksChecks (w : Work) : Operation → List (TableId × CheckDraft)
  | addCheck table draft => if table ∈ w.builder.model.tables.map (·.1) then [(table, draft)] else []
  | addTable draft =>
    match (w.builder.addTable draft).1 with
    | .ok (some id) => draft.checks.map fun d => (id, d)
    | _ => []
  | _ => []

/-- What calls ask for, one after another. -/
def collect {α : Type} (asks : Work → Operation → List α) (w : Work) : List Operation → List α
  | [] => []
  | op :: ops => asks w op ++ collect asks (op.leave w) ops

/-- What calls leave, whether or not they fail. -/
def leaveAll (w : Work) (ops : List Operation) : Work := ops.foldl (fun w op => op.leave w) w

/-- What one operation asks for. -/
theorem asked_leave {w : Work} {checks : List (TableId × CheckDraft)}
    {keys : List (TableId × ForeignKeyDraft)} (h : w.builder.HasConstraintsAsked checks keys)
    (op : Operation) :
    (op.leave w).builder.HasConstraintsAsked (checks ++ op.asksChecks w) (keys ++ op.asks w) := by
  -- calls that touch no constraint
  have hsame : ∀ {b : Builder}, w.builder.SameConstraints b →
      b.HasConstraintsAsked (checks ++ []) (keys ++ []) := by
    intro b hb
    rw [List.append_nil, List.append_nil]
    exact h.of_same hb
  cases op with
  | addTable draft => exact h.addTable draft
  | addForeignKey table draft =>
    exact (List.append_nil checks).symm ▸ h.addForeignKey table draft
  | addCheck table draft =>
    show (w.builder.addCheck table draft).HasConstraintsAsked (checks ++ if _ then _ else _) (keys ++ [])
    split
    · rename_i hid
      exact (List.append_nil keys).symm ▸ h.foldl_addCheck hid [draft]
    · rename_i hid
      refine hsame (.ofTables ?_ rfl rfl (Nat.le_succ _))
      exact changeIn_of_not_mem hid fun u =>
        { u with checks := u.checks ++ [Builder.newCheck w.builder u draft] }
  | setPrimaryKey table columns => exact hsame (.setPrimaryKey w.builder table columns)
  | addIndex table draft => exact hsame (.addIndex w.builder table draft)
  | setColumnDefault table column expr => exact hsame (.setColumnDefault w.builder table column expr)
  | setIdentity table column => exact hsame (.setIdentity w.builder table column)
  | shouldStop => exact hsame (.shouldStop w.builder)
  | lookup _ _ | issue _ _ _ | cancel => exact hsame (.ofTables rfl rfl rfl (Nat.le_refl _))

/-- What operations ask for, one after another. -/
theorem asked_leaveAll {w : Work} {checks : List (TableId × CheckDraft)}
    {keys : List (TableId × ForeignKeyDraft)} (h : w.builder.HasConstraintsAsked checks keys)
    (ops : List Operation) :
    (leaveAll w ops).builder.HasConstraintsAsked (checks ++ collect asksChecks w ops)
      (keys ++ collect asks w ops) := by
  induction ops generalizing w checks keys with
  | nil => exact (List.append_nil checks).symm ▸ (List.append_nil keys).symm ▸ h
  | cons op ops ih =>
    have hrest := ih (asked_leave h op)
    rw [List.append_assoc, List.append_assoc] at hrest
    exact hrest

/-- The checks that calls ask for of a table. -/
def checksOf (w : Work) (ops : List Operation) (id : TableId) : List CheckDraft :=
  askedOf id (collect asksChecks w ops)

/-- The foreign keys that calls ask for of a table. -/
def foreignKeysOf (w : Work) (ops : List Operation) (id : TableId) : List ForeignKeyDraft :=
  askedOf id (collect asks w ops)

end Operation

/-- **Names that are made clash with names that are given.**  After any calls, each check of a finished
table has the name it was given or one with its number, each foreign key the name it was given or one
with its columns.  If those that were given are distinct, all of them are just when none that was given
is one that was made and no two foreign keys without names have the same columns.  A name with a number
and a name with columns are never the same. -/
theorem nodup_constraintNames_iff (source : SourceDialect) (target : TargetDialect)
    (policy : CollisionPolicy) (audit : Audit) (ops : List Operation) {e : TableId × Table}
    (he : e ∈ (Operation.leaveAll (.start source target policy audit) ops).builder.finish.tables) :
    ∃ keys : List ForeignKeyDraft,
      keys.Sublist (Operation.foreignKeysOf (.start source target policy audit) ops e.1)
        ∧ e.2.ClearlyNamed keys
          (Operation.checksOf (.start source target policy audit) ops e.1) := by
  have hstart : (Work.start source target policy audit).builder.HasConstraintsAsked [] [] :=
    ⟨.start source target policy audit, rfl⟩
  have hasked := Operation.asked_leaveAll hstart ops
  obtain ⟨hchecks, keys, hsub, hkeys⟩ := hasked.finish he
  rw [List.nil_append] at hchecks hsub
  exact ⟨keys, hsub, hkeys, hchecks, nodup_constraintNames_iff_of_given hkeys hchecks⟩

/-- A table with a check that has a name, one that has none, and a foreign key to the table itself. -/
def memberDraft (given : String) : TableDraft :=
  { TableDraft.empty none "t" with
    columns := [.plain "a" ⟨"integer", [], [], 0, "integer"⟩]
    primaryKey := [("a", false)]
    foreignKeys := [⟨none, ["a"], none, "t", ["a"], .noAction, .noAction⟩]
    checks := [⟨some given, "a > 0"⟩, ⟨none, "a < 9"⟩] }

theorem nodup_constraintNames_iff_memberDraft :
    ∃ e ∈ (Operation.leaveAll (.start .postgres .google .rename default)
        [.addTable (memberDraft "positive")]).builder.finish.tables,
      e.2.constraintNames = ["fk_t_a", "positive", "t_check2"]
        ∧ ∃ keys, e.2.ClearlyNamed keys (memberDraft "positive").checks := by
  have hfound : ∃ e ∈ (Operation.leaveAll (.start .postgres .google .rename default)
        [.addTable (memberDraft "positive")]).builder.finish.tables,
      e.2.constraintNames = ["fk_t_a", "positive", "t_check2"]
        ∧ Operation.checksOf (.start .postgres .google .rename default)
          [.addTable (memberDraft "positive")] e.1 = (memberDraft "positive").checks := by
    decide +kernel
  obtain ⟨e, he, hnames, hchecks⟩ := hfound
  obtain ⟨keys, -, hclear⟩ := nodup_constraintNames_iff .postgres .google .rename default _ he
  exact ⟨e, he, hnames, keys, hchecks ▸ hclear⟩

/-- The name that is given to the first check of a table is the one that is made for the second. -/
theorem clashing_memberDraft :
    ∃ e ∈ (Operation.leaveAll (.start .postgres .google .rename default)
        [.addTable (memberDraft "t_check2")]).builder.finish.tables,
      givenNames (memberDraft "t_check2").foreignKeys (memberDraft "t_check2").checks = ["t_check2"]
        ∧ e.2.constraintNames = ["fk_t_a", "t_check2", "t_check2"]
        ∧ ∀ c : Comparison, ¬ (e.2.constraintNames.map c.form).Nodup := by
  have hfound : ∃ e ∈ (Operation.leaveAll (.start .postgres .google .rename default)
        [.addTable (memberDraft "t_check2")]).builder.finish.tables,
      givenNames (memberDraft "t_check2").foreignKeys (memberDraft "t_check2").checks = ["t_check2"]
        ∧ e.2.constraintNames = ["fk_t_a", "t_check2", "t_check2"] := by
    decide +kernel
  obtain ⟨e, he, hgiven, hnames⟩ := hfound
  refine ⟨e, he, hgiven, hnames, fun c hnodup => ?_⟩
  rw [hnames, List.map_cons, List.map_cons, List.map_cons] at hnodup
  exact (List.nodup_cons.1 (List.nodup_cons.1 hnodup).2).1 List.mem_cons_self

end SchemaBridge
