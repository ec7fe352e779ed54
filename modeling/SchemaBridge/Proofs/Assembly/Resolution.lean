/-
# Foreign keys that are resolved

Once every table is known, each foreign key that waits becomes a foreign key of its table or an issue
about it.  Which of the two, and what the key consists of, depends on nothing that the others have
become: they are found by the declared names, columns and primary keys of tables, which no foreign key
changes.

## Key statements

* `resolution_eq_ok_iff`: when a foreign key is kept, and with which columns.
* `resolveForeignKey_eq`: what is made of one foreign key.
* `exists_settled`, `exists_settled_finish`: what is made of all of them.
-/
import SchemaBridge.Proofs.Assembly.Parts

namespace SchemaBridge

/-! ## Things that are kept and what is said of those that are not -/

section Kept

variable {ε α : Type}

/-- What is kept of things that are asked for. -/
def kept (l : List (Except ε α)) : List α := l.filterMap Except.toOption

/-- What is said of those that are not. -/
def lost : List (Except ε α) → List ε
  | [] => []
  | .ok _ :: l => lost l
  | .error e :: l => e :: lost l

theorem kept_cons (a : Except ε α) (l : List (Except ε α)) : kept (a :: l) = kept [a] ++ kept l := by
  cases a <;> rfl

theorem lost_cons (a : Except ε α) (l : List (Except ε α)) : lost (a :: l) = lost [a] ++ lost l := by
  cases a <;> rfl

theorem lost_append (l l' : List (Except ε α)) : lost (l ++ l') = lost l ++ lost l' := by
  induction l with
  | nil => rfl
  | cons a l ih => rw [List.cons_append, lost_cons, ih, lost_cons a l, List.append_assoc]

/-- What is lost of several lists. -/
theorem lost_flatMap {β : Type} (l : List β) (f : β → List (Except ε α)) :
    lost (l.flatMap f) = l.flatMap fun x => lost (f x) := by
  induction l with
  | nil => rfl
  | cons x l ih => rw [List.flatMap_cons, List.flatMap_cons, lost_append, ih]

/-- What is kept is one of the results. -/
theorem mem_kept {x : α} {l : List (Except ε α)} (h : x ∈ kept l) : Except.ok x ∈ l := by
  obtain ⟨a, ha, hx⟩ := List.mem_filterMap.1 h
  cases a with
  | error e => cases hx
  | ok y =>
    cases hx
    exact ha

/-- What is said is one of the errors. -/
theorem mem_lost {e : ε} {l : List (Except ε α)} (h : e ∈ lost l) : Except.error e ∈ l := by
  induction l with
  | nil => cases h
  | cons a l ih =>
    cases a with
    | ok x => exact List.mem_cons_of_mem _ (ih h)
    | error e' =>
      rcases List.mem_cons.1 h with rfl | h
      · exact List.mem_cons_self
      · exact List.mem_cons_of_mem _ (ih h)

/-- Whatever is asked for is kept or spoken of, and not both. -/
theorem length_kept_add_lost (l : List (Except ε α)) :
    (kept l).length + (lost l).length = l.length := by
  induction l with
  | nil => rfl
  | cons a l ih =>
    rw [kept_cons, lost_cons, List.length_append, List.length_append, List.length_cons, ← ih]
    cases a with
    | error e =>
      show 0 + (kept l).length + (1 + (lost l).length) = _
      omega
    | ok x =>
      show 1 + (kept l).length + (0 + (lost l).length) = _
      omega

end Kept

namespace Builder

/-! ## One foreign key -/

/-- The table a foreign key refers to. -/
def parent? (b : Builder) (p : PendingForeignKey) : Option (TableId × Table) :=
  (b.parentOf p).bind fun id => (b.model.table? id).map fun t => (id, t)

/-- The table and the columns on both sides of a foreign key, or why it is dropped. -/
def resolution (b : Builder) (child : Table) (p : PendingForeignKey) :
    Except String (TableId × List ColumnId × List ColumnId) :=
  match b.parent? p with
  | none => .error ("referenced table '" ++ p.draft.referencedTable ++ "' not found.")
  | some (id, parent) => (resolveReference child parent p.draft).map fun r => (id, r)

/-- The name of a foreign key; one without is named for its table and columns. -/
def foreignKeyName (child : Table) (d : ForeignKeyDraft) : String :=
  d.name.getD ("fk_" ++ child.name ++ "_" ++ "_".intercalate d.columns)

/-- The foreign key that a draft becomes. -/
def newForeignKey (raw : Nat) (child : Table) (d : ForeignKeyDraft)
    (r : TableId × List ColumnId × List ColumnId) : ForeignKey :=
  { id := ⟨raw⟩
    name := foreignKeyName child d
    columns := r.2.1
    referencedTable := r.1
    referencedColumns := r.2.2
    onDelete := .declared d.onDelete
    onUpdate := .declared d.onUpdate }

/-- What is said of a foreign key that is dropped. -/
def lostForeignKeyIssue (id : TableId) (child : Table) (d : ForeignKeyDraft) (why : String) :
    Issue :=
  .raise .missingReference .reader (.table id)
    ("Foreign key " ++ foreignKeyName child d ++ " on " ++ child.name ++ " dropped: " ++ why)

/-- What becomes of a foreign key: one of its table, or an issue. -/
def settle (b : Builder) (raw : Nat) (child : Table) (p : PendingForeignKey) :
    Except Issue ForeignKey :=
  match b.resolution child p with
  | .ok r => .ok (newForeignKey raw child p.draft r)
  | .error why => .error (lostForeignKeyIssue p.table child p.draft why)

variable {b b' b'' : Builder} {id : TableId} {child : Table} {p : PendingForeignKey}

/-- The columns of a foreign key are found under their names, at least one on each side and as many on
both. -/
theorem resolveReference_eq_ok_iff {parent : Table} {d : ForeignKeyDraft} {cs rs : List ColumnId} :
    resolveReference child parent d = .ok (cs, rs) ↔ List.Forall₂ child.Names d.columns cs
      ∧ List.Forall₂ parent.Names (referencedNames parent d) rs
      ∧ rs.length = cs.length ∧ rs ≠ [] := by
  rw [← resolveColumns_eq_ok_iff, ← resolveColumns_eq_ok_iff]
  unfold resolveReference
  cases resolveColumns child d.columns with
  | error e => simp
  | ok cs' =>
    dsimp only
    cases resolveColumns parent (referencedNames parent d) with
    | error e => simp
    | ok rs' =>
      dsimp only
      split
      · grind
      · grind

/-- A foreign key is kept when its table is found, and then the columns on both sides. -/
theorem resolution_eq_ok_iff {cs rs : List ColumnId} : b.resolution child p = .ok (id, cs, rs)
    ↔ b.parentOf p = some id ∧ ∃ parent, b.model.table? id = some parent
      ∧ List.Forall₂ child.Names p.draft.columns cs
      ∧ List.Forall₂ parent.Names (referencedNames parent p.draft) rs
      ∧ rs.length = cs.length ∧ rs ≠ [] := by
  unfold resolution parent?
  -- the table is found by its name first, and is then there
  cases b.parentOf p with
  | none => simp
  | some k =>
    rw [Option.bind_some, Option.some.injEq]
    cases hk : b.model.table? k with
    | none =>
      constructor
      · intro h
        cases h
      · rintro ⟨rfl, parent, hparent, -⟩
        rw [hk] at hparent
        cases hparent
    | some parent =>
      rw [Option.map_some]
      dsimp only
      constructor
      · intro h
        cases hr : resolveReference child parent p.draft with
        | error e =>
          rw [hr] at h
          cases h
        | ok r =>
          rw [hr] at h
          cases h
          exact ⟨rfl, parent, hk, resolveReference_eq_ok_iff.1 hr⟩
      · rintro ⟨rfl, parent', hparent', hall⟩
        obtain rfl : parent = parent' := Option.some.inj (hk.symm.trans hparent')
        rw [resolveReference_eq_ok_iff.2 hall]
        rfl

/-- What is made of one foreign key. -/
theorem resolveForeignKey_eq (h : b.Sound) (ht : b.model.table? p.table = some child) :
    b.resolveForeignKey p = match b.settle b.model.nextId child p with
      | .ok key => b.withPart p.table fun t => { t with foreignKeys := t.foreignKeys ++ [key] }
      | .error issue =>
        { b with
          model := Model.addIssue { b.model with nextId := b.model.nextId + 1 } issue } := by
  have hparent : ∀ id, b.parentOf p = some id → (b.model.table? id).isSome = true := by
    intro id hid
    unfold parentOf at hid
    split at hid
    · exact isSome_of_lookup h hid
    · cases hl : b.lookup p.nspace p.draft.referencedTable with
      | none =>
        rw [hl] at hid
        exact isSome_of_lookup h hid
      | some k =>
        rw [hl] at hid
        exact isSome_of_lookup h (hl.trans hid)
  have ht' : ({ b.model with nextId := b.model.nextId + 1 } : Model).table? p.table = some child := ht
  unfold resolveForeignKey settle resolution parent?
  simp only [Model.allocate]
  rw [ht']
  dsimp only
  -- the parent is looked up among names that have not changed
  rw [show Builder.parentOf { b with model := { b.model with nextId := b.model.nextId + 1 } } p
    = b.parentOf p from rfl]
  cases hid : b.parentOf p with
  | none => rfl
  | some k =>
    obtain ⟨parent, hk⟩ := Option.isSome_iff_exists.1 (hparent k hid)
    rw [Option.bind_some, hk, Option.map_some]
    dsimp only
    rw [show ({ b.model with nextId := b.model.nextId + 1 } : Model).table? k = some parent from hk]
    dsimp only
    cases resolveReference child parent p.draft with
    | error why => rfl
    | ok r => rfl

/-! ## What resolving keeps -/

/-- A table without its foreign keys. -/
def withoutForeignKeys (t : Table) : Table := { t with foreignKeys := [] }

/-- Tables that differ in foreign keys alone have one name, the same columns and the same key. -/
theorem parts_of_same {t t' : Table} (h : withoutForeignKeys t = withoutForeignKeys t') :
    t.name = t'.name ∧ t.columns = t'.columns ∧ t.primaryKey = t'.primaryKey := by
  have hname := congrArg Table.name h
  have hcolumns := congrArg Table.columns h
  have hkey := congrArg Table.primaryKey h
  exact ⟨hname, hcolumns, hkey⟩

/-- The same tables but for their foreign keys, under the same declared names. -/
structure SameParents (b b' : Builder) : Prop where
  bySource : b'.bySource = b.bySource
  tables : ∀ k, (b'.model.table? k).map withoutForeignKeys
    = (b.model.table? k).map withoutForeignKeys

namespace SameParents

/-- A table is there if it was, but for its foreign keys. -/
theorem exists_table (h : b.SameParents b') {t : Table} (ht : b'.model.table? id = some t) :
    ∃ u, b.model.table? id = some u ∧ withoutForeignKeys u = withoutForeignKeys t := by
  have hsame := h.tables id
  rw [ht] at hsame
  exact Option.map_eq_some_iff.1 hsame.symm

/-- The table that a foreign key refers to does not depend on foreign keys. -/
theorem parentOf (h : b.SameParents b') (p : PendingForeignKey) : b'.parentOf p = b.parentOf p := by
  unfold Builder.parentOf Builder.lookup
  rw [h.bySource]

/-- Tables that differ in their foreign keys alone lead to the same result. -/
theorem resolution (h : b.SameParents b') {child' : Table}
    (hchild : withoutForeignKeys child = withoutForeignKeys child') (p : PendingForeignKey) :
    b'.resolution child' p = b.resolution child p := by
  obtain ⟨-, hcolumns, -⟩ := parts_of_same hchild
  have href : ∀ t t', withoutForeignKeys t = withoutForeignKeys t' →
      resolveReference child' t' p.draft = resolveReference child t p.draft := by
    intro t t' ht
    obtain ⟨hname, hc, hkey⟩ := parts_of_same ht
    have hnames : referencedNames t' p.draft = referencedNames t p.draft := by
      unfold referencedNames Table.columnName Table.column?
      rw [hc, hkey]
    unfold resolveReference
    rw [hnames, resolveColumns_congr hcolumns.symm, resolveColumns_congr hc.symm, hname]
  unfold Builder.resolution parent?
  rw [h.parentOf]
  cases b.parentOf p with
  | none => rfl
  | some k =>
    rw [Option.bind_some, Option.bind_some]
    have hsame := h.tables k
    cases hk : b.model.table? k with
    | none =>
      rw [hk] at hsame
      rw [Option.map_eq_none_iff.1 hsame]
      rfl
    | some t =>
      rw [hk] at hsame
      obtain ⟨t', ht', hsame⟩ := Option.map_eq_some_iff.1 hsame
      rw [ht', Option.map_some, Option.map_some]
      dsimp only
      rw [href t t' hsame.symm]

/-- What a foreign key becomes does not depend on foreign keys. -/
theorem settle (h : b.SameParents b') {child' : Table}
    (hchild : withoutForeignKeys child = withoutForeignKeys child') (raw : Nat)
    (p : PendingForeignKey) : b'.settle raw child' p = b.settle raw child p := by
  obtain ⟨hname, -⟩ := parts_of_same hchild
  unfold Builder.settle newForeignKey lostForeignKeyIssue foreignKeyName
  rw [h.resolution hchild, hname]

/-- A foreign key is resolved among the same tables as the one before. -/
theorem resolveForeignKey (h : b.Sound) (ht : b.model.table? p.table = some child) :
    b.SameParents (b.resolveForeignKey p) := by
  rw [resolveForeignKey_eq h ht]
  cases b.settle b.model.nextId child p with
  | error issue => exact ⟨rfl, fun _ => rfl⟩
  | ok key =>
    refine ⟨rfl, fun k => ?_⟩
    dsimp only
    rw [table?_withPart]
    split
    · rw [Option.map_map]
      rfl
    · rfl

end SameParents

/-! ## All foreign keys -/

/-- The table of a foreign key, and what has become of it. -/
abbrev Settled := TableId × Except Issue ForeignKey

/-- What becomes of a foreign key that waits. -/
def Settles (b : Builder) (p : PendingForeignKey) (s : Settled) : Prop :=
  s.1 = p.table ∧ ∃ raw child, b.model.table? p.table = some child ∧ s.2 = b.settle raw child p

/-- The foreign keys of a table among what has become of them all. -/
def keysOf (id : TableId) (l : List Settled) : List ForeignKey :=
  kept ((l.filter (·.1 = id)).map (·.2))

/-- The issues among what has become of foreign keys. -/
def issuesOf (l : List Settled) : List Issue := lost (l.map (·.2))

/-- The foreign keys that one table has of what is settled. -/
theorem keysOf_cons (id : TableId) (s : Settled) (l : List Settled) :
    keysOf id (s :: l) = if s.1 = id then kept [s.2] ++ keysOf id l else keysOf id l := by
  unfold keysOf
  rw [List.filter_cons]
  by_cases h : s.1 = id
  · simp only [h, decide_true, if_true, List.map_cons]
    exact kept_cons _ _
  · simp only [h, decide_false, Bool.false_eq_true, if_false]

/-- What is said of what is settled. -/
theorem issuesOf_cons (s : Settled) (l : List Settled) :
    issuesOf (s :: l) = lost [s.2] ++ issuesOf l :=
  lost_cons s.2 (l.map fun s : Settled => s.2)

/-- A model with what has become of foreign keys. -/
def withSettled (m : Model) (l : List Settled) : Model :=
  { m with
    tables := m.tables.map fun e =>
      (e.1, { e.2 with foreignKeys := e.2.foreignKeys ++ keysOf e.1 l })
    issues := m.issues ++ issuesOf l
    nextId := m.nextId + l.length }

/-- Nothing is settled. -/
theorem withSettled_nil (m : Model) : withSettled m [] = m := by
  have htables : (m.tables.map fun e =>
      (e.1, { e.2 with foreignKeys := e.2.foreignKeys ++ keysOf e.1 [] })) = m.tables := by
    conv_rhs => rw [← List.map_id m.tables]
    refine List.map_congr_left fun e _ => ?_
    show (e.1, { e.2 with foreignKeys := e.2.foreignKeys ++ [] }) = e
    rw [List.append_nil]
  unfold withSettled
  rw [htables, show issuesOf [] = [] from rfl, List.append_nil]
  rfl

/-- What has become of the first, and then of the others. -/
theorem withSettled_cons (h : b.Sound) (ht : b.model.table? p.table = some child)
    (l : List Settled) : withSettled (b.resolveForeignKey p).model l
      = withSettled b.model ((p.table, b.settle b.model.nextId child p) :: l) := by
  have hnext : b.model.nextId + 1 + l.length = b.model.nextId + (l.length + 1) := by
    rw [Nat.add_assoc, Nat.add_comm 1]
  rw [resolveForeignKey_eq h ht]
  cases b.settle b.model.nextId child p with
  | error issue =>
    have hkeys : ∀ k, keysOf k ((p.table, .error issue) :: l) = keysOf k l := by
      intro k
      rw [keysOf_cons]
      exact ite_self (keysOf k l)
    unfold withSettled
    simp only [hkeys, issuesOf_cons, Model.addIssue, List.length_cons, List.append_assoc, hnext]
    rfl
  | ok key =>
    unfold withSettled withPart
    simp only [keysOf_cons, issuesOf_cons, Model.modifyTable, List.map_map, List.length_cons, hnext]
    congr 1
    refine List.map_congr_left fun e _ => ?_
    by_cases hk : e.1 = p.table
    · simp only [Function.comp_apply, hk, if_true, List.append_assoc]
      rfl
    · simp only [Function.comp_apply, if_neg hk, if_neg (Ne.symm hk)]

/-- What is made of all foreign keys that wait.  Each becomes what it would become on its own. -/
theorem exists_settled {ps : List PendingForeignKey} (h : b.Sound)
    (hthere : ∀ p ∈ ps, (b.model.table? p.table).isSome = true) :
    ∃ l, List.Forall₂ b.Settles ps l
      ∧ (ps.foldl resolveForeignKey b).model = withSettled b.model l := by
  induction ps generalizing b with
  | nil => exact ⟨[], .nil, (withSettled_nil b.model).symm⟩
  | cons p ps ih =>
    obtain ⟨hp, hrest⟩ := List.forall_mem_cons.1 hthere
    obtain ⟨child, ht⟩ := Option.isSome_iff_exists.1 hp
    have hleads := Leads.resolveForeignKey h p
    have hsame := SameParents.resolveForeignKey h ht
    obtain ⟨l, hl, hmodel⟩ := ih hleads.sound fun q hq => hleads.keeps _ (hrest q hq)
    refine ⟨(p.table, b.settle b.model.nextId child p) :: l, .cons ⟨rfl, _, child, ht, rfl⟩ ?_, ?_⟩
    · -- what the others become after this one they would have become before
      refine hl.imp fun q s hs => ?_
      obtain ⟨hid, raw, child', ht', hsettle⟩ := hs
      obtain ⟨u, hu, hsameTable⟩ := hsame.exists_table ht'
      exact ⟨hid, raw, u, hu, hsettle.trans (hsame.settle hsameTable raw q)⟩
    · rw [List.foldl_cons, hmodel, withSettled_cons h ht]

/-- What is made of those that wait. -/
theorem exists_settled_finish (h : b.Sound)
    (hthere : ∀ p ∈ b.pending, (b.model.table? p.table).isSome = true) :
    ∃ l, List.Forall₂ b.Settles b.pending l ∧ b.finish = withSettled b.model l := by
  have hstart : ({ b with pending := [] } : Builder).Sound := ⟨h.model, h.known, h.described⟩
  obtain ⟨l, hl, hmodel⟩ := exists_settled hstart hthere
  exact ⟨l, hl, hmodel⟩

end Builder

end SchemaBridge
