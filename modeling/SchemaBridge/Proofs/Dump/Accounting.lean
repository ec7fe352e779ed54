/-
# What becomes of the statements of a dump

A reader looks at the first words of a statement, and in a change of a table for a few phrases, before
it has the statement parsed.  Of a statement that it takes up, it puts every part that it knows into
the model or raises an issue.  A statement that it passes over changes nothing.

## Key statements

* `accounts_readStatement`: one statement.
* `reads_accounts`: a whole dump.
-/
import SchemaBridge.Proofs.Assembly.Cancelling
import SchemaBridge.Proofs.Assembly.Parts
import SchemaBridge.Proofs.Dump.Drafting

namespace SchemaBridge

open Builder

namespace Dump.Reader

open Sql (Definition Ident ColumnDefinition TableChange TableConstraint IndexPart)

variable {b b' : Builder} {r r' : Reader} {s : Statement}

/-! ## What the parts of a statement come to -/

/-- What is said of a statement about a table nobody has made. -/
def missingTableIssue (s : Statement) (table : String) : Issue :=
  .raise .missingReference .reader .schema
    ("Statement at line " ++ Text.decimal s.line ++ " refers to unknown table '" ++ table ++ "': "
      ++ summary s.text)

/-- What is said of a constraint that cannot be converted. -/
def lostConstraintIssue (id : TableId) (table what : String) : Issue :=
  .raise .unsupportedConstraint .reader (.table id) (what ++ " on " ++ table ++ " not converted.")

/-- What is said of a detail that was lost in reading a table. -/
def lostDetailIssue (id : TableId) (table note : String) : Issue :=
  .raise .unsupportedConstraint .reader (.table id) (note ++ " on " ++ table ++ ".")

/-- What is said of a statement that cannot be parsed. -/
def unreadIssue (what : String) (s : Statement) (e : String) : Issue :=
  .raise .unsupportedConstruct .reader .schema
    ("Could not parse " ++ what ++ " at line " ++ Text.decimal s.line ++ ": " ++ e)

/-- What is said of a statement that makes something else than a table or an index. -/
def skippedObjectIssue (what : String) (s : Statement) : Issue :=
  .raise .unsupportedConstruct .reader .schema
    ("Skipped " ++ what ++ " at line " ++ Text.decimal s.line ++ ": " ++ summary s.text)

/-- A table of a definition is new in the model, with all that the definition says of it; what cannot
be converted is named.  Or the policy leaves the table out, and that is said. -/
def MakesTable (enums : EnumLabels) (notes : List String) (name : List Ident)
    (columns : List ColumnDefinition) (constraints : List TableConstraint) (b b' : Builder) : Prop :=
  ∃ draft lost, Drafts enums name columns constraints draft lost
    ∧ ((∃ id t, b.model.table? id = none ∧ b'.Holds id t draft
        ∧ (∀ what ∈ lost, lostConstraintIssue id draft.name what ∈ b'.model.issues)
        ∧ ∀ note ∈ notes, lostDetailIssue id draft.name note ∈ b'.model.issues)
      ∨ ∃ other, skippedIssue draft other ∈ b'.model.issues)

/-- The index that a definition asks for. -/
def indexDraft (name : Option (List Ident)) (unique : Bool) (parts : List IndexPart) : IndexDraft :=
  { name := name.map fun n => (splitName n).2, columns := parts.map keyDraft, unique }

/-- An index of a definition is in the table that is meant, or an issue says why it is not. -/
def MakesIndex (s : Statement) (name : Option (List Ident)) (table : List Ident) (unique : Bool)
    (parts : List IndexPart) (b b' : Builder) : Prop :=
  match b.lookup (splitName table).1 (splitName table).2 with
  | none => missingTableIssue s (splitName table).2 ∈ b'.model.issues
  | some id => b'.HasIndex id (indexDraft name unique parts)

/-- A constraint is with its table; one that cannot be converted is named in an issue. -/
def AddsConstraint (id : TableId) (table : String) (b' : Builder) : TableConstraint → Prop
  | .primaryKey columns => columns ≠ [] → b'.HasKey id (ascending columns)
  | .unique name columns => b'.HasIndex id ⟨name.map (·.value), ascending columns, true⟩
  | .index name columns => b'.HasIndex id ⟨name.map (·.value), ascending columns, false⟩
  | .foreignKey name columns r => b'.HasForeignKey id (foreignKeyDraft name (values columns) r)
  | .check name text => b'.HasCheck id ⟨name.map (·.value), text⟩
  | .other text => lostConstraintIssue id table ("Constraint '" ++ text ++ "'") ∈ b'.model.issues

/-- A column has a default, or draws on a sequence, or an issue says that there is no such column. -/
def HasDefault (id : TableId) (column expr : String) (b' : Builder) : Prop :=
  ∃ t, b'.model.table? id = some t ∧
    match t.columnByName? column with
    | none => Issue.raise .missingReference .reader (.table id)
        ("Default for unknown column " ++ t.name ++ "." ++ column ++ " ignored.") ∈ b'.model.issues
    | some c => if isSequenceDefault expr then c.identity = true ∧ c.default = none
        else c.default = some (.fresh expr)

/-- Of the changes of a table, constraints and defaults are made; all others are passed over. -/
def MakesChange (id : TableId) (table : String) (b b' : Builder) : TableChange → Prop
  | .addConstraint c => AddsConstraint id table b' c
  | .setDefault column text => HasDefault id column.value text b'
  | .addColumn _ | .addIdentity _ | .other => b' = b

/-- The changes of a table are made one by one, if there is such a table. -/
def MakesChanges (s : Statement) (name : List Ident) (changes : List TableChange)
    (b b' : Builder) : Prop :=
  match b.lookup (splitName name).1 (splitName name).2 with
  | none => missingTableIssue s (splitName name).2 ∈ b'.model.issues
  | some id => ∀ c ∈ changes,
      b.Within b' fun b b' => MakesChange id (splitName name).2 b b' c

/-- A column whose name stands after its keyword becomes an identity column, if there is one. -/
def MakesIdentity (s : Statement) (b b' : Builder) : Prop :=
  match wordAfter? ["TABLE", "ONLY"] (Text.words s.text.toList),
    wordAfter? ["COLUMN"] (Text.words s.text.toList) with
  | some table, some column =>
    match b.lookup ((splitDotted table).1.map String.ofList) (String.ofList (splitDotted table).2) with
    | none => missingTableIssue s (String.ofList (splitDotted table).2) ∈ b'.model.issues
    | some id => ∃ t, b'.model.table? id = some t
        ∧ ∀ c, t.columnByName? (String.ofList column) = some c → c.identity = true
  | _, _ => b' = b

/-- A change of a table is made if it adds a generated column, or if one of the phrases occurs in it;
otherwise it is passed over. -/
def MakesAlteration (r : Reader) (s : Statement) (b b' : Builder) : Prop :=
  if Text.occurs " ADD GENERATED ".toList (Text.upper s.text.toList) then MakesIdentity s b b'
  else if relevantPhrases.any fun p => Text.occurs p.toList (Text.upper s.text.toList) then
    match r.definitions s.text with
    | .error e => unreadIssue "ALTER TABLE" s e ∈ b'.model.issues
    | .ok ds => ∀ name changes, Definition.alterTable name changes ∈ ds →
        b.Within b' (MakesChanges s name changes)
  else b' = b

/-- What a reader makes of a statement. -/
def Accounts (r : Reader) (s : Statement) (b b' : Builder) : Prop :=
  match Kind.ofText s.text.toList with
  | .createTable => ∃ ds notes, r.tableDefinitions s = .ok (ds, notes) ∧
      ∀ name columns constraints, Definition.createTable name columns constraints ∈ ds →
        b.Within b' (MakesTable r.enums notes name columns constraints)
  | .alterTable => MakesAlteration r s b b'
  | .createIndex =>
    match r.definitions s.text with
    | .error e => unreadIssue "CREATE INDEX" s e ∈ b'.model.issues
    | .ok ds => ∀ name table unique parts predicate,
        Definition.createIndex name table unique parts predicate ∈ ds →
          b.Within b' (MakesIndex s name table unique parts)
  | .unsupported what => skippedObjectIssue what s ∈ b'.model.issues
  | .createEnum | .ignored => b' = b

/-! ## Tables -/

/-- A table that is added, and the issues about it. -/
theorem makesTable_addTable (h : b.Sound) {enums : EnumLabels} {notes : List String}
    {name : List Ident} {columns : List ColumnDefinition} {constraints : List TableConstraint}
    {id : TableId} {b₁ : Builder}
    (hr : b.addTable (tableDraft enums name columns constraints).1 = (.ok (some id), b₁)) :
    MakesTable enums notes name columns constraints b
      ((lostDetails (tableDraft enums name columns constraints).1
        (tableDraft enums name columns constraints).2 notes).foldl
          (fun b t => b.issue .unsupportedConstraint (.table id) t) b₁) := by
  have hdrafts := drafts_tableDraft enums name columns constraints
  set draft := (tableDraft enums name columns constraints).1
  set lost := (tableDraft enums name columns constraints).2
  obtain ⟨hnew, -, t, hholds⟩ := holds_addTable h hr
  rw [foldl_issue, lostDetails, List.map_append, List.map_map, List.map_map]
  refine ⟨draft, lost, hdrafts, Or.inl ⟨id, t, hnew, ?_, fun what hw => ?_, fun note hn => ?_⟩⟩
  · exact hholds.issues rfl (.ofSame rfl (List.prefix_append _ _) rfl)
  · exact List.mem_append_right _ (List.mem_append_left _ (List.mem_map_of_mem hw))
  · exact List.mem_append_right _ (List.mem_append_right _ (List.mem_map_of_mem hn))

/-- Each table of a statement is made in its turn. -/
theorem within_addTables {enums : EnumLabels} {notes : List String} {ds : List Definition}
    (h : b.Sound) (hr : addTables enums notes b ds = .ok b') :
    ∀ d ∈ ds, b.Within b' fun b b' => ∀ name columns constraints,
      d = .createTable name columns constraints →
        MakesTable enums notes name columns constraints b b' := by
  induction ds generalizing b with
  | nil => exact List.forall_mem_nil _
  | cons d ds ih =>
    cases d with
    | createTable name columns constraints =>
      obtain ⟨b₁, hcalls, hrest, hadd⟩ := addTables_cons h hr
      have h₁ := (hcalls.leads h).sound
      -- what later tables of the statement do leaves this one
      have hmakes : MakesTable enums notes name columns constraints b b₁ := by
        rcases hadd with hnone | ⟨id, b₀, hsome, rfl⟩
        · obtain ⟨other, rfl⟩ := addTable_none hnone
          exact ⟨_, _, drafts_tableDraft enums name columns constraints,
            Or.inr ⟨other, List.mem_append_right _ (List.mem_singleton_self _)⟩⟩
        · exact makesTable_addTable h hsome
      refine .cons (fun _ _ _ heq => ?_) (hcalls.grows h).keeps
        ((calls_addTables h₁ hrest).grows h₁).keeps (ih h₁ hrest)
      cases heq
      exact hmakes
    | alterTable | createIndex | other =>
      have hrest : addTables enums notes b ds = .ok b' := hr
      exact .cons (fun _ _ _ heq => nomatch heq) (.refl b) ((calls_addTables h hrest).grows h).keeps
        (ih h hrest)

/-! ## Changes of tables -/

/-- A constraint is added, or an issue about it. -/
theorem addsConstraint_addConstraint {id : TableId} {table : String} {c : TableConstraint}
    (hid : (b.model.table? id).isSome = true) (hr : addConstraint b id table c = .ok b') :
    AddsConstraint id table b' c := by
  obtain ⟨t, ht⟩ := Option.isSome_iff_exists.1 hid
  -- a constraint by itself is a draft of an empty table, whose parts go to the table that is meant
  have hparts : ∀ draft, applyConstraint (.empty none table) c = .ok draft →
      b'.HasParts id draft ∧ (draft.primaryKey ≠ [] → b'.HasKey id draft.primaryKey) := by
    intro draft hdraft
    unfold addConstraint at hr
    rw [hdraft] at hr
    dsimp only at hr
    rcases hadd : b.addConstraints id draft with ⟨_ | _, b₁⟩
    all_goals rw [hadd] at hr
    case error => cases hr
    cases hr
    obtain ⟨hparts, -, t', ht', -, -, hkey⟩ := hasParts_addConstraints ht hadd
    exact ⟨hparts, fun hne => ⟨t', ht', hkey hne⟩⟩
  cases c with
  | primaryKey columns => exact fun hne => (hparts _ rfl).2 (by simpa [ascending] using hne)
  | unique name columns | index name columns =>
    exact (hparts _ rfl).1.indexes _ (List.mem_singleton_self _)
  | foreignKey name columns r => exact (hparts _ rfl).1.foreignKeys _ (List.mem_singleton_self _)
  | check name e => exact (hparts _ rfl).1.checks _ (List.mem_singleton_self _)
  | other text =>
    cases hr
    exact List.mem_append_right _ (List.mem_singleton_self _)

/-- The column of a name, after it was changed. -/
theorem columnByName?_modifyColumnByName {id : TableId} {t : Table} (ht : b.model.table? id = some t)
    (column : String) {f : Column → Column} (hf : ∀ c, (f c).name = c.name) :
    ∃ t', (b.modifyColumnByName id column f).model.table? id = some t'
      ∧ t'.columnByName? column = (t.columnByName? column).map f := by
  refine ⟨{ t with columns := Table.modifyFirst (fun c => Text.sameFolded c.name column) f t.columns },
    ?_, Table.find?_modifyFirst_self (fun c => by rw [hf]) t.columns⟩
  show (b.model.modifyTable id _).table? id = _
  rw [table?_modifyTable, if_pos rfl, ht]
  rfl

/-- A default is set, or an issue says why not. -/
theorem hasDefault_setColumnDefault {id : TableId} (hid : (b.model.table? id).isSome = true)
    (column expr : String) : HasDefault id column expr (b.setColumnDefault id column expr) := by
  obtain ⟨t, ht⟩ := Option.isSome_iff_exists.1 hid
  unfold setColumnDefault
  rw [ht]
  dsimp only
  cases hc : t.columnByName? column with
  | none =>
    refine ⟨t, ht, ?_⟩
    rw [hc]
    exact List.mem_append_right _ (List.mem_singleton_self _)
  | some c =>
    obtain ⟨t', ht', hc'⟩ := columnByName?_modifyColumnByName ht column
      (f := fun c => if isSequenceDefault expr then { c with identity := true, default := none }
        else { c with default := some (.fresh expr) }) fun c => by split <;> rfl
    refine ⟨t', ht', ?_⟩
    rw [hc', hc, Option.map_some]
    dsimp only
    split <;> simp

/-- A change of a table is made. -/
theorem makesChange_applyChange {id : TableId} {table : String} {c : TableChange}
    (hid : (b.model.table? id).isSome = true) (hr : applyChange id table b c = .ok b') :
    MakesChange id table b b' c := by
  cases c with
  | addConstraint c => exact addsConstraint_addConstraint hid hr
  | setDefault column text =>
    cases hr
    exact hasDefault_setColumnDefault hid column.value text
  | addColumn _ | addIdentity _ | other =>
    cases hr
    rfl

/-- Each change of a table is made in its turn. -/
theorem within_foldlM_applyChange {id : TableId} {table : String} {cs : List TableChange} (h : b.Sound)
    (hid : (b.model.table? id).isSome = true)
    (hr : cs.foldlM (applyChange id table) b = .ok b') :
    ∀ c ∈ cs, b.Within b' fun b b' => MakesChange id table b b' c := by
  induction cs generalizing b with
  | nil => exact List.forall_mem_nil _
  | cons c cs ih =>
    rw [List.foldlM_cons] at hr
    obtain ⟨b₁, h₁, hrest⟩ := bind_eq_ok_iff.1 hr
    have hstep := calls_applyChange hid h₁
    have hleads := hstep.leads h
    have hid₁ := hleads.keeps id hid
    exact .cons (makesChange_applyChange hid h₁) (hstep.grows h).keeps
      ((calls_foldlM_applyChange hleads.sound hid₁ hrest).grows hleads.sound).keeps
      (ih hleads.sound hid₁ hrest)

/-- The changes of each table are made in their turn. -/
theorem within_applyChanges {ds : List Definition} (h : b.Sound)
    (hr : applyChanges s b ds = .ok b') :
    ∀ d ∈ ds, b.Within b' fun b b' => ∀ name changes, d = .alterTable name changes →
      MakesChanges s name changes b b' := by
  induction ds generalizing b with
  | nil => exact List.forall_mem_nil _
  | cons d ds ih =>
    cases d with
    | alterTable name changes =>
      obtain ⟨b₁, hcalls, hrest, hmade⟩ := applyChanges_cons h hr
      have h₁ := (hcalls.leads h).sound
      -- what later statements of the list do leaves these changes
      have hmakes : MakesChanges s name changes b b₁ := by
        unfold MakesChanges
        cases hl : b.lookup (splitName name).1 (splitName name).2 with
        | none =>
          rw [hl] at hmade
          rw [hmade]
          exact List.mem_append_right _ (List.mem_singleton_self _)
        | some id =>
          rw [hl] at hmade
          exact within_foldlM_applyChange h (isSome_of_lookup h hl) hmade
      refine .cons (fun _ _ heq => ?_) (hcalls.grows h).keeps
        ((calls_applyChanges h₁ hrest).grows h₁).keeps (ih h₁ hrest)
      cases heq
      exact hmakes
    | createTable | createIndex | other =>
      have hrest : applyChanges s b ds = .ok b' := hr
      exact .cons (fun _ _ heq => nomatch heq) (.refl b) ((calls_applyChanges h hrest).grows h).keeps
        (ih h hrest)

/-- A clause makes an identity column, or an issue says why not. -/
theorem makesIdentity_addIdentity (h : b.Sound) (s : Statement) :
    MakesIdentity s b (addIdentity b s) := by
  unfold MakesIdentity addIdentity
  dsimp only
  cases wordAfter? ["TABLE", "ONLY"] (Text.words s.text.toList) with
  | none => rfl
  | some table =>
    cases wordAfter? ["COLUMN"] (Text.words s.text.toList) with
    | none => rfl
    | some column =>
      dsimp only
      cases hl : b.lookup ((splitDotted table).1.map String.ofList)
          (String.ofList (splitDotted table).2) with
      | none => exact List.mem_append_right _ (List.mem_singleton_self _)
      | some id =>
        obtain ⟨t, ht⟩ := Option.isSome_iff_exists.1 (isSome_of_lookup h hl)
        obtain ⟨t', ht', hc'⟩ := columnByName?_modifyColumnByName ht (String.ofList column)
          (f := fun c => { c with identity := true }) fun _ => rfl
        refine ⟨t', ht', fun c hc => ?_⟩
        rw [hc'] at hc
        obtain ⟨c₀, -, rfl⟩ := Option.map_eq_some_iff.1 hc
        rfl

/-- A statement that changes a table does what it says, or is passed over. -/
theorem makesAlteration_alterTable (h : b.Sound) (hr : r.alterTable b s = .ok b') :
    MakesAlteration r s b b' := by
  unfold alterTable at hr
  unfold MakesAlteration
  dsimp only at hr
  split at hr
  · -- identity clauses are looked for in the text, before anything is parsed
    rename_i hidentity
    rw [if_pos hidentity]
    cases hr
    exact makesIdentity_addIdentity h s
  rename_i hidentity
  rw [if_neg hidentity]
  split at hr
  · rename_i hrelevant
    rw [if_pos hrelevant]
    split at hr
    · rename_i ds hds
      rw [hds]
      exact fun name changes hd => (within_applyChanges h hr _ hd).imp fun _ _ hmakes => hmakes _ _ rfl
    · rename_i e he
      rw [he]
      cases hr
      exact List.mem_append_right _ (List.mem_singleton_self _)
  · rename_i hrelevant
    rw [if_neg hrelevant]
    cases hr
    rfl

/-! ## Indexes -/

/-- A statement that makes an index does, or an issue says why not. -/
theorem makesIndex_addIndex (h : b.Sound) (s : Statement) (name : Option (List Ident))
    (table : List Ident) (unique : Bool) (parts : List IndexPart) (predicate : Option String) :
    MakesIndex s name table unique parts b
      (addIndex s b (.createIndex name table unique parts predicate)) := by
  unfold MakesIndex addIndex
  dsimp only
  cases hl : b.lookup (splitName table).1 (splitName table).2 with
  | none => exact List.mem_append_right _ (List.mem_singleton_self _)
  | some id => exact hasIndex_addIndex (isSome_of_lookup h hl) (indexDraft name unique parts)

/-- What one of several definitions does, whatever the others do. -/
theorem within_foldl_addIndex {P : Builder → Builder → Prop} (s : Statement) (h : b.Sound)
    {d : Definition} (hstep : ∀ b : Builder, b.Sound → P b (addIndex s b d)) {ds : List Definition}
    (hd : d ∈ ds) : b.Within (ds.foldl (addIndex s) b) P := by
  -- the step is between those of the definitions before it and after it
  obtain ⟨pre, post, rfl⟩ := List.append_of_mem hd
  rw [List.foldl_append, List.foldl_cons]
  have hpre : Calls b (pre.foldl (addIndex s) b) :=
    Calls.foldl pre (fun b d => calls_addIndex b s d) b
  set b₀ := pre.foldl (addIndex s) b
  have h₀ : b₀.Sound := (hpre.leads h).sound
  have hpost : Calls (addIndex s b₀ d) (post.foldl (addIndex s) (addIndex s b₀ d)) :=
    Calls.foldl post (fun b d => calls_addIndex b s d) _
  have h₁ := ((calls_addIndex b₀ s d).leads h₀).sound
  exact ⟨b₀, _, (hpre.grows h).keeps, hstep b₀ h₀, (hpost.grows h₁).keeps⟩

/-! ## Statements -/

/-- **One statement.**  Every part of a statement that is taken up is in the model afterwards, or an
issue names it; a statement that is passed over changes nothing. -/
theorem accounts_readStatement (h : b.Sound) (hr : r.readStatement b s = .ok (r', b')) :
    Accounts r s b b' := by
  unfold readStatement at hr
  unfold Accounts
  -- a statement is passed on by its first words alone
  cases hkind : Kind.ofText s.text.toList with
  | createTable =>
    rw [hkind] at hr
    obtain ⟨b₁, hc, hr⟩ := map_eq_ok_iff.1 hr
    cases hr
    obtain ⟨⟨ds, notes⟩, hds, hadd⟩ := bind_eq_ok_iff.1 hc
    exact ⟨ds, notes, hds, fun name columns constraints hd =>
      (within_addTables h hadd _ hd).imp fun _ _ hmakes => hmakes _ _ _ rfl⟩
  | alterTable =>
    rw [hkind] at hr
    obtain ⟨b₁, hc, hr⟩ := map_eq_ok_iff.1 hr
    cases hr
    exact makesAlteration_alterTable h hc
  | createIndex =>
    rw [hkind] at hr
    cases hr
    dsimp only
    unfold createIndex
    cases r.definitions s.text with
    | error e => exact List.mem_append_right _ (List.mem_singleton_self _)
    | ok ds =>
      exact fun name table unique parts predicate hd => within_foldl_addIndex s h
        (fun b hb => makesIndex_addIndex hb s name table unique parts predicate) hd
  | unsupported what =>
    rw [hkind] at hr
    cases hr
    exact List.mem_append_right _ (List.mem_singleton_self _)
  | createEnum =>
    rw [hkind] at hr
    obtain ⟨r₁, -, hr⟩ := map_eq_ok_iff.1 hr
    cases hr
    rfl
  | ignored =>
    rw [hkind] at hr
    cases hr
    rfl

/-- **A whole dump.**  Whenever the run is cancelled, an issue says so, or every statement of the dump
is accounted for. -/
theorem reads_accounts {dump : String} (h : b.Sound) (hnot : b.aborted = false)
    (hr : Reads readStatement r b (statements r.dialect dump) r' b') :
    (∃ i ∈ b'.model.issues, i.category = .aborted) ∨ ∀ s ∈ statements r.dialect dump,
      b.Within b' fun b₁ b₂ => ∃ r₁ : Reader, r.Alike r₁ ∧ Accounts r₁ s b₁ b₂ :=
  hr.each (I := fun r₁ => r.Alike r₁) calls_readStatement
    (fun hb hi hs => ⟨hi.trans (alike_readStatement hs), _, hi, accounts_readStatement hb hs⟩)
    (.refl r) h hnot

/-- The reading of a dump, as a relation. -/
theorem reads_read {dump : String} (hr : r.read b dump = .ok (r', b')) :
    Reads readStatement r b (statements r.dialect dump) r' b' :=
  reads_readList ((readStatements_eq r b _).symm.trans hr)

/-- A reader of PostgreSQL that remembers no enumeration. -/
def postgresReader : Reader := { dialect := .postgres, enums := [] }

/-- The issues that are left when a dump has been read. -/
def issuesAfter (dump : String) : Option (List String) :=
  match postgresReader.read (newBuilder .postgres) dump with
  | .ok (_, b) => some (b.model.issues.map (·.detail))
  | .error _ => none

/-- A dump with a table, a constraint of it, an index on a column that is not there, and a view. -/
def mixedDump : String :=
  "CREATE TABLE t (a integer);
ALTER TABLE t ADD UNIQUE (a);
CREATE INDEX i ON t (b);
CREATE VIEW v AS SELECT 1;"

theorem reads_accounts_mixedDump :
    issuesAfter mixedDump = some ["Index i on t dropped: 'b' is not a plain column of the table.",
        "Skipped view at line 4: CREATE VIEW v AS SELECT 1"]
      ∧ ∃ (r' : Reader) (b' : Builder), Reads readStatement postgresReader (newBuilder .postgres)
          (statements postgresReader.dialect mixedDump) r' b'
        ∧ ((∃ i ∈ b'.model.issues, i.category = .aborted)
          ∨ ∀ s ∈ statements postgresReader.dialect mixedDump,
            (newBuilder .postgres).Within b' fun b₁ b₂ =>
              ∃ r₁ : Reader, postgresReader.Alike r₁ ∧ Accounts r₁ s b₁ b₂) := by
  have hissues : issuesAfter mixedDump = some
      ["Index i on t dropped: 'b' is not a plain column of the table.",
        "Skipped view at line 4: CREATE VIEW v AS SELECT 1"] := by decide +kernel
  refine ⟨hissues, ?_⟩
  unfold issuesAfter at hissues
  split at hissues
  · rename_i r' b' hread
    exact ⟨r', b', reads_read hread, reads_accounts (Sound.start _ _ _ _) rfl (reads_read hread)⟩
  · cases hissues

/-! ## Statements that are passed over -/

/-- Whether a change adds something to a table. -/
def isAddition : TableChange → Bool
  | .other => false
  | _ => true

/-- Whether a definition adds something to a schema. -/
def addsToSchema : Definition → Bool
  | .alterTable _ changes => changes.any isAddition
  | _ => true

/-- Whether a statement is parsed as one that adds something to a schema, and yet changes nothing when
it is read after a dump. -/
def passesOver (dump text : String) : Bool :=
  match postgresReader.read (newBuilder .postgres) dump with
  | .error _ => false
  | .ok (r, b) =>
    (match r.definitions text with
      | .error _ => false
      | .ok ds => ds.any addsToSchema)
    && match r.read b text with
      | .error _ => false
      | .ok (_, b') => b' = b

/-- Statements that are passed over, each with what stands before it: they make a table by other words,
add a column, or have more white space in them than the phrases that are looked for. -/
def passedOver : List (String × String) :=
  let table := "CREATE TABLE t (a integer);"
  [("", "CREATE TEMP TABLE t (a integer);"),
    ("", "CREATE OR REPLACE TABLE t (a integer);"),
    (table, "ALTER TABLE t ADD COLUMN b text;"),
    (table, "ALTER TABLE t ADD  CONSTRAINT u UNIQUE (a);"),
    (table, "ALTER TABLE t ALTER COLUMN a SET  DEFAULT 1;"),
    (table, "ALTER TABLE t ALTER COLUMN a ADD  GENERATED ALWAYS AS IDENTITY;")]

/-- There are statements that add something to a schema and disappear without a trace. -/
theorem passesOver_passedOver : (passedOver.all fun e => passesOver e.1 e.2) = true := by
  decide +kernel

end Dump.Reader

end SchemaBridge
