/-
# Tables whose names collide

Names of tables collide if they differ in the case of ASCII letters at most.  A table whose name another
one has is given a new name, left out or refused, as the policy has it.  A new name may be the declared
name of a table that comes later, which is then given a new name in its turn; no table gets a new name
once it is there.

## Key statements

* `exists_gains`, `exists_leavesOut`, `exists_refusal`: what one call does.
* `addEach_rename`, `addEach_skip`, `exists_addsEach_of_free`: what becomes of a run of calls.
* `addEach_start`: name collisions under every policy.
-/
import SchemaBridge.Proofs.Assembly.Additions

namespace SchemaBridge

/-- A table has this name, up to the case of ASCII letters. -/
def HasNameIn (l : KeyedTables) (name : String) : Prop :=
  ∃ e ∈ l, Text.folded e.2.name = Text.folded name

/-- The issues about a table that tell of a collision of names. -/
def Model.collisionsAbout (m : Model) (id : TableId) : List Issue :=
  m.issues.filter fun i => decide (i.category = .nameCollision ∧ i.target = .table id)

/-- A table is made of a draft. -/
structure TableDraft.IsMadeInto (d : TableDraft) (t : Table) : Prop where
  sourceName : t.sourceName = d.name
  nspace : t.nspace = d.nspace
  columns : List.Forall₂ Column.Follows d.columns t.columns
  key : Builder.resolveKeys t d.primaryKey = .ok t.primaryKey

/-- A table is made of a draft and has its name. -/
structure TableDraft.IsKept (d : TableDraft) (t : Table) : Prop extends d.IsMadeInto t where
  name : t.name = d.name

/-- The first draft of each name. -/
def firstOfEachName : List TableDraft → List TableDraft
  | [] => []
  | d :: ds => d :: (firstOfEachName ds).filter fun e => !Text.sameFolded e.name d.name

instance (l : KeyedTables) (name : String) : Decidable (HasNameIn l name) :=
  inferInstanceAs (Decidable (∃ e ∈ l, Text.folded e.2.name = Text.folded name))

/-- A name is taken in one part of a list or in the other. -/
theorem hasNameIn_append {l l' : KeyedTables} {name : String} :
    HasNameIn (l ++ l') name ↔ HasNameIn l name ∨ HasNameIn l' name := by
  unfold HasNameIn
  simp only [List.mem_append, or_and_right, exists_or]

/-- One table takes a name if its own is the same up to case. -/
theorem hasNameIn_singleton {id : TableId} {t : Table} {name : String} :
    HasNameIn [(id, t)] name ↔ Text.folded t.name = Text.folded name := by
  unfold HasNameIn
  simp

/-- Whether a name is taken does not depend on its case. -/
theorem HasNameIn.congr {l : KeyedTables} {name name' : String} (h : HasNameIn l name)
    (hsame : Text.folded name' = Text.folded name) : HasNameIn l name' := by
  obtain ⟨e, he, hname⟩ := h
  exact ⟨e, he, hname.trans hsame.symm⟩

/-- The first drafts of the names that no table has yet. -/
def freshFirsts (l : KeyedTables) (ds : List TableDraft) : List TableDraft :=
  (firstOfEachName ds).filter fun d => !decide (HasNameIn l d.name)

/-- A draft whose name is taken is no first one. -/
theorem freshFirsts_of_taken {l : KeyedTables} {d : TableDraft} (h : HasNameIn l d.name)
    (ds : List TableDraft) : freshFirsts l (d :: ds) = freshFirsts l ds := by
  unfold freshFirsts
  rw [firstOfEachName, List.filter_cons_of_neg (by simp [h]), List.filter_filter]
  refine List.filter_congr fun e _ => ?_
  -- a draft with the same name is left out for this name already
  cases hsame : Text.sameFolded e.name d.name with
  | false => simp
  | true => simp [h.congr (Text.sameFolded_iff.1 hsame)]

/-- A draft whose name is free is a first one, and takes the name. -/
theorem freshFirsts_of_free {l : KeyedTables} {d : TableDraft} (h : ¬ HasNameIn l d.name)
    {id : TableId} {t : Table} (ht : t.name = d.name) (ds : List TableDraft) :
    freshFirsts l (d :: ds) = d :: freshFirsts (l ++ [(id, t)]) ds := by
  unfold freshFirsts
  rw [firstOfEachName, List.filter_cons_of_pos (by simp [h]), List.filter_filter]
  refine congrArg _ (List.filter_congr fun e _ => ?_)
  have hsame : Text.sameFolded e.name d.name = decide (Text.folded t.name = Text.folded e.name) := by
    rw [ht, Bool.eq_iff_iff, Text.sameFolded_iff, decide_eq_true_eq]
    exact eq_comm
  simp only [hasNameIn_append, hasNameIn_singleton, hsame, Bool.decide_or, Bool.not_or]

/-- Where no name is taken, the first draft of each name is new. -/
theorem freshFirsts_nil (ds : List TableDraft) : freshFirsts [] ds = firstOfEachName ds := by
  refine List.filter_eq_self.2 fun d _ => ?_
  rw [Bool.not_eq_true', decide_eq_false_iff_not]
  rintro ⟨e, he, -⟩
  cases he

/-- The name of a draft is that of its table. -/
theorem hasNameIn_of_forall₂ {ds : List TableDraft} {l : KeyedTables}
    (h : List.Forall₂ (fun d e => d.IsKept e.2) ds l) {d : TableDraft} (hd : d ∈ ds) :
    HasNameIn l d.name := by
  induction h with
  | nil => cases hd
  | @cons a e ds l ha _ ih =>
    rcases List.mem_cons.1 hd with rfl | hd
    · exact ⟨e, List.mem_cons_self, by rw [ha.name]⟩
    · obtain ⟨e', he', hname⟩ := ih hd
      exact ⟨e', List.mem_cons_of_mem _ he', hname⟩

/-- Every name is that of a first draft. -/
theorem exists_mem_firstOfEachName {ds : List TableDraft} {d : TableDraft} (hd : d ∈ ds) :
    ∃ e ∈ firstOfEachName ds, Text.folded e.name = Text.folded d.name := by
  induction ds with
  | nil => cases hd
  | cons a ds ih =>
    by_cases hsame : Text.folded a.name = Text.folded d.name
    · exact ⟨a, List.mem_cons_self, hsame⟩
    · have hd : d ∈ ds := by
        rcases List.mem_cons.1 hd with rfl | hd
        · exact absurd rfl hsame
        · exact hd
      obtain ⟨e, he, hname⟩ := ih hd
      refine ⟨e, List.mem_cons_of_mem _ (List.mem_filter.2 ⟨he, ?_⟩), hname⟩
      rw [Bool.not_eq_true', ← Bool.not_eq_true, Text.sameFolded_iff, hname]
      exact fun heq => hsame heq.symm

namespace Builder

variable {b b' : Builder} {d : TableDraft} {name : String} {collided : Option String}

/-- A name is taken if a table is found by it. -/
theorem hasNameIn_iff (b : Builder) (name : String) :
    HasNameIn b.model.tables name ↔ (b.model.tableByName? name).isSome = true := by
  rw [Leads.isSome_tableByName?, List.any_map, List.any_eq_true]
  constructor
  · rintro ⟨e, he, hname⟩
    exact ⟨e, he, Text.sameFolded_iff.2 hname⟩
  · rintro ⟨e, he, hname⟩
    exact ⟨e, he, Text.sameFolded_iff.1 hname⟩

/-! ## The policy stays -/

/-- The policy stays through any number of steps that keep it. -/
theorem policy_foldl {α : Type} {f : Builder → α → Builder} (hf : ∀ b a, (f b a).policy = b.policy)
    (l : List α) (b : Builder) : (l.foldl f b).policy = b.policy := by
  induction l generalizing b with
  | nil => rfl
  | cons a l ih => rw [List.foldl_cons, ih, hf]

/-- Adding an index keeps the policy. -/
theorem policy_addIndex (b : Builder) (id : TableId) (draft : IndexDraft) :
    (b.addIndex id draft).policy = b.policy := by
  unfold addIndex
  dsimp only
  split
  · rfl
  · split <;> rfl

/-- Adding the parts of a draft keeps the policy. -/
theorem policy_addParts (b : Builder) (id : TableId) (draft : TableDraft) :
    (b.addParts id draft).policy = b.policy := by
  unfold addParts
  rw [policy_foldl (f := fun b d => b.addCheck id d) (fun _ _ => rfl),
    policy_foldl (f := fun b d => b.addForeignKey id d) (fun _ _ => rfl),
    policy_foldl fun b d => policy_addIndex b id d]

/-- Setting the key of a draft keeps the policy. -/
theorem policy_setKey (b : Builder) (id : TableId) (draft : TableDraft) :
    (b.setKey id draft).2.policy = b.policy := by
  unfold setKey
  split
  · rfl
  · unfold setPrimaryKey
    split
    · rfl
    · split <;> rfl

/-! ## One call -/

/-- What is said of a table that gets another name. -/
def renamedIssue (id : TableId) (draft : TableDraft) (name other : String) : Issue :=
  .raise .nameCollision .reader (.table id)
    ("Table " ++ qualifiedName draft.nspace draft.name ++ " renamed to '" ++ name
      ++ "': its name collides with " ++ other ++ ".")

/-- A table is added under a name, and if this is not its own, it is said why. -/
structure AddsTableUnder (b : Builder) (d : TableDraft) (name : String) (collided : Option String)
    (t : Table) (b' : Builder) : Prop where
  result : b.addTable d = (.ok (some ⟨b.model.nextId⟩), b')
  sound : b'.Sound
  policy : b'.policy = b.policy
  tables : b'.model.tables = b.model.tables ++ [(⟨b.model.nextId⟩, t)]
  made : d.IsMadeInto t
  issues : ∃ l, b'.model.issues = b.model.issues
      ++ (collided.map (renamedIssue ⟨b.model.nextId⟩ d name)).toList ++ l
    ∧ ∀ i ∈ l, i.category = .unsupportedConstraint
  named : t.name = name

/-- A table that is added has been given its key and its other parts. -/
theorem exists_setKey {columns : List Column} (hplaces : b.CanPlace d name collided columns)
    {id : TableId} (hr : b.addTable d = (.ok (some id), b')) :
    ∃ b₁, (b.placed d name collided columns).setKey ⟨b.model.nextId⟩ d = (.ok (), b₁)
      ∧ b' = b₁.addParts ⟨b.model.nextId⟩ d := by
  have hmade := addTable_of_places hplaces
  rcases hkey : (b.placed d name collided columns).setKey ⟨b.model.nextId⟩ d with ⟨_ | _, b₁⟩
  all_goals rw [hkey, hr] at hmade
  case error => cases hmade
  case ok =>
    cases hmade
    exact ⟨b₁, rfl, rfl⟩

/-- A well-formed draft with a name that can be chosen is added. -/
theorem exists_gains (h : b.Sound) (hd : d.IsWellFormed)
    (hname : b.chooseName d = (.ok (some (name, collided)), b)) :
    ∃ t b', b.AddsTableUnder d name collided t b' := by
  have hlast : ∀ e ∈ b.model.tables, e.1.val < b.model.nextId := fun _ he => h.model.key_lt he
  obtain ⟨columns, b', hplaces, hr⟩ := exists_addTable_as h hd hname
  obtain ⟨t, htables, hnamed, -, hholds⟩ := tables_addTable h hplaces hr
  obtain ⟨b₁, hkey, rfl⟩ := exists_setKey hplaces hr
  refine ⟨t, _, hr, sound_addTable h hr, ?_, htables,
    ⟨hholds.sourceName, hholds.nspace, hholds.columns, hholds.key⟩, ?_, hnamed⟩
  · have hpolicy := policy_setKey (b.placed d name collided columns) ⟨b.model.nextId⟩ d
    rw [hkey] at hpolicy
    rw [policy_addParts, hpolicy]
    cases collided <;> rfl
  · have hissues := issues_setKey (b.placed d name collided columns) ⟨b.model.nextId⟩ d
    rw [hkey] at hissues
    obtain ⟨-, cs, parts, ht, -⟩ := setKey_ok (table?_placed_self hlast d name collided columns) hkey
    obtain ⟨l, -, hl, -, -, hparts⟩ := answers_addParts ht d
    refine ⟨lost l, ?_, category_of_answers hl⟩
    rw [hparts, hissues]
    cases collided with
    | none =>
      rw [Option.map_none, Option.toList_none, List.append_nil]
      rfl
    | some other => rfl

/-- A table whose name no other has keeps it. -/
theorem exists_gains_of_free (h : b.Sound) (hd : d.IsWellFormed)
    (hfree : ¬ HasNameIn b.model.tables d.name) : ∃ t b', b.AddsTableUnder d d.name none t b' := by
  refine exists_gains h hd ?_
  rw [hasNameIn_iff, Option.not_isSome_iff_eq_none] at hfree
  unfold chooseName
  rw [hfree]

/-- Where a name is taken, the table that has it is found. -/
theorem exists_tableByName? (htaken : HasNameIn b.model.tables d.name) :
    ∃ other, b.model.tableByName? d.name = some other :=
  Option.isSome_iff_exists.1 ((hasNameIn_iff b d.name).1 htaken)

/-- A table whose name another one has is given a new one. -/
theorem exists_gains_of_taken (h : b.Sound) (hpolicy : b.policy = .rename) (hd : d.IsWellFormed)
    (htaken : HasNameIn b.model.tables d.name) :
    ∃ other t b', b.AddsTableUnder d (b.freshTableName d.nspace d.name) (some other) t b' := by
  obtain ⟨other, hother⟩ := exists_tableByName? htaken
  refine ⟨qualifiedName other.nspace other.sourceName, exists_gains h hd ?_⟩
  unfold chooseName
  rw [hother]
  dsimp only
  rw [hpolicy]

/-- A new name is not the declared one. -/
theorem freshTableName_ne (b : Builder) (nspace : Option String) (name : String) :
    b.freshTableName nspace name ≠ name := by
  unfold freshTableName
  refine Text.freshName_ne ?_ _ 2 b.tableCount
  cases nspace with
  | none =>
    dsimp only
    rw [String.length_append]
    exact Nat.lt_add_of_pos_right (by decide)
  | some ns =>
    dsimp only
    rw [String.length_append, String.length_append]
    have hline : "_".length = 1 := by decide
    omega

/-- A table is left out, and nothing changes but that this is said. -/
structure LeavesOut (b : Builder) (d : TableDraft) (b' : Builder) : Prop where
  result : b.addTable d = (.ok none, b')
  nextId : b'.model.nextId = b.model.nextId
  tables : b'.model.tables = b.model.tables
  lookup : ∀ nspace name, b'.lookup nspace name = b.lookup nspace name
  issue : ∃ i, i.category = .nameCollision ∧ i.target = .schema
    ∧ b' = { b with model := b.model.addIssue i }

/-- Where names that are taken are skipped, such a draft is left out. -/
theorem exists_leavesOut (hpolicy : b.policy = .skip) (htaken : HasNameIn b.model.tables d.name) :
    ∃ b', b.LeavesOut d b' := by
  obtain ⟨other, hother⟩ := exists_tableByName? htaken
  have hr : b.addTable d = (.ok none, b.issue .nameCollision .schema
      ("Table " ++ qualifiedName d.nspace d.name ++ " skipped: its name collides with "
        ++ qualifiedName other.nspace other.sourceName ++ ".")) := by
    unfold addTable chooseName
    rw [hother]
    dsimp only
    rw [hpolicy]
  exact ⟨_, hr, rfl, rfl, fun _ _ => rfl, skippedIssue d other, rfl, rfl, rfl⟩

/-- A table is refused, and nothing changes. -/
theorem exists_refusal (hpolicy : b.policy = .error) (htaken : HasNameIn b.model.tables d.name) :
    ∃ e, b.addTable d = (.error e, b) := by
  obtain ⟨other, hother⟩ := exists_tableByName? htaken
  unfold addTable chooseName
  rw [hother]
  dsimp only
  rw [hpolicy]
  exact ⟨_, rfl⟩

/-! ## Issues about a table -/

namespace AddsTableUnder

variable {t : Table}

/-- The addition of a table tells of its own name alone. -/
theorem collisionsAbout (h : b.AddsTableUnder d name collided t b') (id : TableId) :
    b'.model.collisionsAbout id = b.model.collisionsAbout id
      ++ (if id = ⟨b.model.nextId⟩ then
        (collided.map (renamedIssue ⟨b.model.nextId⟩ d name)).toList else []) := by
  obtain ⟨l, hissues, hl⟩ := h.issues
  -- what is said of lost parts has another category
  have hrest : l.filter (fun i => decide (i.category = .nameCollision ∧ i.target = .table id)) = [] := by
    refine List.filter_eq_nil_iff.2 fun i hi => ?_
    rw [decide_eq_true_eq, hl i hi]
    exact fun hboth => IssueCategory.noConfusion hboth.1
  unfold Model.collisionsAbout
  rw [hissues, List.filter_append, List.filter_append, hrest, List.append_nil]
  congr 1
  have htarget : ∀ i ∈ (collided.map (renamedIssue ⟨b.model.nextId⟩ d name)).toList,
      i.category = .nameCollision ∧ i.target = .table ⟨b.model.nextId⟩ := by
    intro i hi
    obtain ⟨other, -, rfl⟩ := Option.map_eq_some_iff.1 (Option.mem_toList.1 hi)
    exact ⟨rfl, rfl⟩
  split
  · rename_i hid
    subst hid
    exact List.filter_eq_self.2 fun i hi => decide_eq_true (htarget i hi)
  · rename_i hid
    refine List.filter_eq_nil_iff.2 fun i hi htold => hid ?_
    rw [decide_eq_true_eq, (htarget i hi).2] at htold
    exact (IssueTarget.table.inj htold.2).symm

/-- Of another table nothing more is told. -/
theorem collisionsAbout_of_ne (h : b.AddsTableUnder d name collided t b') {id : TableId}
    (hid : id ≠ ⟨b.model.nextId⟩) : b'.model.collisionsAbout id = b.model.collisionsAbout id := by
  rw [h.collisionsAbout, if_neg hid, List.append_nil]

/-- The collisions told of a new table are those of its own name. -/
theorem collisionsAbout_self (hb : b.Sound) (h : b.AddsTableUnder d name collided t b') :
    b'.model.collisionsAbout ⟨b.model.nextId⟩
      = (collided.map (renamedIssue ⟨b.model.nextId⟩ d name)).toList := by
  have hnone : b.model.collisionsAbout ⟨b.model.nextId⟩ = [] := by
    refine List.filter_eq_nil_iff.2 fun i hi htold => ?_
    rw [decide_eq_true_eq] at htold
    obtain ⟨t, ht, -⟩ := hb.model.targets i hi ⟨b.model.nextId⟩ (by rw [htold.2]; rfl)
    exact Nat.lt_irrefl _ (hb.model.key_lt (mem_of_tableIn ht))
  rw [h.collisionsAbout, hnone, if_pos rfl, List.nil_append]

end AddsTableUnder

/-! ## Runs -/

/-- What adding tables one after another returns, call by call, and the builder it leaves.  A call that
fails does not end the run. -/
def addEach (b : Builder) : List TableDraft → List (Outcome (Option TableId)) × Builder
  | [] => ([], b)
  | d :: ds => ((b.addTable d).1 :: ((b.addTable d).2.addEach ds).1, ((b.addTable d).2.addEach ds).2)

/-- One draft after another. -/
theorem addEach_cons (b : Builder) (d : TableDraft) (ds : List TableDraft) : b.addEach (d :: ds)
    = ((b.addTable d).1 :: ((b.addTable d).2.addEach ds).1, ((b.addTable d).2.addEach ds).2) := rfl

/-- Some drafts after others. -/
theorem addEach_append (b : Builder) (ds ds' : List TableDraft) : b.addEach (ds ++ ds')
    = ((b.addEach ds).1 ++ ((b.addEach ds).2.addEach ds').1, ((b.addEach ds).2.addEach ds').2) := by
  induction ds generalizing b with
  | nil => rfl
  | cons d ds ih => rw [List.cons_append, addEach_cons, ih, addEach_cons, List.cons_append]

/-- A draft that is added, and the others after it. -/
theorem AddsTableUnder.addEach {t : Table} (h : b.AddsTableUnder d name collided t b')
    (ds : List TableDraft) :
    b.addEach (d :: ds) = (.ok (some ⟨b.model.nextId⟩) :: (b'.addEach ds).1, (b'.addEach ds).2) := by
  rw [addEach_cons, h.result]

/-- Calls add tables behind those that are there, one for each draft. -/
structure AddsEach (R : TableDraft → Table → Prop) (b : Builder) (ds : List TableDraft)
    (more : KeyedTables) : Prop where
  sound : (b.addEach ds).2.Sound
  policy : (b.addEach ds).2.policy = b.policy
  tables : (b.addEach ds).2.model.tables = b.model.tables ++ more
  returned : (b.addEach ds).1 = more.map fun e => .ok (some e.1)
  made : List.Forall₂ (fun d e => R d e.2) ds more

/-- No drafts add no tables. -/
theorem AddsEach.nil {R : TableDraft → Table → Prop} (h : b.Sound) : AddsEach R b [] [] :=
  ⟨h, rfl, (List.append_nil _).symm, rfl, .nil⟩

/-- A draft that is added, and the tables of the others. -/
theorem AddsEach.cons {R : TableDraft → Table → Prop} {ds : List TableDraft} {more : KeyedTables}
    {t : Table} (h : b.AddsTableUnder d name collided t b') (hR : R d t)
    (hrest : AddsEach R b' ds more) :
    AddsEach R b (d :: ds) ((⟨b.model.nextId⟩, t) :: more) := by
  obtain ⟨hsound, hpolicy, htables, hreturned, hmade⟩ := hrest
  refine ⟨?_, ?_, ?_, ?_, .cons hR hmade⟩
  all_goals rw [h.addEach]
  · exact hsound
  · exact hpolicy.trans h.policy
  · rw [htables, h.tables, List.append_assoc]
    rfl
  · rw [hreturned]
    rfl

/-- What a model tells of the name of a table, with the tables before it.  The table has another name than
the one it was declared with exactly if one of them had this one, and exactly then an issue says so, and
only one. -/
structure TellsName (m : Model) (before : KeyedTables) (id : TableId) (t : Table) : Prop where
  renamed : t.name ≠ t.sourceName ↔ HasNameIn before t.sourceName
  told : t.name ≠ t.sourceName ↔ ∃ i, m.collisionsAbout id = [i]
  untold : t.name = t.sourceName → m.collisionsAbout id = []

/-- So it is with all tables of a model. -/
def TellsNames (m : Model) : Prop :=
  ∀ before id t after, m.tables = before ++ (id, t) :: after → TellsName m before id t

/-- What tells of names is kept by a table that is added under a name of its own or is told of. -/
theorem TellsNames.gains (htells : TellsNames b.model) (hb : b.Sound) {t : Table}
    (h : b.AddsTableUnder d name collided t b')
    (htaken : name ≠ d.name ↔ HasNameIn b.model.tables d.name)
    (hcollided : name ≠ d.name ↔ collided.isSome = true) : TellsNames b'.model := by
  intro before id u after hsplit
  rw [h.tables] at hsplit
  rcases List.eq_nil_or_concat after with rfl | ⟨after, last, rfl⟩
  · -- the table that is new
    obtain ⟨rfl, hlast⟩ := List.append_inj' hsplit rfl
    obtain ⟨rfl, rfl⟩ := Prod.mk.inj (List.singleton_inj.1 hlast)
    refine ⟨?_, ?_, ?_⟩
    all_goals rw [h.made.sourceName, h.named]
    · exact htaken
    all_goals rw [h.collisionsAbout_self hb]
    · refine hcollided.trans ?_
      cases collided with
      | none => simp
      | some other => simp
    · intro hname
      have hnone : collided = none := by
        rw [← Option.not_isSome_iff_eq_none, ← hcollided]
        exact fun hne => hne hname
      rw [hnone]
      rfl
  · -- one that was there before
    have hold : b.model.tables = before ++ (id, u) :: after := by
      rw [List.concat_eq_append, ← List.cons_append, ← List.append_assoc] at hsplit
      exact (List.append_inj' hsplit rfl).1
    have hid : id ≠ ⟨b.model.nextId⟩ := by
      have hlt := hb.model.key_lt (hold ▸ List.mem_append_right _ List.mem_cons_self)
      rintro rfl
      exact Nat.lt_irrefl _ hlt
    obtain ⟨hrenamed, htold, huntold⟩ := htells before id u after hold
    exact ⟨hrenamed, by rw [h.collisionsAbout_of_ne hid]; exact htold,
      fun hname => (h.collisionsAbout_of_ne hid).trans (huntold hname)⟩

/-- Under `rename` every table is added, and the model tells which ones got a new name. -/
theorem addEach_rename {ds : List TableDraft} (h : b.Sound) (hpolicy : b.policy = .rename)
    (htells : TellsNames b.model) (hds : ∀ d ∈ ds, d.IsWellFormed) :
    ∃ more, AddsEach TableDraft.IsMadeInto b ds more ∧ TellsNames (b.addEach ds).2.model := by
  induction ds generalizing b with
  | nil => exact ⟨[], .nil h, htells⟩
  | cons d ds ih =>
    obtain ⟨hd, hds⟩ := List.forall_mem_cons.1 hds
    obtain ⟨name, collided, t, b', hgains, htaken, hcollided⟩ : ∃ name collided t b',
        b.AddsTableUnder d name collided t b' ∧ (name ≠ d.name ↔ HasNameIn b.model.tables d.name)
          ∧ (name ≠ d.name ↔ collided.isSome = true) := by
      by_cases htaken : HasNameIn b.model.tables d.name
      · obtain ⟨other, t, b', hgains⟩ := exists_gains_of_taken h hpolicy hd htaken
        have hne := freshTableName_ne b d.nspace d.name
        exact ⟨_, _, t, b', hgains, iff_of_true hne htaken, iff_of_true hne rfl⟩
      · obtain ⟨t, b', hgains⟩ := exists_gains_of_free h hd htaken
        exact ⟨_, _, t, b', hgains, iff_of_false (fun hne => hne rfl) htaken,
          iff_of_false (fun hne => hne rfl) Bool.false_ne_true⟩
    obtain ⟨more, hmore, htold⟩ := ih hgains.sound (hgains.policy.trans hpolicy)
      (htells.gains h hgains htaken hcollided) hds
    refine ⟨_, .cons hgains hgains.made hmore, ?_⟩
    rw [hgains.addEach]
    exact htold

/-- A table that is added under its own name is kept as it was described. -/
theorem AddsTableUnder.isKept {t : Table} (h : b.AddsTableUnder d d.name collided t b') : d.IsKept t :=
  ⟨h.made, h.named⟩

/-- Under any policy tables with different names are added under these. -/
theorem exists_addsEach_of_free {ds : List TableDraft} (h : b.Sound)
    (hds : ∀ d ∈ ds, d.IsWellFormed) (hfree : ∀ d ∈ ds, ¬ HasNameIn b.model.tables d.name)
    (hnames : (ds.map fun d => Text.folded d.name).Nodup) :
    ∃ more, AddsEach TableDraft.IsKept b ds more := by
  induction ds generalizing b with
  | nil => exact ⟨[], .nil h⟩
  | cons d ds ih =>
    obtain ⟨hd, hds⟩ := List.forall_mem_cons.1 hds
    obtain ⟨hfirst, hfree⟩ := List.forall_mem_cons.1 hfree
    rw [List.map_cons, List.nodup_cons] at hnames
    obtain ⟨t, b', hgains⟩ := exists_gains_of_free h hd hfirst
    have hfree' : ∀ e ∈ ds, ¬ HasNameIn b'.model.tables e.name := by
      intro e he
      rw [hgains.tables, hasNameIn_append, hasNameIn_singleton, hgains.named]
      rintro (htaken | hsame)
      · exact hfree e he htaken
      · exact hnames.1 (List.mem_map.2 ⟨e, he, hsame.symm⟩)
    obtain ⟨more, hmore⟩ := ih hgains.sound hds hfree' hnames.2
    exact ⟨_, .cons hgains hgains.isKept hmore⟩

/-- Under `skip` the first table of each name is added, unless its name is taken. -/
theorem addEach_skip {ds : List TableDraft} (h : b.Sound) (hpolicy : b.policy = .skip)
    (hds : ∀ d ∈ ds, d.IsWellFormed) : (b.addEach ds).2.policy = .skip
      ∧ ∃ more, (b.addEach ds).2.model.tables = b.model.tables ++ more
        ∧ List.Forall₂ (fun d e => d.IsKept e.2) (freshFirsts b.model.tables ds) more := by
  induction ds generalizing b with
  | nil => exact ⟨hpolicy, [], (List.append_nil _).symm, .nil⟩
  | cons d ds ih =>
    obtain ⟨hd, hds⟩ := List.forall_mem_cons.1 hds
    by_cases htaken : HasNameIn b.model.tables d.name
    · obtain ⟨b', hleaves⟩ := exists_leavesOut hpolicy htaken
      have hpolicy' : b'.policy = .skip := by
        obtain ⟨i, -, -, rfl⟩ := hleaves.issue
        exact hpolicy
      have hmore := ih (sound_addTable h hleaves.result) hpolicy' hds
      rw [addEach_cons, hleaves.result, freshFirsts_of_taken htaken, ← hleaves.tables]
      exact hmore
    · obtain ⟨t, b', hgains⟩ := exists_gains_of_free h hd htaken
      obtain ⟨hkeeps, more, htables, hmade⟩ := ih hgains.sound (hgains.policy.trans hpolicy) hds
      rw [hgains.addEach, freshFirsts_of_free htaken hgains.named, ← hgains.tables]
      refine ⟨hkeeps, (⟨b.model.nextId⟩, t) :: more, ?_, .cons hgains.isKept hmade⟩
      rw [htables, hgains.tables, List.append_assoc]
      rfl

/-! ## Runs from the start -/

/-- Tables whose names collide get new ones. -/
structure Renames (b : Builder) (ds : List TableDraft) : Prop where
  /-- Every call returns a table, which is made of its draft. -/
  returned : (b.addEach ds).1 = (b.addEach ds).2.model.tables.map fun e => .ok (some e.1)
  made : List.Forall₂ (fun d e => d.IsMadeInto e.2) ds (b.addEach ds).2.model.tables
  names : ((b.addEach ds).2.model.tables.map fun e => Text.folded e.2.name).Nodup
  /-- No table changes once it is there. -/
  stays : ∀ before after, ds = before ++ after →
    (b.addEach before).2.model.tables <+: (b.addEach ds).2.model.tables
  tells : TellsNames (b.addEach ds).2.model

/-- Tables whose names collide are left out. -/
structure Skips (b : Builder) (ds : List TableDraft) : Prop where
  tables : List.Forall₂ (fun d e => d.IsKept e.2) (firstOfEachName ds) (b.addEach ds).2.model.tables
  leavesOut : ∀ before d after, ds = before ++ d :: after →
    (∃ e ∈ before, Text.folded e.name = Text.folded d.name) →
      ∃ b', (b.addEach before).2.LeavesOut d b'

/-- The first table whose name collides is refused. -/
def Refuses (b : Builder) (ds : List TableDraft) : Prop :=
  ∀ before d after, ds = before ++ d :: after → (before.map fun d => Text.folded d.name).Nodup →
    (∃ e ∈ before, Text.folded e.name = Text.folded d.name) →
      (∀ r ∈ (b.addEach before).1, ∃ id, r = .ok (some id))
        ∧ ∃ e, (b.addEach before).2.addTable d = (.error e, (b.addEach before).2)

section Start

variable (source : SourceDialect) (target : TargetDialect) (audit : Audit) {ds : List TableDraft}

/-- Renaming, from the beginning. -/
theorem start_renames (hds : ∀ d ∈ ds, d.IsWellFormed) :
    (start source target .rename audit).Renames ds := by
  have hsound := Sound.start source target .rename audit
  have hempty : TellsNames (start source target .rename audit).model := by
    intro before id t after hsplit
    cases before <;> cases hsplit
  obtain ⟨more, hmore, htells⟩ := addEach_rename hsound rfl hempty hds
  obtain rfl : _ = more := hmore.tables
  refine ⟨hmore.returned, hmore.made, hmore.sound.described.names, ?_, htells⟩
  rintro before after rfl
  -- the run is one over the first tables, with which the other one begins
  obtain ⟨hbefore, hafter⟩ := List.forall_mem_append.1 hds
  obtain ⟨more₁, hmore₁, htells₁⟩ := addEach_rename hsound rfl hempty hbefore
  obtain ⟨more₂, hmore₂, -⟩ := addEach_rename hmore₁.sound hmore₁.policy htells₁ hafter
  rw [addEach_append]
  exact ⟨more₂, hmore₂.tables.symm⟩

/-- Skipping, from the beginning. -/
theorem start_skips (hds : ∀ d ∈ ds, d.IsWellFormed) :
    (start source target .skip audit).Skips ds := by
  have hsound := Sound.start source target .skip audit
  obtain ⟨-, more, hmore, hmade⟩ := addEach_skip hsound rfl hds
  obtain rfl : _ = more := hmore
  refine ⟨freshFirsts_nil ds ▸ hmade, ?_⟩
  rintro before d after rfl ⟨e, he, hname⟩
  obtain ⟨hpolicy, more, hmore, hmade⟩ := addEach_skip hsound rfl (List.forall_mem_append.1 hds).1
  obtain rfl : _ = more := hmore
  obtain ⟨first, hfirst, hsame⟩ := exists_mem_firstOfEachName he
  have htaken := hasNameIn_of_forall₂ (freshFirsts_nil before ▸ hmade) hfirst
  exact exists_leavesOut hpolicy (htaken.congr (hsame.trans hname).symm)

/-- Refusing, from the beginning. -/
theorem start_refuses (hds : ∀ d ∈ ds, d.IsWellFormed) :
    (start source target .error audit).Refuses ds := by
  rintro before d after rfl hnames ⟨e, he, hname⟩
  have hfree : ∀ e ∈ before, ¬ HasNameIn (start source target .error audit).model.tables e.name := by
    rintro e - ⟨t, ht, -⟩
    cases ht
  obtain ⟨more, hmore⟩ := exists_addsEach_of_free (Sound.start source target .error audit)
    (List.forall_mem_append.1 hds).1 hfree hnames
  have htaken : HasNameIn (((start source target .error audit).addEach before).2.model.tables) d.name := by
    rw [hmore.tables]
    exact (hasNameIn_of_forall₂ hmore.made he).congr hname.symm
  refine ⟨?_, exists_refusal hmore.policy htaken⟩
  rw [hmore.returned]
  intro r hr
  obtain ⟨e, -, rfl⟩ := List.mem_map.1 hr
  exact ⟨e.1, rfl⟩

end Start

/-- **Name collisions.**  Tables with different columns and a key made of these are added one after
another.  Under `rename` each is added, under a name that no other has; under `skip` the first of each
name is, and the others leave nothing but an issue; under `error` the first one that collides is refused
and leaves nothing at all. -/
theorem addEach_start (source : SourceDialect) (target : TargetDialect) (audit : Audit)
    {ds : List TableDraft} (hds : ∀ d ∈ ds, d.IsWellFormed) :
    (start source target .rename audit).Renames ds ∧ (start source target .skip audit).Skips ds
      ∧ (start source target .error audit).Refuses ds :=
  ⟨start_renames source target audit hds, start_skips source target audit hds,
    start_refuses source target audit hds⟩

/-- Three tables, the second of which has the name of the first, and the third the name that the second
one gets. -/
def chainDrafts : List TableDraft :=
  ["t", "T", "T_1"].map fun name =>
    { TableDraft.empty none name with
      columns := [.plain "a" ⟨"integer", [], [], 0, "integer"⟩]
      primaryKey := [("A", false)] }

theorem addEach_start_chainDrafts : (∀ d ∈ chainDrafts, d.IsWellFormed)
    ∧ (start .postgres .google .rename default).Renames chainDrafts
    ∧ (start .postgres .google .skip default).Skips chainDrafts
    ∧ (start .postgres .google .error default).Refuses chainDrafts := by
  have hds : ∀ d ∈ chainDrafts, d.IsWellFormed := by
    intro d hd
    obtain ⟨name, -, rfl⟩ := List.mem_map.1 hd
    exact ⟨List.nodup_singleton _, List.forall_mem_singleton.2 ⟨_, List.mem_cons_self, by decide +kernel⟩⟩
  exact ⟨hds, addEach_start .postgres .google default hds⟩

/-- The third table is renamed as well. -/
example : ((start .postgres .google .rename default).addEach chainDrafts).2.model.tables.map
    (fun e => (e.2.sourceName, e.2.name)) = [("t", "t"), ("T", "T_1"), ("T_1", "T_1_1")] := by
  decide +kernel

end Builder

end SchemaBridge
