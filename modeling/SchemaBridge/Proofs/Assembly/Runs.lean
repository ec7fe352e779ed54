/-
# Runs of a builder

Whoever uses a builder calls its operations in some order, with arguments of its choice, while the
run may be cancelled from outside at any moment.  A run is such a list of calls none of which fails;
the caller may raise issues about the schema and about tables the builder has told it of.

## Key statements

* `Runs.sound`: after every run the builder is sound, and the tables it told of are there.
* `Builder.IsBuilt.sound`: so it is after calls some of which fail.
* `Runs.map_intact`: the finished model is intact, however often it is mapped.
-/
import SchemaBridge.Proofs.Assembly.Operations
import SchemaBridge.Proofs.Mapper.Soundness

namespace SchemaBridge

/-- The calls of a builder, and the cancelling of its run. -/
inductive Operation
  | addTable (draft : TableDraft)
  | lookup (nspace : Option String) (name : String)
  | setPrimaryKey (table : TableId) (columns : List KeyDraft)
  | addIndex (table : TableId) (draft : IndexDraft)
  | addForeignKey (table : TableId) (draft : ForeignKeyDraft)
  | addCheck (table : TableId) (draft : CheckDraft)
  | setColumnDefault (table : TableId) (column expr : String)
  | setIdentity (table : TableId) (column : String)
  | shouldStop
  | issue (category : IssueCategory) (target : IssueTarget) (detail : String)
  | cancel

/-- A builder at work, and the tables it has told its caller of. -/
structure Work where
  builder : Builder
  told : List TableId

namespace Work

/-- Work that has not begun. -/
def start (source : SourceDialect) (target : TargetDialect) (policy : CollisionPolicy)
    (audit : Audit) : Work :=
  ⟨Builder.start source target policy audit, []⟩

/-- A builder is sound and tells only of tables it has. -/
structure Sound (w : Work) : Prop where
  builder : w.builder.Sound
  told : ∀ id ∈ w.told, (w.builder.model.table? id).isSome = true

end Work

namespace Operation

/-- What an operation makes of a builder, unless it fails. -/
def perform (w : Work) : Operation → Outcome Work
  | addTable draft =>
    match w.builder.addTable draft with
    | (.error e, _) => .error e
    | (.ok id, b) => .ok ⟨b, id.toList ++ w.told⟩
  | lookup nspace name => .ok ⟨w.builder, (w.builder.lookup nspace name).toList ++ w.told⟩
  | setPrimaryKey table columns =>
    match w.builder.setPrimaryKey table columns with
    | (.error e, _) => .error e
    | (.ok (), b) => .ok ⟨b, w.told⟩
  | addIndex table draft => .ok ⟨w.builder.addIndex table draft, w.told⟩
  | addForeignKey table draft => .ok ⟨w.builder.addForeignKey table draft, w.told⟩
  | addCheck table draft => .ok ⟨w.builder.addCheck table draft, w.told⟩
  | setColumnDefault table column expr =>
    .ok ⟨w.builder.setColumnDefault table column expr, w.told⟩
  | setIdentity table column => .ok ⟨w.builder.setIdentity table column, w.told⟩
  | shouldStop => .ok ⟨w.builder.shouldStop.2, w.told⟩
  | issue category target detail => .ok ⟨w.builder.issue category target detail, w.told⟩
  | cancel => .ok ⟨w.builder.cancel, w.told⟩

/-- An issue is about the schema or a table the caller knows; everything else is free. -/
def IsPermitted (w : Work) : Operation → Prop
  | issue _ target _ => target = .schema ∨ ∃ id ∈ w.told, target = .table id
  | _ => True

end Operation

/-- Runs of a builder in which no call fails. -/
inductive Runs : Work → List Operation → Work → Prop
  | done (w : Work) : Runs w [] w
  | step {w w' w'' : Work} {op : Operation} {ops : List Operation} (hpermitted : op.IsPermitted w)
      (hop : op.perform w = .ok w') (hrest : Runs w' ops w'') : Runs w (op :: ops) w''

/-- Work that has not begun is sound. -/
theorem Work.Sound.start (source : SourceDialect) (target : TargetDialect)
    (policy : CollisionPolicy) (audit : Audit) : (Work.start source target policy audit).Sound :=
  ⟨Builder.Sound.start source target policy audit, fun _ hid => by cases hid⟩

/-- Where the builder leads and nothing new is told of. -/
theorem Work.Sound.of_leads {w : Work} (h : w.Sound) {b : Builder} (hl : w.builder.Leads b) :
    (⟨b, w.told⟩ : Work).Sound :=
  ⟨hl.sound, fun id hid => hl.keeps id (h.told id hid)⟩

/-- What a call that does not fail keeps. -/
theorem Operation.perform_sound {w w' : Work} {op : Operation} (h : w.Sound)
    (hpermitted : op.IsPermitted w) (hop : op.perform w = .ok w') : w'.Sound := by
  cases op with
  | addTable draft =>
    obtain ⟨hl, hthere⟩ := Builder.Leads.addTable h.builder draft
    unfold perform at hop
    dsimp only at hop
    split at hop
    · cases hop
    · rename_i id b heq
      rw [heq] at hl hthere
      cases hop
      refine ⟨hl.sound, fun k hk => ?_⟩
      rcases List.mem_append.1 hk with hk | hk
      · rw [Option.mem_toList] at hk
        exact hthere k (by rw [hk])
      · exact hl.keeps k (h.told k hk)
  | lookup nspace name =>
    cases hop
    refine ⟨h.builder, fun k hk => ?_⟩
    rcases List.mem_append.1 hk with hk | hk
    · rw [Option.mem_toList] at hk
      exact Builder.isSome_of_lookup h.builder hk
    · exact h.told k hk
  | setPrimaryKey table columns =>
    have hl := Builder.Leads.setPrimaryKey h.builder table columns
    unfold perform at hop
    dsimp only at hop
    split at hop
    · cases hop
    · rename_i b heq
      rw [heq] at hl
      cases hop
      exact h.of_leads hl
  | addIndex table draft =>
    cases hop
    exact h.of_leads (Builder.Leads.addIndex h.builder table draft)
  | addForeignKey table draft =>
    cases hop
    exact h.of_leads (Builder.Leads.addForeignKey h.builder table draft)
  | addCheck table draft =>
    cases hop
    exact h.of_leads (Builder.Leads.addCheck h.builder table draft)
  | setColumnDefault table column expr =>
    cases hop
    exact h.of_leads (Builder.Leads.setColumnDefault h.builder table column expr)
  | setIdentity table column =>
    cases hop
    exact h.of_leads (Builder.Leads.setIdentity h.builder table column)
  | shouldStop =>
    cases hop
    exact h.of_leads (Builder.Leads.shouldStop h.builder)
  | issue category target detail =>
    cases hop
    -- an issue may be about the schema or about a table that was told of
    rcases hpermitted with rfl | ⟨id, hid, rfl⟩
    · exact h.of_leads (Builder.Leads.issue_schema h.builder category detail)
    · exact h.of_leads (Builder.Leads.issue_table h.builder category (h.told id hid) detail)
  | cancel =>
    cases hop
    exact ⟨h.builder.cancel, h.told⟩

/-- What a whole run keeps. -/
theorem Runs.sound {w w' : Work} {ops : List Operation} (h : Runs w ops w') (hw : w.Sound) :
    w'.Sound := by
  induction h with
  | done w => exact hw
  | step hpermitted hop _ ih => exact ih (Operation.perform_sound hw hpermitted hop)

/-- Builders that calls leave, in any order and with any arguments, also those calls that fail.  A
builder tells of no objects but tables, so that issues are about these or about the schema. -/
inductive Builder.IsBuilt : Builder → Prop
  | start (source : SourceDialect) (target : TargetDialect) (policy : CollisionPolicy)
      (audit : Audit) : IsBuilt (.start source target policy audit)
  | addTable {b : Builder} (h : b.IsBuilt) (draft : TableDraft) : (b.addTable draft).2.IsBuilt
  | setPrimaryKey {b : Builder} (h : b.IsBuilt) (table : TableId) (columns : List KeyDraft) :
      (b.setPrimaryKey table columns).2.IsBuilt
  | addIndex {b : Builder} (h : b.IsBuilt) (table : TableId) (draft : IndexDraft) :
      (b.addIndex table draft).IsBuilt
  | addForeignKey {b : Builder} (h : b.IsBuilt) (table : TableId) (draft : ForeignKeyDraft) :
      (b.addForeignKey table draft).IsBuilt
  | addCheck {b : Builder} (h : b.IsBuilt) (table : TableId) (draft : CheckDraft) :
      (b.addCheck table draft).IsBuilt
  | setColumnDefault {b : Builder} (h : b.IsBuilt) (table : TableId) (column expr : String) :
      (b.setColumnDefault table column expr).IsBuilt
  | setIdentity {b : Builder} (h : b.IsBuilt) (table : TableId) (column : String) :
      (b.setIdentity table column).IsBuilt
  | shouldStop {b : Builder} (h : b.IsBuilt) : b.shouldStop.2.IsBuilt
  | issueSchema {b : Builder} (h : b.IsBuilt) (category : IssueCategory) (detail : String) :
      (b.issue category .schema detail).IsBuilt
  | issueTable {b : Builder} (h : b.IsBuilt) (category : IssueCategory) {id : TableId}
      (hid : (b.model.table? id).isSome = true) (detail : String) :
      (b.issue category (.table id) detail).IsBuilt
  | cancel {b : Builder} (h : b.IsBuilt) : b.cancel.IsBuilt

/-- A builder that is reached is sound. -/
theorem Builder.IsBuilt.sound {b : Builder} (h : b.IsBuilt) : b.Sound := by
  induction h with
  | start source target policy audit => exact .start source target policy audit
  | addTable _ draft ih => exact (Leads.addTable ih draft).1.sound
  | setPrimaryKey _ table columns ih => exact (Leads.setPrimaryKey ih table columns).sound
  | addIndex _ table draft ih => exact (Leads.addIndex ih table draft).sound
  | addForeignKey _ table draft ih => exact (Leads.addForeignKey ih table draft).sound
  | addCheck _ table draft ih => exact (Leads.addCheck ih table draft).sound
  | setColumnDefault _ table column expr ih =>
    exact (Leads.setColumnDefault ih table column expr).sound
  | setIdentity _ table column ih => exact (Leads.setIdentity ih table column).sound
  | shouldStop _ ih => exact (Leads.shouldStop ih).sound
  | issueSchema _ category detail ih => exact (Leads.issue_schema ih category detail).sound
  | issueTable _ category hid detail ih => exact (Leads.issue_table ih category hid detail).sound
  | cancel _ ih => exact ih.cancel

/-- What every reader of a model relies on: identifiers are distinct and have been given out, keys,
indexes and foreign keys lead to columns and tables that exist, and every issue is about something
that exists. -/
structure Model.Intact (m : Model) : Prop where
  keyed : ∀ e ∈ m.tables, e.2.id = e.1
  distinct : m.ids.Nodup
  inRange : ∀ i ∈ m.ids, 1 ≤ i ∧ i < m.nextId
  refers : ∀ e ∈ m.tables, e.2.RefersIn m.tables
  targets : ∀ i ∈ m.issues, HasTargetIn m.tables i.target

/-- After any run, finished and mapped any number of times, a model is intact. -/
theorem Runs.map_intact {source : SourceDialect} {target : TargetDialect}
    {policy : CollisionPolicy} {audit : Audit} {ops : List Operation} {w : Work}
    (h : Runs (Work.start source target policy audit) ops w) (names : List String) :
    (names.foldl (fun m synthetic => Mapper.map synthetic m) w.builder.finish).Intact := by
  have hfinished := (h.sound (Work.Sound.start source target policy audit)).builder.finish.1
  have hmapped := Mapper.sound_foldl_map hfinished names
  exact ⟨hmapped.keyed, hmapped.distinct, hmapped.inRange, hmapped.refers, hmapped.targets⟩

/-- A table with a key, one without that refers to it, and a cancellation in between. -/
def referenceRun : List Operation :=
  [.addTable { TableDraft.empty none "p" with
      columns := [.plain "x" ⟨"integer", [], [], 0, "integer"⟩]
      primaryKey := [("x", false)] },
    .addTable { TableDraft.empty none "c" with
      columns := [.plain "a" ⟨"integer", [], [], 0, "integer"⟩] },
    .cancel,
    .shouldStop,
    .addForeignKey ⟨3⟩ ⟨none, ["a"], none, "p", [], .cascade, .noAction⟩,
    .issue .unsupportedConstraint (.table ⟨1⟩) "Constraint 'EXCLUDE' on p not converted."]

theorem map_intact_referenceRun :
    ∃ w, Runs (Work.start .postgres .google .rename default) referenceRun w
      ∧ (["key"].foldl (fun m synthetic => Mapper.map synthetic m) w.builder.finish).Intact := by
  have hrun : ∃ w, Runs (Work.start .postgres .google .rename default) referenceRun w := by
    refine ⟨_, .step trivial rfl (.step trivial rfl (.step trivial rfl (.step trivial rfl
      (.step trivial rfl (.step ?_ rfl (.done _))))))⟩
    exact Or.inr ⟨⟨1⟩, by decide, rfl⟩
  obtain ⟨w, h⟩ := hrun
  exact ⟨w, h, Runs.map_intact h ["key"]⟩

end SchemaBridge
