/-
# What a report adds up to

A report is made in several passes over a model.  Each of them deals something out: issues to tables, to
categories and to severities, columns to confidences, expressions to statuses.  Where every key has a
group of its own, nothing is lost and nothing is counted twice.

Issues need the references of a valid model, since the groups are the tables there are.

## Key statements

* `dealt_filter`: of objects that all have a group, each goes to its own one.
* `Dealt.sum_lengths`: the groups together are as long as what was dealt out.
* `assemble_balances`: the sums of a report on a valid model balance.
-/
import Mathlib.Algebra.BigOperators.Group.List.Basic
import Mathlib.Algebra.GroupWithZero.Nat
import SchemaBridge.Proofs.Schema.Validity
import SchemaBridge.Report.Basic

namespace SchemaBridge

namespace Report

/-! ## Dealing out -/

section Dealing

variable {α β κ : Type} {key : α → κ} {line : α → β}

/-- Objects are dealt out to groups of lines.  Each object in turn is the first line that is left in the
one group of its key, and no line is left in the end. -/
inductive Dealt (key : α → κ) (line : α → β) : List α → List (κ × List β) → Prop
  | done {groups : List (κ × List β)} (hleft : ∀ g ∈ groups, g.2 = []) : Dealt key line [] groups
  | next {a : α} {rest : List α} {pre post : List (κ × List β)} {lines : List β}
      (hpre : key a ∉ pre.map (·.1)) (hpost : key a ∉ post.map (·.1))
      (hrest : Dealt key line rest (pre ++ (key a, lines) :: post)) :
      Dealt key line (a :: rest) (pre ++ (key a, line a :: lines) :: post)

/-- The groups together have as many lines as there were objects. -/
theorem Dealt.sum_lengths {l : List α} {groups : List (κ × List β)} (h : Dealt key line l groups) :
    (groups.map fun g => g.2.length).sum = l.length := by
  induction h with
  | done hleft =>
    rw [List.sum_eq_zero fun n hn => ?_]
    · rfl
    · obtain ⟨g, hg, rfl⟩ := List.mem_map.1 hn
      rw [hleft g hg]
      rfl
  | next _ _ _ ih =>
    simp only [List.map_append, List.map_cons, List.sum_append, List.sum_cons,
      List.length_cons] at ih ⊢
    omega

variable [DecidableEq κ]

/-- The lines of the objects with a key. -/
def linesWith (key : α → κ) (line : α → β) (l : List α) (k : κ) : List β :=
  (l.filter fun a => key a = k).map line

/-- A line comes under its own heading. -/
theorem linesWith_cons_self (a : α) (l : List α) :
    linesWith key line (a :: l) (key a) = line a :: linesWith key line l (key a) := by
  simp [linesWith]

/-- An object adds nothing to groups of other keys. -/
theorem map_linesWith_cons {a : α} {keys : List κ} (h : key a ∉ keys) (l : List α) :
    keys.map (fun k => (k, linesWith key line (a :: l) k))
      = keys.map fun k => (k, linesWith key line l k) := by
  refine List.map_congr_left fun k hk => ?_
  have hne : key a ≠ k := by
    rintro rfl
    exact h hk
  simp [linesWith, hne]

/-- Objects that all have a group are dealt out by taking, for each key, those that have it. -/
theorem dealt_filter (key : α → κ) (line : α → β) {keys : List κ} (hkeys : keys.Nodup)
    {l : List α} (h : ∀ a ∈ l, key a ∈ keys) :
    Dealt key line l (keys.map fun k => (k, linesWith key line l k)) := by
  induction l with
  | nil =>
    refine .done fun g hg => ?_
    obtain ⟨k, -, rfl⟩ := List.mem_map.1 hg
    rfl
  | cons a l ih =>
    have hrest := ih fun b hb => h b (List.mem_cons_of_mem _ hb)
    -- the group of the first object, which no other key leads to
    obtain ⟨pre, post, rfl⟩ := List.append_of_mem (h a List.mem_cons_self)
    obtain ⟨hpre, hpost⟩ : key a ∉ pre ∧ key a ∉ post := by
      have hmiddle := List.nodup_middle.1 hkeys
      rw [List.nodup_cons, List.mem_append, not_or] at hmiddle
      exact hmiddle.1
    have hkeysOf : ∀ ks : List κ, (ks.map fun k => (k, linesWith key line l k)).map (·.1) = ks := by
      intro ks
      rw [List.map_map]
      exact List.map_id ks
    rw [List.map_append, List.map_cons] at hrest ⊢
    rw [map_linesWith_cons hpre, map_linesWith_cons hpost, linesWith_cons_self]
    exact .next (by rwa [hkeysOf]) (by rwa [hkeysOf]) hrest

/-- Numbers of objects of each key add up to the number of objects. -/
theorem sum_counts (key : α → κ) {keys : List κ} (hkeys : keys.Nodup) {l : List α}
    (h : ∀ a ∈ l, key a ∈ keys) :
    (keys.map fun k => l.countP fun a => key a = k).sum = l.length := by
  have hdealt := (dealt_filter key id hkeys h).sum_lengths
  rw [List.map_map] at hdealt
  rw [← hdealt]
  refine congrArg List.sum (List.map_congr_left fun k _ => ?_)
  show l.countP _ = (linesWith key id l k).length
  rw [linesWith, List.length_map, List.countP_eq_length_filter]

omit [DecidableEq κ] in
/-- Numbers that are zero need not be listed. -/
theorem sum_listed (count : κ → Nat) (keys : List κ) :
    ((keys.filterMap fun k => if count k = 0 then none else some (k, count k)).map (·.2)).sum
      = (keys.map count).sum := by
  induction keys with
  | nil => rfl
  | cons k keys ih =>
    rw [List.filterMap_cons, List.map_cons, List.sum_cons, ← ih]
    by_cases hk : count k = 0
    · simp [hk]
    · simp [hk]

end Dealing

/-! ## The parts of a report -/

variable {m : Model}

/-- The numbers by category add up to that of the issues. -/
theorem sum_issueCounts (issues : List Issue) :
    ((issueCounts issues).map (·.2)).sum = issues.length := by
  have hlisted := sum_listed (fun c => issues.countP fun i => i.category = c) IssueCategory.all
  exact hlisted.trans (sum_counts Issue.category (by decide) fun i _ => IssueCategory.mem_all i.category)

/-- No severity is left out. -/
theorem mem_severities (s : Severity) : s ∈ Severity.all := by cases s <;> decide

/-- The numbers by severity add up to that of the issues. -/
theorem sum_severityCounts (issues : List Issue) :
    ((severityCounts issues).map (·.2)).sum = issues.length := by
  have hlisted := sum_listed (fun s => issues.countP fun i => i.severity = s) Severity.all
  exact hlisted.trans (sum_counts Issue.severity (by decide) fun i _ => mem_severities i.severity)

/-- A table has as many errors, warnings and remarks as lines. -/
theorem tableEntry_severities (m : Model) (t : Table) :
    (tableEntry m t).errors + (tableEntry m t).warnings + (tableEntry m t).infos
      = (tableEntry m t).issues.length := by
  have hsum : (Severity.all.map fun s => (issuesOfTable m t.id).countP fun i => i.severity = s).sum
      = (issuesOfTable m t.id).length :=
    sum_counts Issue.severity (by decide) fun i _ => mem_severities i.severity
  have hlength : (tableEntry m t).issues.length = (issuesOfTable m t.id).length :=
    List.length_map _
  rw [hlength, ← hsum]
  simp only [tableEntry, Severity.all, List.map_cons, List.map_nil, List.sum_cons, List.sum_nil]
  omega

/-- The numbers by confidence add up to that of the columns. -/
theorem sum_tiersOf (m : Model) :
    (tiersOf m).exact + (tiersOf m).lossy + (tiersOf m).unsupported + (tiersOf m).unmapped
      = (columnsOf m).length := by
  have hmem : ∀ c : Option Confidence,
      c ∈ [some .exact, some .lossy, some .unsupported, none] := by
    rintro (_ | c)
    · decide
    · cases c <;> decide
  have hsum := sum_counts Column.confidence (by decide) fun c (_ : c ∈ columnsOf m) =>
    hmem c.confidence
  simp only [List.map_cons, List.map_nil, List.sum_cons, List.sum_nil] at hsum
  rw [← hsum]
  simp only [tiersOf, countConfidence]
  omega

/-! ## Expressions -/

/-- The defaults, the expressions of generated columns and the checks of a table. -/
def expressionCount (t : Table) : Nat :=
  t.columns.countP (·.default.isSome) + t.columns.countP (·.generated.isSome) + t.checks.length

/-- Each default and each generation is an expression. -/
theorem length_columnExpressions (id : TableId) (columns : List Column) :
    (columns.flatMap (Model.columnExpressions id)).length
      = columns.countP (·.default.isSome) + columns.countP (·.generated.isSome) := by
  induction columns with
  | nil => rfl
  | cons c columns ih =>
    have hone : (Model.columnExpressions id c).length
        = (if c.default.isSome then 1 else 0) + if c.generated.isSome then 1 else 0 := by
      unfold Model.columnExpressions
      cases c.default <;> cases c.generated <;> rfl
    rw [List.flatMap_cons, List.length_append, List.countP_cons, List.countP_cons, ih, hone]
    omega

/-- The expressions of a model are those of its tables. -/
theorem length_expressions (m : Model) :
    m.expressions.length = (m.tableList.map expressionCount).sum := by
  unfold Model.expressions
  rw [List.length_flatMap]
  refine congrArg List.sum (List.map_congr_left fun t _ => ?_)
  rw [Model.tableExpressions, List.length_append, length_columnExpressions, List.length_map]
  rfl

/-- Expressions are dealt out to the statuses, and those that are not verified are listed. -/
theorem dealt_expressions (m : Model) :
    Dealt (fun e => e.2.status) (fun e => entryOf m e.1 e.2) m.expressions
      [(.verified, entriesOf m .verified), (.rejected, entriesOf m .rejected),
        (.unverified, entriesOf m .unverified)] := by
  have hmem : ∀ s : VerificationStatus,
      s ∈ [VerificationStatus.verified, .rejected, .unverified] := by
    intro s
    cases s <;> decide
  exact dealt_filter _ _ (by decide) fun e (_ : e ∈ m.expressions) => hmem e.2.status

/-- As many expressions are listed as are counted. -/
theorem length_entriesOf (m : Model) (s : VerificationStatus) :
    (entriesOf m s).length = countStatus m s := by
  rw [entriesOf, List.length_map, countStatus, List.countP_eq_length_filter]

/-! ## Issues -/

/-- The lists of issues of a report on a model, under what they are about: the whole schema, or one of
the tables. -/
def sections (m : Model) (r : Report) : List (Option TableId × List String) :=
  (none, r.schemaIssues)
    :: List.zipWith (fun id e => (some id, e.issues)) (m.tables.map (·.1)) r.tables

/-- An issue about no table is one about the whole schema. -/
theorem schemaIssues_eq (m : Model) :
    (assemble m).schemaIssues = linesWith (·.target.table?) Issue.display m.issues none := by
  have hschema : ∀ t : IssueTarget, t = .schema ↔ t.table? = none := by
    intro t
    cases t <;> simp [IssueTarget.table?]
  exact congrArg (List.map Issue.display)
    (List.filter_congr fun i _ => decide_eq_decide.2 (hschema i.target))

/-- Each table has its entry. -/
theorem tables_assemble (m : Model) :
    (assemble m).tables = m.tables.map fun e => tableEntry m e.2 :=
  List.map_map

/-- The lists of issues of a model whose tables stand under their own identifiers. -/
theorem sections_assemble (h : ∀ e ∈ m.tables, e.2.id = e.1) :
    sections m (assemble m) = (none :: m.tables.map fun e => some e.1).map fun k =>
      (k, linesWith (·.target.table?) Issue.display m.issues k) := by
  rw [sections, schemaIssues_eq, tables_assemble, List.map_cons, List.map_map, List.zipWith_map,
    List.zipWith_self]
  refine congrArg (List.cons _) (List.map_congr_left fun e he => ?_)
  show (some e.1, (issuesOfTable m e.2.id).map Issue.display) = _
  rw [h e he]
  rfl

/-- Each issue comes in one section, in order. -/
theorem dealt_issues (h : m.WellFormed) :
    Dealt (·.target.table?) Issue.display m.issues (sections m (assemble m)) := by
  rw [sections_assemble h.keyed]
  refine dealt_filter _ _ ?_ fun i hi => ?_
  · have hsome : (m.tables.map fun e => some e.1).Nodup := by
      have hkeys := h.nodup_keys.map (fun _ _ heq => Option.some.inj heq)
      rwa [List.map_map] at hkeys
    refine List.nodup_cons.2 ⟨?_, hsome⟩
    simp
  · -- an issue about a table is about one of the model
    cases hid : i.target.table? with
    | none => exact List.mem_cons_self
    | some id =>
      have htable := h.issues i hi id hid
      rw [Model.table?_eq_tableIn, isSome_tableIn_iff] at htable
      obtain ⟨e, he, rfl⟩ := List.mem_map.1 htable
      exact List.mem_cons_of_mem _ (List.mem_map_of_mem he)

/-! ## The whole report -/

/-- The sums of a report on a model balance. -/
structure Balances (m : Model) (r : Report) : Prop where
  /-- The entries are those of the tables, in their order. -/
  tables : r.tables.map (·.name) = m.tableList.map (·.name)
  /-- Each issue is in turn the next line about the whole schema or about the table it belongs to, and
  there is no other line. -/
  issues : Dealt (·.target.table?) Issue.display m.issues (sections m r)
  issueCount : r.summary.issues = m.issues.length
  severities : (r.tables.map fun e => e.errors + e.warnings + e.infos).sum + r.schemaIssues.length
    = r.summary.issues
  byCategory : (r.byCategory.map (·.2)).sum = r.summary.issues
  bySeverity : (r.bySeverity.map (·.2)).sum = r.summary.issues
  confidences : r.tiers.exact + r.tiers.lossy + r.tiers.unsupported + r.tiers.unmapped
    = r.summary.columns
  columns : r.summary.columns = (m.tableList.map fun t => t.columns.length).sum
  expressions : r.summary.verified + r.summary.rejected + r.summary.unverified
    = (m.tableList.map expressionCount).sum
  rejected : r.rejected.length = r.summary.rejected
  unverified : r.unverified.length = r.summary.unverified
  /-- Each expression is in turn the next one listed under its status, and there is no other. -/
  listed : ∃ verified, verified.length = r.summary.verified
    ∧ Dealt (fun e => e.2.status) (fun e => entryOf m e.1 e.2) m.expressions
      [(.verified, verified), (.rejected, r.rejected), (.unverified, r.unverified)]

/-- The lists of issues have as many lines as there are issues in the entries of the tables, and lines
about the whole schema. -/
theorem sum_sections (m : Model) :
    ((sections m (assemble m)).map fun g => g.2.length).sum
      = (assemble m).schemaIssues.length
        + ((assemble m).tables.map fun e => e.errors + e.warnings + e.infos).sum := by
  rw [sections, tables_assemble, List.zipWith_map, List.zipWith_self, List.map_cons, List.sum_cons,
    List.map_map, List.map_map]
  refine congrArg (fun l => (assemble m).schemaIssues.length + List.sum l) ?_
  exact List.map_congr_left fun e _ => (tableEntry_severities m e.2).symm

/-- The sums of the report on a valid model balance. -/
theorem assemble_balances (m : Model) (h : m.validate = .ok ()) : Balances m (assemble m) := by
  have hwf := (Model.validate_eq_ok_iff m).1 h
  have hissues := dealt_issues hwf
  refine
    { tables := ?_
      issues := hissues
      issueCount := rfl
      severities := ?_
      byCategory := sum_issueCounts m.issues
      bySeverity := sum_severityCounts m.issues
      confidences := sum_tiersOf m
      columns := List.length_flatMap
      expressions := ?_
      rejected := length_entriesOf m .rejected
      unverified := length_entriesOf m .unverified
      listed := ⟨_, length_entriesOf m .verified, dealt_expressions m⟩ }
  · show (m.tableList.map (tableEntry m)).map (·.name) = _
    rw [List.map_map]
    rfl
  · rw [Nat.add_comm, ← sum_sections m]
    exact hissues.sum_lengths
  · -- each expression is listed under one status
    have hsum := (dealt_expressions m).sum_lengths
    simp only [List.map_cons, List.map_nil, List.sum_cons, List.sum_nil, length_entriesOf] at hsum
    show countStatus m .verified + countStatus m .rejected + countStatus m .unverified = _
    rw [← length_expressions, ← hsum]
    omega

/-- Two tables with an expression of each status, a column that was not mapped, and issues about all of
it. -/
def reportedModel : Model :=
  { Model.empty .postgres .google (Audit.start "request" ⟨0, 0⟩) with
    tables :=
      [(⟨1⟩, { Table.empty ⟨1⟩ "t" with
          columns := [{ Column.plain ⟨2⟩ "x" ⟨"integer", [], [], 0, "integer"⟩ with
            confidence := some .exact
            default := some ⟨"0", some "0", .verified, none⟩ }]
          checks := [⟨⟨3⟩, "t_check", ⟨"x ~ 'a'", some "x ~ 'a'", .rejected, some "no operator"⟩⟩] }),
        (⟨4⟩, { Table.empty ⟨4⟩ "u" with
          columns := [{ Column.plain ⟨5⟩ "y" ⟨"integer", [], [], 0, "integer"⟩ with
            generated := some (.fresh "1 + 1") }] })]
    issues :=
      [.raise .expressionRejected .verifier (.check ⟨1⟩ ⟨3⟩) "no operator",
        .raise .unsupportedConstruct .reader .schema "a view",
        .raise .nameCollision .reader (.table ⟨4⟩) "renamed",
        .raise .lossyType .mapper (.column ⟨1⟩ ⟨2⟩) "narrower"]
    nextId := 6 }

theorem assemble_balances_reportedModel :
    reportedModel.validate = .ok () ∧ Balances reportedModel (assemble reportedModel)
      ∧ sections reportedModel (assemble reportedModel) =
        [(none, ["[warning] unsupported-construct: a view"]),
          (some ⟨1⟩, ["[error] expression-rejected: no operator", "[warning] lossy-type: narrower"]),
          (some ⟨4⟩, ["[info] name-collision: renamed"])] := by
  have hvalid : reportedModel.validate = .ok () := by decide
  exact ⟨hvalid, assemble_balances reportedModel hvalid, by decide⟩

end Report

end SchemaBridge
