/-
# Comments on rejected expressions

Before the statement of a table stand comments on its rejected expressions.  Whatever the source of an
expression and the message about it, they stay on the line of their comment, and nothing but the comments
depends on them.  The names in a comment are written as they are, and one with a line end in it carries
the comment to a line of its own.

## Key statements

* `forall_commentLines_iff`: when every line of comments is marked as one.
* `bodyText_of_silenced`: the body does not depend on what was rejected.
* `createTable_comments`: both, of the statement of a table.
* `loose_rejectingTable`: a comment on a table with a line end in its name.
-/
import SchemaBridge.Proofs.Ddl.Clauses
import SchemaBridge.Proofs.Text.Trimming
import SchemaBridge.Proofs.Verification.Expressions

namespace SchemaBridge

/-! ## Lines -/

/-- Which characters end a line: the line feed is one, the others are white space but not the space. -/
structure IsLineEnd (ends : Char → Bool) : Prop where
  feed : ends '\n' = true
  blank : ∀ c, ends c = true → Text.isBlank c = true
  space : ends ' ' = false

/-- No blank and no character that is not blank ends a line. -/
theorem IsLineEnd.eq_false {ends : Char → Bool} (h : IsLineEnd ends) {c : Char}
    (hc : c = ' ' ∨ Text.isBlank c = false) : ends c = false := by
  rcases hc with rfl | hblank
  · exact h.space
  · refine Bool.eq_false_iff.2 fun hends => ?_
    rw [h.blank c hends] at hblank
    cases hblank

namespace Text

section Lines

variable {ends : Char → Bool}

/-- What precedes the first line end belongs to the first line. -/
theorem splitOnP_append_left {a : List Char} (ha : ∀ c ∈ a, ends c = false) (b : List Char) :
    (a ++ b).splitOnP ends = (b.splitOnP ends).modifyHead (a ++ ·) := by
  induction a with
  | nil =>
    show b.splitOnP ends = (b.splitOnP ends).modifyHead fun l => l
    exact (congrFun List.modifyHead_id _).symm
  | cons c a ih =>
    obtain ⟨hc, ha⟩ := List.forall_mem_cons.1 ha
    rw [List.cons_append, List.splitOnP_cons_eq_if_modifyHead, if_neg (by simp [hc]), ih ha,
      List.modifyHead_modifyHead]
    rfl

/-- What follows the last line end belongs to the last line. -/
theorem exists_splitOnP_append (ends : Char → Bool) (a : List Char) : ∃ ls l,
    a.splitOnP ends = ls ++ [l]
      ∧ ∀ b : List Char, (∀ c ∈ b, ends c = false) → (a ++ b).splitOnP ends = ls ++ [l ++ b] := by
  induction a with
  | nil => exact ⟨[], [], rfl, fun b hb => List.splitOnP_eq_singleton hb⟩
  | cons c a ih =>
    obtain ⟨ls, l, hself, happend⟩ := ih
    by_cases hc : ends c = true
    · refine ⟨[] :: ls, l, ?_, fun b hb => ?_⟩
      · rw [List.splitOnP_cons_eq_if_modifyHead, if_pos hc, hself]
        rfl
      · rw [List.cons_append, List.splitOnP_cons_eq_if_modifyHead, if_pos hc, happend b hb]
        rfl
    · -- the character belongs to the first line, which is the last one if there is no other
      cases ls with
      | nil =>
        refine ⟨[], c :: l, ?_, fun b hb => ?_⟩
        · rw [List.splitOnP_cons_eq_if_modifyHead, if_neg hc, hself]
          rfl
        · rw [List.cons_append, List.splitOnP_cons_eq_if_modifyHead, if_neg hc, happend b hb]
          rfl
      | cons l₀ ls =>
        refine ⟨(c :: l₀) :: ls, l, ?_, fun b hb => ?_⟩
        · rw [List.splitOnP_cons_eq_if_modifyHead, if_neg hc, hself]
          rfl
        · rw [List.cons_append, List.splitOnP_cons_eq_if_modifyHead, if_neg hc, happend b hb]
          rfl

/-- The lines of texts that each end a line, before the empty one at the end. -/
theorem dropLast_splitOnP_flatMap {c : Char} (hc : ends c = true) {α : Type} (l : List α)
    (f : α → List Char) : ((l.flatMap fun a => f a ++ [c]).splitOnP ends).dropLast
      = l.flatMap fun a => (f a).splitOnP ends := by
  have hlines : (l.flatMap fun a => f a ++ [c]).splitOnP ends
      = (l.flatMap fun a => (f a).splitOnP ends) ++ [[]] := by
    induction l with
    | nil => rfl
    | cons a l ih =>
      rw [List.flatMap_cons, List.append_assoc, List.singleton_append,
        List.splitOnP_append_cons _ _ hc, ih, List.flatMap_cons, List.append_assoc]
  rw [hlines, List.dropLast_concat]

end Lines

/-- A text that ends where a character first occurs is at the front of another one, or not, whatever
follows that character. -/
theorem isPrefix_append_cons_iff {q l rest : List Char} {c : Char} (hc : c ∉ q) :
    q ++ [c] <+: l ++ c :: rest ↔ q ++ [c] <+: l ++ [c] := by
  have hfront : l ++ [c] <+: l ++ c :: rest := ⟨rest, by simp⟩
  constructor
  · intro h
    by_cases hlength : q.length ≤ l.length
    · refine List.prefix_of_prefix_length_le h hfront ?_
      rw [List.length_append, List.length_append, List.length_singleton]
      omega
    · have hq : q <+: l ++ c :: rest := (List.prefix_append q [c]).trans h
      have hlq : l ++ [c] <+: q := by
        refine List.prefix_of_prefix_length_le hfront hq ?_
        rw [List.length_append, List.length_singleton]
        omega
      exact absurd (hlq.subset (List.mem_append_right l (List.mem_singleton_self c))) hc
  · intro h
    exact h.trans hfront

/-- A text on one line: it has no white space but the space. -/
def IsInline (s : List Char) : Prop := ∀ c ∈ s, c = ' ' ∨ isBlank c = false

instance (s : List Char) : Decidable (IsInline s) :=
  decidable_of_iff (s.all fun c => c = ' ' || !isBlank c) (by unfold IsInline; simp)

/-- Two texts on one line make one on one line. -/
theorem IsInline.append {s s' : List Char} (h : IsInline s) (h' : IsInline s') :
    IsInline (s ++ s') :=
  List.forall_mem_append.2 ⟨h, h'⟩

/-- A text that was flattened stands on one line. -/
theorem isInline_flatten (s : String) : IsInline (flatten s).toList := by
  intro c hc
  unfold flatten wordsOf at hc
  rw [String.toList_intercalate] at hc
  obtain hspace | ⟨w, hw, hcw⟩ := mem_or_mem_of_mem_intercalate hc
  · exact .inl (List.mem_singleton.1 hspace)
  · rw [List.map_map, List.mem_map] at hw
    obtain ⟨v, hv, rfl⟩ := hw
    rw [Function.comp_apply, String.toList_ofList] at hcw
    exact .inr (words_not_blank s.toList v hv c hcw)

end Text

/-- No line ends in a text on one line. -/
theorem IsLineEnd.not_of_inline {ends : Char → Bool} (h : IsLineEnd ends) {s : List Char}
    (hs : Text.IsInline s) : ∀ c ∈ s, ends c = false :=
  fun c hc => h.eq_false (hs c hc)

namespace Ddl

variable {ends : Char → Bool}

/-- How every line of a comment on a rejected expression begins. -/
def rejectedMark : List Char := "-- rejected:".toList

/-- What follows the names in a comment. -/
def noteRest (e : Expression) : List Char :=
  (" " ++ Text.flatten e.source ++ " (" ++ Text.flatten (e.rejection.getD "no detail") ++ ")").toList

/-- A comment begins with its mark and ends with the line. -/
theorem toList_rejectedNote (what : String) (e : Expression) : (rejectedNote what e).toList
    = (rejectedMark ++ [' '] ++ (what.toList ++ ':' :: noteRest e)) ++ ['\n'] := by
  unfold rejectedNote noteRest rejectedMark
  simp [String.toList_append]

/-- What a comment says of an expression stands on one line. -/
theorem isInline_noteRest (e : Expression) : Text.IsInline (noteRest e) := by
  have hspace : Text.IsInline " ".toList := by decide
  have hopen : Text.IsInline " (".toList := by decide
  have hclose : Text.IsInline ")".toList := by decide
  unfold noteRest
  simp only [String.toList_append]
  exact (((hspace.append (Text.isInline_flatten _)).append hopen).append
    (Text.isInline_flatten _)).append hclose

/-- The lines of one comment are marked if those are on which the names go on after a line end. -/
theorem forall_noteLines_iff (h : IsLineEnd ends) (what : String) (e : Expression) :
    (∀ line ∈ (rejectedMark ++ [' '] ++ (what.toList ++ ':' :: noteRest e)).splitOnP ends,
      rejectedMark <+: line)
    ↔ ∀ line ∈ ((what.toList ++ [':']).splitOnP ends).tail, rejectedMark <+: line := by
  have hmark : Text.IsInline (rejectedMark ++ [' ']) := by decide
  have hcolon : Text.IsInline [':'] := by decide
  have hrest : Text.IsInline (':' :: noteRest e) := hcolon.append (isInline_noteRest e)
  have hfirst : ∀ line, rejectedMark <+: rejectedMark ++ [' '] ++ line := by
    intro line
    rw [List.append_assoc]
    exact List.prefix_append _ _
  obtain ⟨ls, l, -, happend⟩ := Text.exists_splitOnP_append ends what.toList
  rw [Text.splitOnP_append_left (h.not_of_inline hmark), happend _ (h.not_of_inline hrest),
    happend [':'] (h.not_of_inline hcolon)]
  cases ls with
  | nil =>
    refine iff_of_true (List.forall_mem_singleton.2 (hfirst _)) ?_
    exact List.forall_mem_nil _
  | cons l₀ ls =>
    -- the mark ends at its first colon, so it does not matter what follows the one of the comment
    have hlast : rejectedMark <+: l ++ ':' :: noteRest e ↔ rejectedMark <+: l ++ [':'] := by
      have hmark : rejectedMark = "-- rejected".toList ++ [':'] := by decide
      rw [hmark]
      exact Text.isPrefix_append_cons_iff (by decide)
    show (∀ line ∈ (rejectedMark ++ [' '] ++ l₀) :: (ls ++ [l ++ ':' :: noteRest e]),
      rejectedMark <+: line) ↔ ∀ line ∈ ls ++ [l ++ [':']], rejectedMark <+: line
    rw [List.forall_mem_cons, List.forall_mem_append, List.forall_mem_append,
      List.forall_mem_singleton, List.forall_mem_singleton, hlast]
    exact and_iff_right (hfirst l₀)

/-- The comments on expressions, one after the other. -/
def commentText (l : List (String × Expression)) : String :=
  String.join (l.map fun x => rejectedNote x.1 x.2)

/-- The lines of comments, before what follows them. -/
def commentLines (ends : Char → Bool) (l : List (String × Expression)) : List (List Char) :=
  ((commentText l).toList.splitOnP ends).dropLast

/-- Each line is a comment if the names in it bring no line that is none. -/
theorem forall_commentLines_iff (h : IsLineEnd ends) (l : List (String × Expression)) :
    (∀ line ∈ commentLines ends l, rejectedMark <+: line)
    ↔ ∀ x ∈ l, ∀ line ∈ ((x.1.toList ++ [':']).splitOnP ends).tail, rejectedMark <+: line := by
  have htext : (commentText l).toList = l.flatMap fun x =>
      (rejectedMark ++ [' '] ++ (x.1.toList ++ ':' :: noteRest x.2)) ++ ['\n'] := by
    unfold commentText
    rw [String.toList_join, List.flatMap_map]
    exact congrArg (List.flatMap · l) (funext fun x => toList_rejectedNote x.1 x.2)
  unfold commentLines
  rw [htext, Text.dropLast_splitOnP_flatMap h.feed, List.forall_mem_flatMap]
  exact forall₂_congr fun x _ => forall_noteLines_iff h x.1 x.2

/-- The names that comments on the expressions of a table are made of. -/
def commentNames (t : Table) : List String :=
  t.name :: (t.columns.map (·.name) ++ t.checks.map (·.name))

/-- Names without line ends bring no line. -/
theorem not_ends_of_mem_leftOut (h : IsLineEnd ends) {t : Table}
    (hnames : ∀ n ∈ commentNames t, ∀ c ∈ n.toList, ends c = false) {x : String × Expression}
    (hx : x ∈ leftOut t) : ∀ c ∈ x.1.toList ++ [':'], ends c = false := by
  -- the words between the names are fixed and have no line end
  have hfixed : ∀ c ∈ ['.', ':'], ends c = false := h.not_of_inline (by decide)
  obtain ⟨htable, hothers⟩ := List.forall_mem_cons.1 hnames
  obtain ⟨hcolumns, hchecks⟩ := List.forall_mem_append.1 hothers
  rcases List.mem_append.1 hx with hx | hx
  · obtain ⟨k, hk, hlabel⟩ := List.mem_filterMap.1 hx
    obtain ⟨e, -, rfl⟩ := Option.map_eq_some_iff.1 hlabel
    have hend : Text.IsInline
        (if k.generated.isSome then " generated as" else " default").toList := by
      cases k.generated.isSome <;> decide
    intro c hc
    unfold columnLabel at hc
    simp only [String.toList_append, List.append_assoc, List.mem_append] at hc
    obtain hc | hc | hc | hc | hc := hc
    · exact htable c hc
    · exact hfixed c (List.mem_cons.2 (.inl (List.mem_singleton.1 hc)))
    · exact hcolumns _ (List.mem_map_of_mem hk) c hc
    · exact h.not_of_inline hend c hc
    · exact hfixed c (List.mem_cons_of_mem _ hc)
  · obtain ⟨k, hk, hlabel⟩ := List.mem_filterMap.1 hx
    obtain ⟨e, -, rfl⟩ := Option.map_eq_some_iff.1 hlabel
    have hmiddle : Text.IsInline " check ".toList := by decide
    intro c hc
    unfold checkLabel at hc
    simp only [String.toList_append, List.append_assoc, List.mem_append] at hc
    obtain hc | hc | hc | hc := hc
    · exact htable c hc
    · exact h.not_of_inline hmiddle c hc
    · exact hchecks _ (List.mem_map_of_mem hk) c hc
    · exact hfixed c (List.mem_cons_of_mem _ hc)

/-- Names on one line each leave every comment on one line. -/
theorem forall_commentLines_of_names (h : IsLineEnd ends) {t : Table}
    (hnames : ∀ n ∈ commentNames t, ∀ c ∈ n.toList, ends c = false) :
    ∀ line ∈ commentLines ends (leftOut t), rejectedMark <+: line := by
  refine (forall_commentLines_iff h (leftOut t)).2 fun x hx => ?_
  rw [List.splitOnP_eq_singleton (not_ends_of_mem_leftOut h hnames hx)]
  exact List.forall_mem_nil _

end Ddl

/-! ## What was rejected and why -/

/-- An expression of which nothing is known if it was rejected. -/
def Expression.silenced (e : Expression) : Expression :=
  if e.status = .rejected then ⟨"", none, .rejected, none⟩ else e

/-- A column without the expressions that were rejected. -/
def Column.silenced (c : Column) : Column :=
  { c with default := c.default.map (·.silenced), generated := c.generated.map (·.silenced) }

/-- What is written of a column, without what was rejected. -/
theorem Column.written?_silenced (c : Column) : c.silenced.written? = c.written?.map (·.silenced) := by
  unfold written? silenced
  cases c.generated <;> rfl

/-- A table without what was rejected, and why. -/
def Table.silenced (t : Table) : Table :=
  { t with
    columns := t.columns.map Column.silenced
    checks := t.checks.map fun k => { k with expr := k.expr.silenced } }

/-- A table without verdicts is the same without those that were rejected. -/
theorem Table.bare_silenced (t : Table) : t.silenced.bare = t.bare := by
  have hcolumn (c : Column) : c.silenced.bare = c.bare := by
    unfold Column.silenced Column.bare
    simp only [Option.map_map, Function.comp_def]
  unfold Table.silenced Table.bare
  simp only [List.map_map, Function.comp_def, hcolumn]

/-- The names of a table are those of its bare table. -/
theorem Table.hasAcceptedNames_bare (t : Table) : t.bare.HasAcceptedNames ↔ t.HasAcceptedNames := by
  unfold Table.bare
  rw [Table.hasAcceptedNames_iff, Table.hasAcceptedNames_iff]
  simp only [List.forall_mem_map]
  rfl

namespace Ddl

/-- What was rejected has no text anyway. -/
theorem expressionText_silenced (s : Style) (t : Table) (e : Expression) :
    expressionText s t.silenced e.silenced = expressionText s t e := by
  have htranslate (text : String) : Verification.translate s.source s.target t.silenced text
      = Verification.translate s.source s.target t text := by
    rw [← Verification.translate_bare, t.bare_silenced, Verification.translate_bare]
  unfold expressionText Expression.silenced
  cases hstatus : e.status <;> simp [hstatus, htranslate]

/-- So no column is written otherwise. -/
theorem columnWith_silenced (s : Style) (t : Table) (c : Column) :
    columnWith s (expressionText s t.silenced) c.silenced = columnWith s (expressionText s t) c := by
  have htext : c.silenced.written?.bind (expressionText s t.silenced)
      = c.written?.bind (expressionText s t) := by
    rw [Column.written?_silenced, Option.bind_map]
    exact congrArg c.written?.bind (funext fun e => expressionText_silenced s t e)
  have hgenerated : c.silenced.generated.isSome = c.generated.isSome := Option.isSome_map
  unfold columnWith clauseWith
  rw [htext, hgenerated]
  rfl

/-- No check is written otherwise. -/
theorem checkWith?_silenced (s : Style) (t : Table) (k : CheckConstraint) :
    checkWith? s (expressionText s t.silenced) { k with expr := k.expr.silenced }
      = checkWith? s (expressionText s t) k := by
  unfold checkWith?
  dsimp only
  rw [expressionText_silenced]

/-- No key is written otherwise. -/
theorem keyText_silenced (s : Style) (t : Table) (directions : Bool) (keys : List KeyPart) :
    keyText s t.silenced directions keys = keyText s t directions keys := by
  have hname (id : ColumnId) : t.silenced.columnName id = t.columnName id := by
    rw [← Table.columnName_bare, t.bare_silenced, Table.columnName_bare]
  unfold keyText
  simp only [hname]

/-- What follows the comments of a table. -/
def bodyText (s : Style) (t : Table) : String := bodyWith s t (expressionText s t)

/-- So the statement is the same without what was rejected. -/
theorem bodyText_silenced (s : Style) (t : Table) : bodyText s t.silenced = bodyText s t := by
  have hcolumns : t.silenced.columns.map (columnWith s (expressionText s t.silenced))
      = t.columns.map (columnWith s (expressionText s t)) := by
    show (t.columns.map Column.silenced).map _ = _
    rw [List.map_map]
    exact List.map_congr_left fun c _ => columnWith_silenced s t c
  have hchecks : t.silenced.checks.filterMap (checkWith? s (expressionText s t.silenced))
      = t.checks.filterMap (checkWith? s (expressionText s t)) := by
    show (t.checks.map _).filterMap _ = _
    rw [List.filterMap_map]
    exact List.filterMap_congr fun k _ => checkWith?_silenced s t k
  have hprimaryKey : t.silenced.primaryKey = t.primaryKey := rfl
  have hhas : t.silenced.hasPrimaryKey = t.hasPrimaryKey := rfl
  have hname : t.silenced.name = t.name := rfl
  unfold bodyText bodyWith
  rw [hcolumns, hchecks, keyText_silenced, keyText_silenced, hprimaryKey, hhas, hname]

theorem bodyText_of_silenced {s : Style} {t t' : Table} (h : t'.silenced = t.silenced) :
    bodyText s t' = bodyText s t := by
  rw [← bodyText_silenced s t', h, bodyText_silenced]

/-! ## Statements of tables -/

/-- The statement of a table is its comments and its body. -/
theorem createTable_eq (s : Style) {t : Table} (h : t.HasAcceptedNames) :
    createTable s t = .ok (commentText (leftOut t) ++ bodyText s t) := by
  have htext : tableText s t = commentText (leftOut t) ++ bodyText s t := by
    rw [tableText_eq, tableNotes_eq]
    rfl
  rw [(createTable_writes s t).eq_ok fun n hn => h.accepts (tableNames_known t n hn), htext]

/-- **Rejected expressions stay inside comments.**  The statement of a table begins with comments on the
rejected expressions.  Every line of these is marked as a comment, unless a name in one has a line end
after which no mark follows; so it is if the names have no line ends.  The rest is the same whatever the
sources of these expressions are and the messages about them. -/
theorem createTable_comments (s : Style) {t : Table} (h : t.HasAcceptedNames) :
    createTable s t = .ok (commentText (leftOut t) ++ bodyText s t)
    ∧ (∃ rest, bodyText s t = "CREATE TABLE " ++ s.write t.name ++ " (\n    " ++ rest)
    ∧ (∀ ends, IsLineEnd ends → ((∀ line ∈ commentLines ends (leftOut t), rejectedMark <+: line)
      ↔ ∀ x ∈ leftOut t, ∀ line ∈ ((x.1.toList ++ [':']).splitOnP ends).tail,
        rejectedMark <+: line))
    ∧ (∀ ends, IsLineEnd ends → (∀ n ∈ commentNames t, ∀ c ∈ n.toList, ends c = false) →
      ∀ line ∈ commentLines ends (leftOut t), rejectedMark <+: line)
    ∧ ∀ t' : Table, t'.silenced = t.silenced →
      createTable s t' = .ok (commentText (leftOut t') ++ bodyText s t) := by
  refine ⟨createTable_eq s h, exists_bodyWith_eq s t _, ?_, ?_, ?_⟩
  · intro ends hends
    exact forall_commentLines_iff hends (leftOut t)
  · intro ends hends hnames
    exact forall_commentLines_of_names hends hnames
  · intro t' hsame
    have h' : t'.HasAcceptedNames := by
      rw [← t'.hasAcceptedNames_bare, ← t'.bare_silenced, hsame, t.bare_silenced,
        t.hasAcceptedNames_bare]
      exact h
    rw [createTable_eq s h', bodyText_of_silenced hsame]

/-- A line feed ends a line. -/
theorem isLineEnd_feed : IsLineEnd (· == '\n') where
  feed := by decide
  blank c hc := by
    rw [eq_of_beq hc]
    decide
  space := by decide

/-- A table of some name with a check that was rejected. -/
def rejectingTable (name : String) (e : Expression) : Table :=
  { Table.empty ⟨1⟩ name with
    columns := [.plain ⟨2⟩ "x" ⟨"integer", [], [], 0, "integer"⟩]
    checks := [⟨⟨3⟩, "k", e⟩] }

/-- A rejected expression with line ends in its source and in what is said of it. -/
def noisyExpression : Expression :=
  ⟨"x >\n0); DROP TABLE t; --", some "x", .rejected, some "no\n\nDROP TABLE t;"⟩

theorem createTable_comments_noisyExpression :
    (rejectingTable "t" noisyExpression).HasAcceptedNames
      ∧ (∀ n ∈ commentNames (rejectingTable "t" noisyExpression), ∀ c ∈ n.toList, (c == '\n') = false)
      ∧ (∀ line ∈ commentLines (· == '\n') (leftOut (rejectingTable "t" noisyExpression)),
        rejectedMark <+: line)
      ∧ (rejectingTable "t" ⟨"", none, .rejected, none⟩).silenced
        = (rejectingTable "t" noisyExpression).silenced
      ∧ createTable ⟨.postgres, .postgres⟩ (rejectingTable "t" ⟨"", none, .rejected, none⟩)
        = .ok ("-- rejected: t check k:  (no detail)\n"
          ++ bodyText ⟨.postgres, .postgres⟩ (rejectingTable "t" noisyExpression)) := by
  have hnames : (rejectingTable "t" noisyExpression).HasAcceptedNames := by decide +kernel
  have hinline : ∀ n ∈ commentNames (rejectingTable "t" noisyExpression), Text.IsInline n.toList := by
    decide +kernel
  have hlines : ∀ n ∈ commentNames (rejectingTable "t" noisyExpression), ∀ c ∈ n.toList,
      (c == '\n') = false := fun n hn => isLineEnd_feed.not_of_inline (hinline n hn)
  have hsame : (rejectingTable "t" ⟨"", none, .rejected, none⟩).silenced
      = (rejectingTable "t" noisyExpression).silenced := by decide
  obtain ⟨-, -, -, hmarked, hother⟩ := createTable_comments ⟨.postgres, .postgres⟩ hnames
  exact ⟨hnames, hlines, hmarked _ isLineEnd_feed hlines, hsame, hother _ hsame⟩

/-- A comment on a table with a line end in its name goes on outside the comment. -/
theorem loose_rejectingTable :
    (rejectingTable "a\nb" noisyExpression).HasAcceptedNames
      ∧ createTable ⟨.postgres, .postgres⟩ (rejectingTable "a\nb" noisyExpression)
        = .ok ("-- rejected: a\nb check k: x > 0); DROP TABLE t; -- (no DROP TABLE t;)\n"
          ++ bodyText ⟨.postgres, .postgres⟩ (rejectingTable "a\nb" noisyExpression))
      ∧ ¬ ∀ line ∈ commentLines (· == '\n') (leftOut (rejectingTable "a\nb" noisyExpression)),
        rejectedMark <+: line := by
  refine ⟨?_, ?_, ?_⟩
  all_goals decide +kernel

end Ddl

end SchemaBridge
