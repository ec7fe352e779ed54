/-
# Comments act as white space

A comment that stands where the scan is at top level might as well be a space, or nothing at the end of
a line: the same statements are found.  What comes before it is read as it is read before a space, and
after it the two scans differ in nothing but lines.

## Key statements

* `atTopLevel_iff`: whether a place is at top level can be decided.
* `comments_act_as_white_space`: comments put at a place at top level.
-/
import SchemaBridge.Proofs.Dump.AlikeScans
import SchemaBridge.Proofs.Dump.Places

namespace SchemaBridge.Dump

/-- The scan is at top level behind a text: it comes to a space that is put there.  It does not if the
text ends in the middle of a quotation, a comment or copied data; a line comment and the last row of
copied data go on to the end of their line. -/
def AtTopLevel (before : String) : Prop :=
  ∃ s, Scan.Reads .postgres .start (before.toList ++ [' ']) s [' ']

/-- Whether a place is at top level can be computed. -/
theorem atTopLevel_iff {before : String} : AtTopLevel before
    ↔ ∃ n ∈ List.range (before.toList.length + 2),
      (Scan.steps .postgres n .start (before.toList ++ [' '])).2 = [' '] := by
  constructor
  · rintro ⟨s, hs⟩
    obtain ⟨n, hn, hsteps⟩ := hs.exists_steps
    rw [List.length_append] at hn
    exact ⟨n, hn, by rw [hsteps]⟩
  · rintro ⟨n, -, hsteps⟩
    have hreads := Scan.Reads.of_steps .postgres n .start (before.toList ++ [' '])
    rw [hsteps] at hreads
    exact ⟨_, hreads⟩

instance : DecidablePred AtTopLevel := fun _ => decidable_of_iff _ atTopLevel_iff.symm

example : AtTopLevel "SELECT $$it's$$ -" := by decide +kernel

example : ¬ AtTopLevel "SELECT 'a', 'it''s " := by decide +kernel

/-! ## Places at top level -/

/-- Blanks, line ends, dashes and slashes break what stands before them. -/
theorem isBreak_of_mem {f : Char} (h : f ∈ [' ', '\n', '-', '/']) : IsBreak f := by
  simp only [List.mem_cons, List.not_mem_nil, or_false] at h
  refine ⟨?_, ?_, ?_, ?_⟩ <;> rcases h with rfl | rfl | rfl | rfl <;>
    simp [Scan.IsQuote, IsTagLetter] <;> decide

/-! ## Comments -/

/-- A comment ends at its first closing mark. -/
theorem commentSpan_of_closed {body : List Char} (h : ¬ ['*', '/'] <:+: body) (after : List Char) :
    commentSpan (body ++ '*' :: '/' :: after) = (body ++ ['*', '/'], after) := by
  induction body with
  | nil => rfl
  | cons c body ih =>
    have hrest : ¬ ['*', '/'] <:+: body := fun hin => h (hin.trans (List.suffix_cons c body).isInfix)
    have hopen : ∀ c' u, body ++ '*' :: '/' :: after = c' :: u → ¬ (c = '*' ∧ c' = '/') := by
      rintro c' u hu ⟨rfl, rfl⟩
      cases body with
      | nil => exact absurd (List.cons.inj hu).1 (by decide)
      | cons a body =>
        obtain rfl : a = '/' := (List.cons.inj hu).1
        exact h ⟨[], body, rfl⟩
    cases hbody : body ++ '*' :: '/' :: after with
    | nil => exact absurd hbody (by simp)
    | cons c' u =>
      rw [List.cons_append, hbody, commentSpan_cons_cons, if_neg (hopen c' u hbody), ← hbody, ih hrest]
      rfl

/-! ## Scans that find the same texts -/

section

open Scan

variable {d : SourceDialect} {s t : Scan}

/-- Scans behind two texts find the same texts in what follows. -/
theorem statementTexts_eq {a b : String} {r : List Char} (hs : Reads d .start a.toList s r)
    (ht : Reads d .start b.toList t r) (h : Alike (fun _ _ => True) [] s t) :
    statementTexts d b = statementTexts d a := by
  obtain ⟨found, hfound, hall⟩ := h.close_run (d := d) (fun _ _ => trivial) r
  rw [List.append_nil] at hfound
  unfold statementTexts statements
  rw [hs.run_eq, ht.run_eq, hfound, List.map_reverse, List.map_reverse,
    Statement.map_text_of_forall₂ hall]

/-- Statements correspond to themselves. -/
theorem forall₂_corresponds (those : List Statement) :
    List.Forall₂ (Statement.Corresponds fun _ _ => True) those those :=
  List.forall₂_same.2 fun _ _ => ⟨rfl, trivial⟩

/-- A comment is not unwrapped. -/
theorem Scan.comment_eq (hd : d ≠ .mysql) (s : Scan) (r : List Char) : s.comment d r
    = ({ s with line := s.line + newlines (commentSpan r).1, current := ' ' :: s.current },
      (commentSpan r).2) := by
  unfold comment
  dsimp only
  split
  · rw [beq_eq_false_iff_ne.2 hd, Bool.false_and]
    rfl
  · rfl

/-- A comment is one step, and leaves a blank. -/
theorem Scan.step_comment (hd : d ≠ .mysql) {body : List Char} (hbody : ¬ ['*', '/'] <:+: body)
    (s : Scan) (after : List Char) : s.step d '/' ('*' :: (body ++ '*' :: '/' :: after))
      = ({ s.noted with
          line := s.noted.line + newlines (body ++ ['*', '/']), current := ' ' :: s.noted.current },
        after) := by
  rw [step_eq_of_ne_mysql hd, segment_comment, comment_eq hd, commentSpan_of_closed hbody]

/-- A comment to the end of the line is one step, and leaves the line end. -/
theorem Scan.step_line (hd : d ≠ .mysql) {body : List Char} (hbody : '\n' ∉ body) (s : Scan)
    (after : List Char) :
    s.step d '-' ('-' :: (body ++ '\n' :: after)) = (s.noted, '\n' :: after) := by
  have hopens : OpensLine d '-' ('-' :: (body ++ '\n' :: after)) := .inl ⟨rfl, rfl⟩
  have hline : '\n' ∉ '-' :: body := fun h => by simp [hbody] at h
  rw [step_eq_of_ne_mysql hd, segment_line hopens]
  exact congrArg (Prod.mk _) (congrArg Prod.snd (lineSpan_append_newline hline after))

/-- A space and a comment are taken alike. -/
theorem Scan.alike_comment (s : Scan) (n : Nat) : Alike (fun _ _ => True) [] (s.plain ' ')
    { s with line := s.line + n, current := ' ' :: s.current } :=
  ⟨⟨s.statements, (List.append_nil _).symm, forall₂_corresponds s.statements⟩, .refl _, trivial,
    fun _ => trivial, rfl, (Bool.and_true _).symm⟩

/-- Noting where a statement begins changes nothing that is seen. -/
theorem Scan.alike_noted (s : Scan) : Alike (fun _ _ => True) [] s s.noted := by
  unfold noted
  split <;> exact ⟨⟨s.statements, (List.append_nil _).symm, forall₂_corresponds s.statements⟩,
    .refl _, trivial, fun _ => trivial, rfl, rfl⟩

end

/-- What is read before a space is read before any other break. -/
theorem reads_of_space {before : String} {s : Scan} {f : Char}
    (h : Scan.Reads .postgres .start (before.toList ++ [' ']) s [' ']) (hf : f ∈ [' ', '\n', '-', '/'])
    (hdash : f = '-' → ¬ ['-'] <:+ before.toList) (z : List Char) :
    Scan.Reads .postgres .start (before.toList ++ f :: z) s (f :: z) :=
  h.place (by decide) rfl (fun hspace => absurd hspace (by decide)) (isBreak_of_mem hf) hdash

/-- A comment at top level reads like a blank. -/
theorem statementTexts_comment {before : String} (h : AtTopLevel before) {body : String}
    (hbody : ¬ ['*', '/'] <:+: body.toList) (after : String) :
    statementTexts .postgres (before ++ "/*" ++ body ++ "*/" ++ after)
      = statementTexts .postgres (before ++ " " ++ after) := by
  obtain ⟨s, hs⟩ := h
  have hdelimiter : s.delimiter = ⟨';', []⟩ := hs.delimiter (by decide)
  refine statementTexts_eq (r := after.toList) ?_ ?_
    (s.noted.alike_comment (newlines (body.toList ++ ['*', '/'])))
  · have hspace := reads_of_space hs (f := ' ') (by decide) (fun h => absurd h (by decide)) after.toList
    simp only [String.toList_append, List.append_assoc]
    exact hspace.trans (.of_step (Scan.step_white hdelimiter (.inl rfl) _))
  · have hcomment := reads_of_space hs (f := '/') (by decide) (fun h => absurd h (by decide))
      ('*' :: (body.toList ++ '*' :: '/' :: after.toList))
    simp only [String.toList_append, List.append_assoc]
    exact hcomment.trans (.of_step (Scan.step_comment (by decide) hbody s _))

/-- A comment to the end of the line reads like the line end. -/
theorem statementTexts_line {before : String} (h : AtTopLevel before)
    (hdash : ¬ ['-'] <:+ before.toList) {body : String} (hbody : '\n' ∉ body.toList) (after : String) :
    statementTexts .postgres (before ++ "--" ++ body ++ "\n" ++ after)
      = statementTexts .postgres (before ++ "\n" ++ after) := by
  obtain ⟨s, hs⟩ := h
  refine statementTexts_eq (r := '\n' :: after.toList) ?_ ?_ s.alike_noted
  · simp only [String.toList_append, List.append_assoc]
    exact reads_of_space hs (by decide) (fun h => absurd h (by decide)) after.toList
  · have hline := reads_of_space hs (f := '-') (by decide) (fun _ => hdash)
      ('-' :: (body.toList ++ '\n' :: after.toList))
    simp only [String.toList_append, List.append_assoc]
    exact hline.trans (.of_step (Scan.step_line (by decide) hbody s _))

/-- **Comments act as white space.**  At a place at top level a block comment does what a space does,
and before the end of a line a comment does nothing. -/
theorem comments_act_as_white_space {before : String} (h : AtTopLevel before) (after : String) :
    (∀ body : String, ¬ ['*', '/'] <:+: body.toList →
      statementTexts .postgres (before ++ "/*" ++ body ++ "*/" ++ after)
        = statementTexts .postgres (before ++ " " ++ after))
    ∧ (¬ ['-'] <:+ before.toList → ∀ body : String, '\n' ∉ body.toList →
      statementTexts .postgres (before ++ "--" ++ body ++ "\n" ++ after)
        = statementTexts .postgres (before ++ "\n" ++ after)) :=
  ⟨fun _ hbody => statementTexts_comment h hbody after,
    fun hdash _ hbody => statementTexts_line h hdash hbody after⟩

theorem comments_act_as_white_space_after_literal :
    statementTexts .postgres ("SELECT 'a';" ++ "/*" ++ "'; $$" ++ "*/" ++ "SELECT 2")
        = ["SELECT 'a'", "SELECT 2"]
      ∧ statementTexts .postgres ("SELECT 'a';" ++ "--" ++ "'; $$" ++ "\n" ++ "SELECT 2")
        = ["SELECT 'a'", "SELECT 2"] := by
  have h : AtTopLevel "SELECT 'a';" := by decide +kernel
  obtain ⟨hblock, hline⟩ := comments_act_as_white_space h "SELECT 2"
  constructor
  · rw [hblock "'; $$" (by decide +kernel)]
    decide +kernel
  · rw [hline (by decide +kernel) "'; $$" (by decide +kernel)]
    decide +kernel

end SchemaBridge.Dump
