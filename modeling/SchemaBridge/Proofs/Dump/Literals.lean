/-
# String literals

In the dumps of MySQL a string stands between single or double marks, and in both a mark is part of the
string when it is doubled or when a backslash escapes it.  The scan knows escapes between single marks
only.  A literal that it takes whole stands in one statement as it is, and whatever it holds, nothing
else in the dump is read otherwise.

## Key statements

* `isQuotedBody_iff`: between double marks escapes make no difference, unless a mark is escaped.
* `Scan.exists_texts_of_begun`: what follows the beginning of a statement is read in one way.
* `Scan.step_literal_iff`: which literals are taken whole.
* `literals_are_atomic`: a literal stands in its statement, and nothing depends on what it holds.
-/
import SchemaBridge.Proofs.Dump.Comments
import SchemaBridge.Proofs.Dump.Joining

namespace SchemaBridge.Dump

/-- A quotation with its marks. -/
def quotation (q : Char) (body : List Char) : List Char := q :: (body ++ [q])

/-- A mark of a string. -/
def IsStringMark (q : Char) : Prop := q = '\'' ∨ q = '"'

instance : DecidablePred IsStringMark := fun q => inferInstanceAs (Decidable (q = '\'' ∨ q = '"'))

/-- A backslash escapes a mark in quoted text. -/
def EscapesMark (q : Char) (body : List Char) : Prop :=
  ∃ a b, IsQuotedBody q true a ∧ body = a ++ '\\' :: q :: b

/-! ## Escapes in quoted text -/

section Quoted

variable {q c : Char} {b b' : Bool} {t body : List Char}

/-- A mark in quoted text is doubled. -/
theorem isQuotedBody_mark (hq : q ≠ '\\') (h : IsQuotedBody q b (q :: t)) :
    ∃ u, t = q :: u ∧ IsQuotedBody q b u := by
  generalize hs : q :: t = s at h
  cases h with
  | nil => cases hs
  | @doubled u h =>
    obtain ⟨-, rfl⟩ := List.cons.inj hs
    exact ⟨u, rfl, h⟩
  | escaped c _ _ => exact absurd (List.cons.inj hs).1 hq
  | other hc _ _ => exact absurd (List.cons.inj hs).1.symm hc

/-- What follows an escaped character is quoted. -/
theorem isQuotedBody_escape (hq : q ≠ '\\') (h : IsQuotedBody q true ('\\' :: c :: t)) :
    IsQuotedBody q true t := by
  generalize hs : '\\' :: c :: t = s at h
  cases h with
  | nil => cases hs
  | doubled _ => exact absurd (List.cons.inj hs).1.symm hq
  | escaped c' _ h =>
    obtain ⟨-, hs⟩ := List.cons.inj hs
    obtain ⟨-, rfl⟩ := List.cons.inj hs
    exact h
  | other _ hb _ => exact absurd (List.cons.inj hs).1.symm (hb rfl)

/-- What follows any other character is quoted. -/
theorem isQuotedBody_other (hc : c ≠ q) (hb : b = true → c ≠ '\\') (h : IsQuotedBody q b (c :: t)) :
    IsQuotedBody q b t := by
  generalize hs : c :: t = s at h
  cases h with
  | nil => cases hs
  | doubled _ => exact absurd (List.cons.inj hs).1 hc
  | escaped c' he _ => exact absurd (List.cons.inj hs).1 (hb he)
  | other _ _ h =>
    obtain ⟨-, rfl⟩ := List.cons.inj hs
    exact h

/-- One mark more, and quoted text has one that is not doubled. -/
theorem not_isQuotedBody_cons (hq : q ≠ '\\') (h : IsQuotedBody q b t) :
    ¬ IsQuotedBody q b' (q :: t) := by
  induction h with
  | nil =>
    intro h'
    obtain ⟨u, hu, -⟩ := isQuotedBody_mark hq h'
    cases hu
  | doubled _ ih =>
    intro h'
    obtain ⟨u, hu, h'⟩ := isQuotedBody_mark hq h'
    obtain ⟨-, rfl⟩ := List.cons.inj hu
    exact ih h'
  | escaped c _ _ _ =>
    intro h'
    obtain ⟨u, hu, -⟩ := isQuotedBody_mark hq h'
    exact hq (List.cons.inj hu).1.symm
  | other hc _ _ _ =>
    intro h'
    obtain ⟨u, hu, -⟩ := isQuotedBody_mark hq h'
    exact hc (List.cons.inj hu).1

/-- What may be quoted with and without escapes escapes no mark. -/
theorem not_escapesMark (hq : q ≠ '\\') (h : IsQuotedBody q true body)
    (hplain : IsQuotedBody q false body) : ¬ EscapesMark q body := by
  rintro ⟨a, rest, ha, rfl⟩
  have hnot : false = true → ∀ x : Char, x ≠ '\\' := nofun
  induction ha with
  | nil =>
    -- the mark behind the backslash would have to be doubled in one reading and not in the other
    have hrest := isQuotedBody_escape hq h
    exact not_isQuotedBody_cons hq hrest (isQuotedBody_other hq.symm (fun hb => hnot hb _) hplain)
  | doubled _ ih =>
    obtain ⟨u, hu, h⟩ := isQuotedBody_mark hq h
    obtain ⟨u', hu', hplain⟩ := isQuotedBody_mark hq hplain
    obtain ⟨-, rfl⟩ := List.cons.inj hu
    obtain ⟨-, rfl⟩ := List.cons.inj hu'
    exact ih h hplain
  | escaped c _ _ ih =>
    have h := isQuotedBody_escape hq h
    have hplain := isQuotedBody_other hq.symm (fun hb => hnot hb _) hplain
    by_cases hc : c = q
    · subst hc
      exact not_isQuotedBody_cons hq h hplain
    · exact ih h (isQuotedBody_other hc (fun hb => hnot hb _) hplain)
  | other hc hb _ ih =>
    exact ih (isQuotedBody_other hc hb h) (isQuotedBody_other hc (fun hb => hnot hb _) hplain)

/-- Where no mark is escaped, escapes do not matter. -/
theorem isQuotedBody_of_not_escapesMark (hq : q ≠ '\\') (h : IsQuotedBody q true body)
    (hnone : ¬ EscapesMark q body) : IsQuotedBody q false body := by
  induction h with
  | nil => exact .nil
  | doubled _ ih =>
    refine .doubled (ih ?_)
    rintro ⟨a, rest, ha, rfl⟩
    exact hnone ⟨_, rest, .doubled ha, rfl⟩
  | @escaped t c he _ ih =>
    have hc : c ≠ q := by
      rintro rfl
      exact hnone ⟨[], t, .nil, rfl⟩
    refine .other hq.symm nofun (.other hc nofun (ih ?_))
    rintro ⟨a, rest, ha, rfl⟩
    exact hnone ⟨_, rest, .escaped c he ha, rfl⟩
  | other hc hb _ ih =>
    refine .other hc nofun (ih ?_)
    rintro ⟨a, rest, ha, rfl⟩
    exact hnone ⟨_, rest, .other hc hb ha, rfl⟩

/-- Quoted text can be read without escapes exactly when it escapes no mark. -/
theorem isQuotedBody_iff (hq : q ≠ '\\') (h : IsQuotedBody q true body) :
    IsQuotedBody q false body ↔ ¬ EscapesMark q body :=
  ⟨not_escapesMark hq h, isQuotedBody_of_not_escapesMark hq h⟩

/-- A string as MySQL reads it is one to the scan, unless a mark is escaped between double marks. -/
theorem isQuotedBody_hasEscapes_iff (hq : IsStringMark q) (h : IsQuotedBody q true body) :
    IsQuotedBody q (hasEscapes .mysql q) body ↔ (q = '"' → ¬ EscapesMark q body) := by
  rcases hq with rfl | rfl
  · exact ⟨fun _ hq => absurd hq (by decide), fun _ => h⟩
  · exact (isQuotedBody_iff (by decide) h).trans ⟨fun hnot _ => hnot, fun hnot => hnot rfl⟩

/-- What is taken to the closing mark is quoted text. -/
theorem exists_body_of_quotedSpan {taken rest : List Char} (h : quotedSpan q b t = (taken, rest))
    (hrest : rest ≠ []) : ∃ body, taken = body ++ [q] ∧ IsQuotedBody q b body := by
  fun_induction quotedSpan q b t generalizing taken with
  | case1 => exact absurd (Prod.mk.inj h).2.symm hrest
  | case2 c => exact absurd (Prod.mk.inj h).2.symm hrest
  | case3 c d r hpair inner rest' hspan ih =>
    obtain ⟨rfl, rfl⟩ := Prod.mk.inj h
    obtain ⟨body, rfl, hbody⟩ := ih hspan
    rw [Bool.or_eq_true, Bool.and_eq_true, Bool.and_eq_true, beq_iff_eq, beq_iff_eq, beq_iff_eq] at hpair
    refine ⟨c :: d :: body, rfl, ?_⟩
    rcases hpair with ⟨rfl, rfl⟩ | ⟨rfl, rfl⟩
    · exact .escaped d rfl hbody
    · exact .doubled hbody
  | case4 c d r hpair hclose =>
    obtain ⟨rfl, rfl⟩ := Prod.mk.inj h
    exact ⟨[], by rw [beq_iff_eq.1 hclose]; rfl, .nil⟩
  | case5 c d r hpair hclose inner rest' hspan ih =>
    obtain ⟨rfl, rfl⟩ := Prod.mk.inj h
    obtain ⟨body, rfl, hbody⟩ := ih hspan
    refine ⟨c :: body, rfl, .other (fun hc => hclose (beq_iff_eq.2 hc)) ?_ hbody⟩
    rintro rfl rfl
    exact hpair rfl

end Quoted

/-! ## Statements that have begun -/

namespace Scan

variable {s t : Scan} {c : Char} {r : List Char}

/-- The texts of the statements that have been found, last first. -/
def texts (s : Scan) : List String := s.statements.map Statement.text

/-- A statement with something that shows has begun. -/
theorem isBlank_eq_false_of_mem (hc : c ∈ s.current) (hshown : Text.isBlank c = false) :
    s.isBlank = false := by
  unfold isBlank
  rw [List.all_eq_false]
  exact ⟨c, hc, by rw [hshown]; exact Bool.false_ne_true⟩

/-- A statement that has begun is found when it ends. -/
theorem close_texts (h : s.isBlank = false) :
    s.close.texts = String.ofList (Text.trim s.current.reverse) :: s.texts := by
  have hne : Text.trim s.current.reverse ≠ [] := by
    intro hnil
    have hempty := isEmpty_trim s
    rw [hnil, h] at hempty
    cases hempty
  unfold texts
  rw [close_statements rfl hne]
  rfl

/-- Noting where a statement begins finds none. -/
theorem texts_noted (s : Scan) : s.noted.texts = s.texts :=
  congrArg (List.map Statement.text) (statements_noted s)

section Taken

/-! What is taken stands behind what had been read of the statement. -/

variable (text : List Char) (lines : Nat) (b : Bool)

/-- What is taken comes to the statement. -/
theorem current_taken (s : Scan) : (s.noted.carry (.take text lines b)).current.reverse
    = s.current.reverse ++ text := by
  show (text.reverse ++ s.noted.current).reverse = _
  rw [current_noted, List.reverse_append, List.reverse_reverse]

/-- Taking text finds no statement. -/
theorem texts_taken (s : Scan) : (s.noted.carry (.take text lines b)).texts = s.texts :=
  texts_noted s

/-- A statement that has begun goes on. -/
theorem isBlank_taken (hs : s.isBlank = false) :
    (s.noted.carry (.take text lines b)).isBlank = false := by
  unfold isBlank carry
  rw [List.all_append, current_noted]
  show (_ && s.isBlank) = false
  rw [hs, Bool.and_false]

end Taken

/-- In the dumps of MySQL a step within a statement does not look at what has been read of it. -/
theorem exists_move_of_begun (ht : t.isBlank = false) (c : Char) (r : List Char) :
    ∃ m rest, rest.length ≤ r.length ∧ (∀ u, m ≠ .delimit u)
      ∧ ∀ s : Scan, s.isBlank = false → s.delimiter = t.delimiter →
        s.conditionalOnly = t.conditionalOnly → s.step .mysql c r = (s.noted.carry m, rest) := by
  obtain ⟨m, rest, hmakes⟩ := t.exists_segmentMakes .mysql c r
  refine ⟨m, rest, ?_, hmakes.delimit, fun s hs hdelimiter hconditional => ?_⟩
  · obtain ⟨part, hr, -⟩ := hmakes.part
    rw [hr, List.length_append]
    exact Nat.le_add_left _ _
  · have hview : SameView .mysql t s :=
      ⟨hs.trans ht.symm, fun hd => absurd rfl hd, hdelimiter, hconditional⟩
    rw [step_eq_segment (delimiterLine?_of_begun hs .mysql c r)]
    exact hmakes.segment _ (hview.trans (sameView_noted .mysql s))

/-- Scans behind a statement find the same texts in what follows. -/
theorem exists_texts_of_closed (u : Delimiter) (r : List Char) :
    ∃ later, ∀ s : Scan, s.current = [] → s.delimiter = u → s.conditionalOnly = false →
      (s.run .mysql r).close.texts = later ++ s.texts := by
  let e : Scan := { Scan.start with delimiter := u }
  refine ⟨(e.run .mysql r).close.texts, fun s hcurrent hdelimiter hconditional => ?_⟩
  have hnil : SameButFront e.current s.current := by
    rw [hcurrent]
    exact .refl []
  have halike : Alike (fun _ _ => True) s.statements e s :=
    ⟨⟨[], rfl, .nil⟩, hnil, trivial, fun _ => trivial, hdelimiter, hconditional⟩
  obtain ⟨found, hfound, hall⟩ := halike.close_run (d := .mysql) (fun _ _ => trivial) r
  unfold texts
  rw [hfound, List.map_append, Statement.map_text_of_forall₂ hall]

/-- What follows the beginning of a statement is read in one way, however the statement begins: some of
it ends the statement, and the rest makes others. -/
theorem exists_texts_of_begun (ht : t.isBlank = false) (r : List Char) :
    ∃ rest later, ∀ s : Scan, s.isBlank = false → s.delimiter = t.delimiter →
      s.conditionalOnly = t.conditionalOnly →
        (s.run .mysql r).close.texts
          = later ++ String.ofList (Text.trim (s.current.reverse ++ rest)) :: s.texts := by
  -- a move may take several characters, so the induction is on the length
  induction hn : r.length using Nat.strong_induction_on generalizing t r with
  | _ n ih =>
    cases r with
    | nil =>
      refine ⟨[], [], fun s hs _ _ => ?_⟩
      rw [run_nil, close_texts hs, List.append_nil, List.nil_append]
    | cons c r =>
      obtain ⟨m, r', hlength, hdelimit, hstep⟩ := exists_move_of_begun ht c r
      cases m with
      | take text lines b =>
        obtain ⟨rest, later, hrun⟩ := ih r'.length (by rw [← hn, List.length_cons]; omega)
          (isBlank_taken text lines b ht) r' rfl
        refine ⟨text ++ rest, later, fun s hs hdelimiter hconditional => ?_⟩
        have hsame : s.noted.delimiter = t.noted.delimiter := by
          rw [delimiter_noted, delimiter_noted, hdelimiter]
        rw [run_cons, hstep s hs hdelimiter hconditional,
          hrun _ (isBlank_taken text lines b hs) hsame rfl, current_taken, texts_taken,
          List.append_assoc]
      | close lines =>
        obtain ⟨later, hlater⟩ := exists_texts_of_closed t.delimiter r'
        refine ⟨[], later, fun s hs hdelimiter hconditional => ?_⟩
        -- from here on nothing of the statement is left
        have hclosed : (s.noted.carry (.close lines)).texts
            = String.ofList (Text.trim s.current.reverse) :: s.texts := by
          show s.noted.close.texts = _
          rw [close_texts (isBlank_noted.trans hs), current_noted, texts_noted]
        rw [run_cons, hstep s hs hdelimiter hconditional,
          hlater (s.noted.carry (.close lines)) rfl ((delimiter_noted s).trans hdelimiter) rfl,
          hclosed, List.append_nil]
      | delimit u => exact absurd rfl (hdelimit u)

/-! ## Literals are taken whole -/

variable {q : Char} {body after : List Char}

/-- A scan behind a literal. -/
def afterLiteral (s : Scan) (q : Char) (body : List Char) : Scan :=
  { s.noted.take (quotation q body) with conditionalOnly := false }

/-- A literal comes to the statement as it is written. -/
theorem current_afterLiteral (s : Scan) (q : Char) (body : List Char) :
    (s.afterLiteral q body).current.reverse = s.current.reverse ++ quotation q body :=
  current_taken (quotation q body) _ false s

/-- A literal ends no statement. -/
theorem texts_afterLiteral (s : Scan) (q : Char) (body : List Char) :
    (s.afterLiteral q body).texts = s.texts :=
  texts_taken (quotation q body) _ false s

/-- No mark of a literal is blank. -/
theorem isBlank_of_isStringMark (hq : IsStringMark q) : Text.isBlank q = false := by
  rcases hq with rfl | rfl <;> decide

/-- A statement has begun after a literal. -/
theorem isBlank_afterLiteral (hq : IsStringMark q) (s : Scan) (body : List Char) :
    (s.afterLiteral q body).isBlank = false := by
  refine isBlank_eq_false_of_mem (c := q) ?_ (isBlank_of_isStringMark hq)
  rw [← List.mem_reverse, current_afterLiteral]
  exact List.mem_append_right _ List.mem_cons_self

/-- A quotation ends at its mark if this is not doubled. -/
theorem quotedSpan_closed (hq : q ≠ '\\') {b : Bool} (hbody : IsQuotedBody q b body)
    (hclosed : after.head? ≠ some q) :
    quotedSpan q b (body ++ q :: after) = (body ++ [q], after) := by
  cases after with
  | nil => exact quotedSpan_of_isQuotedBody hbody q []
  | cons c r => exact quotedSpan_close hbody hq (fun hc => hclosed (congrArg some hc)) r

/-- At a mark the scan takes what it holds for quoted text. -/
theorem step_stringMark (hq : IsStringMark q) (s : Scan) (r : List Char) : s.step .mysql q r
    = ({ s.noted.take (q :: (quotedSpan q (hasEscapes .mysql q) r).1) with conditionalOnly := false },
      (quotedSpan q (hasEscapes .mysql q) r).2) := by
  have hquote : IsQuote q := hq.imp_right Or.inl
  have hline : s.delimiterLine? .mysql q r = none :=
    delimiterLine?_eq_none (by rcases hq with rfl | rfl <;> decide)
  rw [step_eq_segment hline, segment_quote hquote]
  rfl

/-- A literal is one step. -/
theorem step_literal (hq : IsStringMark q) (hbody : IsQuotedBody q (hasEscapes .mysql q) body)
    (hclosed : after.head? ≠ some q) (s : Scan) :
    s.step .mysql q (body ++ q :: after) = (s.afterLiteral q body, after) := by
  have hbackslash : q ≠ '\\' := by rcases hq with rfl | rfl <;> decide
  rw [step_stringMark hq, quotedSpan_closed hbackslash hbody hclosed]
  rfl

/-- A literal that is followed by something is taken whole exactly when it stands between single marks
or escapes no mark. -/
theorem step_literal_iff (hq : IsStringMark q) (hbody : IsQuotedBody q true body)
    (hclosed : after.head? ≠ some q) (hafter : after ≠ []) (s : Scan) :
    s.step .mysql q (body ++ q :: after) = (s.afterLiteral q body, after)
      ↔ (q = '"' → ¬ EscapesMark q body) := by
  rw [← isQuotedBody_hasEscapes_iff hq hbody]
  constructor
  · intro hstep
    rw [step_stringMark hq] at hstep
    have hrest := congrArg Prod.snd hstep
    dsimp only at hrest
    obtain ⟨taken, rest, hspan⟩ : ∃ taken rest,
        quotedSpan q (hasEscapes .mysql q) (body ++ q :: after) = (taken, rest) := ⟨_, _, rfl⟩
    rw [hspan] at hrest
    subst hrest
    obtain ⟨body', rfl, hbody'⟩ := exists_body_of_quotedSpan hspan hafter
    have happend := quotedSpan_append q (hasEscapes .mysql q) (body ++ q :: rest)
    rw [hspan, List.append_cons body] at happend
    have hsame : body' = body :=
      List.append_cancel_right (List.append_cancel_right happend)
    exact hsame ▸ hbody'
  · intro hplain
    exact step_literal hq hplain hclosed s

/-- A text is read as MySQL reads it: a literal goes to the first mark that is neither doubled nor
escaped, and everything else is read as the scan reads it.  The literals are listed in their order. -/
inductive ReadsLiterals : Scan → List Char → List (Char × List Char) → Scan → List Char → Prop
  | refl (s : Scan) (r : List Char) : ReadsLiterals s r [] s r
  | literal {s s' : Scan} {q : Char} {body r rest : List Char} {ls : List (Char × List Char)}
      (hq : IsStringMark q) (hbody : IsQuotedBody q true body) (hclosed : r.head? ≠ some q)
      (h : ReadsLiterals (s.afterLiteral q body) r ls s' rest) :
      ReadsLiterals s (quotation q body ++ r) ((q, body) :: ls) s' rest
  | other {s s' : Scan} {c : Char} {r rest : List Char} {ls : List (Char × List Char)}
      (hc : ¬ IsStringMark c) (h : ReadsLiterals (s.step .mysql c r).1 (s.step .mysql c r).2 ls s' rest) :
      ReadsLiterals s (c :: r) ls s' rest

/-- Literals that are read one after another. -/
theorem ReadsLiterals.trans {s s' s'' : Scan} {r r' r'' : List Char} {ls ls' : List (Char × List Char)}
    (h : ReadsLiterals s r ls s' r') (h' : ReadsLiterals s' r' ls' s'' r'') :
    ReadsLiterals s r (ls ++ ls') s'' r'' := by
  induction h with
  | refl => exact h'
  | literal hq hbody hclosed _ ih => exact .literal hq hbody hclosed (ih h')
  | other hc _ ih => exact .other hc (ih h')

/-- Steps that stand at no mark are steps of this reading. -/
theorem ReadsLiterals.of_steps (n : Nat) (s : Scan) (r : List Char)
    (h : ∀ k < n, (steps .mysql k s r).2.head?.all (fun c => !decide (IsStringMark c)) = true) :
    ReadsLiterals s r [] (steps .mysql n s r).1 (steps .mysql n s r).2 := by
  fun_induction steps .mysql n s r with
  | case1 n s c r ih =>
    have hc : ¬ IsStringMark c := by simpa [steps] using h 0 (Nat.succ_pos n)
    refine .other hc (ih fun k hk => ?_)
    exact h (k + 1) (Nat.succ_lt_succ hk)
  | case2 n s r => exact .refl s r

/-- No mark is escaped between double marks. -/
def EscapesNoDouble (l : Char × List Char) : Prop := l.1 = '"' → ¬ EscapesMark l.1 l.2

/-- A quotation with more after it. -/
theorem quotation_append (q : Char) (body r : List Char) :
    quotation q body ++ r = q :: (body ++ q :: r) := by simp [quotation]

/-- So the scan reads it too, as long as no mark is escaped between double marks. -/
theorem ReadsLiterals.reads {s s' : Scan} {r rest : List Char} {ls : List (Char × List Char)}
    (h : ReadsLiterals s r ls s' rest) (hls : ∀ l ∈ ls, EscapesNoDouble l) :
    Reads .mysql s r s' rest := by
  induction h with
  | refl s r => exact .refl s r
  | @literal s s' q body r rest ls hq hbody hclosed _ ih =>
    obtain ⟨hl, hls⟩ := List.forall_mem_cons.1 hls
    have hplain := (isQuotedBody_hasEscapes_iff hq hbody).2 hl
    rw [quotation_append]
    exact .trans (.of_step (step_literal hq hplain hclosed s)) (ih hls)
  | other _ _ ih => exact .step (ih hls)

/-- The texts of a dump, from where a statement of it has begun. -/
theorem statementTexts_of_reads {dump : String} {r : List Char}
    (h : Reads .mysql .start dump.toList s r) {rest : List Char} {later : List String}
    (hrun : (s.run .mysql r).close.texts
      = later ++ String.ofList (Text.trim (s.current.reverse ++ rest)) :: s.texts) :
    statementTexts .mysql dump = s.texts.reverse
      ++ String.ofList (Text.trim (s.current.reverse ++ rest)) :: later.reverse := by
  have hall : statementTexts .mysql dump = (s.run .mysql r).close.texts.reverse := by
    unfold statementTexts Dump.statements
    rw [h.run_eq, List.map_reverse]
    rfl
  rw [hall, hrun]
  simp

end Scan

/-- Trimming does not reach into a literal. -/
theorem trim_quotation {q : Char} (hq : IsStringMark q) (x body y : List Char) :
    Text.trim (x ++ quotation q body ++ y)
      = Text.trimStart x ++ quotation q body ++ Text.trimEnd y := by
  have hshown := Scan.isBlank_of_isStringMark hq
  have hfirst : x ++ quotation q body ++ y = x ++ q :: (body ++ q :: y) := by simp [quotation]
  have hlast : Text.trimStart x ++ q :: (body ++ q :: y)
      = (Text.trimStart x ++ q :: body) ++ q :: y := by simp
  unfold Text.trim
  rw [hfirst, Text.trimStart_append_cons hshown, hlast, Text.trimEnd_append_cons hshown]
  simp [quotation]

/-! ## Literals in comments that are unwrapped -/

/-- What stands in a conditional comment. -/
theorem conditionalBody_closed (inner : List Char) :
    conditionalBody (inner ++ ['*', '/']) = inner.dropWhile Char.isDigit := by
  unfold conditionalBody
  rw [List.length_append, List.length_cons, List.length_singleton, Nat.add_sub_cancel,
    List.take_left]

/-- A conditional comment where a statement begins is unwrapped. -/
theorem Scan.step_conditional {s : Scan} (hopens : (s.isBlank || s.conditionalOnly) = true)
    {inner : List Char} (hinner : ¬ ['*', '/'] <:+: inner) (after : List Char) :
    ∃ s' : Scan, s.step .mysql '/' ('*' :: '!' :: (inner ++ '*' :: '/' :: after)) = (s', after)
      ∧ s'.current.reverse = s.current.reverse ++ inner.dropWhile Char.isDigit ++ [' '] := by
  have hline : s.delimiterLine? .mysql '/' ('*' :: '!' :: (inner ++ '*' :: '/' :: after)) = none :=
    delimiterLine?_eq_none (by decide)
  have hclosed : ¬ ['*', '/'] <:+: '!' :: inner := by
    intro h
    rcases List.infix_cons_iff.1 h with hprefix | hrest
    · exact absurd (List.cons_prefix_cons.1 hprefix).1 (by decide)
    · exact hinner hrest
  have hspan : commentSpan ('!' :: (inner ++ '*' :: '/' :: after))
      = ('!' :: (inner ++ ['*', '/']), after) := commentSpan_of_closed hclosed after
  have hopens' : (s.noted.isBlank || s.noted.conditionalOnly) = true := by
    rw [isBlank_noted, (sameView_noted .mysql s).conditionalOnly]
    exact hopens
  rw [step_eq_segment hline, segment_comment]
  unfold comment
  rw [hspan]
  refine ⟨_, rfl, ?_⟩
  simp [hopens', conditionalBody_closed, current_noted]

/-- What an unwrapped comment holds stands in one statement. -/
theorem exists_text_of_conditional {q : Char} (hq : IsStringMark q) {dump : String} {s : Scan}
    {inner after body : List Char}
    (hreads : Scan.Reads .mysql .start dump.toList s
      ('/' :: '*' :: '!' :: (inner ++ '*' :: '/' :: after)))
    (hopens : (s.isBlank || s.conditionalOnly) = true) (hinner : ¬ ['*', '/'] <:+: inner)
    (hbody : quotation q body <:+: inner) :
    ∃ text ∈ statementTexts .mysql dump, quotation q body <:+: text.toList := by
  obtain ⟨s', hstep, hcurrent⟩ := Scan.step_conditional hopens hinner after
  obtain ⟨x, y, rfl⟩ := hbody
  have hdigit : q.isDigit = false := by rcases hq with rfl | rfl <;> decide
  -- the version in front ends before the literal
  have hdrop : (x ++ quotation q body ++ y).dropWhile Char.isDigit
      = x.dropWhile Char.isDigit ++ quotation q body ++ y := by
    have hfirst : ∀ z, z ++ quotation q body ++ y = z ++ q :: (body ++ [q] ++ y) := by
      intro z
      simp [quotation]
    rw [hfirst, hfirst, Text.dropWhile_append_cons hdigit]
  rw [hdrop] at hcurrent
  have hbegun : s'.isBlank = false := by
    refine Scan.isBlank_eq_false_of_mem (c := q) ?_ (Scan.isBlank_of_isStringMark hq)
    rw [← List.mem_reverse, hcurrent]
    simp [quotation]
  obtain ⟨rest, later, hrun⟩ := Scan.exists_texts_of_begun hbegun after
  have hfound := Scan.statementTexts_of_reads (hreads.trans (.of_step hstep))
    (hrun s' hbegun rfl rfl)
  refine ⟨_, by rw [hfound]; exact List.mem_append_right _ List.mem_cons_self, ?_⟩
  have happend : s'.current.reverse ++ rest = (s.current.reverse ++ x.dropWhile Char.isDigit)
      ++ quotation q body ++ (y ++ [' '] ++ rest) := by
    rw [hcurrent]
    simp
  rw [happend, trim_quotation hq, String.toList_ofList, List.append_assoc]
  exact ⟨_, _, List.append_assoc _ _ _⟩

/-! ## Literals are atomic -/

/-- **Literals are atomic.**  A string literal stands in one statement, as it is, behind what had been
read of that statement; what follows it there, and which other statements there are, does not depend on
what it holds.  This takes that no mark is escaped between double marks, in the literal or before it:
such a literal is not taken whole.  A literal in a comment that is unwrapped stands in one statement
too. -/
theorem literals_are_atomic {q : Char} (hq : IsStringMark q) (s : Scan) {after : List Char}
    (hclosed : after.head? ≠ some q) :
    (∃ rest later, ∀ {dump : String} {body : List Char} {ls : List (Char × List Char)},
      Scan.ReadsLiterals .start dump.toList ls s (quotation q body ++ after) →
      IsQuotedBody q true body → (∀ l ∈ (q, body) :: ls, Scan.EscapesNoDouble l) →
        statementTexts .mysql dump = s.texts.reverse
          ++ String.ofList (Text.trimStart s.current.reverse ++ quotation q body ++ rest) :: later)
    ∧ (∀ body, IsQuotedBody q true body → after ≠ [] →
      (s.step .mysql q (body ++ q :: after) = (s.afterLiteral q body, after)
        ↔ Scan.EscapesNoDouble (q, body)))
    ∧ ∀ {dump : String} {inner body : List Char} {ls : List (Char × List Char)},
      Scan.ReadsLiterals .start dump.toList ls s
        ('/' :: '*' :: '!' :: (inner ++ '*' :: '/' :: after)) →
      (s.isBlank || s.conditionalOnly) = true → ¬ ['*', '/'] <:+: inner →
      (∀ l ∈ ls, Scan.EscapesNoDouble l) → quotation q body <:+: inner →
        ∃ text ∈ statementTexts .mysql dump, quotation q body <:+: text.toList := by
  refine ⟨?_, ?_, ?_⟩
  · -- the scan after the literal is the same for all of them, so the empty one stands for each
    obtain ⟨rest, later, hrun⟩ :=
      Scan.exists_texts_of_begun (Scan.isBlank_afterLiteral hq s []) after
    refine ⟨Text.trimEnd rest, later.reverse, fun {dump body ls} hreads hbody hls => ?_⟩
    obtain ⟨hl, hls⟩ := List.forall_mem_cons.1 hls
    have hplain := (isQuotedBody_hasEscapes_iff hq hbody).2 hl
    have hwhole : Scan.Reads .mysql .start dump.toList (s.afterLiteral q body) after := by
      refine (hreads.reads hls).trans ?_
      rw [Scan.quotation_append]
      exact .of_step (Scan.step_literal hq hplain hclosed s)
    have hfound := Scan.statementTexts_of_reads hwhole
      (hrun _ (Scan.isBlank_afterLiteral hq s body) rfl rfl)
    rw [hfound, Scan.current_afterLiteral, Scan.texts_afterLiteral, trim_quotation hq]
  · intro body hbody hafter
    exact Scan.step_literal_iff hq hbody hclosed hafter s
  · intro dump inner body ls hreads hopens hinner hls hbody
    exact exists_text_of_conditional hq (hreads.reads hls) hopens hinner hbody

theorem literals_are_atomic_in_assignments :
    (∃ rest later, statementTexts .mysql "SET a='it\\'s;',b=\"--;\";"
        = String.ofList ("SET a='it\\'s;',b=\"--;\"".toList ++ rest) :: later)
      ∧ ∃ text ∈ statementTexts .mysql "/*!40101 SET a='b;c'*/;", "'b;c'".toList <:+: text.toList := by
  constructor
  · let its := ['i', 't', '\\', '\'', 's', ';']
    have hits : IsQuotedBody '\'' true its :=
      .other (by decide) (by decide) (.other (by decide) (by decide)
        (.escaped '\'' rfl (.of_all (by decide))))
    have hdashes : IsQuotedBody '"' true "--;".toList := .of_all (by decide)
    have hset := Scan.ReadsLiterals.of_steps 6 .start "SET a='it\\'s;',b=\"--;\";".toList
      (by decide +kernel)
    have hmark : (Scan.steps .mysql 6 .start "SET a='it\\'s;',b=\"--;\";".toList).2
        = quotation '\'' its ++ ",b=\"--;\";".toList := by decide +kernel
    rw [hmark] at hset
    -- the scan is followed up to the second literal
    have hreads := hset.trans (.literal (by decide) hits (by decide +kernel)
      (.of_steps 3 _ _ (by decide +kernel)))
    have hstands : (Scan.steps .mysql 3 ((Scan.steps .mysql 6 .start
        "SET a='it\\'s;',b=\"--;\";".toList).1.afterLiteral '\'' its) ",b=\"--;\";".toList).2
          = quotation '"' "--;".toList ++ [';'] := by decide +kernel
    rw [hstands] at hreads
    have hclosed : [';'].head? ≠ some '"' := by decide
    obtain ⟨⟨rest, later, h⟩, -⟩ := literals_are_atomic (q := '"') (by decide) _ hclosed
    have hnone : ∀ l ∈ [('"', "--;".toList), ('\'', its)], Scan.EscapesNoDouble l := by
      refine List.forall_mem_cons.2 ⟨fun _ => ?_, List.forall_mem_singleton.2 fun hmark => ?_⟩
      · exact (isQuotedBody_iff (by decide) hdashes).1 (.of_all (by decide))
      · exact absurd hmark (by decide)
    exact ⟨rest, later, h hreads hdashes hnone⟩
  · have hclosed : [';'].head? ≠ some '\'' := by decide
    obtain ⟨-, -, h⟩ := literals_are_atomic (q := '\'') (by decide) .start hclosed
    have hreads : Scan.ReadsLiterals .start "/*!40101 SET a='b;c'*/;".toList [] .start
        ('/' :: '*' :: '!' :: ("40101 SET a='b;c'".toList ++ '*' :: '/' :: [';'])) := by
      have hdump : "/*!40101 SET a='b;c'*/;".toList
          = '/' :: '*' :: '!' :: ("40101 SET a='b;c'".toList ++ '*' :: '/' :: [';']) := by decide +kernel
      rw [hdump]
      exact .refl _ _
    have hbody : "'b;c'".toList = quotation '\'' "b;c".toList := by decide +kernel
    rw [hbody]
    exact h hreads rfl (by decide +kernel) nofun (by decide +kernel)

/-- An escaped mark between double marks is taken for the closing one, and the statement ends within
the literal. -/
theorem literal_with_escaped_double_mark : IsQuotedBody '"' true ['b', '\\', '"', ';', 'c']
    ∧ statementTexts .mysql "SET a=\"b\\\";c\";" = ["SET a=\"b\\\"", "c\";"]
    ∧ ∀ text ∈ statementTexts .mysql "SET a=\"b\\\";c\";",
      ¬ quotation '"' ['b', '\\', '"', ';', 'c'] <:+: text.toList := by
  refine ⟨?_, by decide +kernel, by decide +kernel⟩
  exact .other (by decide) (by decide) (.escaped '"' rfl (.of_all (by decide)))

end SchemaBridge.Dump
