/-
# What a scan does

A step of the scan takes the next segment of a dump.  Of the statement being read it looks at nothing
but whether it is blank, whether it is made of conditional comments alone, and, at a delimiter, at its
text; and it does one of three things: it adds text to the statement, ends it, or changes the
delimiter.  Whatever it does, it counts the line ends of the segment.

## Key statements

* `Scan.segment_quote`, `Scan.segment_plain`, …: one equation for each kind of segment.
* `Scan.exists_move`: what a step does, and what this depends on.
* `Scan.Reads`: steps that lead from one scan to another.
-/
import SchemaBridge.Proofs.Dump.Segments

namespace SchemaBridge.Dump

namespace Scan

variable {d : SourceDialect} {s s' t : Scan} {c : Char} {r rest : List Char}

/-! ## Kinds of segments -/

/-- A quotation mark. -/
def IsQuote (c : Char) : Prop := c = '\'' ∨ c = '"' ∨ c = '\x60'

instance : DecidablePred IsQuote :=
  fun c => inferInstanceAs (Decidable (c = '\'' ∨ c = '"' ∨ c = '\x60'))

/-- A comment that goes to the end of its line begins here. -/
def OpensLine (d : SourceDialect) (c : Char) (r : List Char) : Prop :=
  c = '-' ∧ r.head? = some '-' ∨ c = '#' ∧ d = .mysql

/-- Quoted text or a comment begins here. -/
def Opens (d : SourceDialect) (c : Char) (r : List Char) : Prop :=
  IsQuote c ∨ OpensLine d c r ∨ c = '/' ∧ r.head? = some '*'

/-- A quotation is taken through its mark. -/
theorem segment_quote (h : IsQuote c) : s.segment d c r
    = ({ s.take (c :: (quotedSpan c (d == .mysql && c == '\'') r).1) with conditionalOnly := false },
      (quotedSpan c (d == .mysql && c == '\'') r).2) := by
  have hc : (c == '\'' || c == '"' || c == '\x60') = true := by
    rcases h with rfl | rfl | rfl <;> rfl
  unfold segment
  rw [if_pos hc]

/-- A comment to the end of the line is dropped. -/
theorem segment_line (h : OpensLine d c r) : s.segment d c r = (s, r.dropWhile isNotLineEnd) := by
  unfold segment
  rcases h with ⟨rfl, hr⟩ | ⟨rfl, rfl⟩
  · simp [hr]
  · simp

/-- Any other comment. -/
theorem segment_comment : s.segment d '/' ('*' :: r) = s.comment d r := by
  simp [segment]

/-- What opens neither a quotation nor a comment. -/
theorem segment_of_not_opens (h : ¬ Opens d c r) : s.segment d c r
    = match s.delimiter.after? c r with
      | some rest => s.delimited d rest
      | none =>
        if c == '$' && d != .mysql then
          match dollarTag? r with
          | some tag => (s.take (tag ++ (throughPiece tag (r.drop (tag.length - 1))).1),
              (throughPiece tag (r.drop (tag.length - 1))).2)
          | none => ({ s with current := c :: s.current }, r)
        else (s.plain c, r) := by
  unfold Opens IsQuote OpensLine at h
  unfold segment
  have hquote : ¬ (c == '\'' || c == '"' || c == '\x60') = true := by simp_all
  have hdash : ¬ (c == '-' && r.head? == some '-') = true := by simp_all
  have hhash : ¬ (c == '#' && d == .mysql) = true := by simp_all
  have hslash : ¬ (c == '/' && r.head? == some '*') = true := by simp_all
  exact (if_neg hquote).trans ((if_neg hdash).trans ((if_neg hhash).trans (if_neg hslash)))

/-- A delimiter ends the statement. -/
theorem segment_delimiter (h : ¬ Opens d c r) (ha : s.delimiter.after? c r = some rest) :
    s.segment d c r = s.delimited d rest := by
  rw [segment_of_not_opens h, ha]

/-- A dollar quote is taken through its tag. -/
theorem segment_tag (hd : d ≠ .mysql) {letters : List Char}
    (ha : s.delimiter.after? '$' (letters ++ '$' :: rest) = none) (ht : IsTag letters) :
    s.segment d '$' (letters ++ '$' :: rest)
      = (s.take (tagOf letters ++ (throughPiece (tagOf letters) rest).1),
        (throughPiece (tagOf letters) rest).2) := by
  have h : ¬ Opens d '$' (letters ++ '$' :: rest) := by simp [Opens, OpensLine, IsQuote]
  have htag := dollarTag?_eq_some_iff.2 ⟨letters, rest, ht, rfl, rfl⟩
  have hdrop : (letters ++ '$' :: rest).drop ((tagOf letters).length - 1) = rest := by simp [tagOf]
  rw [segment_of_not_opens h, ha]
  simp [hd, htag, hdrop]

/-- A character that begins nothing is taken by itself. -/
theorem segment_plain (h : ¬ Opens d c r) (ha : s.delimiter.after? c r = none)
    (hdollar : c = '$' → d = .mysql) : s.segment d c r = (s.plain c, r) := by
  rw [segment_of_not_opens h, ha]
  have hc : (c == '$' && d != .mysql) = false := by
    rw [Bool.and_eq_false_iff]
    by_cases hd : c = '$'
    · right
      rw [hdollar hd]
      rfl
    · left
      exact beq_eq_false_iff_ne.2 hd
  simp [hc]

/-- So is a dollar that begins no tag. -/
theorem segment_dollar (hd : d ≠ .mysql) (ha : s.delimiter.after? '$' r = none)
    (ht : dollarTag? r = none) :
    s.segment d '$' r = ({ s with current := '$' :: s.current }, r) := by
  have h : ¬ Opens d '$' r := by simp [Opens, OpensLine, IsQuote]
  rw [segment_of_not_opens h, ha]
  simp [hd, ht]

/-! ## Moves -/

/-- What a step does.  It adds text to the statement being read, which may still come from conditional
comments alone; it ends the statement; or it changes the delimiter. -/
inductive Move
  | take (text : List Char) (lines : Nat) (conditionalOnly : Bool)
  | close (lines : Nat)
  | delimit (t : Delimiter)

/-- The line ends that are passed. -/
def Move.lines : Move → Nat
  | .take _ n _ => n
  | .close n => n
  | .delimit _ => 0

/-- Make a move. -/
def carry (s : Scan) : Move → Scan
  | .take text lines conditionalOnly =>
    { s with current := text.reverse ++ s.current, line := s.line + lines, conditionalOnly }
  | .close lines => { s.close with line := s.line + lines }
  | .delimit t => { s with current := [], delimiter := t }

/-- Before the first character of a statement its line is noted. -/
def noted (s : Scan) : Scan := if s.isBlank then { s with startLine := s.line } else s

/-- Scans that a step treats alike.  The text of a statement is looked at where rows may follow it. -/
structure SameView (d : SourceDialect) (s t : Scan) : Prop where
  isBlank : t.isBlank = s.isBlank
  text : d ≠ .mysql → Text.trim t.current.reverse = Text.trim s.current.reverse
  delimiter : t.delimiter = s.delimiter
  conditionalOnly : t.conditionalOnly = s.conditionalOnly

/-- How text begins that is taken from a segment: it is blank, it begins with the first character of
the segment, or it is what a conditional comment holds. -/
inductive Move.Begins (d : SourceDialect) (c : Char) (r : List Char) : Move → Prop
  | blank {text : List Char} (n : Nat) (b : Bool) (h : text.all Text.isBlank = true) :
      Begins d c r (.take text n b)
  | shown {text : List Char} (n : Nat) (b : Bool) (hc : Text.isBlank c = false)
      (h : text.head? = some c) : Begins d c r (.take text n b)
  | unwrapped {inner : List Char} (n : Nat) (b : Bool) (hd : d = .mysql) (hc : c = '/')
      (hr : r = '*' :: '!' :: inner) :
      Begins d c r (.take (conditionalBody (commentSpan inner).1 ++ [' ']) n b)
  | close (n : Nat) : Begins d c r (.close n)
  | delimit (t : Delimiter) : Begins d c r (.delimit t)

/-- Noting where a statement begins does not begin it. -/
theorem isBlank_noted : s.noted.isBlank = s.isBlank := by
  unfold noted
  split <;> rfl

theorem delimiter_noted (s : Scan) : s.noted.delimiter = s.delimiter := by
  unfold noted
  split <;> rfl

theorem current_noted (s : Scan) : s.noted.current = s.current := by
  unfold noted
  split <;> rfl

theorem statements_noted (s : Scan) : s.noted.statements = s.statements := by
  unfold noted
  split <;> rfl

theorem sameView_refl (d : SourceDialect) (s : Scan) : SameView d s s :=
  ⟨rfl, fun _ => rfl, rfl, rfl⟩

/-- Noting where a statement begins changes nothing that is seen. -/
theorem sameView_noted (d : SourceDialect) (s : Scan) : SameView d s s.noted := by
  unfold noted
  split <;> exact ⟨rfl, fun _ => rfl, rfl, rfl⟩

theorem SameView.trans (h : SameView d s s') (h' : SameView d s' t) : SameView d s t :=
  ⟨h'.isBlank.trans h.isBlank, fun hd => (h'.text hd).trans (h.text hd),
    h'.delimiter.trans h.delimiter, h'.conditionalOnly.trans h.conditionalOnly⟩

/-- What a comment does. -/
theorem exists_move_comment (d : SourceDialect) (s : Scan) (r : List Char) :
    ∃ text b, (∀ t, SameView d s t →
        t.comment d r = (t.carry (.take text (newlines (commentSpan r).1) b), (commentSpan r).2))
      ∧ ∀ n b, Move.Begins d '/' ('*' :: r) (.take text n b) := by
  by_cases hopens : ∃ inner, r = '!' :: inner ∧ d = .mysql ∧ (s.isBlank || s.conditionalOnly) = true
  · obtain ⟨inner, rfl, rfl, hopens⟩ := hopens
    refine ⟨conditionalBody (commentSpan inner).1 ++ [' '], true, fun t ht => ?_, fun n b =>
      .unwrapped n b rfl rfl rfl⟩
    have hbody : commentSpan ('!' :: inner) = ('!' :: (commentSpan inner).1, (commentSpan inner).2) :=
      rfl
    have hopens' : (t.isBlank || t.conditionalOnly) = true := by
      rw [ht.isBlank, ht.conditionalOnly, hopens]
    unfold comment
    rw [hbody]
    dsimp only
    rw [hopens']
    simp [carry]
  · refine ⟨[' '], s.conditionalOnly, fun t ht => ?_, fun n b => .blank n b (by decide)⟩
    unfold comment
    dsimp only
    split
    · rename_i inner hbody
      have hr : ∃ inner, r = '!' :: inner := by
        cases r with
        | nil => cases hbody
        | cons c r =>
          have happend := commentSpan_append (c :: r)
          rw [hbody] at happend
          exact ⟨r, congrArg (· :: r) (List.cons.inj happend).1.symm⟩
      obtain ⟨inner', hr⟩ := hr
      -- the text of the comment begins as if it were conditional, but here it is not
      have hclosed : (d == .mysql && (t.isBlank || t.conditionalOnly)) = false := by
        rw [ht.isBlank, ht.conditionalOnly]
        by_contra hc
        rw [Bool.not_eq_false, Bool.and_eq_true] at hc
        exact hopens ⟨inner', hr, beq_iff_eq.1 hc.1, hc.2⟩
      rw [hclosed, hbody]
      simp [carry, ht.conditionalOnly]
    · simp [carry, ht.conditionalOnly]

/-- What the end of a statement does, with the rows that may follow it. -/
theorem exists_move_delimited (d : SourceDialect) (s : Scan) (r : List Char) :
    ∃ part rest, r = part ++ rest
      ∧ ∀ t, SameView d s t → t.delimited d r = (t.carry (.close (newlines part)), rest) := by
  have hsame : ∀ t, SameView d s t →
      (d != .mysql && isCopyFromStdin (Text.trim t.current.reverse))
        = (d != .mysql && isCopyFromStdin (Text.trim s.current.reverse)) := by
    intro t ht
    by_cases hd : d = .mysql
    · subst hd
      rfl
    · rw [ht.text hd]
  by_cases hcopy : (d != .mysql && isCopyFromStdin (Text.trim s.current.reverse)) = true
  · obtain ⟨rows, hrows, hlines⟩ := copySpan_append r
    refine ⟨rows, _, hrows, fun t ht => ?_⟩
    unfold delimited
    dsimp only
    rw [hsame t ht, hcopy, ← hlines]
    rfl
  · refine ⟨[], r, rfl, fun t ht => ?_⟩
    unfold delimited
    dsimp only
    rw [hsame t ht, if_neg hcopy]
    rfl

/-- What a segment does, whatever scan takes it. -/
structure SegmentMakes (d : SourceDialect) (s : Scan) (c : Char) (r : List Char) (m : Move)
    (rest : List Char) : Prop where
  segment : ∀ t, SameView d s t → t.segment d c r = (t.carry m, rest)
  part : ∃ part, r = part ++ rest ∧ (s.delimiter.IsSolid → m.lines = newlines (c :: part))
  begins : m.Begins d c r
  delimit : ∀ u, m ≠ .delimit u

/-- The move that a quotation makes. -/
theorem exists_segmentMakes_quote (s : Scan) (h : IsQuote c) (r : List Char) :
    ∃ m rest, s.SegmentMakes d c r m rest := by
  have hblank : Text.isBlank c = false := by rcases h with rfl | rfl | rfl <;> decide
  let span := quotedSpan c (d == .mysql && c == '\'') r
  refine ⟨.take (c :: span.1) (newlines (c :: span.1)) false, span.2, fun t _ => segment_quote h,
    ⟨span.1, (quotedSpan_append _ _ r).symm, fun _ => rfl⟩, .shown _ _ hblank rfl,
    fun _ => Move.noConfusion⟩

/-- The move that a comment to the end of the line makes. -/
theorem exists_segmentMakes_line (s : Scan) (h : OpensLine d c r) :
    ∃ m rest, s.SegmentMakes d c r m rest := by
  have hc : c ≠ '\n' := by rcases h with ⟨rfl, -⟩ | ⟨rfl, -⟩ <;> decide
  refine ⟨.take [] 0 s.conditionalOnly, r.dropWhile isNotLineEnd, fun t ht => ?_,
    ⟨r.takeWhile isNotLineEnd, List.takeWhile_append_dropWhile.symm, fun _ => ?_⟩, .blank _ _ rfl,
    fun _ => Move.noConfusion⟩
  · rw [segment_line h, ← ht.conditionalOnly]
    rfl
  · rw [newlines_cons, if_neg hc, newlines_eq_zero (not_mem_takeWhile_isNotLineEnd r)]
    rfl

/-- The move that any other comment makes. -/
theorem exists_segmentMakes_comment (s : Scan) (r : List Char) :
    ∃ m rest, s.SegmentMakes d '/' ('*' :: r) m rest := by
  obtain ⟨text, b, hmade, hbegins⟩ := exists_move_comment d s r
  refine ⟨.take text (newlines (commentSpan r).1) b, (commentSpan r).2, fun t ht => ?_,
    ⟨'*' :: (commentSpan r).1, ?_, fun _ => ?_⟩, hbegins _ b, fun _ => Move.noConfusion⟩
  · rw [segment_comment, hmade t ht]
  · rw [List.cons_append, commentSpan_append]
  · rw [newlines_cons, newlines_cons]
    rfl

/-- The move that a delimiter makes. -/
theorem exists_segmentMakes_delimiter (h : ¬ Opens d c r) (ha : s.delimiter.after? c r = some rest) :
    ∃ m rest, s.SegmentMakes d c r m rest := by
  obtain ⟨part, rest', hrest, hmade⟩ := exists_move_delimited d s rest
  obtain ⟨hc, hr⟩ := Delimiter.after?_eq_some_iff.1 ha
  refine ⟨.close (newlines part), rest', fun t ht => ?_,
    ⟨s.delimiter.others ++ part, ?_, fun hsolid => ?_⟩, .close _, fun _ => Move.noConfusion⟩
  · rw [segment_delimiter h (by rw [ht.delimiter, ha]), hmade t ht]
  · rw [hr, hrest, List.append_assoc]
  · rw [hc, ← List.cons_append, newlines_append, newlines_eq_zero hsolid, Nat.zero_add]
    rfl

/-- The move that a plain character makes. -/
theorem exists_segmentMakes_plain (h : ¬ Opens d c r) (ha : s.delimiter.after? c r = none)
    (hdollar : c = '$' → d = .mysql) : ∃ m rest, s.SegmentMakes d c r m rest := by
  refine ⟨.take [c] (if c = '\n' then 1 else 0) (s.conditionalOnly && Text.isBlank c), r,
    fun t ht => ?_, ⟨[], rfl, fun _ => ?_⟩, ?_, fun _ => Move.noConfusion⟩
  · rw [segment_plain h (by rw [ht.delimiter, ha]) hdollar, ← ht.conditionalOnly]
    unfold plain carry
    split <;> rfl
  · rw [newlines_cons]
    exact (Nat.zero_add _).symm
  · cases hc : Text.isBlank c with
    | true => exact .blank _ _ (by simp [hc])
    | false => exact .shown _ _ hc rfl

/-- The move that a dollar sign makes. -/
theorem exists_segmentMakes_dollar (hd : d ≠ .mysql) (ha : s.delimiter.after? '$' r = none) :
    ∃ m rest, s.SegmentMakes d '$' r m rest := by
  cases ht : dollarTag? r with
  | none =>
    refine ⟨.take ['$'] 0 s.conditionalOnly, r, fun t htv => ?_, ⟨[], rfl, fun _ => rfl⟩,
      .shown _ _ (by decide) rfl, fun _ => Move.noConfusion⟩
    rw [segment_dollar hd (by rw [htv.delimiter, ha]) ht, ← htv.conditionalOnly]
    rfl
  | some tag =>
    obtain ⟨letters, rest, hletters, rfl, rfl⟩ := dollarTag?_eq_some_iff.1 ht
    let span := throughPiece (tagOf letters) rest
    refine ⟨.take (tagOf letters ++ span.1) (newlines (tagOf letters ++ span.1)) s.conditionalOnly,
      span.2, fun t htv => ?_, ⟨letters ++ '$' :: span.1, ?_, fun _ => ?_⟩,
      .shown _ _ (by decide) rfl, fun _ => Move.noConfusion⟩
    · rw [segment_tag hd (by rw [htv.delimiter, ha]) hletters, ← htv.conditionalOnly]
      rfl
    · rw [List.append_assoc, List.cons_append, throughPiece_append]
    · show newlines _ = newlines _
      simp [tagOf]

/-- Every segment makes a move. -/
theorem exists_segmentMakes (d : SourceDialect) (s : Scan) (c : Char) (r : List Char) :
    ∃ m rest, s.SegmentMakes d c r m rest := by
  by_cases hquote : IsQuote c
  · exact exists_segmentMakes_quote s hquote r
  by_cases hline : OpensLine d c r
  · exact exists_segmentMakes_line s hline
  by_cases hcomment : c = '/' ∧ r.head? = some '*'
  · obtain ⟨rfl, hr⟩ := hcomment
    obtain ⟨r, rfl⟩ := List.head?_eq_some_iff.1 hr
    exact exists_segmentMakes_comment s r
  have hopens : ¬ Opens d c r := by
    rintro (h | h | h)
    · exact hquote h
    · exact hline h
    · exact hcomment h
  cases ha : s.delimiter.after? c r with
  | some rest => exact exists_segmentMakes_delimiter hopens ha
  | none =>
    by_cases hdollar : c = '$' → d = .mysql
    · exact exists_segmentMakes_plain hopens ha hdollar
    · obtain ⟨rfl, hd⟩ := Classical.not_imp.1 hdollar
      exact exists_segmentMakes_dollar hd ha

/-! ## The end of a statement -/

/-- A statement that ends is found without the blanks around it. -/
theorem close_statements {t : List Char} (h : Text.trim s.current.reverse = t) (ht : t ≠ []) :
    s.close.statements = ⟨String.ofList t, s.startLine⟩ :: s.statements := by
  unfold close
  dsimp only
  rw [h, List.isEmpty_eq_false_iff.2 ht]
  rfl

/-- A statement is blank if nothing of it is left without blanks. -/
theorem isEmpty_trim (s : Scan) : (Text.trim s.current.reverse).isEmpty = s.isBlank := by
  rw [Bool.eq_iff_iff, List.isEmpty_iff, Text.trim_eq_nil_iff, List.all_reverse]
  rfl

/-- A blank statement is none. -/
theorem close_of_isBlank (h : s.isBlank = true) : s.close.statements = s.statements := by
  unfold close
  dsimp only
  rw [isEmpty_trim, h]
  rfl

/-! ## Steps -/

/-- A line that changes the delimiter begins here. -/
def delimiterLine? (d : SourceDialect) (s : Scan) (c : Char) (r : List Char) : Option (List Char) :=
  if s.isBlank && d == .mysql then afterDelimiterWord? (c :: r) else none

/-- No delimiter is set within a statement. -/
theorem delimiterLine?_of_begun (h : s.isBlank = false) (d : SourceDialect) (c : Char)
    (r : List Char) : s.delimiterLine? d c r = none := by
  unfold delimiterLine?
  rw [h]
  rfl

/-- No delimiter is set outside MySQL. -/
theorem delimiterLine?_of_ne (hd : d ≠ .mysql) (s : Scan) (c : Char) (r : List Char) :
    s.delimiterLine? d c r = none := by
  unfold delimiterLine?
  rw [beq_eq_false_iff_ne.2 hd, Bool.and_false]
  rfl

/-- A step that sets no delimiter is a segment. -/
theorem step_eq_segment (h : s.delimiterLine? d c r = none) :
    s.step d c r = s.noted.segment d c r := by
  unfold delimiterLine? at h
  unfold step noted
  cases hb : s.isBlank with
  | false => rfl
  | true =>
    rw [hb, Bool.true_and] at h
    rw [if_pos rfl, h]
    rfl

/-- A step that sets the delimiter. -/
theorem step_delimiterLine {line : List Char} (h : s.delimiterLine? d c r = some line) :
    s.step d c r = (s.noted.carry (.delimit ((Delimiter.ofLine? (lineSpan line).1).getD s.delimiter)),
      (lineSpan line).2) := by
  unfold delimiterLine? at h
  unfold step noted
  cases hb : s.isBlank with
  | false =>
    rw [hb] at h
    cases h
  | true =>
    rw [hb, Bool.true_and] at h
    rw [if_pos rfl, h]
    rfl

/-- A step that takes a character by itself. -/
theorem step_plain (hline : s.delimiterLine? d c r = none) (h : ¬ Opens d c r)
    (ha : s.delimiter.after? c r = none) (hdollar : c = '$' → d = .mysql) :
    s.step d c r = (s.noted.plain c, r) := by
  have ha' : s.noted.delimiter.after? c r = none := by rw [delimiter_noted s, ha]
  rw [step_eq_segment hline, segment_plain h ha' hdollar]

/-- A line that does not begin with the word for it sets no delimiter. -/
theorem delimiterLine?_eq_none (hc : c.toLower ∉ Text.asciiFold "DELIMITER".toList) :
    s.delimiterLine? d c r = none := by
  unfold delimiterLine?
  rw [afterDelimiterWord?_eq_none hc, ite_self]

/-- A space or the end of a line is taken by itself. -/
theorem step_white (hs : s.delimiter = ⟨';', []⟩) (hc : c = ' ' ∨ c = '\n') (r : List Char) :
    s.step d c r = (s.noted.plain c, r) := by
  refine step_plain (delimiterLine?_eq_none ?_) ?_ ?_ ?_
  · rcases hc with rfl | rfl <;> decide
  · rcases hc with rfl | rfl <;> simp [Opens, OpensLine, IsQuote]
  · rw [hs]
    rcases hc with rfl | rfl <;> rfl
  · rcases hc with rfl | rfl <;> exact fun h => absurd h (by decide)

/-- A semicolon ends a statement.  Rows may follow it. -/
theorem step_semicolon (hs : s.delimiter = ⟨';', []⟩) (r : List Char) : s.step d ';' r
    = if d ≠ .mysql ∧ isCopyFromStdin (Text.trim s.current.reverse) = true then
        ({ s.noted.close with line := s.noted.close.line + (copySpan r).1 }, (copySpan r).2)
      else (s.noted.close, r) := by
  have hopens : ¬ Opens d ';' r := by simp [Opens, OpensLine, IsQuote]
  have hafter : s.noted.delimiter.after? ';' r = some r := by
    rw [delimiter_noted s, hs]
    rfl
  rw [step_eq_segment (delimiterLine?_eq_none (by decide)), segment_delimiter hopens hafter]
  unfold delimited
  dsimp only
  rw [current_noted]
  simp only [Bool.and_eq_true, bne_iff_ne]

/-- What a step does, whatever scan it is a step of. -/
structure Makes (d : SourceDialect) (s : Scan) (c : Char) (r : List Char) (m : Move)
    (rest : List Char) : Prop where
  step : ∀ t, SameView d s t → t.step d c r = (t.noted.carry m, rest)
  part : ∃ part, r = part ++ rest ∧ (s.delimiter.IsSolid → m.lines = newlines (c :: part))
  begins : m.Begins d c r
  delimit : ∀ u, m = .delimit u → d = .mysql ∧ (s.delimiter.IsSolid → u.IsSolid)

/-- Every step makes a move. -/
theorem exists_move (d : SourceDialect) (s : Scan) (c : Char) (r : List Char) :
    ∃ m rest, s.Makes d c r m rest := by
  cases hline : s.delimiterLine? d c r with
  | none =>
    obtain ⟨m, rest, hmade⟩ := exists_segmentMakes d s c r
    refine ⟨m, rest, fun t ht => ?_, hmade.part, hmade.begins, fun u hu => absurd hu (hmade.delimit u)⟩
    have hline' : t.delimiterLine? d c r = none := by
      unfold delimiterLine? at hline ⊢
      rw [ht.isBlank, hline]
    rw [step_eq_segment hline']
    exact hmade.segment _ (ht.trans (sameView_noted d t))
  | some line =>
    obtain ⟨hmysql, hafter⟩ : d = .mysql ∧ afterDelimiterWord? (c :: r) = some line := by
      unfold delimiterLine? at hline
      split at hline
      · rename_i hcond
        exact ⟨beq_iff_eq.1 (Bool.and_eq_true _ _ ▸ hcond).2, hline⟩
      · cases hline
    -- a line that sets a delimiter is read to its end, whether or not there is a new one on it
    refine ⟨.delimit ((Delimiter.ofLine? (lineSpan line).1).getD s.delimiter), (lineSpan line).2,
      fun t ht => ?_, ?_, .delimit _, fun u hu => ?_⟩
    · have hline' : t.delimiterLine? d c r = some line := by
        unfold delimiterLine? at hline ⊢
        rw [ht.isBlank, hline]
      rw [step_delimiterLine hline', ht.delimiter]
    · obtain ⟨c', word, hword, hlines⟩ := exists_of_afterDelimiterWord? hafter
      obtain ⟨rfl, hr⟩ := List.cons.inj hword
      refine ⟨word ++ (lineSpan line).1, ?_, fun _ => ?_⟩
      · rw [List.append_assoc, hr]
        exact congrArg (word ++ ·) (lineSpan_append line).symm
      · rw [← List.cons_append, newlines_append, newlines_eq_zero hlines,
          newlines_lineSpan]
        rfl
    · obtain rfl := Move.delimit.inj hu
      refine ⟨hmysql, fun hsolid => ?_⟩
      cases ht : Delimiter.ofLine? (lineSpan line).1 with
      | none => exact hsolid
      | some t => exact Delimiter.isSolid_ofLine? ht

/-- The step is determined by its move. -/
theorem Makes.step_eq {m : Move} (h : s.Makes d c r m rest) :
    s.step d c r = (s.noted.carry m, rest) :=
  h.step s (sameView_refl d s)

/-- A step counts the line ends of its segment. -/
theorem Makes.line {m : Move} (h : s.Makes d c r m rest) :
    (s.noted.carry m).line = s.line + m.lines := by
  have hline : s.noted.line = s.line := by
    unfold noted
    split <;> rfl
  rw [← hline]
  cases m <;> rfl

/-- At the end the scan is over. -/
theorem run_nil (d : SourceDialect) (s : Scan) : s.run d [] = s := by
  unfold run
  rfl

/-- Before, it makes a step. -/
theorem run_cons (d : SourceDialect) (s : Scan) (c : Char) (r : List Char) :
    s.run d (c :: r) = (s.step d c r).1.run d (s.step d c r).2 := by
  rw [run]

/-- Delimiters are changed in the dumps of one dialect only. -/
theorem delimiter_step (hd : d ≠ .mysql) (s : Scan) (c : Char) (r : List Char) :
    (s.step d c r).1.delimiter = s.delimiter := by
  obtain ⟨m, rest, hmakes⟩ := s.exists_move d c r
  rw [hmakes.step_eq]
  have hnoted : s.noted.delimiter = s.delimiter := delimiter_noted s
  cases m with
  | take _ _ _ => exact hnoted
  | close _ => exact hnoted
  | delimit u => exact absurd (hmakes.delimit u rfl).1 hd

/-! ## Steps that lead on -/

/-- Steps lead from a scan before a text to a scan before what is left of it. -/
inductive Reads (d : SourceDialect) : Scan → List Char → Scan → List Char → Prop
  | refl (s : Scan) (r : List Char) : Reads d s r s r
  | step {s s' : Scan} {c : Char} {r rest : List Char}
      (h : Reads d (s.step d c r).1 (s.step d c r).2 s' rest) : Reads d s (c :: r) s' rest

namespace Reads

/-- Steps after steps. -/
theorem trans {s s' s'' : Scan} {r r' r'' : List Char} (h : Reads d s r s' r')
    (h' : Reads d s' r' s'' r'') : Reads d s r s'' r'' := by
  induction h with
  | refl => exact h'
  | step _ ih => exact .step (ih h')

/-- One step. -/
theorem of_step (h : s.step d c r = (s', rest)) : Reads d s (c :: r) s' rest := by
  apply Reads.step
  rw [h]
  exact .refl s' rest

/-- A scan that goes on from where it has come to. -/
theorem run_eq (h : Reads d s r s' rest) : s.run d r = s'.run d rest := by
  induction h with
  | refl => rfl
  | step _ ih => rw [run_cons, ih]

/-- All that is read is a part of the text. -/
theorem isSuffix (h : Reads d s r s' rest) : rest <:+ r := by
  induction h with
  | refl => exact List.suffix_rfl
  | @step s s' c r rest _ ih =>
    obtain ⟨m, rest', hmakes⟩ := s.exists_move d c r
    obtain ⟨part, hr, -⟩ := hmakes.part
    rw [hmakes.step_eq] at ih
    exact ih.trans ⟨c :: part, by rw [hr]; rfl⟩

/-- Outside MySQL the delimiter stays. -/
theorem delimiter (hd : d ≠ .mysql) (h : Reads d s r s' rest) : s'.delimiter = s.delimiter := by
  induction h with
  | refl => rfl
  | step _ ih => rw [ih, delimiter_step hd]

/-- A whole text is read, step by step. -/
theorem run (d : SourceDialect) (s : Scan) (r : List Char) : Reads d s r (s.run d r) [] := by
  induction hn : r.length using Nat.strong_induction_on generalizing s r with
  | _ n ih =>
    cases r with
    | nil =>
      rw [run_nil]
      exact .refl s []
    | cons c r =>
      rw [run_cons]
      refine .step (ih (s.step d c r).2.length ?_ _ _ rfl)
      have hlength := length_step d s c r
      simp only [List.length_cons] at hn
      omega

end Reads

/-- A number of steps, or fewer if nothing is left. -/
def steps (d : SourceDialect) : Nat → Scan → List Char → Scan × List Char
  | n + 1, s, c :: r => steps d n (s.step d c r).1 (s.step d c r).2
  | _, s, r => (s, r)

/-- Any number of steps. -/
theorem Reads.of_steps (d : SourceDialect) (n : Nat) (s : Scan) (r : List Char) :
    Reads d s r (steps d n s r).1 (steps d n s r).2 := by
  fun_induction steps d n s r with
  | case1 n s c r ih => exact .step ih
  | case2 n s r => exact .refl s r

/-- What is read is read in a number of steps. -/
theorem Reads.exists_steps (h : Reads d s r s' rest) :
    ∃ n ∈ List.range (r.length + 1), steps d n s r = (s', rest) := by
  induction h with
  | refl s r =>
    refine ⟨0, by simp, ?_⟩
    unfold steps
    rfl
  | @step s s' c r rest _ ih =>
    obtain ⟨n, hn, hsteps⟩ := ih
    have hlength := length_step d s c r
    rw [List.mem_range] at hn
    refine ⟨n + 1, List.mem_range.2 ?_, hsteps⟩
    rw [List.length_cons]
    omega

end Scan

end SchemaBridge.Dump
