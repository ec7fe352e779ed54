/-
# Segments of a dump

What the scan takes in one step is a part of the text: quoted text, a comment, text through the tag
that ends a dollar quote, a line, rows of copied data, a delimiter.  Where a segment ends is said here
by equations, one for each way to go on.

## Key statements

* `quotedSpan_append`, `commentSpan_append`, …: a segment and what is left make up the text.
* `copySpan_append`: rows of copied data, and their line ends.
* `dollarTag?_eq_some_iff`: the tag of a dollar quote.
* `Delimiter.after?_eq_some_iff`: the delimiter at the beginning of a text.
-/
import SchemaBridge.Dump.Statement
import SchemaBridge.Proofs.Text.Trimming

namespace SchemaBridge.Dump

/-- The texts of a dump's statements. -/
def statementTexts (d : SourceDialect) (dump : String) : List String :=
  (statements d dump).map Statement.text

/-! ## Quoted text, comments and dollar quotes -/

/-- A quotation and what follows it are the text. -/
theorem quotedSpan_append (q : Char) (b : Bool) (s : List Char) :
    (quotedSpan q b s).1 ++ (quotedSpan q b s).2 = s := by
  fun_induction quotedSpan q b s <;> simp_all

/-- A quotation, by its first two characters. -/
theorem quotedSpan_cons_cons (q : Char) (b : Bool) (c c' : Char) (r : List Char) :
    quotedSpan q b (c :: c' :: r)
      = if (b && c == '\\') || (c == q && c' == q) then
          (c :: c' :: (quotedSpan q b r).1, (quotedSpan q b r).2)
        else if c == q then ([c], c' :: r)
        else (c :: (quotedSpan q b (c' :: r)).1, (quotedSpan q b (c' :: r)).2) := by
  rw [quotedSpan]

/-- Quoted text is never empty. -/
theorem length_quotedSpan_cons (q : Char) (b : Bool) (c : Char) (r : List Char) :
    (quotedSpan q b (c :: r)).2.length ≤ r.length := by
  cases r with
  | nil => simp [quotedSpan]
  | cons c' r =>
    rw [quotedSpan_cons_cons]
    split
    · have := length_quotedSpan q b r
      simp only [List.length_cons]
      omega
    · split
      · exact Nat.le_refl _
      · exact length_quotedSpan q b (c' :: r)

/-- A comment and what follows it are the text. -/
theorem commentSpan_append (s : List Char) : (commentSpan s).1 ++ (commentSpan s).2 = s := by
  fun_induction commentSpan s <;> simp_all

/-- A comment, by its first two characters. -/
theorem commentSpan_cons_cons (c c' : Char) (r : List Char) :
    commentSpan (c :: c' :: r) = if c = '*' ∧ c' = '/' then (['*', '/'], r)
      else (c :: (commentSpan (c' :: r)).1, (commentSpan (c' :: r)).2) := by
  split
  · rename_i h
    obtain ⟨rfl, rfl⟩ := h
    rfl
  · rename_i h
    rw [commentSpan]
    intro r' hc hr
    exact h ⟨hc, (List.cons.inj hr).1⟩

/-- Something is taken where a comment is. -/
theorem length_commentSpan_cons (c : Char) (r : List Char) :
    (commentSpan (c :: r)).2.length ≤ r.length := by
  cases r with
  | nil => simp [commentSpan]
  | cons c' r =>
    rw [commentSpan_cons_cons]
    split
    · simp
    · exact length_commentSpan (c' :: r)

/-- What is taken through a piece and what follows it are the text. -/
theorem throughPiece_append (p s : List Char) : (throughPiece p s).1 ++ (throughPiece p s).2 = s := by
  induction s with
  | nil => rfl
  | cons c r ih =>
    unfold throughPiece
    split
    · rename_i rest h
      exact (Text.dropPiece?_eq_some_iff.1 h).symm
    · simp [ih]

/-- A piece at the front is found there. -/
theorem throughPiece_of_some {p s rest : List Char} (hs : s ≠ [])
    (h : Text.dropPiece? p s = some rest) : throughPiece p s = (p, rest) := by
  cases s with
  | nil => exact absurd rfl hs
  | cons c r =>
    unfold throughPiece
    rw [h]

/-- Elsewhere it is looked for further on. -/
theorem throughPiece_of_none {p r : List Char} {c : Char} (h : Text.dropPiece? p (c :: r) = none) :
    throughPiece p (c :: r) = (c :: (throughPiece p r).1, (throughPiece p r).2) := by
  rw [throughPiece, h]

/-! ## Line ends -/

/-- Line ends are counted on both sides. -/
theorem newlines_append (a b : List Char) : newlines (a ++ b) = newlines a + newlines b :=
  List.count_append

/-- A character more, which may be a line end. -/
theorem newlines_cons (c : Char) (s : List Char) :
    newlines (c :: s) = newlines s + if c = '\n' then 1 else 0 := by
  unfold newlines
  rw [List.count_cons]
  simp

/-- Where there is no line end there are none. -/
theorem newlines_eq_zero {s : List Char} (h : '\n' ∉ s) : newlines s = 0 := List.count_eq_zero.2 h

/-- No line end is within a line. -/
theorem not_mem_takeWhile_isNotLineEnd (s : List Char) : '\n' ∉ s.takeWhile isNotLineEnd := by
  intro h
  exact absurd (List.mem_takeWhile_imp h) (by decide)

/-- A line and what follows it are the text. -/
theorem lineSpan_append (s : List Char) : (lineSpan s).1 ++ (lineSpan s).2 = s :=
  List.takeWhile_append_dropWhile

/-- There is no line end in a line. -/
theorem newlines_lineSpan (s : List Char) : newlines (lineSpan s).1 = 0 :=
  newlines_eq_zero (not_mem_takeWhile_isNotLineEnd s)

/-- A text with a line end begins with a row. -/
theorem exists_eq_append_newline {x : List Char} (h : '\n' ∈ x) :
    ∃ row rest, x = row ++ '\n' :: rest ∧ '\n' ∉ row :=
  List.eq_append_cons_of_mem h

/-- A row ends with its line end. -/
theorem lineSpan_append_newline {row : List Char} (hrow : '\n' ∉ row) (rest : List Char) :
    lineSpan (row ++ '\n' :: rest) = (row, '\n' :: rest) := by
  have hall : ∀ c ∈ row, isNotLineEnd c = true := by
    intro c hc
    exact bne_iff_ne.2 fun heq => hrow (heq ▸ hc)
  unfold lineSpan
  rw [List.takeWhile_append_of_pos hall, List.dropWhile_append_of_pos hall]
  simp [isNotLineEnd]

/-! ## Rows of copied data -/

/-- Rows that are passed over, and how many lines they take. -/
theorem copyRows_append (n : Nat) (s : List Char) :
    ∃ rows, s = rows ++ (copyRows n s).2 ∧ (copyRows n s).1 = newlines rows := by
  fun_induction copyRows n s with
  | case1 fuel r row rest hline hrow =>
    refine ⟨'\n' :: row, ?_, ?_⟩
    · cases hline
      simp
    · cases hline
      rw [newlines_cons, newlines_eq_zero (not_mem_takeWhile_isNotLineEnd r)]
      rfl
  | case2 fuel r row rest hline hrow n rest' hn ih =>
    obtain ⟨rows, hrest, hcount⟩ := ih
    rw [hn] at hrest hcount
    refine ⟨'\n' :: row ++ rows, ?_, ?_⟩
    · cases hline
      rw [List.append_assoc, ← hrest]
      simp
    · cases hline
      rw [List.cons_append, newlines_cons, newlines_append, ← hcount,
        newlines_eq_zero (not_mem_takeWhile_isNotLineEnd r)]
      simp
  | case3 => exact ⟨[], rfl, rfl⟩

/-- The line ends of a block of rows are counted. -/
theorem copySpan_append (s : List Char) :
    ∃ rows, s = rows ++ (copySpan s).2 ∧ (copySpan s).1 = newlines rows := by
  obtain ⟨rows, hrest, hcount⟩ := copyRows_append (lineSpan s).2.length (lineSpan s).2
  refine ⟨(lineSpan s).1 ++ rows, ?_, ?_⟩
  · rw [List.append_assoc]
    exact (lineSpan_append s).symm.trans (congrArg _ hrest)
  · rw [newlines_append, ← hcount, newlines_lineSpan, Nat.zero_add]
    rfl

/-- One row, which may be the end mark, and then the others. -/
theorem copyRows_succ (fuel : Nat) (r : List Char) : copyRows (fuel + 1) ('\n' :: r)
    = if Text.trimEnd (lineSpan r).1 = ['\\', '.'] then (1, (lineSpan r).2)
      else ((copyRows fuel (lineSpan r).2).1 + 1, (copyRows fuel (lineSpan r).2).2) := by
  rw [copyRows]

theorem copyRows_append_newline (fuel : Nat) {row : List Char} (hrow : '\n' ∉ row)
    (rest : List Char) : copyRows (fuel + 1) ('\n' :: (row ++ '\n' :: rest))
      = if Text.trimEnd row = ['\\', '.'] then (1, '\n' :: rest)
        else ((copyRows fuel ('\n' :: rest)).1 + 1, (copyRows fuel ('\n' :: rest)).2) := by
  rw [copyRows_succ, lineSpan_append_newline hrow]

/-! ## Tags of dollar quotes -/

/-- A character that may stand in the tag of a dollar quote. -/
def IsTagLetter (c : Char) : Prop := (Text.isLetterOrNumeral c || c == '_') = true

/-- The letters of a tag, by the first one. -/
theorem tagLetters?_cons {c : Char} (h : c ≠ '$') (r : List Char) : tagLetters? (c :: r)
    = if Text.isLetterOrNumeral c || c == '_' then (tagLetters? r).map (c :: ·) else none := by
  rw [tagLetters?]
  exact h

/-- The letters of a tag stand before a dollar sign. -/
theorem tagLetters?_eq_some_iff {s letters : List Char} : tagLetters? s = some letters
    ↔ (∀ c ∈ letters, IsTagLetter c) ∧ ∃ rest, s = letters ++ '$' :: rest := by
  have hdollar : ¬ IsTagLetter '$' := by
    unfold IsTagLetter
    decide
  induction s generalizing letters with
  | nil => simp [tagLetters?]
  | cons c r ih =>
    -- a dollar sign is no letter, so the first one ends the tag
    by_cases hc : c = '$'
    · subst hc
      show some [] = some letters ↔ _
      constructor
      · intro h
        cases h
        exact ⟨List.forall_mem_nil _, r, rfl⟩
      · rintro ⟨hall, rest, hs⟩
        cases letters with
        | nil => rfl
        | cons a letters =>
          have ha : '$' = a := (List.cons.inj hs).1
          exact absurd (hall a List.mem_cons_self) (ha ▸ hdollar)
    · rw [tagLetters?_cons hc]
      constructor
      · intro h
        split at h
        · rename_i hletter
          obtain ⟨l, hl, rfl⟩ := Option.map_eq_some_iff.1 h
          obtain ⟨hall, rest, rfl⟩ := ih.1 hl
          exact ⟨List.forall_mem_cons.2 ⟨hletter, hall⟩, rest, rfl⟩
        · cases h
      · rintro ⟨hall, rest, hs⟩
        cases letters with
        | nil => exact absurd (List.cons.inj hs).1 hc
        | cons a letters =>
          obtain ⟨hletter, hletters⟩ := List.forall_mem_cons.1 hall
          obtain ⟨rfl, hr⟩ := List.cons.inj hs
          unfold IsTagLetter at hletter
          rw [if_pos hletter, ih.2 ⟨hletters, rest, hr⟩]
          rfl

/-- What may stand between the dollars of a tag: letters, of which the first is no digit. -/
structure IsTag (letters : List Char) : Prop where
  all : ∀ c ∈ letters, IsTagLetter c
  head : ∀ c ∈ letters.head?, c.isDigit = false

/-- The tag that begins a dollar quote and ends it. -/
def tagOf (letters : List Char) : List Char := '$' :: letters ++ ['$']

/-- The tag of a dollar quote, the first dollar of which stands before `r`. -/
theorem dollarTag?_eq_some_iff {r tag : List Char} : dollarTag? r = some tag
    ↔ ∃ letters rest, IsTag letters ∧ tag = tagOf letters ∧ r = letters ++ '$' :: rest := by
  have hhead : ∀ letters rest : List Char,
      ((letters ++ '$' :: rest).head?.map Char.isDigit).getD false = false
        ↔ ∀ c ∈ letters.head?, c.isDigit = false := by
    intro letters rest
    cases letters with
    | nil => exact ⟨fun _ c hc => (nomatch hc), fun _ => rfl⟩
    | cons a letters => simp
  unfold dollarTag?
  constructor
  · intro h
    split at h
    · cases h
    · rename_i hdigit
      obtain ⟨letters, hl, rfl⟩ := Option.map_eq_some_iff.1 h
      obtain ⟨hall, rest, rfl⟩ := tagLetters?_eq_some_iff.1 hl
      exact ⟨letters, rest, ⟨hall, (hhead letters rest).1 (Bool.eq_false_iff.2 hdigit)⟩, rfl, rfl⟩
  · rintro ⟨letters, rest, ⟨hall, hdigit⟩, rfl, rfl⟩
    rw [(hhead letters rest).2 hdigit, if_neg Bool.false_ne_true,
      tagLetters?_eq_some_iff.2 ⟨hall, rest, rfl⟩]
    rfl

/-! ## Delimiters -/

/-- The word that changes the delimiter. -/
def IsDelimiterWord (word : List Char) : Prop :=
  Text.asciiFold word = Text.asciiFold "DELIMITER".toList

/-- The word that sets a delimiter has its own letters only. -/
theorem not_mem_of_isDelimiterWord {word : List Char} (h : IsDelimiterWord word) {c : Char}
    (hc : c.toLower ∉ Text.asciiFold "DELIMITER".toList) : c ∉ word := by
  intro hmem
  rw [← h] at hc
  exact hc (List.mem_map_of_mem hmem)

/-- White space follows the word that changes the delimiter. -/
theorem afterDelimiterWord?_eq_some_iff {s rest : List Char} : afterDelimiterWord? s = some rest
    ↔ ∃ word c r, IsDelimiterWord word ∧ Text.isBlank c = true ∧ s = word ++ c :: r
      ∧ rest = c :: r := by
  unfold afterDelimiterWord? IsDelimiterWord
  dsimp only
  constructor
  · intro h
    split at h
    · rename_i hword
      split at h
      · rename_i c r hr
        split at h
        · rename_i hc
          refine ⟨_, c, r, hword, hc, ?_, (Option.some_inj.1 h).symm⟩
          rw [← hr]
          exact (List.take_append_drop _ s).symm
        · cases h
      · cases h
    · cases h
  · rintro ⟨word, c, r, hword, hc, rfl, rfl⟩
    -- the word may be in any case, which does not change its length
    have hlength : "DELIMITER".toList.length = word.length := by
      have hfolded := congrArg List.length hword
      unfold Text.asciiFold at hfolded
      rw [List.length_map, List.length_map] at hfolded
      exact hfolded.symm
    rw [hlength, List.take_left, List.drop_left, if_pos hword]
    exact if_pos hc

/-- The word that changes the delimiter stands on one line. -/
theorem exists_of_afterDelimiterWord? {s rest : List Char} (h : afterDelimiterWord? s = some rest) :
    ∃ c word, s = c :: word ++ rest ∧ '\n' ∉ c :: word := by
  obtain ⟨word, c, r, hword, -, rfl, rfl⟩ := afterDelimiterWord?_eq_some_iff.1 h
  cases word with
  | nil => exact absurd hword (by unfold IsDelimiterWord; decide)
  | cons a word => exact ⟨a, word, rfl, not_mem_of_isDelimiterWord hword (by decide)⟩

/-- The word does not begin with just any character. -/
theorem afterDelimiterWord?_eq_none {c : Char}
    (hc : c.toLower ∉ Text.asciiFold "DELIMITER".toList) (r : List Char) :
    afterDelimiterWord? (c :: r) = none := by
  rw [Option.eq_none_iff_forall_ne_some]
  intro rest hrest
  obtain ⟨word, c', r', hword, -, heq, -⟩ := afterDelimiterWord?_eq_some_iff.1 hrest
  cases word with
  | nil => exact absurd hword (by unfold IsDelimiterWord; decide)
  | cons a word =>
    obtain rfl : c = a := (List.cons.inj heq).1
    exact not_mem_of_isDelimiterWord hword hc List.mem_cons_self

/-- A semicolon does not bring about the word that changes the delimiter. -/
theorem afterDelimiterWord?_semicolon {t : List Char} (h : afterDelimiterWord? t = none)
    (r : List Char) : afterDelimiterWord? (t ++ ';' :: r) = none := by
  rw [Option.eq_none_iff_forall_ne_some]
  intro rest hrest
  obtain ⟨word, c, r', hword, hc, heq, rfl⟩ := afterDelimiterWord?_eq_some_iff.1 hrest
  rcases List.append_eq_append_iff.1 heq with ⟨u, hu, hr⟩ | ⟨u, rfl, hr⟩
  · cases u with
    | nil =>
      obtain rfl : ';' = c := (List.cons.inj hr).1
      exact absurd hc (by decide)
    | cons a u =>
      obtain rfl : ';' = a := (List.cons.inj hr).1
      have hmem : ';' ∈ word := by simp [hu]
      exact not_mem_of_isDelimiterWord hword (by decide) hmem
  · cases u with
    | nil =>
      obtain rfl : c = ';' := (List.cons.inj hr).1
      exact absurd hc (by decide)
    | cons a u =>
      obtain rfl : c = a := (List.cons.inj hr).1
      have hsome := afterDelimiterWord?_eq_some_iff.2 ⟨word, c, u, hword, hc, rfl, rfl⟩
      rw [hsome] at h
      cases h

namespace Delimiter

variable {t : Delimiter} {c : Char} {r rest : List Char}

/-- A delimiter stands at the front, and what follows it is left. -/
theorem after?_eq_some_iff : t.after? c r = some rest ↔ c = t.first ∧ r = t.others ++ rest := by
  unfold after?
  by_cases h : c = t.first
  · rw [if_pos (beq_iff_eq.2 h), Text.dropPiece?_eq_some_iff]
    exact ⟨fun hr => ⟨h, hr⟩, fun hr => hr.2⟩
  · rw [if_neg fun hc => h (beq_iff_eq.1 hc)]
    exact ⟨fun hn => (nomatch hn), fun hr => absurd hr.1 h⟩

/-- There is no line end in a delimiter. -/
def IsSolid (t : Delimiter) : Prop := '\n' ∉ t.first :: t.others

/-- A delimiter that is set on a line has no line end. -/
theorem isSolid_ofLine? {line : List Char} (h : ofLine? line = some t) : t.IsSolid := by
  unfold ofLine? at h
  split at h
  · rename_i c r ws hw
    cases h
    intro hmem
    have hword : c :: r ∈ Text.words line := by
      rw [hw]
      exact List.mem_cons_self
    exact absurd (Text.words_not_blank line _ hword '\n' hmem) (by decide)
  · cases h

end Delimiter

end SchemaBridge.Dump
