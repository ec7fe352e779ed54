/-
# Rows of copied data

The rows that follow a copy from the standard input are passed over, whatever they hold.  The scan comes
to the text after them as it comes to the beginning of a dump, except that it is on another line.

## Key statements

* `copySpan_rows`: the rows are passed over with the line that ends them.
* `statements_of_reads`: a scan that is blank starts again.
* `copied_rows_are_inert`: statements around copied rows.
-/
import SchemaBridge.Proofs.Dump.AlikeScans
import SchemaBridge.Proofs.Dump.Lines
import SchemaBridge.Proofs.Dump.Places

namespace SchemaBridge.Dump

variable {d : SourceDialect}

/-- A statement some lines further on. -/
def Statement.shift (n : Nat) (st : Statement) : Statement := { st with line := st.line + n }

/-- A row of copied data: it is one line, and not the one that ends the data. -/
structure IsRow (row : String) : Prop where
  one_line : '\n' ∉ row.toList
  not_end : Text.trimEnd row.toList ≠ ['\\', '.']

/-- Lines of text, each with its end. -/
def lines (rows : List String) : String := String.join (rows.map (· ++ "\n"))

/-- A row is followed by a line end. -/
theorem toList_lines_cons (row : String) (rows : List String) :
    (lines (row :: rows)).toList = row.toList ++ '\n' :: (lines rows).toList := by
  unfold lines
  simp [String.toList_join]

/-! ## The rows are passed over -/

/-- Rows are taken through their end mark. -/
theorem copyRows_rows {rows : List String} (h : ∀ row ∈ rows, IsRow row) {fuel : Nat}
    (hfuel : rows.length < fuel) (rest : List Char) :
    copyRows fuel ('\n' :: ((lines rows).toList ++ '\\' :: '.' :: '\n' :: rest))
      = (rows.length + 1, '\n' :: rest) := by
  induction rows generalizing fuel with
  | nil =>
    obtain ⟨fuel, rfl⟩ := Nat.exists_eq_add_one_of_ne_zero (Nat.ne_zero_of_lt hfuel)
    have hend : '\n' ∉ ['\\', '.'] := by decide
    exact (copyRows_append_newline fuel hend rest).trans (if_pos (by decide))
  | cons row rows ih =>
    obtain ⟨hrow, hrows⟩ := List.forall_mem_cons.1 h
    obtain ⟨fuel, rfl⟩ := Nat.exists_eq_add_one_of_ne_zero (Nat.ne_zero_of_lt hfuel)
    rw [toList_lines_cons, List.append_assoc, List.cons_append,
      copyRows_append_newline fuel hrow.one_line, if_neg hrow.not_end,
      ih hrows (Nat.lt_of_succ_lt_succ hfuel)]
    rfl

/-- There are no more rows than characters. -/
theorem length_le_lines (rows : List String) : rows.length ≤ (lines rows).toList.length := by
  induction rows with
  | nil => exact Nat.zero_le _
  | cons row rows ih =>
    rw [toList_lines_cons, List.length_append, List.length_cons, List.length_cons]
    omega

/-- A block of rows is taken as a whole. -/
theorem copySpan_rows {rows : List String} (h : ∀ row ∈ rows, IsRow row) (rest : List Char) :
    copySpan ('\n' :: ((lines rows).toList ++ '\\' :: '.' :: '\n' :: rest))
      = (rows.length + 1, '\n' :: rest) := by
  have hline : ∀ u, lineSpan ('\n' :: u) = ([], '\n' :: u) :=
    lineSpan_append_newline (List.not_mem_nil (a := '\n'))
  unfold copySpan
  rw [hline]
  refine copyRows_rows h ?_ rest
  have hlength := length_le_lines rows
  simp only [List.length_cons, List.length_append]
  omega

/-! ## Starting again -/

/-- Statements that correspond on later lines are these statements, moved down. -/
theorem Statement.map_shift_of_forall₂ {n : Nat} {a b : List Statement}
    (h : List.Forall₂ (Corresponds fun l l' => l' = l + n) a b) : b = a.map (shift n) := by
  induction h with
  | nil => rfl
  | @cons st st' _ _ hcorresponds _ ih =>
    obtain ⟨htext, hline⟩ := hcorresponds
    have hst : st' = st.shift n := by
      cases st'
      simp only [shift, Statement.mk.injEq]
      exact ⟨htext, hline⟩
    rw [List.map_cons, ← hst, ih]

/-- A blank scan finds in the rest of a dump what a new one finds, on lines further on. -/
theorem statements_of_reads {before rest : String} {s : Scan}
    (h : Scan.Reads d .start (before ++ rest).toList s rest.toList) (hblank : s.isBlank = true)
    (hdelimiter : s.delimiter = ⟨';', []⟩) (hconditional : s.conditionalOnly = false) :
    statements d (before ++ rest) = s.statements.reverse
      ++ (statements d rest).map (Statement.shift (newlines before.toList)) := by
  have hline : s.line = 1 + newlines before.toList := by
    rw [String.toList_append] at h
    exact h.line_eq
  have halike : Scan.Alike (fun l l' => l' = l + newlines before.toList) s.statements .start s :=
    ⟨⟨[], rfl, .nil⟩, .of_blank rfl hblank, hline, fun hb => (nomatch hb), hdelimiter, hconditional⟩
  obtain ⟨found, hfound, hall⟩ := halike.close_run (d := d)
    (fun n hl => by rw [hl, Nat.add_right_comm]) rest.toList
  unfold statements
  rw [h.run_eq, hfound, Statement.map_shift_of_forall₂ hall, List.reverse_append, List.map_reverse]

/-! ## Texts that end with a delimiter -/

/-- The last character of a text is a semicolon that ends a statement; this reads like a copy from the
standard input or not. -/
def EndsStatement (text : String) (copy : Bool) : Prop :=
  ∃ s, Scan.Reads .postgres .start text.toList s [';']
    ∧ isCopyFromStdin (Text.trim s.current.reverse) = copy

/-- Whether a text ends so can be computed. -/
theorem endsStatement_of_steps {text : String} {copy : Bool} (n : Nat)
    (hrest : (Scan.steps .postgres n .start text.toList).2 = [';'])
    (hcopy : isCopyFromStdin
      (Text.trim (Scan.steps .postgres n .start text.toList).1.current.reverse) = copy) :
    EndsStatement text copy := by
  have hreads := Scan.Reads.of_steps .postgres n .start text.toList
  rw [hrest] at hreads
  exact ⟨_, hreads, hcopy⟩

/-- What has been read of a text is read with more after it. -/
theorem reads_append_of_reads {text : String} {s : Scan}
    (h : Scan.Reads .postgres .start text.toList s [';']) (more : List Char) :
    Scan.Reads .postgres .start (text.toList ++ more) s (';' :: more) := by
  obtain ⟨before, hbefore⟩ := h.isSuffix
  have hbreak : IsBreak ';' := by
    refine ⟨by decide, ?_, by decide, by decide⟩
    unfold IsTagLetter
    decide
  rw [← hbefore] at h ⊢
  rw [List.append_assoc]
  exact h.place (by decide) rfl (fun hend => absurd hend (by decide)) hbreak
    fun hdash => absurd hdash (by decide)

/-- The statements of a text whose end ends a statement. -/
theorem statements_of_endsStatement {text : String} {s : Scan}
    (h : Scan.Reads .postgres .start text.toList s [';']) :
    statements .postgres text = s.noted.close.statements.reverse := by
  have hs : s.delimiter = ⟨';', []⟩ := h.delimiter (by decide)
  have hstep := Scan.step_semicolon (d := .postgres) hs []
  unfold statements
  rw [h.run_eq, Scan.run_cons, hstep]
  have hnil : (copySpan []).2 = [] := rfl
  split
  · dsimp only
    rw [hnil, Scan.run_nil, Scan.close_of_isBlank rfl]
  · rw [Scan.run_nil, Scan.close_of_isBlank rfl]

/-- What follows a statement that is no copy is split as a dump of its own. -/
theorem statements_append {text : String} (h : EndsStatement text false) (more : String) :
    statements .postgres (text ++ more) = statements .postgres text
      ++ (statements .postgres more).map (Statement.shift (newlines text.toList)) := by
  obtain ⟨s, hs, hcopy⟩ := h
  have hdelimiter : s.delimiter = ⟨';', []⟩ := hs.delimiter (by decide)
  have hstep := Scan.step_semicolon (d := .postgres) hdelimiter more.toList
  rw [hcopy, if_neg fun h => Bool.false_ne_true h.2] at hstep
  have hreads : Scan.Reads .postgres .start (text ++ more).toList s.noted.close more.toList := by
    rw [String.toList_append]
    exact (reads_append_of_reads hs more.toList).trans (.of_step hstep)
  rw [statements_of_reads hreads rfl ((Scan.delimiter_noted s).trans hdelimiter) rfl,
    statements_of_endsStatement hs]

/-- The end of a copy is read with the rows that follow it. -/
theorem Scan.reads_rows (hd : d ≠ .mysql) {s : Scan} (hs : s.delimiter = ⟨';', []⟩)
    (hcopy : isCopyFromStdin (Text.trim s.current.reverse) = true) {rows : List String}
    (hrows : ∀ row ∈ rows, IsRow row) (rest : List Char) :
    ∃ t, Reads d s (';' :: '\n' :: ((lines rows).toList ++ '\\' :: '.' :: '\n' :: rest)) t rest
      ∧ t.statements = s.noted.close.statements ∧ t.isBlank = true ∧ t.delimiter = ⟨';', []⟩
      ∧ t.conditionalOnly = false := by
  have hs' : s.noted.delimiter = ⟨';', []⟩ := (delimiter_noted s).trans hs
  have hstep := step_semicolon (d := d) hs
    ('\n' :: ((lines rows).toList ++ '\\' :: '.' :: '\n' :: rest))
  rw [if_pos ⟨hd, hcopy⟩, copySpan_rows hrows] at hstep
  let u : Scan := { s.noted.close with line := s.noted.close.line + (rows.length + 1) }
  have hend : u.step d '\n' rest = (u.noted.plain '\n', rest) := step_white (s := u) hs' (.inr rfl) rest
  exact ⟨_, .trans (.of_step hstep) (.of_step hend), rfl, rfl, hs', rfl⟩

/-- The rows that follow a copy are passed over. -/
theorem statements_rows {text : String} (h : EndsStatement text true) {rows : List String}
    (hrows : ∀ row ∈ rows, IsRow row) (more : String) :
    statements .postgres (text ++ "\n" ++ lines rows ++ "\\.\n" ++ more) = statements .postgres text
      ++ (statements .postgres more).map
        (Statement.shift (newlines (text ++ "\n" ++ lines rows ++ "\\.\n").toList)) := by
  obtain ⟨s, hs, hcopy⟩ := h
  have hdelimiter : s.delimiter = ⟨';', []⟩ := hs.delimiter (by decide)
  obtain ⟨t, ht, hstatements, hblank, hdelimiter', hconditional⟩ :=
    Scan.reads_rows (d := .postgres) (by decide) hdelimiter hcopy hrows more.toList
  have hreads : Scan.Reads .postgres .start
      (text ++ "\n" ++ lines rows ++ "\\.\n" ++ more).toList t more.toList := by
    simp only [String.toList_append, List.append_assoc]
    exact (reads_append_of_reads hs _).trans ht
  rw [statements_of_reads hreads hblank hdelimiter' hconditional, hstatements,
    statements_of_endsStatement hs]

/-- **Copied data is inert and line numbers are exact.**  The rows after a statement that reads like a
copy from the standard input are passed over; what follows any other statement is split as a dump of its
own; and every statement is on the line of the place where it begins. -/
theorem copied_rows_are_inert (text : String) {rows : List String} (hrows : ∀ row ∈ rows, IsRow row)
    (more : String) :
    (EndsStatement text true →
      statements .postgres (text ++ "\n" ++ lines rows ++ "\\.\n" ++ more) = statements .postgres text
        ++ (statements .postgres more).map
          (Statement.shift (newlines (text ++ "\n" ++ lines rows ++ "\\.\n").toList)))
    ∧ (EndsStatement text false →
      statements .postgres (text ++ more) = statements .postgres text
        ++ (statements .postgres more).map (Statement.shift (newlines text.toList)))
    ∧ ∀ d dump k st, (statements d dump)[k]? = some st →
      ∃ first, st.text.toList.head? = some first ∧ Scan.IsOnLine d dump.toList k first st.line :=
  ⟨fun h => statements_rows h hrows more, fun h => statements_append h more,
    fun _ _ _ _ h => exists_beginsAt h⟩

/-- Rows that hold delimiters, quotation marks and comments. -/
def wildRows : List String := ["1;2", "it's /*", " \\. $$"]

theorem copied_rows_are_inert_wildRows :
    statements .postgres ("COPY t FROM stdin;" ++ "\n" ++ lines wildRows ++ "\\.\n" ++ "SELECT 1")
      = [⟨"COPY t FROM stdin", 1⟩, ⟨"SELECT 1", 6⟩] := by
  have hcopy : EndsStatement "COPY t FROM stdin;" true :=
    endsStatement_of_steps 17 (by decide +kernel) (by decide +kernel)
  have hrows : ∀ row ∈ wildRows, IsRow row := by
    have hall : ∀ row ∈ wildRows, '\n' ∉ row.toList ∧ Text.trimEnd row.toList ≠ ['\\', '.'] := by
      decide +kernel
    exact fun row hrow => ⟨(hall row hrow).1, (hall row hrow).2⟩
  rw [(copied_rows_are_inert "COPY t FROM stdin;" hrows "SELECT 1").1 hcopy]
  decide +kernel

/-- A second blank before the word, which is no more than white space, and the rows are statements. -/
theorem copied_rows_two_blanks :
    Text.words "COPY t FROM  stdin".toList = Text.words "COPY t FROM stdin".toList
    ∧ EndsStatement "COPY t FROM  stdin;" false
    ∧ statements .postgres ("COPY t FROM  stdin;" ++ "\n" ++ lines ["1;2"] ++ "\\.\n"
        ++ "CREATE TABLE z (id int);")
      = [⟨"COPY t FROM  stdin", 1⟩, ⟨"1", 2⟩, ⟨"2\n\\.\nCREATE TABLE z (id int)", 2⟩] :=
  ⟨by decide +kernel, endsStatement_of_steps 18 (by decide +kernel) (by decide +kernel),
    by decide +kernel⟩

end SchemaBridge.Dump
