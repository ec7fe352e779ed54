/-
# Quoted names are read back

A quoted name ends at its own closing mark, whatever it holds and whatever follows it.  Whoever reads
a statement by the rule of its dialect gets the name that was meant and goes on behind it, and the
same is true of string literals and of names with commas between them.

## Key statements

* `backslashed_eq`: a backtick that is escaped after the backslashes is escaped as in one pass.
* `scanName_write`, `scanLiteral_literal`: one name, and one literal.
* `scanNames_write`: names with commas between them.
* `quoted_readsBack`: all that is quoted is read back, so no two names have the same text.
-/
import SchemaBridge.Proofs.Ddl.Statement
import SchemaBridge.Proofs.Sql.Quoting
import SchemaBridge.Proofs.Text.Trimming

namespace SchemaBridge

namespace Identifier

variable {d : TargetDialect} {rest : List Char}

/-! ## Reading by the rule of a dialect -/

/-- The mark that a dialect puts around names. -/
def mark : TargetDialect → Char
  | .google => '\x60'
  | .postgres => '"'

/-- A name after its opening backtick: a backslash takes the next character as it stands, and a bare
backtick ends the name. -/
def backslashedSpan? (done : List Char) : List Char → Option (String × List Char)
  | [] => none
  | '\\' :: c :: r => backslashedSpan? (c :: done) r
  | c :: r =>
    if c == '\x60' then some (String.ofList done.reverse, r) else backslashedSpan? (c :: done) r

/-- The name at the beginning of a text, and what follows it. -/
def scanName (d : TargetDialect) (s : List Char) : Option (String × List Char) :=
  (Text.dropPiece? [mark d] s).bind fun r =>
    match d with
    | .google => backslashedSpan? [] r
    | .postgres => Sql.quotedNameSpan? '"' [] r

/-- The string literal at the beginning of a text, and what follows it. -/
def scanLiteral (s : List Char) : Option (String × List Char) :=
  (Text.dropPiece? ['\''] s).bind (Sql.quotedNameSpan? '\'' [])

/-- A name begins with the mark of its target. -/
theorem scanName_mark (d : TargetDialect) (r : List Char) : scanName d (mark d :: r)
    = match d with
      | .google => backslashedSpan? [] r
      | .postgres => Sql.quotedNameSpan? '"' [] r := by
  cases d <;> rfl

/-- Where there is no mark there is no name. -/
theorem scanName_eq_none {s : List Char} (h : s.head? ≠ some (mark d)) : scanName d s = none := by
  cases s with
  | nil => rfl
  | cons c r =>
    have hne : (mark d == c) = false := by
      rw [beq_eq_false_iff_ne]
      intro hc
      exact h (congrArg some hc.symm)
    show (if mark d == c then some r else none).bind _ = none
    rw [hne]
    rfl

/-- Something is taken where a name with backslashes is. -/
theorem length_backslashedSpan? {s r : List Char} {done : List Char} {n : String}
    (h : backslashedSpan? done s = some (n, r)) : r.length < s.length := by
  fun_induction backslashedSpan? done s with
  | case1 => cases h
  | case2 done c s ih =>
    have := ih h
    simp only [List.length_cons]
    omega
  | case3 done c s hc =>
    cases h
    exact Nat.lt_succ_self _
  | case4 done c s hc hmark ih =>
    have := ih h
    simp only [List.length_cons]
    omega

/-- Something is taken where a name between quotes is. -/
theorem length_quotedNameSpan? {q : Char} {s r : List Char} {done : List Char} {n : String}
    (h : Sql.quotedNameSpan? q done s = some (n, r)) : r.length < s.length := by
  fun_induction Sql.quotedNameSpan? q done s <;> grind

/-- A name takes up some of the text. -/
theorem length_scanName {s r : List Char} {n : String} (h : scanName d s = some (n, r)) :
    r.length < s.length := by
  by_cases hhead : s.head? = some (mark d)
  · cases s with
    | nil => cases hhead
    | cons c s =>
      obtain rfl : c = mark d := Option.some.inj hhead
      rw [scanName_mark] at h
      have hless : r.length < s.length := by
        cases d with
        | google => exact length_backslashedSpan? h
        | postgres => exact length_quotedNameSpan? h
      exact Nat.lt_succ_of_lt hless
  · rw [scanName_eq_none hhead] at h
    cases h

/-- The names at the beginning of a text, as long as a comma and a space follow, and what is left. -/
def scanNames (d : TargetDialect) (s : List Char) : List String × List Char :=
  match _h : scanName d s with
  | none => ([], s)
  | some (n, r) =>
    match _hr : Text.dropPiece? [',', ' '] r with
    | none => ([n], r)
    | some more => (n :: (scanNames d more).1, (scanNames d more).2)
termination_by s.length
decreasing_by
  all_goals
    have hname := length_scanName _h
    obtain rfl := Text.dropPiece?_eq_some_iff.1 _hr
    simp only [List.length_append] at hname
    omega

/-- Where there is no name there are no names. -/
theorem scanNames_of_none {s : List Char} (h : scanName d s = none) : scanNames d s = ([], s) := by
  rw [scanNames]
  split
  · rfl
  · rename_i heq
    rw [h] at heq
    cases heq

/-- A name without a comma after it is the last one. -/
theorem scanNames_last {s r : List Char} {n : String} (h : scanName d s = some (n, r))
    (hr : r.head? ≠ some ',') : scanNames d s = ([n], r) := by
  -- names are separated by a comma and a blank
  have hnone : Text.dropPiece? [',', ' '] r = none := by
    cases r with
    | nil => rfl
    | cons c r =>
      have hne : (',' == c) = false := by
        rw [beq_eq_false_iff_ne]
        intro hc
        exact hr (congrArg some hc.symm)
      unfold Text.dropPiece?
      rw [hne]
      rfl
  rw [scanNames]
  split
  · rename_i heq
    rw [h] at heq
    cases heq
  · rename_i heq
    rw [h] at heq
    cases heq
    split
    · rfl
    · rename_i hsome
      rw [hnone] at hsome
      cases hsome

/-- After a comma there are more names. -/
theorem scanNames_more {s r : List Char} {n : String} (h : scanName d s = some (n, ',' :: ' ' :: r)) :
    scanNames d s = (n :: (scanNames d r).1, (scanNames d r).2) := by
  have hsome : Text.dropPiece? [',', ' '] (',' :: ' ' :: r) = some r := rfl
  rw [scanNames]
  split
  · rename_i heq
    rw [h] at heq
    cases heq
  · rename_i heq
    rw [h] at heq
    cases heq
    split
    · rename_i hnone
      rw [hsome] at hnone
      cases hnone
    · rename_i hmore
      rw [hsome] at hmore
      cases hmore
      rfl

/-! ## What is written is read -/

/-- Backslashes are escaped first and backticks then, which comes to the same. -/
theorem backslashed_eq (s : List Char) : backslashed s
    = Text.replaceChar '\x60' ['\\', '\x60'] (Text.replaceChar '\\' ['\\', '\\'] s) := by
  induction s with
  | nil => rfl
  | cons c r ih =>
    have hreplaced : Text.replaceChar '\\' ['\\', '\\'] (c :: r)
        = (if c == '\\' then ['\\', '\\'] else [c]) ++ Text.replaceChar '\\' ['\\', '\\'] r := rfl
    rw [backslashed_cons, hreplaced, ih]
    unfold Text.replaceChar
    rw [List.flatMap_append]
    congr 1
    by_cases hslash : c = '\\'
    · subst hslash
      rfl
    · by_cases htick : c = '\x60'
      · subst htick
        rfl
      · simp [hslash, htick]

/-- What is escaped is taken as it stands, up to the backtick that is not. -/
theorem backslashedSpan?_backslashed (s rest done : List Char) :
    backslashedSpan? done (backslashed s ++ '\x60' :: rest)
      = some (String.ofList (done.reverse ++ s), rest) := by
  induction s generalizing done with
  | nil =>
    rw [List.append_nil]
    rfl
  | cons c s ih =>
    have hdone : (c :: done).reverse ++ s = done.reverse ++ c :: s := by simp
    rw [backslashed_cons]
    by_cases hc : (c == '\\' || c == '\x60') = true
    · -- the backslash before the character is dropped
      rw [if_pos hc]
      show backslashedSpan? (c :: done) (backslashed s ++ '\x60' :: rest) = _
      rw [ih, hdone]
    · rw [if_neg hc]
      rw [Bool.or_eq_true, not_or, beq_iff_eq, beq_iff_eq] at hc
      obtain ⟨hslash, htick⟩ := hc
      have hplain : backslashedSpan? done (c :: (backslashed s ++ '\x60' :: rest))
          = backslashedSpan? (c :: done) (backslashed s ++ '\x60' :: rest) := by
        rw [backslashedSpan?]
        · rw [if_neg (by simpa using htick)]
        · intro e r hc
          exact absurd hc hslash
      show backslashedSpan? done (c :: (backslashed s ++ '\x60' :: rest)) = _
      rw [hplain, ih, hdone]

/-- A text between two marks, and what follows. -/
theorem toList_between (q : Char) (body rest : List Char) :
    (String.ofList (q :: body ++ [q])).toList ++ rest = q :: (body ++ q :: rest) := by
  rw [String.toList_ofList]
  simp

/-- Between two marks those of the text are doubled. -/
theorem quotedNameSpan?_text (q : Char) (s : String) {rest : List Char} (h : rest.head? ≠ some q) :
    Sql.quotedNameSpan? q [] (doubled q s.toList ++ q :: rest) = some (s, rest) := by
  rw [Sql.quotedNameSpan?_doubled q s.toList h, List.reverse_nil, List.nil_append,
    String.ofList_toList]

/-- **One name** is read back.  A mark that follows in PostgreSQL would be taken for a doubled one. -/
theorem scanName_write (name : String) (rest : List Char)
    (h : d = .postgres → rest.head? ≠ some '"') :
    scanName d ((write d name).toList ++ rest) = some (name, rest) := by
  cases d with
  | google =>
    have htext : (write .google name).toList ++ rest
        = mark .google :: (backslashed name.toList ++ '\x60' :: rest) :=
      toList_between '\x60' (backslashed name.toList) rest
    rw [htext, scanName_mark]
    dsimp only
    rw [backslashedSpan?_backslashed, List.reverse_nil, List.nil_append, String.ofList_toList]
  | postgres =>
    have htext : (write .postgres name).toList ++ rest
        = mark .postgres :: (doubled '"' name.toList ++ '"' :: rest) :=
      toList_between '"' (doubled '"' name.toList) rest
    rw [htext, scanName_mark]
    exact quotedNameSpan?_text '"' name (h rfl)

/-- **One literal** is read back. -/
theorem scanLiteral_literal (value : String) (rest : List Char) (h : rest.head? ≠ some '\'') :
    scanLiteral ((literal value).toList ++ rest) = some (value, rest) := by
  have htext : (literal value).toList ++ rest
      = '\'' :: (doubled '\'' value.toList ++ '\'' :: rest) :=
    toList_between '\'' (doubled '\'' value.toList) rest
  rw [htext]
  exact quotedNameSpan?_text '\'' value h

/-- A text that does not go on with names: neither a mark nor a comma comes first. -/
structure EndsNames (d : TargetDialect) (rest : List Char) : Prop where
  noMark : rest.head? ≠ some (mark d)
  noComma : rest.head? ≠ some ','

/-- Names end with the text. -/
theorem endsNames_nil (d : TargetDialect) : EndsNames d [] := ⟨by simp, by simp⟩

/-- **Names with commas between them** are read back. -/
theorem scanNames_write (names : List String) (h : EndsNames d rest) :
    scanNames d ((", ".intercalate (names.map (write d))).toList ++ rest) = (names, rest) := by
  have hrest : d = .postgres → rest.head? ≠ some '"' := by
    rintro rfl
    exact h.noMark
  rw [String.toList_intercalate]
  induction names with
  | nil => exact scanNames_of_none (scanName_eq_none h.noMark)
  | cons n names ih =>
    cases names with
    | nil =>
      rw [List.map_singleton, List.map_singleton, List.intercalate_singleton]
      exact scanNames_last (scanName_write n rest hrest) h.noComma
    | cons n' names =>
      -- a comma follows the first name, so that no mark of its own is doubled
      have htext : ", ".toList.intercalate (((n :: n' :: names).map (write d)).map String.toList)
            ++ rest
          = (write d n).toList ++ ',' :: ' '
            :: (", ".toList.intercalate (((n' :: names).map (write d)).map String.toList)
              ++ rest) := by
        simp only [List.map_cons, List.intercalate_cons_cons, List.append_assoc]
        rfl
      rw [htext, scanNames_more (scanName_write n _ (by simp)), ih]

/-! ## All that is quoted -/

/-- Names and literals can be told from a statement of a dialect, whatever they hold. -/
structure ReadsBack (d : TargetDialect) : Prop where
  /-- Reading stops behind the closing mark, with the name that was quoted. -/
  name : ∀ n rest, validate n = .ok () → (d = .postgres → rest.head? ≠ some '"') →
    ∃ text, quote d n = .ok text ∧ scanName d (text.toList ++ rest) = some (n, rest)
  literal : ∀ value rest, rest.head? ≠ some '\'' →
    scanLiteral ((literal value).toList ++ rest) = some (value, rest)
  names : ∀ ns rest, (∀ n ∈ ns, validate n = .ok ()) → EndsNames d rest →
    ∃ text, quoteList d ns = .ok text ∧ scanNames d (text.toList ++ rest) = (ns, rest)
  name_inj : ∀ n n' text, quote d n = .ok text → quote d n' = .ok text → n = n'
  literal_inj : ∀ v v', Identifier.literal v = Identifier.literal v' → v = v'
  names_inj : ∀ ns ns' text, quoteList d ns = .ok text → quoteList d ns' = .ok text → ns = ns'

/-- **What is quoted is read back**, so no two names have the same text. -/
theorem quoted_readsBack (d : TargetDialect) : ReadsBack d where
  name n rest hn hrest := ⟨write d n, quote_eq hn, scanName_write n rest hrest⟩
  literal value rest hrest := scanLiteral_literal value rest hrest
  names ns rest hns hrest :=
    ⟨_, (Ddl.quoteList_writes ⟨.postgres, d⟩ ns).eq_ok hns, scanNames_write ns hrest⟩
  name_inj n n' text h h' := by
    -- both are what is read of the text
    obtain ⟨-, rfl⟩ := (Ddl.quote_writes d n).eq_ok_iff.1 h
    obtain ⟨-, hsame⟩ := (Ddl.quote_writes d n').eq_ok_iff.1 h'
    have hread := scanName_write (d := d) n [] (by simp)
    have hread' := scanName_write (d := d) n' [] (by simp)
    rw [← hsame, hread] at hread'
    exact (Prod.mk.inj (Option.some.inj hread')).1
  literal_inj v v' hsame := by
    have hread := scanLiteral_literal v [] (by simp)
    have hread' := scanLiteral_literal v' [] (by simp)
    rw [← hsame, hread] at hread'
    exact (Prod.mk.inj (Option.some.inj hread')).1
  names_inj ns ns' text h h' := by
    obtain ⟨-, rfl⟩ := (Ddl.quoteList_writes ⟨.postgres, d⟩ ns).eq_ok_iff.1 h
    obtain ⟨-, hsame⟩ := (Ddl.quoteList_writes ⟨.postgres, d⟩ ns').eq_ok_iff.1 h'
    have hread := scanNames_write ns (endsNames_nil d)
    have hread' := scanNames_write ns' (endsNames_nil d)
    have htexts : ", ".intercalate (ns.map (write d)) = ", ".intercalate (ns'.map (write d)) := hsame
    rw [← htexts, hread] at hread'
    exact (Prod.mk.inj hread').1

/-- A name with all that could end it too early, in a list and before a closing parenthesis. -/
theorem quoted_readsBack_markedName :
    validate "a\\`\", `b" = .ok ()
    ∧ (∃ text, quoteList .google ["a\\`\", `b", "c"] = .ok text
      ∧ scanNames .google (text.toList ++ [')']) = (["a\\`\", `b", "c"], [')']))
    ∧ ∃ text, quote .postgres "a\\`\", `b" = .ok text
      ∧ scanName .postgres (text.toList ++ [')']) = some ("a\\`\", `b", [')']) := by
  have haccepted : validate "a\\`\", `b" = .ok () := by decide
  refine ⟨haccepted, ?_, ?_⟩
  · refine (quoted_readsBack .google).names _ [')'] ?_ ⟨by decide, by decide⟩
    intro n hn
    simp only [List.mem_cons, List.not_mem_nil, or_false] at hn
    rcases hn with rfl | rfl
    · exact haccepted
    · decide
  · exact (quoted_readsBack .postgres).name _ [')'] haccepted fun _ => by decide

end Identifier

end SchemaBridge
