/-
# How columns are spelled

A column is named in the statement that makes its table, in the query that checks an expression, and
in the expressions themselves.  Statements and queries quote the name by the rule of the target.  In
an expression the name is put between the target's quotes and the library prints it with the text; it
doubles a quote unless it is doubled already or follows a backslash.  The two agree on a name without
quotes and backslashes.  Backticks need backslashes, which printing does not write, and a double quote
after a backslash or another one is not doubled again.

## Key statements

* `printIdent_eq_write_iff`: the names that are spelled alike.
* `translate_spells_iff`: how a reference to a column is written.
-/
import Mathlib.Data.List.Chain
import SchemaBridge.Proofs.Ddl.Statement
import SchemaBridge.Proofs.Sql.Quoting
import SchemaBridge.Proofs.Verification.Rewriting
import SchemaBridge.Verification.Request

namespace SchemaBridge

/-! ## Quoting by both rules -/

section Quoting

variable {q p c : Char} {s : List Char}

namespace Sql

/-- Nothing but quotes is added, and they only where there is one. -/
theorem mem_of_mem_doubledFrom (h : c ∈ doubledFrom q p s) : c ∈ s := by
  fun_induction doubledFrom q p s <;> grind

/-- Printing makes a text longer by its quotes at most. -/
theorem length_doubledFrom (q p : Char) (s : List Char) :
    (doubledFrom q p s).length ≤ s.length + s.count q := by
  fun_induction doubledFrom q p s <;> grind

end Sql

namespace Identifier

/-- Escaping makes it longer by its backticks and backslashes. -/
theorem length_backslashed (s : List Char) :
    (backslashed s).length = s.length + s.count '\x60' + s.count '\\' := by
  induction s with
  | nil => rfl
  | cons c r ih => grind [backslashed_cons]

/-- A backtick brings a backslash. -/
theorem mem_backslashed (h : '\x60' ∈ s) : '\\' ∈ backslashed s := by
  induction s with
  | nil => cases h
  | cons c r ih => grind [backslashed_cons]

/-- A text without both stays as it is. -/
theorem backslashed_of_not_mem (hb : '\\' ∉ s) (hq : '\x60' ∉ s) : backslashed s = s := by
  induction s with
  | nil => rfl
  | cons c r ih => grind [backslashed_cons]

/-- Whether `b` may follow `a` where every quote is to be doubled. -/
def MayFollow (q a b : Char) : Prop := b = q → a ≠ '\\' ∧ a ≠ q

instance (q : Char) : DecidableRel (MayFollow q) :=
  fun a b => inferInstanceAs (Decidable (b = q → a ≠ '\\' ∧ a ≠ q))

/-- Printing doubles every quote exactly when none follows a backslash or another quote. -/
theorem doubledFrom_eq_iff (q p : Char) (s : List Char) : Sql.doubledFrom q p s = doubled q s ↔
    (s.head? = some q → p ≠ '\\') ∧ s.IsChain (MayFollow q) := by
  fun_induction Sql.doubledFrom q p s with
  | case1 => simp [doubled, Text.replaceChar]
  | case2 p c r hc hp ih =>
    -- the quote after a backslash stands alone, so the text is too short
    obtain rfl := eq_of_beq hc
    refine iff_of_false (fun h => ?_) fun h => h.1 rfl (eq_of_beq hp)
    have hlength := congrArg List.length h
    have hshort := Sql.length_doubledFrom c p r
    rw [length_doubled, List.count_cons_self, List.length_cons, List.length_cons] at hlength
    omega
  | case3 p c hc hp d r hd ih =>
    -- two quotes count as one that is doubled already
    obtain rfl := eq_of_beq hc
    obtain rfl := eq_of_beq hd
    refine iff_of_false (fun h => ?_) fun h => ?_
    · have hlength := congrArg List.length h
      have hshort := Sql.length_doubledFrom d d r
      simp only [length_doubled, List.count_cons_self, List.length_cons] at hlength
      omega
    · exact ((List.isChain_cons_cons.1 h.2).1 rfl).2 rfl
  | case4 p c hc hp d r hd ih =>
    obtain rfl := eq_of_beq hc
    have hdc : d ≠ c := by simpa using hd
    have hpc : p ≠ '\\' := by simpa using hp
    rw [doubled_cons, if_pos hc, List.cons_append, List.cons_append, List.nil_append,
      List.cons_inj_right, List.cons_inj_right, ih, List.isChain_cons_cons]
    simp [MayFollow, hdc, hpc]
  | case5 p c hc hp =>
    have hpc : p ≠ '\\' := by simpa using hp
    simp [doubled, Text.replaceChar, hpc, eq_of_beq hc]
  | case6 p c r hc ih =>
    have hcq : c ≠ q := by simpa using hc
    rw [doubled_cons, if_neg hc, List.cons_append, List.nil_append, List.cons_inj_right, ih,
      List.isChain_cons]
    cases r with
    | nil => simp [hcq]
    | cons d r => simp [MayFollow, hcq]

/-- Printing writes backslashes exactly when none are needed. -/
theorem doubledFrom_eq_backslashed_iff (p : Char) (s : List Char) :
    Sql.doubledFrom '\x60' p s = backslashed s ↔ '\\' ∉ s ∧ '\x60' ∉ s := by
  constructor
  · intro h
    have hlength := congrArg List.length h
    have hshort := Sql.length_doubledFrom '\x60' p s
    rw [length_backslashed] at hlength
    have hnone : '\\' ∉ s := List.count_eq_zero.1 (by omega)
    exact ⟨hnone, fun hq => hnone (Sql.mem_of_mem_doubledFrom (h ▸ mem_backslashed hq))⟩
  · intro ⟨hb, hq⟩
    rw [Sql.doubledFrom_of_not_mem hq, backslashed_of_not_mem hb hq]

/-- The names that are spelled alike in expressions and in statements: between backticks those
without backslashes and backticks, between double quotes those in which no double quote follows a
backslash or another one. -/
def IsPlain : TargetDialect → String → Prop
  | .google, name => '\\' ∉ name.toList ∧ '\x60' ∉ name.toList
  | .postgres, name => name.toList.IsChain (MayFollow '"')

instance : (d : TargetDialect) → (name : String) → Decidable (IsPlain d name)
  | .google, _ => inferInstanceAs (Decidable (_ ∧ _))
  | .postgres, name => inferInstanceAs (Decidable (name.toList.IsChain _))

/-- What a library prints between the target's quotes is what is written there, for plain names. -/
theorem printIdent_eq_write_iff {L : Sql.Library} (h : L.IsLawful) (d : TargetDialect) (name : String) :
    L.printIdent ⟨name, some (Verification.nameQuote d)⟩ = write d name ↔ IsPlain d name := by
  have hquoted (q : Char) (s : List Char) : q.toString ++ Sql.doubled q name ++ q.toString
      = String.ofList (q :: s ++ [q]) ↔ Sql.doubledFrom q '\x00' name.toList = s := by
    rw [← String.toList_inj]
    simp [Sql.doubled]
  cases d with
  | google =>
    rw [Verification.nameQuote, h.printIdent_quoted name '\x60' (by decide)]
    exact (hquoted _ _).trans (doubledFrom_eq_backslashed_iff _ _)
  | postgres =>
    rw [Verification.nameQuote, h.printIdent_quoted name '"' (by decide)]
    refine (hquoted _ _).trans ((doubledFrom_eq_iff _ _ _).trans (and_iff_right fun _ => ?_))
    decide

end Identifier

end Quoting

namespace Verification

open Sql (Head Ident Library)

variable {L : Library} {source : SourceDialect} {d : TargetDialect} {t : Table} {text : String}
  {e n : L.Tree} {place : List Nat} {qualifier : List Ident} {i : Ident} {c : Column}

/-! ## References -/

/-- A column as an expression for the target names it. -/
def columnText (L : Library) (d : TargetDialect) (c : Column) : String :=
  L.printIdent ⟨c.name, some (nameQuote d)⟩

/-- A reference to a column has the column's name between the target's quotes. -/
theorem at?_reference (lawful : L.IsLawful) (source : SourceDialect) (d : TargetDialect)
    (found : L.at? place e = some n) (reference : L.head n = .name (qualifier ++ [i]))
    (column : t.columnByName? i.value = some c) :
    ∃ n', L.at? place (L.visit (translateNode L source d t) e) = some n'
      ∧ L.head n' = .name (qualifier ++ [⟨c.name, some (nameQuote d)⟩]) := by
  refine ⟨L.visit (translateNode L source d t) n, ?_, ?_⟩
  · rw [lawful.at?_visit (children_translateNode lawful source d t), found, Option.map_some]
  · have hbecomes : HeadBecomes L source d t (L.head n)
        (L.head (L.visit (translateNode L source d t) n)) := (isRewritten_visit lawful n).head
    have hrespelled : HeadBecomes L source d t (.name (qualifier ++ [i]))
        (.name (mapLast (requote d t) (qualifier ++ [i]))) := headBecomes_mapLast _
    rw [reference] at hbecomes
    rw [mapLast_append_singleton, requote, column] at hrespelled
    exact hbecomes.unique hrespelled

/-- The definition of a column and the query that checks its expressions write its name by the rule
of the target. -/
theorem definition_eq (accepted : Identifier.Accepts c.name) :
    (∃ rest, Ddl.columnItem ⟨source, d⟩ t c = .ok (Identifier.write d c.name ++ rest))
    ∧ ∀ type, Request.nullColumn d (c.name, type)
      = .ok ("CAST(NULL AS " ++ type.render d ++ ") AS " ++ Identifier.write d c.name) := by
  constructor
  · rw [Ddl.columnItem, Identifier.quote_eq accepted, ok_bind]
    exact ⟨_, by simp only [String.append_assoc]; rfl⟩
  · intro type
    rw [Request.nullColumn, Identifier.quote_eq accepted, ok_bind]
    rfl

/-- A reference to a column, at whatever depth, is written as the definition of the column and the
query that checks the expression write its name, exactly when that name is plain. -/
theorem translate_spells_iff (lawful : L.IsLawful)
    (parsed : L.expression? (.ofSource source) text = some e) (found : L.at? place e = some n)
    (reference : L.head n = .name (qualifier ++ [i])) (column : t.columnByName? i.value = some c)
    (accepted : Identifier.Accepts c.name) :
    (∃ (e' n' : L.Tree) (before after : String), Rewrites L source d t e e'
      ∧ L.at? place e' = some n'
      ∧ L.head n' = .name (qualifier ++ [⟨c.name, some (nameQuote d)⟩])
      ∧ translateWith L source d t text = L.print e'
      ∧ L.print e' = before ++ columnText L d c ++ after)
    ∧ (∃ rest, Ddl.columnItem ⟨source, d⟩ t c = .ok (Identifier.write d c.name ++ rest))
    ∧ (∀ type, Request.nullColumn d (c.name, type)
      = .ok ("CAST(NULL AS " ++ type.render d ++ ") AS " ++ Identifier.write d c.name))
    ∧ (columnText L d c = Identifier.write d c.name ↔ Identifier.IsPlain d c.name) := by
  obtain ⟨n', hplace, hhead⟩ := at?_reference lawful source d found reference column
  obtain ⟨before, after, hprint⟩ := lawful.exists_print_at hplace
  obtain ⟨qualified, hname⟩ := L.exists_printName qualifier ⟨c.name, some (nameQuote d)⟩
  obtain ⟨hitem, hnull⟩ := @definition_eq source d t c accepted
  refine ⟨⟨_, n', before ++ qualified, after, rewrites_visit lawful source d t e, hplace, hhead,
    ?_, ?_⟩, hitem, hnull, Identifier.printIdent_eq_write_iff lawful d c.name⟩
  · rw [translateWith, parsed]
  · rw [hprint, lawful.print_name n' _ hhead, hname, columnText]
    simp only [String.append_assoc]

/-- A reference inside a negation to a column with a plain name. -/
theorem translate_spells_iff_negation : ∃ (e e' : Sql.Expr) (before after : String),
    Sql.library.expression? (.ofSource .postgres) "NOT price > 0" = some e
    ∧ Rewrites Sql.library .postgres .google (tableWith ["Price"]) e e'
    ∧ translate .postgres .google (tableWith ["Price"]) "NOT price > 0" = e'.print
    ∧ e'.print = before ++ Identifier.write .google "Price" ++ after := by
  have hread : ((Sql.library.expression? (.ofSource .postgres) "NOT price > 0").bind
      (Sql.library.at? [0, 0])).map Sql.Expr.head = some (.name ([] ++ [⟨"price", none⟩])) := by
    decide +kernel
  obtain ⟨n, hn, hhead⟩ := Option.map_eq_some_iff.1 hread
  obtain ⟨e, he, hplace⟩ := Option.bind_eq_some_iff.1 hn
  obtain ⟨⟨e', n', before, after, hrewrites, -, -, htranslate, hprint⟩, -, -, hspelled⟩ :=
    translate_spells_iff (d := .google) (t := tableWith ["Price"])
      (c := Column.plain ⟨2⟩ "Price" ⟨"numeric", [], [], 0, "numeric"⟩) Sql.isLawful_library he hplace
      hhead (by decide) (by decide)
  rw [hspelled.2 (by decide)] at hprint
  exact ⟨e, e', before, after, he, hrewrites, htranslate, hprint⟩

/-- Names in which a backslash or a quote is not escaped. -/
theorem misspelled_columns :
    translate .postgres .google (tableWith ["a\\b"]) "\"a\\b\" > 0" = "`a\\b` > 0"
    ∧ Identifier.quote .google "a\\b" = .ok "`a\\\\b`"
    ∧ translate .postgres .postgres (tableWith ["a\"\"b"]) "\"a\"\"\"\"b\" > 0"
      = "\"a\"\"b\" > 0"
    ∧ Identifier.quote .postgres "a\"\"b" = .ok "\"a\"\"\"\"b\"" := by
  decide +kernel

end Verification

end SchemaBridge
