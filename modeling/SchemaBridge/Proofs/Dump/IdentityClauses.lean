/-
# Identity clauses

A clause that makes a column of an existing table an identity column is not parsed.  The names of the
table and of the column are words of its text.  The quotes of the table's name are taken off, those of
the column's are not: a clause reaches a column whose name is written without quotes, and none whose
name is written with them.

## Key statements

* `readStatement_identityClause`: what is done for a clause.
* `reaches_identityClause`: which columns the clauses of a dump reach.
-/
import SchemaBridge.Proofs.Assembly.Identities
import SchemaBridge.Proofs.Dump.MadeTables
import SchemaBridge.Proofs.Dump.Naming

namespace SchemaBridge

open Builder

namespace Dump.Reader

open Sql (Definition Ident ColumnDefinition TableConstraint writtenName)

variable {r r' : Reader} {b b' : Builder} {s : Statement} {name : List Ident} {column : Ident}

/-! ## The text of a clause -/

/-- How a clause ends; `details` are those of its sequence. -/
def identityEnd (always : Bool) (details : List Char) : List Char :=
  (if always then "ALWAYS".toList else "BY DEFAULT".toList) ++ " AS IDENTITY (".toList ++ details
    ++ [')']

/-- A clause that makes a column of a table an identity column. -/
def identityText (only : Bool) (table column : List Char) (always : Bool) (details : List Char) :
    List Char :=
  "ALTER TABLE ".toList ++ (if only then "ONLY ".toList else []) ++ table ++ " ALTER COLUMN ".toList
    ++ column ++ " ADD GENERATED ".toList ++ identityEnd always details

/-- A statement with such a clause, for a plain name of a table that is none of the words around it. -/
structure IsIdentityClause (s : Statement) (name : List Ident) (column : Ident) : Prop where
  text : ∃ only always details,
    s.text.toList = identityText only (writtenName name) column.written always details
  plain : IsPlainName name
  noKeyword : isKeyword ["TABLE", "ONLY", "COLUMN"] (writtenName name) = false

/-- The word at which a clause looks for its column. -/
def columnWord (column : List Char) : List Char :=
  Text.dropEndWhile (fun c => c == '(' || c == ',') (column.takeWhile fun c => !Text.isBlank c)

/-- The words of a clause before the name of its column. -/
def clauseWords (only : Bool) (table : List Char) : List (List Char) :=
  ["ALTER".toList, "TABLE".toList] ++ (if only then ["ONLY".toList] else [])
    ++ [table, "ALTER".toList, "COLUMN".toList]

/-- The text of a clause, word by word. -/
theorem identityText_eq (only always : Bool) (table column details : List Char) :
    identityText only table column always details = (clauseWords only table).flatMap (· ++ [' '])
      ++ (column ++ ' ' :: ("ADD GENERATED ".toList ++ identityEnd always details)) := by
  have hfirst : "ALTER TABLE ".toList = "ALTER".toList ++ [' '] ++ ("TABLE".toList ++ [' ']) := by decide
  have honly : "ONLY ".toList = "ONLY".toList ++ [' '] := by decide
  have hsecond : " ALTER COLUMN ".toList
      = [' '] ++ ("ALTER".toList ++ [' '] ++ ("COLUMN".toList ++ [' '])) := by decide
  have hthird : " ADD GENERATED ".toList = ' ' :: "ADD GENERATED ".toList := by decide
  unfold identityText clauseWords
  rw [hfirst, honly, hsecond, hthird]
  cases only with
  | false | true =>
    simp only [Bool.false_eq_true, if_false, if_true, List.flatMap_cons, List.flatMap_nil,
      List.nil_append, List.append_nil, List.append_assoc, List.cons_append]

/-- The words before the column are not broken. -/
theorem isSolid_clauseWords (only : Bool) {table : List Char} (hne : table ≠ [])
    (hsolid : Text.IsSolid table) : ∀ w ∈ clauseWords only table, w ≠ [] ∧ Text.IsSolid w := by
  intro w hw
  unfold clauseWords at hw
  simp only [List.mem_append, List.mem_cons, List.not_mem_nil, or_false] at hw
  rcases hw with ((rfl | rfl) | honly) | rfl | rfl | rfl
  case inl.inr =>
    cases only with
    | false => cases honly
    | true =>
      rw [List.mem_singleton.1 honly]
      decide
  case inr.inl => exact ⟨hne, hsolid⟩
  all_goals decide

/-- The words of a clause, as far as they are looked at. -/
theorem words_identityText (only always : Bool) {table : List Char} (hne : table ≠ [])
    (hsolid : Text.IsSolid table) {c : Char} (hc : Text.isBlank c = false) (column details : List Char) :
    ∃ rest, Text.words (identityText only table (c :: column) always details)
      = clauseWords only table ++ ((c :: column).takeWhile fun c => !Text.isBlank c) :: rest := by
  set tail := "ADD GENERATED ".toList ++ identityEnd always details
  have hcolumn : ((c :: (column ++ ' ' :: tail)).takeWhile fun c => !Text.isBlank c)
      = (c :: column).takeWhile fun c => !Text.isBlank c :=
    Text.takeWhile_append_blank (by decide) (c :: column) tail
  refine ⟨Text.words ((column ++ ' ' :: tail).dropWhile fun c => !Text.isBlank c), ?_⟩
  rw [identityText_eq, Text.words_spaced (isSolid_clauseWords only hne hsolid), List.cons_append,
    Text.words_cons hc, ← hcolumn, List.takeWhile_cons_of_pos]
  rw [hc]
  rfl

/-- The word after `TABLE`, or after `ONLY`, is the table. -/
theorem tableWord_clauseWords (only : Bool) {table : List Char}
    (h : isKeyword ["TABLE", "ONLY"] table = false) (rest : List (List Char)) :
    wordAfter? ["TABLE", "ONLY"] (clauseWords only table ++ rest)
      = some (Text.dropEndWhile (fun c => c == '(' || c == ',') table) := by
  cases only with
  | false =>
    show wordAfter? _ ("ALTER".toList :: "TABLE".toList :: table :: _) = _
    rw [wordAfter?_cons (by decide), wordAfter?_of_isKeyword (by decide) h]
  | true =>
    -- the second keyword stands right behind the first one
    show wordAfter? _ ("ALTER".toList :: "TABLE".toList :: "ONLY".toList :: table :: _) = _
    rw [wordAfter?_cons (by decide), wordAfter?, if_neg (by decide),
      wordAfter?_of_isKeyword (by decide) h]

/-- The word after `COLUMN` is the one before the next white space. -/
theorem columnWord_clauseWords (only : Bool) {table w : List Char}
    (htable : isKeyword ["COLUMN"] table = false) (hw : isKeyword ["COLUMN"] w = false)
    (rest : List (List Char)) :
    wordAfter? ["COLUMN"] (clauseWords only table ++ w :: rest)
      = some (Text.dropEndWhile (fun c => c == '(' || c == ',') w) := by
  have hfrom : wordAfter? ["COLUMN"] (table :: "ALTER".toList :: "COLUMN".toList :: w :: rest)
      = some (Text.dropEndWhile (fun c => c == '(' || c == ',') w) := by
    rw [wordAfter?_cons htable, wordAfter?_cons (by decide), wordAfter?_of_isKeyword (by decide) hw]
  cases only with
  | false =>
    show wordAfter? _ ("ALTER".toList :: "TABLE".toList :: table :: _) = _
    rw [wordAfter?_cons (by decide), wordAfter?_cons (by decide), ← hfrom]
    rfl
  | true =>
    show wordAfter? _ ("ALTER".toList :: "TABLE".toList :: "ONLY".toList :: table :: _) = _
    rw [wordAfter?_cons (by decide), wordAfter?_cons (by decide), wordAfter?_cons (by decide), ← hfrom]
    rfl

/-- A clause that makes an identity column is known by its words. -/
theorem occurs_identityText (only always : Bool) (table column details : List Char) :
    Text.occurs " ADD GENERATED ".toList
      (Text.upper (identityText only table column always details)) = true := by
  have hupper : Text.upper " ADD GENERATED ".toList = " ADD GENERATED ".toList := by decide
  unfold identityText Text.upper at *
  rw [List.flatMap_append, List.flatMap_append, hupper]
  exact Text.occurs_append _ _ _

/-! ## Reading a clause -/

/-- **An identity clause** is looked up by the name of its table.  Its column is taken to be called as
its word stands. -/
theorem readStatement_identityClause (ha : IsIdentityClause s name column) {c : Char} {rest : List Char}
    (hwritten : column.written = c :: rest) (hc : Text.isBlank c = false)
    (hcolumn : isKeyword ["COLUMN"] (column.written.takeWhile fun c => !Text.isBlank c) = false)
    (r : Reader) (b : Builder) :
    r.readStatement b s = .ok (r, match b.lookup (splitName name).1 (splitName name).2 with
      | some id => b.setIdentity id (String.ofList (columnWord column.written))
      | none => missingTable b s (splitName name).2) := by
  obtain ⟨only, always, details, htext⟩ := ha.text
  obtain ⟨ws, hwords⟩ := words_identityText only always ha.plain.ne_nil ha.plain.isSolid hc rest details
  rw [← hwritten, ← htext] at hwords
  -- the words of the clause say what it is, which table it is about and which column
  have hkind : Kind.ofText s.text.toList = .alterTable := by
    unfold Kind.ofText
    rw [hwords]
    rfl
  have htable : wordAfter? ["TABLE", "ONLY"] (Text.words s.text.toList) = some (writtenName name) := by
    rw [hwords, tableWord_clauseWords only (isKeyword_of_subset (by simp) ha.noKeyword), ha.plain.dropEnd]
  have hword : wordAfter? ["COLUMN"] (Text.words s.text.toList) = some (columnWord column.written) := by
    rw [hwords, columnWord_clauseWords only (isKeyword_of_subset (by simp) ha.noKeyword) hcolumn]
    rfl
  have hsplit := splitDotted_writtenName ha.plain
  unfold readStatement alterTable
  rw [hkind]
  dsimp only
  rw [htext, if_pos (occurs_identityText only always _ _ details)]
  unfold addIdentity
  dsimp only
  rw [htable, hword]
  dsimp only
  rw [← hsplit]
  dsimp only
  cases b.lookup ((splitDotted (writtenName name)).1.map String.ofList)
    (String.ofList (splitDotted (writtenName name)).2) <;> rfl

/-- The word of a plain column without quotes is its name. -/
theorem columnWord_bare (h : IsPlainIdent column) (hbare : column.quote = none) :
    columnWord column.written = column.value.toList := by
  have hself := h.dropEnd_written []
  unfold columnWord
  rw [Text.takeWhile_of_isSolid h.isSolid]
  rcases h.written_eq with ⟨-, hw⟩ | ⟨hq, -⟩
  · rw [hw] at hself ⊢
    exact hself
  · rw [hbare] at hq
    cases hq

/-- How a quoted name is written. -/
theorem written_quoted (hquoted : column.quote = some '"') :
    column.written = '"' :: (Identifier.doubled '"' column.value.toList ++ ['"']) := by
  unfold Ident.written
  rw [hquoted]

/-- The word of a column in quotes is never its name: either it still has the quotes around it, or the
name has white space in it and the word has none. -/
theorem folded_columnWord_ne (hquoted : column.quote = some '"') :
    Text.folded (String.ofList (columnWord column.written)) ≠ Text.folded column.value := by
  unfold Text.folded
  rw [String.toList_ofList]
  intro heq
  by_cases hsolid : Text.IsSolid column.value.toList
  · -- the word is all that is written, which is longer than the name
    have hwritten : Text.IsSolid column.written := by
      rw [written_quoted hquoted, ← List.cons_append]
      refine List.forall_mem_append.2 ⟨List.forall_mem_cons.2 ⟨by decide, fun c hc => ?_⟩,
        List.forall_mem_singleton.2 (by decide)⟩
      exact hsolid c (Identifier.mem_of_mem_doubled hc)
    have hword : columnWord column.written = column.written := by
      unfold columnWord
      rw [Text.takeWhile_of_isSolid hwritten]
      refine Text.dropEndWhile_eq_self fun c hc => ?_
      rw [written_quoted hquoted, ← List.cons_append, List.getLast?_concat] at hc
      obtain rfl := Option.some.inj hc
      decide
    have hlength := congrArg List.length heq
    rw [hword, written_quoted hquoted] at hlength
    simp only [Text.asciiFold, List.length_map, List.length_cons, List.length_append] at hlength
    rw [Identifier.length_doubled] at hlength
    omega
  · unfold Text.IsSolid at hsolid
    push Not at hsolid
    obtain ⟨d, hd, hblank⟩ := hsolid
    have hmem : d.toLower ∈ Text.asciiFold column.value.toList := List.mem_map_of_mem hd
    rw [← heq] at hmem
    obtain ⟨e, he, hlower⟩ := List.mem_map.1 hmem
    have hsame : Text.isBlank e = Text.isBlank d := by
      rw [← Text.isBlank_toLower e, hlower, Text.isBlank_toLower d]
    have hsolid := List.mem_takeWhile_imp (Text.mem_of_mem_dropEndWhile he)
    rw [hsame] at hsolid
    simp [hblank] at hsolid

/-- No quoted name is a keyword. -/
theorem isKeyword_quoted (w : List Char) : isKeyword ["COLUMN"] ('"' :: w) = false := by
  have hhead : ('"' : Char).toLower = '"' := by decide
  unfold isKeyword Text.asciiFold
  rw [List.any_cons, List.any_nil, Bool.or_false, beq_eq_false_iff_ne, List.map_cons, hhead]
  intro heq
  exact absurd (List.cons.inj heq).1 (by decide)

/-! ## Columns that are reached, and columns that are not -/

/-- The columns of a name, in every table, are as they were. -/
def LeavesColumn (column : String) (b b' : Builder) : Prop :=
  ∀ id, (b'.model.table? id).bind (·.columnByName? column)
    = (b.model.table? id).bind (·.columnByName? column)

/-- A column of another name is made an identity column. -/
theorem leavesColumn_setIdentity (b : Builder) (id : TableId) {w column : String}
    (hne : Text.folded w ≠ Text.folded column) : LeavesColumn column b (b.setIdentity id w) := by
  intro k
  have htable : (b.setIdentity id w).model.table? k = _ := table?_modifyTable b.model id k _
  rw [htable]
  split
  · rw [Option.bind_map]
    refine congrArg (Option.bind _) (funext fun t => ?_)
    -- neither the column before the change nor the one after it has the name
    show (Table.modifyFirst _ _ t.columns).find? _ = t.columns.find? _
    induction t.columns with
    | nil => rfl
    | cons c columns ih =>
      unfold Table.modifyFirst
      split
      · rename_i hw
        have hother : ¬ Text.sameFolded c.name column = true := fun hc =>
          hne ((Text.sameFolded_iff.1 hw).symm.trans (Text.sameFolded_iff.1 hc))
        rw [List.find?_cons_of_neg (by exact hother), List.find?_cons_of_neg (by exact hother)]
      · rw [List.find?_cons, List.find?_cons, ih]
  · rfl

/-- A clause leaves a column alone whose name it writes in quotes. -/
theorem leavesColumn_quoted (ha : IsIdentityClause s name column) (hquoted : column.quote = some '"')
    (r : Reader) (b : Builder) :
    ∃ b', r.readStatement b s = .ok (r, b') ∧ LeavesColumn column.value b b' := by
  have hword : isKeyword ["COLUMN"] (column.written.takeWhile fun c => !Text.isBlank c) = false := by
    rw [written_quoted hquoted, List.takeWhile_cons_of_pos (by decide)]
    exact isKeyword_quoted _
  rw [readStatement_identityClause ha (written_quoted hquoted) (by decide) hword]
  refine ⟨_, rfl, ?_⟩
  split
  · exact leavesColumn_setIdentity b _ (folded_columnWord_ne hquoted)
  · exact fun _ => rfl

/-- What a clause does for a column whose name it writes without quotes. -/
theorem readStatement_bare (ha : IsIdentityClause s name column) (hplain : IsPlainIdent column)
    (hbare : column.quote = none) (hword : isKeyword ["COLUMN"] column.written = false) {id : TableId}
    (hl : b.lookup (splitName name).1 (splitName name).2 = some id) (r : Reader) :
    r.readStatement b s = .ok (r, b.setIdentity id column.value) := by
  obtain ⟨c, rest, hwritten⟩ := List.exists_cons_of_ne_nil hplain.ne_nil
  have hc : Text.isBlank c = false := hplain.isSolid c (hwritten ▸ List.mem_cons_self)
  rw [readStatement_identityClause ha hwritten hc (by rwa [Text.takeWhile_of_isSolid hplain.isSolid]), hl]
  dsimp only
  rw [columnWord_bare hplain hbare, String.ofList_toList]

/-! ## Whole dumps -/

/-- A clause for a column whose name it writes without quotes reaches it, if no later table has the name
of its table. -/
theorem exists_identity_of_bare (h : b.Sound) (hregistered : b.IsRegistered)
    (ha : IsIdentityClause s name column) (hplain : IsPlainIdent column)
    (hbare : column.quote = none) (hword : isKeyword ["COLUMN"] column.written = false) {id : TableId}
    {t : Table} (ht : b.model.table? id = some t) (hnspace : t.nspace = (splitName name).1)
    (hname : t.sourceName = (splitName name).2) (hlast : IsLast b.model t.declaredKey id)
    {c : Column} (hc : c ∈ t.columns) (hcolumn : c.name = column.value)
    (hr : r.readStatement b s = .ok (r', b')) :
    ∃ t' c', b'.model.table? id = some t' ∧ c' ∈ t'.columns ∧ c'.name = column.value
      ∧ c'.identity = true := by
  have hl : b.lookup (splitName name).1 (splitName name).2 = some id := by
    rw [← hnspace, ← hname]
    unfold Builder.lookup
    rw [show b.bySource.lookup (sourceKey t.nspace t.sourceName) = some id from
      (hregistered.lookup_eq_some_iff h _).2 hlast]
  rw [readStatement_bare ha hplain hbare hword hl] at hr
  cases hr
  rw [← hcolumn]
  exact exists_identity_setIdentity h ht hc

/-- **Identity clauses.**  A dump makes a table with a column, and a clause follows for this column.  If
the clause writes the column's name without quotes, the column is an identity column of the finished
model, unless the policy has left the table out, or another table was declared later with the same name
in lower case.  If it writes the name between quotes, whatever that is, it leaves all columns of this
name alone. -/
theorem reaches_identityClause (h : b.Running) (hregistered : b.IsRegistered) {dump : String}
    {before between after : List Statement} {made altered : Statement} {columns : List ColumnDefinition}
    {c : ColumnDefinition} (hread : r.read b dump = .ok (r', b'))
    (hdump : statements r.dialect dump = before ++ made :: between ++ altered :: after)
    (hm : Makes r made name columns) (hc : c ∈ columns) (ha : IsIdentityClause altered name c.name) :
    (IsPlainIdent c.name → c.name.quote = none → isKeyword ["COLUMN"] c.name.written = false →
      LeftOut name b'.model ∨ ∃ id t, b'.finish.table? id = some t ∧ t.nspace = (splitName name).1
        ∧ t.sourceName = (splitName name).2
        ∧ (IsLast b'.finish t.declaredKey id →
          ∃ col ∈ t.columns, col.name = c.name.value ∧ col.identity = true))
    ∧ (c.name.quote = some '"' → ∀ (r : Reader) (b : Builder),
      ∃ b₁, r.readStatement b altered = .ok (r, b₁) ∧ LeavesColumn c.name.value b b₁) := by
  refine ⟨fun hplain hbare hword => ?_, leavesColumn_quoted ha⟩
  unfold Reader.read at hread
  rw [hdump] at hread
  obtain ⟨r₃, b₃, r₄, b₄, hlater⟩ := exists_turn h hread
  obtain ⟨r₁, b₁, r₂, b₂, hfirst⟩ := exists_turn h hlater.before
  have hm₁ := hm.congr (alike_readStatements h hfirst.before)
  have hbetween := calls_readStatements hfirst.goesOn hfirst.after
  have hstep := calls_readStatement hlater.running.sound hlater.step
  have hafter := calls_readStatements hlater.goesOn hlater.after
  have hfinish : b₄.model.KeepsNumbers b'.finish :=
    (hafter.keepsNumbers hlater.goesOn.sound).trans (keepsNumbers_finish b')
  rcases (made_readStatement hfirst.running.sound hm₁ hfirst.step).exists_column hc with
    hleft | ⟨id, t, ht, hnspace, hname, col, hcol, hcolname, -⟩
  · have hcalls := hbetween.trans (hstep.trans hafter)
    exact Or.inl (hleft.keeps (Calls.grows hcalls hfirst.goesOn.sound).keeps)
  · -- the table when the clause is read
    obtain ⟨t₃, ht₃, hkeeps₃⟩ := hbetween.keepsNumbers hfirst.goesOn.sound id t ht
    obtain ⟨col₃, hcol₃, hsame₃⟩ := hkeeps₃.exists_column hcol
    have hon := (hstep.keepsNumbers hlater.running.sound).trans hfinish
    obtain ⟨t', ht', hkeeps⟩ := hon id t₃ ht₃
    have hnspace₃ := hkeeps₃.nspace.trans hnspace
    have hname₃ := hkeeps₃.sourceName.trans hname
    refine Or.inr ⟨id, t', ht', hkeeps.nspace.trans hnspace₃, hkeeps.sourceName.trans hname₃,
      fun hlast => ?_⟩
    rw [hkeeps.declared] at hlast
    have hregistered₃ := (calls_readStatements h hlater.before).isRegistered h.sound hregistered
    obtain ⟨t₄, col₄, ht₄, hcol₄, hname₄, hidentity₄⟩ := exists_identity_of_bare hlater.running.sound
      hregistered₃ ha hplain hbare hword ht₃ hnspace₃ hname₃ (hon.isLast ht₃ rfl hlast) hcol₃
      (hsame₃.name.trans hcolname) hlater.step
    -- what the clause has done is not undone by what follows it
    obtain ⟨t'', ht'', hkeeps'⟩ := hfinish id t₄ ht₄
    obtain rfl : t'' = t' := Option.some.inj (ht''.symm.trans ht')
    obtain ⟨col', hcol', hsame'⟩ := hkeeps'.exists_column hcol₄
    exact ⟨col', hcol', hsame'.name.trans hname₄, hsame'.identity hidentity₄⟩

/-- A table with a column whose name is written as it stands. -/
def numberedTable : Statement := ⟨"CREATE TABLE public.t (id integer NOT NULL)", 1⟩

/-- A clause for it. -/
def numberedColumn : Statement :=
  ⟨"ALTER TABLE public.t ALTER COLUMN id ADD GENERATED ALWAYS AS IDENTITY (START WITH 1)", 2⟩

/-- A table and the change that makes its column an identity column. -/
def numberedDump : String := numberedTable.text ++ ";\n" ++ numberedColumn.text ++ ";"

theorem reaches_identityClause_numberedDump : ∃ r' b' columns c,
    postgresReader.read (newBuilder .postgres) numberedDump = .ok (r', b')
    ∧ Makes postgresReader numberedTable [.bare "public", .bare "t"] columns ∧ c ∈ columns
    ∧ c.name = .bare "id"
    ∧ IsIdentityClause numberedColumn [.bare "public", .bare "t"] c.name
    ∧ (LeftOut [.bare "public", .bare "t"] b'.model ∨ ∃ id t, b'.finish.table? id = some t
      ∧ t.nspace = some "public" ∧ t.sourceName = "t" ∧ (IsLast b'.finish t.declaredKey id →
        ∃ col ∈ t.columns, col.name = "id" ∧ col.identity = true)) := by
  have hok : (postgresReader.read (newBuilder .postgres) numberedDump).isOk = true := by decide +kernel
  have hdump : statements .postgres numberedDump = [] ++ numberedTable :: [] ++ numberedColumn :: [] := by
    decide +kernel
  have hnames : (postgresReader.tableDefinitions numberedTable).map (madeColumns (·.name))
      = .ok [([.bare "public", .bare "t"], [.bare "id"])] := by decide +kernel
  obtain ⟨columns, hm, hcolumns⟩ := exists_makes (by decide +kernel) hnames
  obtain ⟨c, hc, hname⟩ := List.mem_map.1 (hcolumns ▸ List.mem_singleton_self (Ident.bare "id"))
  -- quotes are not needed around any of the names
  have hplain : ∀ n ∈ ["public", "t", "id"], IsPlainIdent (.bare n) := by
    intro n hn
    refine IsPlainIdent.of_bare ?_ ?_
    all_goals revert n hn; decide +kernel
  have ha : IsIdentityClause numberedColumn [.bare "public", .bare "t"] c.name := by
    refine ⟨⟨false, true, "START WITH 1".toList, ?_⟩, ?_, by decide⟩
    · rw [hname]
      decide +kernel
    · exact .qualified (hplain "public" (by decide)) (hplain "t" (by decide))
  obtain ⟨⟨r', b'⟩, hread⟩ := exists_of_isOk hok
  have hreached := (reaches_identityClause (.start _ _ _ _) (IsBuilt.start _ _ _ _).isRegistered hread
    hdump hm hc ha).1 (by rw [hname]; exact hplain "id" (by decide)) (by rw [hname]; rfl)
    (by rw [hname]; decide)
  rw [hname] at hreached
  exact ⟨r', b', columns, c, hread, hm, hc, hname, ha, hreached⟩

/-- A clause for a column in quotes does nothing. -/
theorem unreached_quotedColumn : (columnsOf .postgres
    "CREATE TABLE t (\"Id\" integer);
ALTER TABLE t ALTER COLUMN \"Id\" ADD GENERATED ALWAYS AS IDENTITY (START WITH 1);").map
      (List.map fun c => (c.name, c.identity)) = some [("Id", false)] := by
  decide +kernel

end Dump.Reader

end SchemaBridge
