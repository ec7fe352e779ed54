/-
# Identity columns of a table

A column is declared an identity column by a serial type, a default that draws on a sequence, a
generated identity or the attribute that counts.  The reader finds the attribute by a word in the text
of an option, and so it looks at the text of every option that it has no other use for.  However the
statement is parsed, a column is also made an identity column if the word occurs in one of those: in its
comment, in the name of its character set, in whatever argument there is.

## Key statements

* `numbers_iff`: the options that make an identity column.
* `identity_columnDraft`: the column of a definition.
* `identity_readStatement`: the columns of a table whose statement has been read.
-/
import SchemaBridge.Proofs.Dump.MadeTables
import SchemaBridge.Proofs.Text.Words

namespace SchemaBridge

open Builder

namespace Dump.Reader

open Sql (Definition Ident ColumnDefinition ColumnOption)

variable {r r' : Reader} {b b' : Builder} {s : Statement} {enums : EnumLabels} {name : List Ident}
  {columns : List ColumnDefinition} {c : ColumnDefinition}

/-! ## Options -/

/-- A text has the word in it by which the reader knows the attribute that counts. -/
def Mentions (text : String) : Prop := Text.contains (Text.upperText text) "AUTO_INCREMENT" = true

/-- A text mentions the attribute if it occurs in the text in capital letters. -/
theorem mentions_iff (text : String) :
    Mentions text ↔ Text.occurs "AUTO_INCREMENT".toList (Text.upper text.toList) = true := by
  show Text.occurs _ (String.ofList (Text.upper text.toList)).toList = true ↔ _
  rw [@String.toList_ofList (Text.upper text.toList)]

/-- Of two texts with a blank between them one has the word in it; the word has no blank. -/
theorem mentions_append (words argument : String) :
    Mentions (words ++ " " ++ argument) ↔ Mentions words ∨ Mentions argument := by
  have hupper : Text.upper (words ++ " " ++ argument).toList
      = Text.upper words.toList ++ ' ' :: Text.upper argument.toList := by
    rw [String.toList_append, String.toList_append, Text.upper_append, Text.upper_append,
      List.append_assoc]
    rfl
  rw [mentions_iff, mentions_iff, mentions_iff, hupper, Text.occurs_append_cons (by decide),
    Bool.or_eq_true]

/-- An option declares that its column is an identity column. -/
inductive Declares : ColumnOption → Prop
  | sequence (text : String) (h : isSequenceDefault text = true) : Declares (.default text)
  | identity : Declares .identity
  | counts : Declares (.other "AUTO_INCREMENT")

/-- How declarations are recognized. -/
instance : DecidablePred Declares
  | .default text => decidable_of_iff (isSequenceDefault text = true)
    ⟨.sequence text, fun h => by cases h; assumption⟩
  | .identity => isTrue .identity
  | .other text => decidable_of_iff (text = "AUTO_INCREMENT")
    ⟨fun h => h ▸ .counts, fun h => by cases h; rfl⟩
  | .null | .notNull | .primaryKey | .unique | .references _ | .check _ | .generated _ => isFalse nofun

/-- Another option than the attribute that counts has the word for it in its text. -/
def OnlyMentions (o : ColumnOption) : Prop :=
  ∃ text, o = .other text ∧ text ≠ "AUTO_INCREMENT" ∧ Mentions text

/-- **The options that make an identity column** are those that declare one, and those that mention the
attribute that counts in their text. -/
theorem numbers_iff {o : ColumnOption} : numbers o = true ↔ Declares o ∨ OnlyMentions o := by
  constructor
  · intro hnumbers
    cases o with
    | default text => exact Or.inl (.sequence text hnumbers)
    | identity => exact Or.inl .identity
    | null | notNull | primaryKey | unique | references | check | generated => cases hnumbers
    | other text =>
      by_cases htext : text = "AUTO_INCREMENT"
      · subst htext
        exact Or.inl .counts
      · exact Or.inr ⟨text, rfl, htext, hnumbers⟩
  · rintro (hdeclares | ⟨text, rfl, -, hmentions⟩)
    · cases hdeclares with
      | sequence text h => exact h
      | identity => rfl
      | counts => decide
    · exact hmentions

/-! ## Columns -/

/-- A column is declared an identity column, by its type or by one of its options. -/
def DeclaresIdentity (enums : EnumLabels) (c : ColumnDefinition) : Prop :=
  (columnType enums c.type).name ∈ serialTypes ∨ ∃ o ∈ c.options, Declares o

instance (enums : EnumLabels) (c : ColumnDefinition) : Decidable (DeclaresIdentity enums c) :=
  inferInstanceAs (Decidable (_ ∨ ∃ o ∈ c.options, Declares o))

/-- **The column of a definition** is an identity column if it is declared to be one, or if the text of
one of its options mentions the attribute. -/
theorem identity_columnDraft (enums : EnumLabels) (c : ColumnDefinition) :
    (columnDraft enums c).identity = true
      ↔ DeclaresIdentity enums c ∨ ∃ o ∈ c.options, OnlyMentions o := by
  have hoptions : c.options.any numbers = true
      ↔ (∃ o ∈ c.options, Declares o) ∨ ∃ o ∈ c.options, OnlyMentions o := by
    rw [List.any_eq_true, ← exists_or]
    refine exists_congr fun o => ?_
    rw [← and_or_left]
    exact and_congr_right fun _ => numbers_iff
  rw [(columnDraft_spec enums c).2.2, Bool.or_eq_true, List.contains_iff_mem, hoptions]
  unfold DeclaresIdentity
  rw [or_assoc]

/-! ## Tables -/

/-- What is true of every definition of a column and its column. -/
structure Numbered (enums : EnumLabels) (c : ColumnDefinition) (col : Column) : Prop where
  name : col.name = c.name.value
  identity : col.identity = true ↔ DeclaresIdentity enums c ∨ ∃ o ∈ c.options, OnlyMentions o

/-- **Identity columns of a table.**  When the statement of a table has been read, however it is parsed,
a column of the table is an identity column if it is declared to be one, or if the word for the attribute
that counts stands in the text of another option; and of an option that is words and an argument this
asks for the argument, unless the words are the attribute's. -/
theorem identity_readStatement (h : b.Sound) (hm : Makes r s name columns)
    (hr : r.readStatement b s = .ok (r', b')) :
    (LeftOut name b'.model ∨ ∃ id t, b'.model.table? id = some t ∧ t.nspace = (splitName name).1
      ∧ t.sourceName = (splitName name).2
      ∧ List.Forall₂ (Numbered r.enums) columns t.columns)
    ∧ ∀ words argument, ¬ Mentions words →
      (OnlyMentions (.other (words ++ " " ++ argument)) ↔ Mentions argument) := by
  refine ⟨?_, fun words argument hwords => ⟨?_, fun hargument => ?_⟩⟩
  · rcases made_readStatement h hm hr with hleft | ⟨id, t, -, ht, hmade⟩
    · exact Or.inl hleft
    · refine Or.inr ⟨id, t, ht, hmade.nspace, hmade.sourceName,
        hmade.columns.imp fun c col hfollows => ⟨?_, ?_⟩⟩
      · exact hfollows.name.trans (columnDraft_spec r.enums c).1
      · rw [hfollows.identity]
        exact identity_columnDraft r.enums c
  · rintro ⟨text, heq, -, hmentions⟩
    cases heq
    exact ((mentions_append words argument).1 hmentions).resolve_left hwords
  · refine ⟨_, rfl, fun hattribute => ?_, (mentions_append words argument).2 (Or.inr hargument)⟩
    -- there is a blank in the option, and none in the attribute
    have hblank : ' ' ∈ (words ++ " " ++ argument).toList := by simp
    rw [hattribute] at hblank
    exact absurd hblank (by decide)

/-- A reader of MySQL. -/
def mysqlReader : Reader := { dialect := .mysql, enums := [] }

/-- A table with a column that counts and one that does not. -/
def countedTable : Statement :=
  ⟨"CREATE TABLE t (id int NOT NULL AUTO_INCREMENT, a int COMMENT 'counts nothing')", 1⟩

theorem identity_readStatement_countedTable : ∃ columns r' b',
    Makes mysqlReader countedTable [.bare "t"] columns ∧ columns.map (·.name) = [.bare "id", .bare "a"]
    ∧ mysqlReader.readStatement (newBuilder .mysql) countedTable = .ok (r', b')
    ∧ (LeftOut [.bare "t"] b'.model ∨ ∃ id t, b'.model.table? id = some t ∧ t.nspace = none
      ∧ t.sourceName = "t" ∧ List.Forall₂ (Numbered []) columns t.columns) := by
  have hok : (mysqlReader.readStatement (newBuilder .mysql) countedTable).isOk = true := by
    decide +kernel
  have hnames : (mysqlReader.tableDefinitions countedTable).map (madeColumns (·.name))
      = .ok [([.bare "t"], [.bare "id", .bare "a"])] := by decide +kernel
  obtain ⟨columns, hm, hcolumns⟩ := exists_makes (by decide +kernel) hnames
  obtain ⟨⟨r', b'⟩, hr⟩ := exists_of_isOk hok
  exact ⟨columns, r', b', hm, hcolumns, hr, (identity_readStatement (Sound.start _ _ _ _) hm hr).1⟩

/-- The columns that definitions declare, and whether they declare them to be identity columns. -/
def declaredIdentities (p : List Definition × List String) : List (String × Bool) :=
  p.1.flatMap fun
    | .createTable _ columns _ => columns.map fun c => (c.name.value, decide (DeclaresIdentity [] c))
    | _ => []

/-- A column that only its comment makes an identity column. -/
theorem numbered_by_comment :
    (mysqlReader.tableDefinitions ⟨"CREATE TABLE t (a int COMMENT 'not an auto_increment column')", 1⟩).map
      declaredIdentities = .ok [("a", false)]
    ∧ (columnsOf .mysql "CREATE TABLE t (a int COMMENT 'not an auto_increment column');").map
      (List.map fun c => (c.name, c.identity)) = some [("a", true)] := by
  decide +kernel

end Dump.Reader

end SchemaBridge
