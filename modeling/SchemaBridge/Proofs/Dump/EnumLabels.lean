/-
# Labels of enumerations

A type with a list of labels is remembered by its name in lower case, without its schema, and a column
of such a type takes the labels that are remembered last under the name.  So it has the labels of the
type that it names if no type of the same name, in whatever schema, is made in between.  Otherwise it
has those of the other type, and nothing says so.

## Key statements

* `columnType_printName`: the type of a column whose declared type is a plain name.
* `readStatement_enumStatement`: what is done for a statement that makes an enumeration.
* `labels_of_lastType`: the labels of a column of the finished model.
-/
import SchemaBridge.Proofs.Assembly.Identities
import SchemaBridge.Proofs.Dump.MadeTables
import SchemaBridge.Proofs.Dump.Naming
import SchemaBridge.Proofs.Schema.SourceTypes
import SchemaBridge.Proofs.Text.Lowering

namespace SchemaBridge

open Builder

namespace Dump

open Sql (Ident writtenName)

variable {i : Ident} {name : List Ident}

/-! ## Plain names in lower case -/

/-- A character of a plain name is written. -/
theorem IsPlainIdent.mem_written (h : IsPlainIdent i) {c : Char} (hc : c ∈ i.value.toList) :
    c ∈ i.written := by
  rcases h.written_eq with ⟨-, hw⟩ | ⟨-, hw⟩
  all_goals rw [hw]
  · exact hc
  · exact List.mem_cons_of_mem _ (List.mem_append_left _ hc)

/-- The quotes around a plain name come off in lower case, too. -/
theorem IsPlainIdent.unquoted_lower (h : IsPlainIdent i) (hsigma : 'Σ' ∉ i.written) :
    unquoted (Text.lower i.written) = Text.lower i.value.toList := by
  have hvalue : 'Σ' ∉ i.value.toList := fun hmem => hsigma (h.mem_written hmem)
  have hself : unquoted (Text.lower i.value.toList) = Text.lower i.value.toList := by
    refine Text.strip_eq_self fun c hc => ?_
    by_contra hquote
    -- a quote in lower case is a quote of the name
    have hmark : c.toNat < 128 ∧ c.isAlpha = false := by
      rw [Bool.not_eq_false, isNameQuote, Bool.or_eq_true, beq_iff_eq, beq_iff_eq] at hquote
      rcases hquote with rfl | rfl <;> decide
    exact hquote (h.letters c (Text.mem_of_mem_lower hvalue hmark.1 hmark.2 hc)).2.1
  rcases h.written_eq with ⟨-, hw⟩ | ⟨-, hw⟩
  · rw [hw]
    exact hself
  · have hlower : Text.lower i.written = '"' :: (Text.lower i.value.toList ++ ['"']) := by
      have hmark : Text.lowerChar '"' = ['"'] := by decide
      rw [Text.lower_eq_flatMap hsigma, hw, List.flatMap_cons, List.flatMap_append,
        ← Text.lower_eq_flatMap hvalue, hmark, List.flatMap_singleton, hmark]
      rfl
    rw [hlower]
    unfold unquoted
    rw [Text.strip_cons (by decide), Text.strip_append_singleton (by decide)]
    exact hself

/-- No point comes into a plain name in lower case. -/
theorem IsPlainIdent.dot_not_mem_lower (h : IsPlainIdent i) (hsigma : 'Σ' ∉ i.written) :
    '.' ∉ Text.lower i.written := fun hdot =>
  h.dot_not_mem (Text.mem_of_mem_lower hsigma (by decide) (by decide) hdot)

/-- The key of a plain name is its last part in lower case. -/
theorem typeKey_writtenName (h : IsPlainName name) :
    typeKey (writtenName name) = Text.lowerText (splitName name).2 := by
  rw [← splitDotted_writtenName h]
  unfold typeKey Text.lowerText
  rw [String.toList_ofList]

/-- **The key of a plain name** is that of the name in lower case. -/
theorem typeKey_lower (h : IsPlainName name) (hsigma : 'Σ' ∉ writtenName name) :
    typeKey (Text.lower (writtenName name)) = Text.lowerText (splitName name).2 := by
  -- one part is left when the schema is split off
  have hlast : ∃ t : Ident, (splitName name).2 = t.value ∧ 'Σ' ∉ t.value.toList
      ∧ (splitDotted (Text.lower (writtenName name))).2 = Text.lower t.value.toList := by
    cases h with
    | @single t ht =>
      rw [writtenName_single] at hsigma ⊢
      refine ⟨t, rfl, fun hmem => hsigma (ht.mem_written hmem), ?_⟩
      unfold splitDotted
      rw [Text.breakAtLast?_eq_none (ht.dot_not_mem_lower hsigma)]
      exact ht.unquoted_lower hsigma
    | @qualified s t hs ht =>
      rw [writtenName_qualified] at hsigma ⊢
      have hs' : 'Σ' ∉ s.written := fun hmem => hsigma (List.mem_append_left _ hmem)
      have ht' : 'Σ' ∉ t.written := fun hmem =>
        hsigma (List.mem_append_right _ (List.mem_cons_of_mem _ hmem))
      have hlower : Text.lower (s.written ++ '.' :: t.written)
          = Text.lower s.written ++ '.' :: Text.lower t.written := by
        have hmark : Text.lowerChar '.' = ['.'] := by decide
        rw [Text.lower_eq_flatMap hsigma, List.flatMap_append, List.flatMap_cons, hmark,
          ← Text.lower_eq_flatMap hs', ← Text.lower_eq_flatMap ht']
        rfl
      refine ⟨t, rfl, fun hmem => ht' (ht.mem_written hmem), ?_⟩
      unfold splitDotted
      rw [hlower, Text.breakAtLast?_append (ht.dot_not_mem_lower ht')]
      exact ht.unquoted_lower ht'
  obtain ⟨t, hname, hvalue, hsplit⟩ := hlast
  unfold typeKey Text.lowerText
  rw [hsplit, Text.lower_lower hvalue, hname]

/-- A plain name is printed as it is written. -/
theorem IsPlainIdent.toList_print (h : IsPlainIdent i) : i.print.toList = i.written := by
  have hdoubled : Sql.doubled '"' i.value = i.value := by
    unfold Sql.doubled
    rw [Sql.doubledFrom_of_not_mem, String.ofList_toList]
    exact fun hquote => Bool.false_ne_true ((h.letters '"' hquote).2.1.symm.trans (by decide))
  unfold Ident.print
  rcases h.written_eq with ⟨hq, hw⟩ | ⟨hq, hw⟩
  all_goals rw [hw, hq]
  show ("\"" ++ Sql.doubled '"' i.value ++ "\"").toList = _
  rw [hdoubled, String.toList_append, String.toList_append]
  rfl

/-- A plain name is printed as it is written. -/
theorem toList_printName (h : IsPlainName name) : (Sql.printName name).toList = writtenName name := by
  cases h with
  | @single t h =>
    rw [writtenName_single, ← h.toList_print]
    rfl
  | @qualified s t hs ht =>
    have hprint : Sql.printName [s, t] = s.print ++ "." ++ t.print := rfl
    rw [writtenName_qualified, hprint, String.toList_append, String.toList_append, hs.toList_print,
      ht.toList_print, List.append_assoc]
    rfl

end Dump

namespace Dump.Reader

open Sql (Definition Ident ColumnDefinition writtenName)
open SourceType (WrittenLabel labelText)

variable {r r' : Reader} {b b' : Builder} {s : Statement} {enums : EnumLabels} {name : List Ident}
  {columns : List ColumnDefinition} {ls : List WrittenLabel} {key : String}

/-! ## Types of columns -/

/-- A plain name that is read as a type without parameters and array levels, and whose lower case does not
depend on what stands around it. -/
structure IsPlainType (name : List Ident) : Prop where
  plain : IsPlainName name
  noParameters : '(' ∉ writtenName name
  noLevels : (writtenName name).getLast? ≠ some ']'
  noSigma : 'Σ' ∉ writtenName name

/-- **The type of a column** whose declared type is a plain name has the labels that are remembered last
under the name. -/
theorem columnType_printName (h : IsPlainType name) {labels : List String}
    (hl : enums.lookup (Text.lowerText (splitName name).2) = some labels) :
    (columnType enums (Sql.printName name)).name = "enum"
      ∧ (columnType enums (Sql.printName name)).values = labels := by
  have hprint := toList_printName h.plain
  have hname : (SourceType.parse (Sql.printName name)).name
      = String.ofList (Text.lower (writtenName name)) := by
    rw [← hprint]
    refine SourceType.parse_of_isSolid ?_ ?_ ?_ ?_
    all_goals rw [hprint]
    · exact h.plain.ne_nil
    · exact h.plain.isSolid
    · exact h.noParameters
    · exact h.noLevels
  have hkey : typeKey (SourceType.parse (Sql.printName name)).name.toList
      = Text.lowerText (splitName name).2 := by
    rw [hname, String.toList_ofList]
    exact typeKey_lower h.plain h.noSigma
  unfold columnType
  dsimp only
  rw [hkey, hl]
  exact ⟨rfl, rfl⟩

/-! ## Statements that make enumerations -/

/-- The text of a statement that makes an enumeration. -/
def enumText (name : List Char) (ls : List WrittenLabel) : List Char :=
  "CREATE TYPE ".toList ++ name ++ " AS ENUM (".toList ++ labelText ls ++ [')']

/-- A statement with such a text, for a plain name that is not the word before it. -/
structure IsEnumStatement (s : Statement) (name : List Ident) (ls : List WrittenLabel) : Prop where
  text : s.text.toList = enumText (writtenName name) ls
  plain : IsPlainName name
  noParen : '(' ∉ writtenName name
  noKeyword : isKeyword ["TYPE"] (writtenName name) = false
  labels : ∀ l ∈ ls, l.IsSet

/-- The key under which a statement remembers labels, if it makes an enumeration. -/
def enumKey? (s : Statement) : Option String :=
  if Kind.ofText s.text.toList = .createEnum then
    match wordAfter? ["TYPE"] (Text.words s.text.toList), enumValues? s.text.toList with
    | some name, .ok (some _) => some (typeKey name)
    | _, _ => none
  else none

/-- The words of a statement that makes an enumeration. -/
theorem words_enumText (h : IsPlainName name) (ls : List WrittenLabel) :
    ∃ rest, Text.words (enumText (writtenName name) ls)
      = "CREATE".toList :: "TYPE".toList :: writtenName name :: rest := by
  refine ⟨Text.words ("AS ENUM (".toList ++ (labelText ls ++ [')'])), ?_⟩
  have htext : enumText (writtenName name) ls
      = ["CREATE".toList, "TYPE".toList, writtenName name].flatMap (· ++ [' '])
        ++ ("AS ENUM (".toList ++ (labelText ls ++ [')'])) := by
    have hfirst : "CREATE TYPE ".toList = "CREATE".toList ++ [' '] ++ ("TYPE".toList ++ [' ']) := by decide
    have hsecond : " AS ENUM (".toList = [' '] ++ "AS ENUM (".toList := by decide
    unfold enumText
    rw [hfirst, hsecond]
    simp only [List.flatMap_cons, List.flatMap_nil, List.append_nil, List.append_assoc]
  have hsolid : ∀ w ∈ ["CREATE".toList, "TYPE".toList, writtenName name], w ≠ [] ∧ Text.IsSolid w := by
    intro w hw
    simp only [List.mem_cons, List.not_mem_nil, or_false] at hw
    rcases hw with rfl | rfl | rfl
    · decide
    · decide
    · exact ⟨h.ne_nil, h.isSolid⟩
  rw [htext, Text.words_spaced hsolid]
  rfl

/-- The words for an enumeration occur in its text. -/
theorem occurs_enumText (name : List Char) (ls : List WrittenLabel) :
    Text.occurs "AS ENUM".toList (Text.upper (enumText name ls)) = true := by
  have hupper : " AS ENUM (".toList.flatMap Text.upperChar = [' '] ++ "AS ENUM".toList ++ " (".toList := by
    decide
  have hparts : Text.upper (enumText name ls)
      = (Text.upper ("CREATE TYPE ".toList ++ name) ++ [' ']) ++ "AS ENUM".toList
        ++ (" (".toList ++ Text.upper (labelText ls ++ [')'])) := by
    unfold enumText Text.upper
    simp only [List.flatMap_append, hupper, List.append_assoc]
  rw [hparts]
  exact Text.occurs_append _ _ _

namespace IsEnumStatement

/-- The statement is one of its kind. -/
theorem kind (h : IsEnumStatement s name ls) : Kind.ofText s.text.toList = .createEnum := by
  obtain ⟨ws, hwords⟩ := words_enumText h.plain ls
  unfold Kind.ofText
  rw [h.text, hwords]
  exact if_pos (occurs_enumText _ ls)

/-- Its name is found. -/
theorem word (h : IsEnumStatement s name ls) :
    wordAfter? ["TYPE"] (Text.words s.text.toList) = some (writtenName name) := by
  obtain ⟨ws, hwords⟩ := words_enumText h.plain ls
  rw [h.text, hwords, wordAfter?_cons (by decide), wordAfter?_of_isKeyword (by decide) h.noKeyword,
    h.plain.dropEnd]

/-- Its labels are found. -/
theorem values (h : IsEnumStatement s name ls) :
    enumValues? s.text.toList = .ok (some (ls.map (·.label))) := by
  have hparen : '(' ∉ "CREATE TYPE ".toList ++ writtenName name ++ " AS ENUM ".toList := by
    rw [List.mem_append, List.mem_append, not_or, not_or]
    exact ⟨⟨by decide, h.noParen⟩, by decide⟩
  have hspan : SourceType.parameterSpan? s.text.toList
      = some ("CREATE TYPE ".toList ++ writtenName name ++ " AS ENUM ".toList, labelText ls, []) := by
    rw [← SourceType.parameterSpan?_append hparen, h.text]
    unfold enumText
    simp
  unfold enumValues?
  rw [hspan]
  dsimp only
  rw [SourceType.values_parse_enum h.labels]

end IsEnumStatement

/-- **A statement that makes an enumeration** has its labels remembered. -/
theorem readStatement_enumStatement (h : IsEnumStatement s name ls) (r : Reader) (b : Builder) :
    r.readStatement b s = .ok ({ r with
      enums := (Text.lowerText (splitName name).2, ls.map (·.label)) :: r.enums }, b) := by
  unfold readStatement
  rw [h.kind]
  dsimp only
  unfold createEnum
  rw [h.word, h.values]
  dsimp only
  rw [ok_bind, typeKey_writtenName h.plain]
  rfl

/-! ## Labels that are remembered -/

/-- A statement that makes no enumeration under a key leaves what is remembered under it. -/
theorem lookup_readStatement (hs : enumKey? s ≠ some key) (hr : r.readStatement b s = .ok (r', b')) :
    r'.enums.lookup key = r.enums.lookup key := by
  have hreader := reader_readStatement hr
  unfold enumKey? at hs
  split at hreader
  · rename_i hkind
    rw [if_pos hkind] at hs
    unfold createEnum at hreader
    cases hword : wordAfter? ["TYPE"] (Text.words s.text.toList) with
    | none =>
      rw [hword] at hreader
      cases hreader
      rfl
    | some name =>
      rw [hword] at hs hreader
      obtain ⟨values, hvalues, hreader⟩ := bind_eq_ok_iff.1 hreader
      rw [hvalues] at hs
      -- without labels nothing is remembered; else it is, under another key
      cases values with
      | none =>
        cases hreader
        rfl
      | some values =>
        cases hreader
        have hne : (key == typeKey name) = false :=
          beq_eq_false_iff_ne.2 fun heq => hs (congrArg some heq.symm)
        show List.lookup key ((typeKey name, values) :: r.enums) = _
        rw [List.lookup_cons, hne]
  · cases hreader
    rfl

/-- Nor do statements one after another. -/
theorem lookup_readStatements (h : b.Running) {l : List Statement}
    (hl : ∀ s ∈ l, enumKey? s ≠ some key) (hr : r.readStatements b l = .ok (r', b')) :
    r'.enums.lookup key = r.enums.lookup key := by
  induction l generalizing r b with
  | nil =>
    cases hr
    rfl
  | cons s l ih =>
    rw [readStatements_cons h] at hr
    obtain ⟨⟨r₁, b₁⟩, hs, hr⟩ := bind_eq_ok_iff.1 hr
    obtain ⟨hkey, hl⟩ := List.forall_mem_cons.1 hl
    exact (ih (h.of_calls (calls_readStatement h.sound hs)) hl hr).trans (lookup_readStatement hkey hs)

/-! ## Whole dumps -/

/-- **Labels of enumerations.**  A dump makes an enumeration, and later a table with a column whose
declared type has the same name in lower case, in the same schema or another.  If no enumeration of this
name is made in between, the column of the finished model is an enumeration with exactly these labels in
their order, unless the policy has left its table out. -/
theorem labels_of_lastType (h : b.Running) {dump : String} {before between after : List Statement}
    {typed made : Statement} {enumName typeName : List Ident} {c : ColumnDefinition}
    (hread : r.read b dump = .ok (r', b'))
    (hdump : statements r.dialect dump = before ++ typed :: between ++ made :: after)
    (henum : IsEnumStatement typed enumName ls) (hm : Makes r made name columns) (hc : c ∈ columns)
    (htype : IsPlainType typeName) (hdeclared : c.type = Sql.printName typeName)
    (hsame : Text.lowerText (splitName enumName).2 = Text.lowerText (splitName typeName).2)
    (hlast : ∀ s ∈ between, enumKey? s ≠ some (Text.lowerText (splitName typeName).2)) :
    LeftOut name b'.model ∨ ∃ id t, b'.finish.table? id = some t ∧ t.nspace = (splitName name).1
      ∧ t.sourceName = (splitName name).2 ∧ ∃ col ∈ t.columns, col.name = c.name.value
        ∧ col.sourceType.name = "enum" ∧ col.sourceType.values = ls.map (·.label) := by
  unfold Reader.read at hread
  rw [hdump] at hread
  obtain ⟨r₃, b₃, r₄, b₄, hmaking⟩ := exists_turn h hread
  obtain ⟨r₁, b₁, r₂, b₂, htyping⟩ := exists_turn h hmaking.before
  have hl : r₃.enums.lookup (Text.lowerText (splitName typeName).2) = some (ls.map (·.label)) := by
    have hstep := htyping.step
    rw [readStatement_enumStatement henum, hsame] at hstep
    cases hstep
    rw [lookup_readStatements htyping.goesOn hlast htyping.after]
    exact List.lookup_cons_self
  have hmade := made_readStatement hmaking.running.sound
    (hm.congr (alike_readStatements h hmaking.before)) hmaking.step
  have hafter := calls_readStatements hmaking.goesOn hmaking.after
  rcases hmade.exists_column hc with hleft | ⟨id, t, ht, hnspace, hname, col, hcol, hcolname, hcoltype⟩
  · exact Or.inl (hleft.keeps (Calls.grows hafter hmaking.goesOn.sound).keeps)
  · -- nothing that follows changes the type of a column
    obtain ⟨t', ht', hkeeps⟩ :=
      ((hafter.keepsNumbers hmaking.goesOn.sound).trans (keepsNumbers_finish b')) id t ht
    obtain ⟨col', hcol', hstays⟩ := hkeeps.exists_column hcol
    refine Or.inr ⟨id, t', ht', hkeeps.nspace.trans hnspace, hkeeps.sourceName.trans hname, col', hcol',
      hstays.name.trans hcolname, ?_⟩
    rw [hstays.sourceType, hcoltype, hdeclared]
    exact columnType_printName htype hl

/-- A statement that makes an enumeration.  There is a quote in a label. -/
def moodStatement : Statement := ⟨"CREATE TYPE public.mood AS ENUM ('sad', 'it''s ok')", 1⟩

/-- A table with a column of this type. -/
def personTable : Statement := ⟨"CREATE TABLE person (id integer, feeling public.mood)", 2⟩

/-- An enumeration and a table with a column of its type. -/
def personDump : String := moodStatement.text ++ ";\n" ++ personTable.text ++ ";"

theorem labels_of_lastType_personDump : ∃ r' b' columns c,
    postgresReader.read (newBuilder .postgres) personDump = .ok (r', b')
    ∧ IsEnumStatement moodStatement [.bare "public", .bare "mood"]
      [⟨[], "sad", []⟩, ⟨[' '], "it's ok", []⟩]
    ∧ Makes postgresReader personTable [.bare "person"] columns ∧ c ∈ columns
    ∧ c.name = .bare "feeling" ∧ c.type = Sql.printName [.bare "public", .bare "mood"]
    ∧ (LeftOut [.bare "person"] b'.model ∨ ∃ id t, b'.finish.table? id = some t ∧ t.nspace = none
      ∧ t.sourceName = "person" ∧ ∃ col ∈ t.columns, col.name = "feeling"
        ∧ col.sourceType.name = "enum" ∧ col.sourceType.values = ["sad", "it's ok"]) := by
  have hok : (postgresReader.read (newBuilder .postgres) personDump).isOk = true := by decide +kernel
  have hdump : statements .postgres personDump = [] ++ moodStatement :: [] ++ personTable :: [] := by
    decide +kernel
  have hparts : (postgresReader.tableDefinitions personTable).map (madeColumns fun c => (c.name, c.type))
      = .ok [([.bare "person"], [(.bare "id", "INTEGER"), (.bare "feeling", "public.mood")])] := by
    decide +kernel
  -- the definitions of the table's columns are found, not written out
  obtain ⟨columns, hm, hcolumns⟩ := exists_makes (by decide +kernel) hparts
  have hfeeling : (Ident.bare "feeling", "public.mood") ∈ columns.map fun c => (c.name, c.type) := by
    rw [hcolumns]
    exact List.mem_cons_of_mem _ (List.mem_singleton_self _)
  obtain ⟨c, hc, heq⟩ := List.mem_map.1 hfeeling
  obtain ⟨hname, htype⟩ := Prod.mk.inj heq
  have hplain : IsPlainName [.bare "public", .bare "mood"] := by
    refine .qualified (.of_bare ?_ ?_) (.of_bare ?_ ?_)
    all_goals decide +kernel
  have henum : IsEnumStatement moodStatement [.bare "public", .bare "mood"]
      [⟨[], "sad", []⟩, ⟨[' '], "it's ok", []⟩] := by
    refine ⟨by decide +kernel, hplain, by decide +kernel, by decide +kernel, ?_⟩
    simp [WrittenLabel.IsSet]
    decide
  have hplainType : IsPlainType [.bare "public", .bare "mood"] :=
    ⟨hplain, by decide +kernel, by decide +kernel, by decide +kernel⟩
  obtain ⟨⟨r', b'⟩, hread⟩ := exists_of_isOk hok
  have hlabels := labels_of_lastType (.start _ _ _ _) hread hdump henum hm hc hplainType htype rfl
    (fun s hs => absurd hs List.not_mem_nil)
  rw [hname] at hlabels
  exact ⟨r', b', columns, c, hread, henum, hm, hc, hname, htype, hlabels⟩

/-- A column of a type of one schema has the labels of the type that another schema has under the same
name. -/
theorem labels_of_otherSchema : (columnsOf .postgres
    "CREATE TYPE a.mood AS ENUM ('x');
CREATE TYPE b.mood AS ENUM ('y');
CREATE TABLE t (m a.mood);").map
      (List.map fun c => (c.name, c.sourceType.raw, c.sourceType.name, c.sourceType.values))
    = some [("m", "a.mood", "enum", ["y"])] := by
  decide +kernel

end Dump.Reader

end SchemaBridge
