/-
# How declared types are read

A type that is a name without parameters is read as that name in lower case.  The labels of an
enumeration are read as they were meant, whatever they hold, if each of them is written between single
quotes with those inside it doubled.  Array markers behind a type change its levels and nothing else.

## Key statements

* `parse_of_isSolid`: a type that is a name.
* `parse_arrayMarks`: a type with array markers behind it.
* `parse_enum`: an enumeration, with white space around its labels.
* `parse_enumText`: an enumeration of literals, and arrays of it.
-/
import SchemaBridge.Proofs.Sql.Quoting
import SchemaBridge.Proofs.Text.Words
import SchemaBridge.Schema.SourceType

namespace SchemaBridge

namespace SourceType

/-! ## Array levels -/

/-- A text has no array levels that ends in neither a bracket nor the last letter of `ARRAY`. -/
theorem peelArrays_of_head {c : Char} {r : List Char} (hblank : Text.isBlank c = false)
    (hbracket : c ≠ ']') (hletter : c.toUpper ≠ 'Y') : peelArrays (c :: r) = (0, c :: r) := by
  have hself : (c :: r).dropWhile Text.isBlank = c :: r := List.dropWhile_cons_of_neg (by simp [hblank])
  unfold peelArrays
  split
  · rename_i heq
    rw [hself] at heq
    exact absurd (List.cons.inj heq).1 hbracket
  · rename_i heq
    rw [hself] at heq
    obtain ⟨rfl, -⟩ := List.cons.inj heq
    rw [if_neg]
    rintro ⟨hword, -⟩
    exact hletter (List.cons.inj hword).1
  · rfl

/-- Nor has one without white space that does not end in a bracket. -/
theorem peelArrays_of_isSolid {r : List Char} (hsolid : Text.IsSolid r) (hbracket : r.head? ≠ some ']') :
    peelArrays r = (0, r) := by
  have hself : r.dropWhile Text.isBlank = r := by
    cases r with
    | nil => rfl
    | cons c r => exact List.dropWhile_cons_of_neg (by simp [hsolid c List.mem_cons_self])
  unfold peelArrays
  split
  · rename_i heq
    rw [hself] at heq
    rw [heq] at hbracket
    exact absurd rfl hbracket
  · -- the word `ARRAY` counts after a space
    rename_i heq
    rw [hself] at heq
    have hspace := hsolid ' ' (by rw [heq]; simp)
    exact absurd hspace (by decide)
  · rfl

/-- A pair of brackets at the end of a text is one level. -/
theorem peelArrays_bracket (r : List Char) :
    peelArrays (']' :: '[' :: r) = ((peelArrays r).1 + 1, (peelArrays r).2) := by
  have hself : (']' :: '[' :: r).dropWhile Text.isBlank = ']' :: '[' :: r :=
    List.dropWhile_cons_of_neg (by decide)
  rw [peelArrays]
  split
  · rename_i heq
    rw [hself] at heq
    obtain ⟨-, hrest⟩ := List.cons.inj heq
    obtain ⟨-, rfl⟩ := List.cons.inj hrest
    rfl
  · -- a word would end in a letter
    rename_i hother heq
    rw [hself] at heq
    obtain ⟨ha, hrest⟩ := List.cons.inj heq
    exact (hother ha.symm (List.cons.inj hrest).1.symm).elim
  · rename_i hother _
    exact (hother r hself).elim

/-- A number of array markers. -/
def arrayMarks (k : ℕ) : String := String.join (List.replicate k "[]")

/-- One pair of brackets more. -/
theorem toList_arrayMarks_succ (k : ℕ) :
    (arrayMarks (k + 1)).toList = (arrayMarks k).toList ++ ['[', ']'] := by
  unfold arrayMarks
  rw [List.replicate_succ', String.toList_join, String.toList_join, List.flatMap_append]
  rfl

/-- Pairs of brackets are counted. -/
theorem peelArrays_arrayMarks (s : List Char) (k : ℕ) :
    peelArrays (s ++ (arrayMarks k).toList).reverse
      = ((peelArrays s.reverse).1 + k, (peelArrays s.reverse).2) := by
  induction k with
  | zero =>
    show peelArrays (s ++ []).reverse = _
    rw [List.append_nil]
    rfl
  | succ k ih =>
    have hreverse : (s ++ (arrayMarks (k + 1)).toList).reverse
        = ']' :: '[' :: (s ++ (arrayMarks k).toList).reverse := by
      rw [toList_arrayMarks_succ, ← List.append_assoc, List.reverse_append]
      rfl
    rw [hreverse, peelArrays_bracket, ih]
    rfl

/-- Array markers have no white space around them. -/
theorem trim_append_arrayMarks {s : List Char} (h : Text.trim s = s) (k : ℕ) :
    Text.trim (s ++ (arrayMarks k).toList) = s ++ (arrayMarks k).toList := by
  cases k with
  | zero =>
    show Text.trim (s ++ []) = s ++ []
    rw [List.append_nil, h]
  | succ k =>
    have hlast : (s ++ (arrayMarks (k + 1)).toList).getLast? = some ']' := by
      rw [toList_arrayMarks_succ, ← List.append_assoc, List.getLast?_append]
      rfl
    cases s with
    | nil =>
      have hhead : (arrayMarks (k + 1)).toList.head? = some '[' := by
        unfold arrayMarks
        rw [List.replicate_succ, String.toList_join]
        rfl
      exact Text.trim_eq_self_of_ends hhead hlast (by decide) (by decide)
    | cons c r =>
      have hhead : (Text.trimStart (c :: r)).head? = some c := by
        rw [← Text.head?_trim, h]
        rfl
      exact Text.trim_eq_self_of_ends rfl hlast (Text.isBlank_of_head?_trimStart hhead) (by decide)

/-- **Array markers** behind a type add levels to it and change nothing else. -/
theorem parse_arrayMarks {declared : String} (h : Text.trim declared.toList = declared.toList) (k : ℕ) :
    parse (declared ++ arrayMarks k)
      = { parse declared with
          arrayDims := (parse declared).arrayDims + k, raw := declared ++ arrayMarks k } := by
  unfold parse
  rw [String.toList_append, trim_append_arrayMarks h, h]
  dsimp only
  rw [peelArrays_arrayMarks, ← String.toList_append, String.ofList_toList]
  dsimp only
  cases parameterSpan? (peelArrays declared.toList.reverse).2.reverse <;> rfl

/-! ## Names -/

/-- **A type that is a name** is read as that name in lower case. -/
theorem parse_of_isSolid {declared : String} (hne : declared.toList ≠ [])
    (hsolid : Text.IsSolid declared.toList) (hparen : '(' ∉ declared.toList)
    (hbracket : declared.toList.getLast? ≠ some ']') :
    (parse declared).name = String.ofList (Text.lower declared.toList) := by
  have hpeel : peelArrays declared.toList.reverse = (0, declared.toList.reverse) := by
    refine peelArrays_of_isSolid (fun c hc => hsolid c (List.mem_reverse.1 hc)) ?_
    rw [List.head?_reverse]
    exact hbracket
  have hspan : parameterSpan? declared.toList = none := by
    unfold parameterSpan?
    rw [Text.breakOn?_eq_none hparen]
  have hname : normalizeWords declared.toList = String.ofList (Text.lower declared.toList) := by
    unfold normalizeWords
    rw [Text.words_of_isSolid hne hsolid]
    rfl
  unfold parse
  rw [Text.trim_of_isSolid hsolid]
  dsimp only
  rw [hpeel]
  dsimp only
  rw [List.reverse_reverse, hspan]
  exact hname

/-! ## Labels -/

/-- A label as it is written, with white space around it. -/
structure WrittenLabel where
  before : List Char
  label : String
  after : List Char

/-- The text of a label. -/
def WrittenLabel.text (l : WrittenLabel) : List Char :=
  l.before ++ '\'' :: (Identifier.doubled '\'' l.label.toList ++ '\'' :: l.after)

/-- Nothing but white space is around a label. -/
def WrittenLabel.IsSet (l : WrittenLabel) : Prop :=
  l.before.all Text.isBlank = true ∧ l.after.all Text.isBlank = true

/-- The labels of an enumeration between commas. -/
def labelText (ls : List WrittenLabel) : List Char := [','].intercalate (ls.map (·.text))

/-- Doubled quotes become single ones. -/
theorem unpairQuotes_doubled (s : List Char) : unpairQuotes (Identifier.doubled '\'' s) = s := by
  induction s with
  | nil => rfl
  | cons c s ih =>
    rw [Identifier.doubled_cons]
    by_cases hc : c = '\''
    · subst hc
      show '\'' :: unpairQuotes (Identifier.doubled '\'' s) = _
      rw [ih]
    · rw [if_neg (by simpa using hc), List.singleton_append, unpairQuotes, ih]
      exact fun r hr _ => hc hr

/-- A character that is no quote, and no comma outside quotes, goes on with its piece. -/
theorem splitParametersFrom_cons {c : Char} (hquote : c ≠ '\'') {q : Bool} (hcomma : c = ',' → q = true)
    (piece r : List Char) :
    splitParametersFrom piece q (c :: r) = splitParametersFrom (c :: piece) q r := by
  by_cases hc : c = ','
  · rw [hcomma hc, hc]
    rfl
  · rw [splitParametersFrom]
    · exact hquote
    · exact hc

/-- So does white space. -/
theorem splitParametersFrom_blank {w : List Char} (hw : w.all Text.isBlank = true)
    (piece r : List Char) :
    splitParametersFrom piece false (w ++ r) = splitParametersFrom (w.reverse ++ piece) false r := by
  induction w generalizing piece with
  | nil => rfl
  | cons c w ih =>
    rw [List.all_cons, Bool.and_eq_true] at hw
    have hne : ∀ d, Text.isBlank d = false → c ≠ d := by
      rintro d hd rfl
      exact Bool.false_ne_true (hd.symm.trans hw.1)
    rw [List.cons_append, splitParametersFrom_cons (hne '\'' (by decide))
      (fun hc => absurd hc (hne ',' (by decide))), ih hw.2]
    simp

/-- A quoted label is taken as a whole: the quotes in it open and close again. -/
theorem splitParametersFrom_doubled (piece s rest : List Char) :
    splitParametersFrom piece true (Identifier.doubled '\'' s ++ rest)
      = splitParametersFrom ((Identifier.doubled '\'' s).reverse ++ piece) true rest := by
  induction s generalizing piece with
  | nil => rfl
  | cons c s ih =>
    rw [Identifier.doubled_cons]
    by_cases hc : c = '\''
    · -- the first of two quotes closes the label, and the second one opens it again
      subst hc
      show splitParametersFrom ('\'' :: '\'' :: piece) true (Identifier.doubled '\'' s ++ rest) = _
      rw [ih]
      simp
    · rw [if_neg (by simpa using hc), List.singleton_append, List.cons_append, List.reverse_cons,
        List.append_assoc, List.singleton_append, ← ih, splitParametersFrom_cons hc fun _ => rfl]

/-- A label is one piece of the list. -/
theorem splitParametersFrom_label {l : WrittenLabel} (h : l.IsSet) (r : List Char) :
    splitParametersFrom [] false (l.text ++ r) = splitParametersFrom l.text.reverse false r := by
  have htext : l.text ++ r = l.before ++ '\'' :: (Identifier.doubled '\'' l.label.toList
      ++ '\'' :: (l.after ++ r)) := by
    unfold WrittenLabel.text
    simp
  have hopen : ∀ piece r, splitParametersFrom piece false ('\'' :: r)
      = splitParametersFrom ('\'' :: piece) true r := fun _ _ => rfl
  have hclose : ∀ piece r, splitParametersFrom piece true ('\'' :: r)
      = splitParametersFrom ('\'' :: piece) false r := fun _ _ => rfl
  rw [htext, splitParametersFrom_blank h.1, hopen, splitParametersFrom_doubled, hclose,
    splitParametersFrom_blank h.2]
  unfold WrittenLabel.text
  simp

/-- The labels of an enumeration are the pieces of their list. -/
theorem splitParameters_labelText {ls : List WrittenLabel} (h : ∀ l ∈ ls, l.IsSet) (hne : ls ≠ []) :
    splitParameters (labelText ls) = ls.map (·.text) := by
  unfold splitParameters labelText
  induction ls with
  | nil => exact absurd rfl hne
  | cons l ls ih =>
    obtain ⟨hl, hls⟩ := List.forall_mem_cons.1 h
    -- a label ends at a comma, and the last one with the list
    cases ls with
    | nil =>
      show splitParametersFrom [] false ([','].intercalate [l.text]) = [l.text]
      have hone : [','].intercalate [l.text] = l.text ++ [] := by simp
      rw [hone, splitParametersFrom_label hl]
      show [l.text.reverse.reverse] = _
      rw [List.reverse_reverse]
    | cons l' ls =>
      have hmore : [','].intercalate ((l :: l' :: ls).map (·.text))
          = l.text ++ ',' :: [','].intercalate ((l' :: ls).map (·.text)) := by
        simp [List.intercalate]
      rw [hmore, splitParametersFrom_label hl]
      show l.text.reverse.reverse :: splitParametersFrom [] false _ = _
      rw [List.reverse_reverse, ih hls (List.cons_ne_nil _ _)]
      rfl

/-- A label is read as it was meant. -/
theorem readParameter?_text {l : WrittenLabel} (h : l.IsSet) :
    readParameter? l.text = some (.text l.label) := by
  have hmark : Text.isBlank '\'' = false := by decide
  unfold readParameter? WrittenLabel.text
  rw [Text.trim_between h.1 h.2 hmark hmark]
  dsimp only
  have hnumber : readInteger? ('\'' :: (Identifier.doubled '\'' l.label.toList ++ ['\''])) = none := by
    rfl
  have hlast : ('\'' :: (Identifier.doubled '\'' l.label.toList ++ ['\''])).getLast? = some '\'' := by
    rw [← List.cons_append, List.getLast?_concat]
  rw [if_neg (by simp), hnumber]
  dsimp only
  rw [if_pos ⟨by simp, rfl, hlast⟩, List.drop_one, List.tail_cons, List.dropLast_concat,
    unpairQuotes_doubled, String.ofList_toList]

/-- The parameters of a type stand between its parentheses. -/
theorem parameterSpan?_append {before : List Char} (h : '(' ∉ before) (inside : List Char) :
    parameterSpan? (before ++ '(' :: (inside ++ [')'])) = some (before, inside, []) := by
  unfold parameterSpan?
  rw [Text.breakOn?_append h]
  dsimp only
  rw [Text.breakAtLast?_append List.not_mem_nil]

/-- The pieces of a list of labels are labels, and an empty list has no piece that is read. -/
theorem filterMap_readParameter? {ls : List WrittenLabel} (h : ∀ l ∈ ls, l.IsSet) :
    (splitParameters (labelText ls)).filterMap readParameter? = ls.map fun l => .text l.label := by
  cases ls with
  | nil => rfl
  | cons l ls =>
    rw [splitParameters_labelText h (List.cons_ne_nil l ls), List.filterMap_map, ← List.filterMap_eq_map]
    exact List.filterMap_congr fun l hl => readParameter?_text (h l hl)

/-- **An enumeration** is read as its labels were meant. -/
theorem parse_enum {ls : List WrittenLabel} (h : ∀ l ∈ ls, l.IsSet) :
    parse (String.ofList ("enum(".toList ++ labelText ls ++ [')']))
      = { name := "enum"
          mods := []
          values := ls.map (·.label)
          arrayDims := 0
          raw := String.ofList ("enum(".toList ++ labelText ls ++ [')']) } := by
  have htrim : Text.trim ("enum(".toList ++ labelText ls ++ [')'])
      = "enum(".toList ++ labelText ls ++ [')'] :=
    @Text.trim_between [] [] rfl rfl 'e' ')' rfl rfl _
  -- the last character is no bracket, so there are no markers to peel off
  have hpeel : peelArrays ("enum(".toList ++ labelText ls ++ [')']).reverse
      = (0, ("enum(".toList ++ labelText ls ++ [')']).reverse) := by
    rw [List.reverse_concat]
    exact peelArrays_of_head rfl (by decide) (by decide)
  have hspan : parameterSpan? ("enum(".toList ++ labelText ls ++ [')'])
      = some ("enum".toList, labelText ls, []) :=
    @parameterSpan?_append "enum".toList (by decide) (labelText ls)
  have hname : normalizeWords ("enum".toList ++ [' ']) = "enum" := by decide
  unfold parse
  rw [String.toList_ofList, htrim]
  dsimp only
  rw [hpeel]
  dsimp only
  rw [List.reverse_reverse, hspan]
  dsimp only
  rw [filterMap_readParameter? h, hname, List.filterMap_map, List.filterMap_map]
  congr 1
  · exact List.filterMap_eq_nil_iff.2 fun _ _ => rfl
  · exact congrFun List.filterMap_eq_map ls

/-- The labels of an enumeration are read back. -/
theorem values_parse_enum {ls : List WrittenLabel} (h : ∀ l ∈ ls, l.IsSet) :
    (parse (String.ofList ("enum(".toList ++ labelText ls ++ [')']))).values = ls.map (·.label) :=
  congrArg SourceType.values (parse_enum h)

/-! ## Enumerations of literals -/

/-- An enumeration: its labels as literals with a separator between them. -/
def enumText (separator : String) (labels : List String) : String :=
  "enum(" ++ separator.intercalate (labels.map Identifier.literal) ++ ")"

/-- Labels with something in front of each but the first. -/
def spacedLabels (space : List Char) : List String → List WrittenLabel
  | [] => []
  | l :: ls => ⟨[], l, []⟩ :: ls.map fun l => ⟨space, l, []⟩

/-- Blanks before labels change none of them. -/
theorem map_label_spacedLabels (space : List Char) (labels : List String) :
    (spacedLabels space labels).map (·.label) = labels := by
  cases labels with
  | nil => rfl
  | cons l ls =>
    unfold spacedLabels
    rw [List.map_cons, List.map_map]
    exact congrArg (l :: ·) (List.map_id ls)

/-- Blanks before labels keep them set apart. -/
theorem isSet_of_mem_spacedLabels {space : List Char} (h : space.all Text.isBlank = true)
    (labels : List String) : ∀ l ∈ spacedLabels space labels, l.IsSet := by
  intro l hl
  cases labels with
  | nil => cases hl
  | cons s labels =>
    rcases List.mem_cons.1 hl with rfl | hl
    · exact ⟨rfl, rfl⟩
    · obtain ⟨s, -, rfl⟩ := List.mem_map.1 hl
      exact ⟨h, rfl⟩

/-- A label is written as a literal. -/
theorem text_literal (space : List Char) (l : String) :
    WrittenLabel.text ⟨space, l, []⟩ = space ++ (Identifier.literal l).toList := by
  unfold Identifier.literal WrittenLabel.text
  rw [String.toList_ofList]
  rfl

/-- The first label has no blanks before it. -/
theorem map_text_spacedLabels (space : List Char) (l : String) (ls : List String) :
    (spacedLabels space (l :: ls)).map (·.text)
      = (Identifier.literal l).toList
        :: ls.map fun l => space ++ (Identifier.literal l).toList := by
  unfold spacedLabels
  rw [List.map_cons, List.map_map, text_literal, List.nil_append]
  congr 1
  exact List.map_congr_left fun l _ => text_literal space l

/-- A space behind a comma can be taken to stand in front of what follows. -/
theorem intercalate_cons_space (space a : List Char) (l : List (List Char)) :
    (',' :: space).intercalate (a :: l) = [','].intercalate (a :: l.map (space ++ ·)) := by
  induction l generalizing a with
  | nil => simp
  | cons b l ih =>
    rw [List.intercalate_cons_cons, List.map_cons, List.intercalate_cons_cons, ih]
    cases l <;> simp

/-- The text of an enumeration, as characters. -/
theorem toList_enumText {separator : String} {space : List Char}
    (h : separator.toList = ',' :: space) (labels : List String) :
    (enumText separator labels).toList
      = "enum(".toList ++ labelText (spacedLabels space labels) ++ [')'] := by
  have hlabels : (separator.intercalate (labels.map Identifier.literal)).toList
      = labelText (spacedLabels space labels) := by
    rw [String.toList_intercalate, h]
    unfold labelText
    cases labels with
    | nil => rfl
    | cons l ls =>
      rw [map_text_spacedLabels, List.map_cons, List.map_cons, intercalate_cons_space, List.map_map,
        List.map_map]
      rfl
  unfold enumText
  rw [String.toList_append, String.toList_append, hlabels]
  rfl

/-- **The labels of an enumeration survive**, whatever they hold, and array markers behind it change
nothing but its levels. -/
theorem parse_enumText (labels : List String) {separator : String}
    (h : separator = "," ∨ separator = ", ") :
    parse (enumText separator labels)
        = { name := "enum"
            mods := []
            values := labels
            arrayDims := 0
            raw := enumText separator labels }
      ∧ ∀ k, parse (enumText separator labels ++ arrayMarks k)
        = { parse (enumText separator labels) with
            arrayDims := k, raw := enumText separator labels ++ arrayMarks k } := by
  obtain ⟨space, hspace, hseparator⟩ :
      ∃ space : List Char, space.all Text.isBlank = true ∧ separator.toList = ',' :: space := by
    rcases h with rfl | rfl
    · exact ⟨[], by decide, by decide⟩
    · exact ⟨[' '], by decide, by decide⟩
  have htext := toList_enumText hseparator labels
  have hparse := parse_enum (isSet_of_mem_spacedLabels hspace labels)
  rw [map_label_spacedLabels, ← htext, String.ofList_toList] at hparse
  have htrim : Text.trim (enumText separator labels).toList = (enumText separator labels).toList := by
    rw [htext]
    exact @Text.trim_between [] [] rfl rfl 'e' ')' rfl rfl _
  refine ⟨hparse, fun k => ?_⟩
  rw [parse_arrayMarks htrim, hparse, Nat.zero_add]

/-- Labels with all that could end them too early, in an array of two levels. -/
theorem parse_enumText_markedLabels :
    parse "enum('a, b', 'it''s', '', '''', ') []')[][]"
      = { name := "enum"
          mods := []
          values := ["a, b", "it's", "", "'", ") []"]
          arrayDims := 2
          raw := "enum('a, b', 'it''s', '', '''', ') []')[][]" } := by
  have htext : enumText ", " ["a, b", "it's", "", "'", ") []"] ++ arrayMarks 2
      = "enum('a, b', 'it''s', '', '''', ') []')[][]" := by
    decide
  obtain ⟨hparse, hmarks⟩ := parse_enumText ["a, b", "it's", "", "'", ") []"] (Or.inr rfl)
  rw [← htext, hmarks 2, hparse]

end SourceType

end SchemaBridge
