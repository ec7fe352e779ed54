/-
# Names as dumps write them

A dump writes a period between the schema and the name of a table or type, and quotes around either of
them.  Statements that are cut into words find such names again if nothing in them reads like the end of
a word, a period or a quote.

## Key statements

* `splitDotted_writtenName`: the two parts of a plain name.
* `wordAfter?_of_isKeyword`: the word after a keyword.
-/
import SchemaBridge.Dump.TableDrafting
import SchemaBridge.Proofs.Sql.Quoting
import SchemaBridge.Proofs.Text.Words

namespace SchemaBridge

namespace Sql

/-- A qualified name as it is written. -/
def writtenName (name : List Ident) : List Char := ['.'].intercalate (name.map Ident.written)

end Sql

namespace Dump

open Sql (Ident writtenName)

/-! ## Plain names -/

/-- A name in which no word, period or quote ends.  Without quotes around it, it is not empty and has no
mark in it that may end a word. -/
structure IsPlainIdent (i : Ident) : Prop where
  letters : ∀ c ∈ i.value.toList, Text.isBlank c = false ∧ isNameQuote c = false ∧ c ≠ '.'
  quote : i.quote = none ∨ i.quote = some '"'
  bare : i.quote = none → i.value.toList ≠ [] ∧ ∀ c ∈ i.value.toList, c ≠ '(' ∧ c ≠ ','

/-- A plain name of a table or type, with or without its schema. -/
inductive IsPlainName : List Ident → Prop
  | single {t : Ident} (h : IsPlainIdent t) : IsPlainName [t]
  | qualified {s t : Ident} (hs : IsPlainIdent s) (ht : IsPlainIdent t) : IsPlainName [s, t]

variable {i : Ident} {name : List Ident}

/-- A name without quotes is plain if nothing in it reads like the end of something. -/
theorem IsPlainIdent.of_bare {n : String} (hne : n.toList ≠ [])
    (h : n.toList.all (fun c =>
      !Text.isBlank c && !isNameQuote c && c != '.' && c != '(' && c != ',') = true) :
    IsPlainIdent (.bare n) := by
  have hletter : ∀ c ∈ n.toList, Text.isBlank c = false ∧ isNameQuote c = false ∧ c ≠ '.' ∧ c ≠ '('
      ∧ c ≠ ',' := by
    simpa [and_assoc] using h
  refine ⟨fun c hc => ?_, Or.inl rfl, fun _ => ⟨hne, fun c hc => (hletter c hc).2.2.2⟩⟩
  obtain ⟨hblank, hquote, hdot, -⟩ := hletter c hc
  exact ⟨hblank, hquote, hdot⟩

/-- A name without quotes in it is written with one on each side at most. -/
theorem IsPlainIdent.written_eq (h : IsPlainIdent i) :
    i.quote = none ∧ i.written = i.value.toList
      ∨ i.quote = some '"' ∧ i.written = '"' :: (i.value.toList ++ ['"']) := by
  have hdoubled : Identifier.doubled '"' i.value.toList = i.value.toList := by
    refine Identifier.doubled_of_not_mem fun hquote => ?_
    exact Bool.false_ne_true ((h.letters '"' hquote).2.1.symm.trans (by decide))
  rcases h.quote with hq | hq
  · refine Or.inl ⟨hq, ?_⟩
    unfold Ident.written
    rw [hq]
  · refine Or.inr ⟨hq, ?_⟩
    unfold Ident.written
    rw [hq]
    dsimp only
    rw [hdoubled]

/-- A plain name is not broken. -/
theorem IsPlainIdent.isSolid (h : IsPlainIdent i) : Text.IsSolid i.written := by
  have hvalue : ∀ c ∈ i.value.toList, Text.isBlank c = false := fun c hc => (h.letters c hc).1
  rcases h.written_eq with ⟨-, hw⟩ | ⟨-, hw⟩
  all_goals rw [hw]
  · exact hvalue
  · refine List.forall_mem_cons.2 ⟨by decide, List.forall_mem_append.2 ⟨hvalue, ?_⟩⟩
    exact List.forall_mem_singleton.2 (by decide)

/-- No point stands in a plain name. -/
theorem IsPlainIdent.dot_not_mem (h : IsPlainIdent i) : '.' ∉ i.written := by
  have hvalue : '.' ∉ i.value.toList := fun hdot => (h.letters '.' hdot).2.2 rfl
  rcases h.written_eq with ⟨-, hw⟩ | ⟨-, hw⟩
  all_goals rw [hw]
  · exact hvalue
  · simpa using hvalue

/-- The quotes around a plain name come off again. -/
theorem IsPlainIdent.unquoted_written (h : IsPlainIdent i) : unquoted i.written = i.value.toList := by
  have hself : unquoted i.value.toList = i.value.toList :=
    Text.strip_eq_self fun c hc => (h.letters c hc).2.1
  rcases h.written_eq with ⟨-, hw⟩ | ⟨-, hw⟩
  all_goals rw [hw]
  · exact hself
  · unfold unquoted
    rw [Text.strip_cons (by decide), Text.strip_append_singleton (by decide)]
    exact hself

/-- A plain name is not empty. -/
theorem IsPlainIdent.ne_nil (h : IsPlainIdent i) : i.written ≠ [] := by
  rcases h.written_eq with ⟨hq, hw⟩ | ⟨-, hw⟩
  all_goals rw [hw]
  · exact (h.bare hq).1
  · exact List.cons_ne_nil _ _

/-- A plain name is no shorter for the marks that come off the end of a word. -/
theorem IsPlainIdent.dropEnd_written (h : IsPlainIdent i) (front : List Char) :
    Text.dropEndWhile (fun c => c == '(' || c == ',') (front ++ i.written) = front ++ i.written := by
  refine Text.dropEndWhile_eq_self fun c hc => ?_
  rw [List.getLast?_append_of_ne_nil _ h.ne_nil] at hc
  rcases h.written_eq with ⟨hq, hw⟩ | ⟨-, hw⟩
  all_goals rw [hw] at hc
  · obtain ⟨hparen, hcomma⟩ := (h.bare hq).2 c (List.mem_of_getLast? hc)
    simp [hparen, hcomma]
  · rw [← List.cons_append, List.getLast?_concat] at hc
    obtain rfl := Option.some.inj hc
    decide

/-! ## Plain qualified names -/

/-- A name of one part. -/
theorem writtenName_single (t : Ident) : writtenName [t] = t.written := by
  simp [writtenName]

/-- A name with its schema. -/
theorem writtenName_qualified (s t : Ident) :
    writtenName [s, t] = s.written ++ '.' :: t.written := by
  simp [writtenName, List.intercalate]

namespace IsPlainName

/-- A plain name with its schema is not broken. -/
theorem isSolid (h : IsPlainName name) : Text.IsSolid (writtenName name) := by
  cases h with
  | single h =>
    rw [writtenName_single]
    exact h.isSolid
  | qualified hs ht =>
    rw [writtenName_qualified]
    refine List.forall_mem_append.2 ⟨hs.isSolid, List.forall_mem_cons.2 ⟨by decide, ht.isSolid⟩⟩

/-- A plain name with its schema is not empty. -/
theorem ne_nil (h : IsPlainName name) : writtenName name ≠ [] := by
  cases h with
  | single h =>
    rw [writtenName_single]
    exact h.ne_nil
  | qualified hs ht =>
    rw [writtenName_qualified]
    simp

/-- A plain name ends with no parenthesis and no comma. -/
theorem dropEnd (h : IsPlainName name) :
    Text.dropEndWhile (fun c => c == '(' || c == ',') (writtenName name) = writtenName name := by
  cases h with
  | single h =>
    rw [writtenName_single]
    exact h.dropEnd_written []
  | @qualified s t hs ht =>
    rw [writtenName_qualified, List.append_cons]
    exact ht.dropEnd_written _

end IsPlainName

/-- The schema and the name are found again in a plain name. -/
theorem splitDotted_writtenName (h : IsPlainName name) :
    ((splitDotted (writtenName name)).1.map String.ofList,
      String.ofList (splitDotted (writtenName name)).2) = splitName name := by
  cases h with
  | single h =>
    unfold splitDotted
    rw [writtenName_single, Text.breakAtLast?_eq_none h.dot_not_mem]
    dsimp only
    rw [h.unquoted_written, String.ofList_toList]
    rfl
  | qualified hs ht =>
    unfold splitDotted
    rw [writtenName_qualified, Text.breakAtLast?_append ht.dot_not_mem]
    dsimp only
    rw [hs.unquoted_written, ht.unquoted_written, Option.map_some, String.ofList_toList,
      String.ofList_toList]
    rfl

/-- What is none of some keywords is none of fewer. -/
theorem isKeyword_of_subset {ks ks' : List String} (hks : ks ⊆ ks') {w : List Char}
    (h : isKeyword ks' w = false) : isKeyword ks w = false := by
  unfold isKeyword at h ⊢
  rw [List.any_eq_false] at h ⊢
  exact fun k hk => h k (hks hk)

/-- A word that is none of the keywords looked for is passed over. -/
theorem wordAfter?_cons {ks : List String} {w : List Char} (hw : isKeyword ks w = false)
    (ws : List (List Char)) : wordAfter? ks (w :: ws) = wordAfter? ks ws := by
  cases ws with
  | nil => rfl
  | cons n ws =>
    rw [wordAfter?, hw]
    rfl

/-- The word after a keyword, if it is none itself. -/
theorem wordAfter?_of_isKeyword {ks : List String} {w n : List Char} (hw : isKeyword ks w = true)
    (hn : isKeyword ks n = false) (ws : List (List Char)) :
    wordAfter? ks (w :: n :: ws) = some (Text.dropEndWhile (fun c => c == '(' || c == ',') n) := by
  rw [wordAfter?, hw, hn]
  rfl

end Dump

end SchemaBridge
