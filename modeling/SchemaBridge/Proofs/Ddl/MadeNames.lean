/-
# Names that are made, in statements

Names are checked when statements are written, and nowhere before.  If those that are declared are
accepted, so are those that are made of them, except where one is too long: nothing that makes a name
looks at its length.  So a model that is made of drafts and mapped has a script just when no name of it
is too long, and the refusal names one that is.

## Key statements

* `Mapper.exists_mappedNames`: the names of a mapped table by those of the table before.
* `Builder.HasTablesDrawnFrom.exists_isNamedFrom`: the names of a table that comes from a draft.
* `Table.IsNamedFrom.isSpelled`: these are refused for their length alone.
* `Ddl.statements_addDrafts`: when there is a script.
-/
import SchemaBridge.Proofs.Assembly.DraftNames
import SchemaBridge.Proofs.Ddl.Script
import SchemaBridge.Proofs.Mapper.Placing

namespace SchemaBridge

open Text (IsNumbered)

/-! ## Names of a mapped table -/

namespace Mapper

/-- What a mapping does to the names of a table: there may be a synthetic key, and an index whose name is
taken has another one. -/
structure MappedNames (synthetic : String) (t t' : Table) : Prop where
  name : t'.name = t.name
  columns : ∀ c ∈ t'.columns, c.name ∈ t.columns.map (·.name) ∨ IsNumbered synthetic c.name
  indexes : ∀ i ∈ t'.indexes, ∃ j ∈ t.indexes,
    i.name = j.name ∨ IsNumbered (t.name ++ "_" ++ j.name) i.name
  foreignKeys : ∀ f ∈ t'.foreignKeys, f.name ∈ t.foreignKeys.map (·.name)
  checks : t'.checks = t.checks

/-- The first phase. -/
theorem place_names (source : SourceDialect) (d : TargetDialect) (synthetic : String) (n : Nat)
    (id : TableId) (t : Table) : ∃ cs keys,
      (place source d synthetic n id t).table = { t with columns := cs, primaryKey := keys }
        ∧ ∀ c ∈ cs, c.name ∈ t.columns.map (·.name) ∨ IsNumbered synthetic c.name := by
  have hown : ∀ c ∈ (withColumns source t).columns,
      c.name ∈ t.columns.map (·.name) ∨ IsNumbered synthetic c.name := by
    intro c hc
    rw [← withColumns_names source t]
    exact Or.inl (List.mem_map_of_mem hc)
  -- only a table without a key gets a column, in front of its own
  unfold place placeKey
  dsimp only
  split
  · exact ⟨_, _, rfl, hown⟩
  · split
    · exact ⟨_, _, rfl, hown⟩
    · refine ⟨_, _, rfl, List.forall_mem_cons.2 ⟨Or.inr ?_, hown⟩⟩
      exact Text.isNumbered_freshName _ _ _ _

/-- A table that is placed is one of the tables that were. -/
theorem exists_of_mem_placeAll {source : SourceDialect} {d : TargetDialect} {synthetic : String}
    {n : Nat} {l : KeyedTables} {e : TableId × Table}
    (he : e ∈ (placeAll source d synthetic n l).tables) :
    ∃ e' ∈ l, ∃ k, e = (e'.1, (place source d synthetic k e'.1 e'.2).table) := by
  induction l generalizing n with
  | nil => cases he
  | cons e' l ih =>
    rcases List.mem_cons.1 he with rfl | he
    · exact ⟨e', List.mem_cons_self, n, rfl⟩
    · obtain ⟨e'', he'', hk⟩ := ih he
      exact ⟨e'', List.mem_cons_of_mem _ he'', hk⟩

/-- The second phase. -/
theorem exists_of_mem_keptIndexes {t : Table} {used : List String} {l : List Index} {i : Index}
    (hi : i ∈ keptIndexes (planIndexes t used l)) :
    ∃ j ∈ l, i.name = j.name ∨ IsNumbered (t.name ++ "_" ++ j.name) i.name := by
  induction l generalizing used with
  | nil => cases hi
  | cons j l ih =>
    obtain ⟨p, hp, hkept⟩ := List.mem_filterMap.1 hi
    rcases List.mem_cons.1 hp with rfl | hp
    · refine ⟨j, List.mem_cons_self, ?_⟩
      unfold planIndex at hkept
      split at hkept <;> cases hkept
      dsimp only
      split
      · exact Or.inr (Text.isNumbered_freshName _ _ _ _)
      · exact Or.inl rfl
    · obtain ⟨j', hj', hname⟩ := ih (List.mem_filterMap.2 ⟨p, hp, hkept⟩)
      exact ⟨j', List.mem_cons_of_mem _ hj', hname⟩

/-- A table with its indexes mapped is one of the tables, with other indexes. -/
theorem exists_of_mem_indexed {used : List String} {l : KeyedTables} {e : TableId × Table}
    (he : e ∈ (mapTableIndexes used l).1) : ∃ e' ∈ l, ∃ is, e = (e'.1, { e'.2 with indexes := is })
      ∧ ∀ i ∈ is, ∃ j ∈ e'.2.indexes,
        i.name = j.name ∨ IsNumbered (e'.2.name ++ "_" ++ j.name) i.name := by
  rw [mapTableIndexes_eq] at he
  obtain ⟨p, hp, rfl⟩ := List.mem_map.1 he
  clear he
  induction l generalizing used with
  | nil => cases hp
  | cons e' l ih =>
    rcases List.mem_cons.1 hp with rfl | hp
    · exact ⟨e', List.mem_cons_self, _, rfl, fun i hi => exists_of_mem_keptIndexes hi⟩
    · obtain ⟨e'', he'', hrest⟩ := ih hp
      exact ⟨e'', List.mem_cons_of_mem _ he'', hrest⟩

/-- The names of a mapped table by those of the table it was. -/
theorem exists_mappedNames {m : Model} (h : m.Sound) (synthetic : String) {e : TableId × Table}
    (he : e ∈ (map synthetic m).tables) : ∃ e' ∈ m.tables, MappedNames synthetic e'.2 e.2 := by
  rw [map_eq h synthetic] at he
  obtain ⟨e₂, he₂, rfl⟩ := List.mem_map.1 he
  obtain ⟨e₁, he₁, is, rfl, hindexes⟩ := exists_of_mem_indexed he₂
  obtain ⟨e', he', n, rfl⟩ := exists_of_mem_placeAll he₁
  obtain ⟨cs, keys, htable, hcolumns⟩ := place_names m.source m.target synthetic n e'.1 e'.2
  rw [htable] at hindexes
  rw [htable]
  refine ⟨e', he', rfl, hcolumns, hindexes, fun f hf => ?_, rfl⟩
  rw [keptKeys_eq] at hf
  obtain ⟨f', hf', rfl⟩ := List.mem_map.1 hf
  show f'.name ∈ e'.2.foreignKeys.map (·.name)
  exact List.mem_map_of_mem (List.mem_of_mem_filter hf')

end Mapper

/-- A table of a mapped model with the names of a draft and, where the draft has none or another table or
index has its name, names made of these. -/
structure Table.IsNamedFrom (synthetic : String) (d : TableDraft) (t : Table) : Prop where
  name : t.name = d.name ∨ IsNumbered (renamedBase d.nspace d.name) t.name
  columns : ∀ c ∈ t.columns, c.name ∈ d.columns.map (·.name) ∨ IsNumbered synthetic c.name
  indexes : ∀ i ∈ t.indexes, ∃ x ∈ d.indexes, (∀ k ∈ x.columns, d.HasColumn k.1)
    ∧ (i.name = Builder.indexName t x ∨ IsNumbered (t.name ++ "_" ++ Builder.indexName t x) i.name)
  foreignKeys : ∀ f ∈ t.foreignKeys, ∃ x ∈ d.foreignKeys, (∀ n ∈ x.columns, d.HasColumn n)
    ∧ f.name = Builder.foreignKeyName t x
  checks : ∀ c ∈ t.checks, c.expr.status = .unverified
    ∧ ∃ x ∈ d.checks, ∃ i, c.name = x.name.getD (madeCheckName t.name i)

/-- A table drawn from a draft is named from it after mapping. -/
theorem Table.IsDrawnFrom.mapped {synthetic : String} {d : TableDraft} {t t' : Table}
    (h : t.IsDrawnFrom d) (hm : Mapper.MappedNames synthetic t t') :
    t'.IsNamedFrom synthetic d := by
  refine ⟨?_, fun c hc => ?_, fun i hi => ?_, fun f hf => ?_, fun c hc => ?_⟩
  · rw [hm.name]
    exact h.name
  · rw [← h.columns]
    exact hm.columns c hc
  · obtain ⟨j, hj, hname⟩ := hm.indexes i hi
    obtain ⟨x, hx, hcolumns, hown⟩ := h.indexes j hj
    refine ⟨x, hx, hcolumns, ?_⟩
    unfold Builder.indexName at hown ⊢
    rw [hm.name, ← hown]
    exact hname
  · obtain ⟨f', hf', hname⟩ := List.mem_map.1 (hm.foreignKeys f hf)
    obtain ⟨x, hx, hcolumns, hown⟩ := h.foreignKeys f' hf'
    refine ⟨x, hx, hcolumns, ?_⟩
    unfold Builder.foreignKeyName at hown ⊢
    rw [hm.name, ← hname, hown]
  · rw [hm.checks] at hc
    rw [hm.name]
    exact h.checks c hc

/-- Every table of a model that is made of drafts and mapped comes from one of these. -/
theorem Builder.HasTablesDrawnFrom.exists_isNamedFrom {b : Builder} {ds : List TableDraft}
    (h : b.HasTablesDrawnFrom ds) (synthetic : String) :
    ∀ t ∈ (Mapper.map synthetic b.finish).tableList, ∃ d ∈ ds, t.IsNamedFrom synthetic d := by
  refine List.forall_mem_map.2 fun e he => ?_
  obtain ⟨e', he', hmapped⟩ := Mapper.exists_mappedNames h.sound.finish.1 synthetic he
  obtain ⟨d, hd, hfrom⟩ := h.finish he'
  exact ⟨d, hd, hfrom.mapped hmapped⟩

/-! ## Names that are refused for their length alone -/

namespace Identifier

/-- A null character is in a text. -/
def HasNull (s : String) : Prop := '\x00' ∈ s.toList

instance (s : String) : Decidable (HasNull s) := inferInstanceAs (Decidable ('\x00' ∈ s.toList))

/-- A name that is refused for its length or not at all. -/
structure IsSpelled (n : String) : Prop where
  nonempty : n.isEmpty = false
  noNull : ¬ HasNull n

/-- The refusal of a name for its length. -/
def tooLong (n : String) : ConvertError :=
  .config ("Identifier exceeds maximum length of " ++ Text.decimal maxLength ++ " characters: "
    ++ Text.quoted n)

/-- A name that is well spelled can be too long, and nothing else. -/
theorem IsSpelled.validate_eq {n : String} (h : IsSpelled n) :
    validate n = if n.length > maxLength then .error (tooLong n) else .ok () := by
  have hnull : n.toList.contains '\x00' = false := by
    simpa [HasNull] using h.noNull
  unfold validate
  rw [h.nonempty, hnull]
  rfl

/-- A name is accepted if it is well spelled and not too long. -/
theorem accepts_iff {n : String} : Accepts n ↔ IsSpelled n ∧ n.length ≤ maxLength := by
  constructor
  · intro h
    have hspelled : IsSpelled n := by
      unfold Accepts validate at h
      split at h
      · cases h
      · rename_i hempty
        split at h
        · cases h
        · rename_i hnull
          exact ⟨by simpa using hempty, by simpa [HasNull] using hnull⟩
    refine ⟨hspelled, ?_⟩
    unfold Accepts at h
    rw [hspelled.validate_eq] at h
    split at h
    · cases h
    · omega
  · rintro ⟨hspelled, hlength⟩
    unfold Accepts
    rw [hspelled.validate_eq, if_neg (by omega)]

/-- Two texts have a null character if one of them has. -/
theorem hasNull_append {a b : String} : HasNull (a ++ b) ↔ HasNull a ∨ HasNull b := by
  unfold HasNull
  rw [String.toList_append, List.mem_append]

/-- A number has no null character. -/
theorem not_hasNull_decimal (n : Nat) : ¬ HasNull (Text.decimal n) := by
  intro h
  unfold HasNull Text.decimal at h
  rw [String.toList_ofList] at h
  exact absurd (Text.isDigit_toDigits n _ h) (by decide)

/-- Names without null characters have none in a row. -/
theorem not_hasNull_intercalate {ns : List String} (h : ∀ n ∈ ns, ¬ HasNull n) :
    ¬ HasNull ("_".intercalate ns) := by
  intro hnull
  unfold HasNull at hnull
  rw [String.toList_intercalate] at hnull
  obtain hsign | ⟨l, hl, hmem⟩ := Text.mem_or_mem_of_mem_intercalate hnull
  · exact absurd hsign (by decide)
  · obtain ⟨n, hn, rfl⟩ := List.mem_map.1 hl
    exact h n hn hmem

/-- No other character becomes a null character in lower case. -/
theorem eq_null_of_toLower {c : Char} (h : c.toLower = '\x00') : c = '\x00' := by
  by_cases hupper : c.val ≥ 'A'.val ∧ c.val ≤ 'Z'.val
  · have hlow : 65 ≤ c.val.toNat := UInt32.le_iff_toNat_le.1 hupper.1
    have hhigh : c.val.toNat ≤ 90 := UInt32.le_iff_toNat_le.1 hupper.2
    have hnull := congrArg (fun c => c.val.toNat) ((dif_pos hupper).symm.trans h)
    have hval : (c.val.toNat + 32) % 2 ^ 32 = 0 := hnull
    omega
  · have hsame : c.toLower = c := dif_neg hupper
    exact hsame.symm.trans h

/-- Names that are the same up to the case of ASCII letters have a null character both or neither. -/
theorem hasNull_of_sameFolded {a b : String} (h : Text.sameFolded a b = true) (hb : HasNull b) :
    HasNull a := by
  have hfolded : Text.asciiFold a.toList = Text.asciiFold b.toList := Text.sameFolded_iff.1 h
  have hmem : '\x00' ∈ Text.asciiFold b.toList := List.mem_map.2 ⟨_, hb, by decide⟩
  rw [← hfolded] at hmem
  obtain ⟨c, hc, hlower⟩ := List.mem_map.1 hmem
  rw [eq_null_of_toLower hlower] at hc
  exact hc

namespace IsSpelled

variable {a b : String}

/-- A well-spelled name with more after it. -/
theorem append (ha : IsSpelled a) (hb : ¬ HasNull b) : IsSpelled (a ++ b) := by
  refine ⟨?_, fun h => (hasNull_append.1 h).elim ha.noNull hb⟩
  have hne := ha.nonempty
  rw [← Bool.not_eq_true, String.isEmpty_iff] at hne ⊢
  exact fun h => hne (String.append_eq_empty_iff.1 h).1

/-- A well-spelled name with a number after it. -/
theorem of_isNumbered (ha : IsSpelled a) (h : IsNumbered a b) : IsSpelled b := by
  rcases h with rfl | ⟨k, rfl⟩
  · exact ha
  · exact (ha.append (by decide)).append (not_hasNull_decimal k)

/-- A name that is given, or one that is made if none is. -/
theorem getD {given : Option String} (hgiven : ∀ n, given = some n → IsSpelled n)
    (hmade : IsSpelled a) : IsSpelled (given.getD a) := by
  cases given with
  | some n => exact hgiven n rfl
  | none => exact hmade

end IsSpelled

end Identifier

/-! ## Names that are made of declared ones -/

open Identifier (HasNull IsSpelled)

/-- The names that are declared in a draft. -/
def TableDraft.declaredNames (d : TableDraft) : List String :=
  d.nspace.toList ++ d.name :: (d.columns.map (·.name) ++ d.indexes.filterMap (·.name)
    ++ d.foreignKeys.filterMap (·.name) ++ d.checks.filterMap (·.name))

/-- The names that a draft declares, one kind after another. -/
theorem TableDraft.forall_mem_declaredNames {d : TableDraft} {P : String → Prop} :
    (∀ n ∈ d.declaredNames, P n) ↔ (∀ n, d.nspace = some n → P n) ∧ P d.name
      ∧ (∀ c ∈ d.columns, P c.name) ∧ (∀ x ∈ d.indexes, ∀ n, x.name = some n → P n)
      ∧ (∀ x ∈ d.foreignKeys, ∀ n, x.name = some n → P n)
      ∧ ∀ x ∈ d.checks, ∀ n, x.name = some n → P n := by
  unfold declaredNames
  simp only [List.forall_mem_append, List.forall_mem_cons, List.forall_mem_map, Option.mem_toList,
    List.mem_filterMap, forall_exists_index, and_imp]
  grind

/-- The name that a table gets if its own is taken. -/
theorem Identifier.IsSpelled.renamedBase {nspace : Option String} {name : String}
    (hspace : ∀ n, nspace = some n → IsSpelled n) (hname : IsSpelled name) :
    IsSpelled (SchemaBridge.renamedBase nspace name) := by
  cases nspace with
  | none => exact hname.append (by decide)
  | some ns => exact ((hspace ns rfl).append (by decide)).append hname.noNull

/-- Columns that were found in a draft by their names, one behind the other. -/
theorem TableDraft.not_hasNull_join {d : TableDraft} (hcolumns : ∀ c ∈ d.columns, IsSpelled c.name)
    {ns : List String} (hns : ∀ n ∈ ns, d.HasColumn n) : ¬ HasNull ("_".intercalate ns) := by
  refine Identifier.not_hasNull_intercalate fun n hn hnull => ?_
  obtain ⟨c, hc, hfolded⟩ := hns n hn
  exact (hcolumns c hc).noNull (Identifier.hasNull_of_sameFolded hfolded hnull)

/-- Names of a table that comes from a draft are refused for their length alone. -/
theorem Table.IsNamedFrom.isSpelled {synthetic : String} {d : TableDraft} {t : Table}
    (h : t.IsNamedFrom synthetic d) (hd : ∀ n ∈ d.declaredNames, IsSpelled n)
    (hsynthetic : IsSpelled synthetic) : ∀ n ∈ t.nameList, IsSpelled n := by
  obtain ⟨hspace, hname, hcolumns, hindexes, hkeys, hchecks⟩ :=
    TableDraft.forall_mem_declaredNames.1 hd
  have hown : IsSpelled t.name := h.name.elim (fun heq => heq ▸ hname) fun hmade =>
    (IsSpelled.renamedBase hspace hname).of_isNumbered hmade
  unfold nameList
  simp only [List.forall_mem_cons, List.forall_mem_append, List.forall_mem_map]
  refine ⟨hown, ⟨⟨⟨fun c hc => ?_, fun i hi => ?_⟩, fun f hf => ?_⟩, fun c hc => ?_⟩⟩
  · refine (h.columns c hc).elim (fun hmem => ?_) fun hmade => hsynthetic.of_isNumbered hmade
    obtain ⟨x, hx, heq⟩ := List.mem_map.1 hmem
    exact heq ▸ hcolumns x hx
  · obtain ⟨x, hx, hresolved, hi⟩ := h.indexes i hi
    have hjoined := TableDraft.not_hasNull_join hcolumns (List.forall_mem_map.2 hresolved)
    have hkind : ¬ HasNull (if x.unique then "key" else "idx") := by
      cases x.unique <;> decide
    have hindex : IsSpelled (Builder.indexName t x) := IsSpelled.getD (hindexes x hx)
      ((((hown.append (by decide)).append hjoined).append (by decide)).append hkind)
    -- an index whose name is taken gets that of its table before its own
    refine hi.elim (fun heq => heq ▸ hindex) fun hmade => IsSpelled.of_isNumbered ?_ hmade
    exact (hown.append (by decide)).append hindex.noNull
  · obtain ⟨x, hx, hresolved, hf⟩ := h.foreignKeys f hf
    have hfk : IsSpelled "fk_" := ⟨rfl, by decide⟩
    have hmade := ((hfk.append hown.noNull).append (b := "_") (by decide)).append
      (TableDraft.not_hasNull_join hcolumns hresolved)
    exact hf ▸ IsSpelled.getD (hkeys x hx) hmade
  · obtain ⟨-, x, hx, i, hc⟩ := h.checks c hc
    have hmade : IsSpelled (madeCheckName t.name i) :=
      (hown.append (by decide)).append (Identifier.not_hasNull_decimal _)
    exact hc ▸ IsSpelled.getD (hchecks x hx) hmade

/-! ## Scripts of models that are made of drafts -/

namespace Ddl

/-- Every name of a table is in a statement, unless a check was rejected. -/
theorem mem_names_of_mem_nameList {m : Model} {t : Table} (ht : t ∈ m.tableList)
    (hrefers : t.RefersIn m.tables) (hchecks : ∀ c ∈ t.checks, c.expr.status ≠ .rejected) {n : String}
    (hn : n ∈ t.nameList) : n ∈ (parts m).flatMap Part.names := by
  have htable : ∀ {n}, n ∈ tableNames t → n ∈ (parts m).flatMap Part.names := fun hn =>
    List.mem_flatMap.2 ⟨_, mem_parts_table ht, hn⟩
  unfold tableNames writtenChecks at htable
  rw [List.filter_eq_self.2 fun c hc => decide_eq_true (hchecks c hc)] at htable
  unfold Table.nameList at hn
  simp only [List.mem_cons, List.mem_append] at hn htable
  obtain rfl | ((hn | hn) | hn) | hn := hn
  · exact htable (Or.inl rfl)
  · exact htable (Or.inr (Or.inl (Or.inl hn)))
  · obtain ⟨i, hi, rfl⟩ := List.mem_map.1 hn
    have hpart := (precedes_index ht hi).subset (List.mem_cons_of_mem _ List.mem_cons_self)
    exact List.mem_flatMap.2 ⟨_, hpart, List.mem_cons_self⟩
  · obtain ⟨f, hf, rfl⟩ := List.mem_map.1 hn
    obtain ⟨parent, hparent, -⟩ := (hrefers.foreignKeys f hf).parent
    have hpart : .foreignKey t parent f ∈ parts m := List.mem_append_right _
      (List.mem_flatMap.2 ⟨t, ht, mem_keyParts.2 ⟨f, hf, parent, hparent, rfl⟩⟩)
    exact List.mem_flatMap.2 ⟨_, hpart, List.mem_cons_of_mem _ List.mem_cons_self⟩
  · exact htable (Or.inr (Or.inl (Or.inr hn)))

/-- The script of a model whose tables come from drafts is there unless a name is too long, and then
this is one that was made. -/
structure FailsForLength (dialect : TargetDialect) (synthetic : String) (ds : List TableDraft)
    (m : Model) : Prop where
  names : ∀ t ∈ m.tableList, ∃ d ∈ ds, t.IsNamedFrom synthetic d
  script : (∃ ss, statements dialect m = .ok ss)
    ↔ ∀ t ∈ m.tableList, ∀ n ∈ t.nameList, n.length ≤ Identifier.maxLength
  refusal : ∀ e, statements dialect m = .error e → ∃ t ∈ m.tableList, ∃ n ∈ t.nameList,
    (∀ d ∈ ds, n ∉ d.declaredNames) ∧ n ≠ synthetic ∧ Identifier.maxLength < n.length
      ∧ e = Identifier.tooLong n

/-- Where names can be refused for their length alone, a refusal names one that is too long. -/
theorem exists_tooLong_of_error {m : Model} {dialect : TargetDialect}
    (hspelled : ∀ t ∈ m.tableList, ∀ n ∈ t.nameList, IsSpelled n) {e : ConvertError}
    (he : statements dialect m = .error e) : ∃ t ∈ m.tableList, ∃ n ∈ t.nameList,
      Identifier.maxLength < n.length ∧ e = Identifier.tooLong n := by
  obtain ⟨n, hn, hrefused⟩ := (statements_writes m dialect).exists_of_error he
  obtain ⟨p, hp, hn⟩ := List.mem_flatMap.1 hn
  obtain ⟨t, ht, hmem | rfl⟩ := exists_knows_of_mem_parts hp hn
  · rw [(hspelled t ht n hmem).validate_eq] at hrefused
    split at hrefused
    · exact ⟨t, ht, n, hmem, ‹_›, (Except.error.inj hrefused).symm⟩
    · cases hrefused
  · -- what stands for a column that is not there is accepted
    have haccepts : Identifier.Accepts "?" := by decide
    cases hrefused.symm.trans haccepts

/-- **Names that are made are refused for their length alone.**  From tables all of whose declared names
are accepted, and with an accepted name for keys that have to be added, whatever happens to tables
whose names are taken, comes a mapped model all of whose names are declared ones or made of these.  It
has a script in every dialect just when none of them is too long. -/
theorem statements_addDrafts {source : SourceDialect} {target : TargetDialect}
    {policy : CollisionPolicy} {audit : Audit} {ds : List TableDraft} {b : Builder}
    (hr : (Builder.start source target policy audit).addDrafts ds = .ok b) {synthetic : String}
    (hdeclared : ∀ d ∈ ds, ∀ n ∈ d.declaredNames, Identifier.Accepts n)
    (hsynthetic : Identifier.Accepts synthetic) (dialect : TargetDialect) :
    FailsForLength dialect synthetic ds (Mapper.map synthetic b.finish) := by
  have hdrawn := (Builder.HasTablesDrawnFrom.start source target policy audit).addDrafts hr
  rw [List.nil_append] at hdrawn
  obtain ⟨hsound, -⟩ := hdrawn.sound.finish
  have hnames := hdrawn.exists_isNamedFrom synthetic
  set m := Mapper.map synthetic b.finish with hm
  have hspelled : ∀ t ∈ m.tableList, ∀ n ∈ t.nameList, IsSpelled n := by
    intro t ht
    obtain ⟨d, hd, hfrom⟩ := hnames t ht
    exact hfrom.isSpelled (fun n hn => (Identifier.accepts_iff.1 (hdeclared d hd n hn)).1)
      (Identifier.accepts_iff.1 hsynthetic).1
  have hshort : ∀ {n}, Identifier.Accepts n → ¬ Identifier.maxLength < n.length :=
    fun haccepts => Nat.not_lt.2 (Identifier.accepts_iff.1 haccepts).2
  refine ⟨hnames, ⟨fun ⟨ss, hss⟩ t ht n hn => ?_, fun hlength => ?_⟩, fun e he => ?_⟩
  · -- no check was rejected, so the name is in a statement
    obtain ⟨d, -, hfrom⟩ := hnames t ht
    have hchecks : ∀ c ∈ t.checks, c.expr.status ≠ .rejected := fun c hc hrejected => by
      cases hrejected.symm.trans (hfrom.checks c hc).1
    obtain ⟨e, he, rfl⟩ := List.mem_map.1 ht
    have hrefers := (Mapper.sound_map hsound synthetic).refers e he
    have hmem := mem_names_of_mem_nameList ht hrefers hchecks hn
    exact (Identifier.accepts_iff.1 (((statements_writes m dialect).eq_ok_iff.1 hss).1 n hmem)).2
  · refine ⟨_, statements_eq (fun t ht => t.hasAcceptedNames_iff_nameList.2 fun n hn => ?_) dialect⟩
    exact Identifier.accepts_iff.2 ⟨hspelled t ht n hn, hlength t ht n hn⟩
  · obtain ⟨t, ht, n, hn, hlong, rfl⟩ := exists_tooLong_of_error hspelled he
    exact ⟨t, ht, n, hn, fun d hd hmem => hshort (hdeclared d hd n hmem) hlong,
      fun heq => hshort (heq ▸ hsynthetic) hlong, hlong, rfl⟩

/-- A table with an index without a name. -/
def unnamedDraft (name column : String) : TableDraft :=
  { TableDraft.empty none name with
    columns := [.plain column ⟨"integer", [], [], 0, "integer"⟩]
    indexes := [⟨none, [(column, false)], true⟩] }

/-- That table in a builder. -/
def unnamedBuilder (name column : String) : Builder :=
  ((Builder.start .postgres .google .rename default).addTable (unnamedDraft name column)).2

theorem statements_addDrafts_unnamedDraft :
    (Builder.start .postgres .google .rename default).addDrafts [unnamedDraft "t" "a"]
        = .ok (unnamedBuilder "t" "a")
      ∧ (∀ d ∈ [unnamedDraft "t" "a"], ∀ n ∈ d.declaredNames, Identifier.Accepts n)
      ∧ Identifier.Accepts "id"
      ∧ FailsForLength .google "id" [unnamedDraft "t" "a"]
        (Mapper.map "id" (unnamedBuilder "t" "a").finish) := by
  have hr : (Builder.start .postgres .google .rename default).addDrafts [unnamedDraft "t" "a"]
      = .ok (unnamedBuilder "t" "a") := by rfl
  have hdeclared : ∀ d ∈ [unnamedDraft "t" "a"], ∀ n ∈ d.declaredNames, Identifier.Accepts n := by
    decide
  have hsynthetic : Identifier.Accepts "id" := by decide
  exact ⟨hr, hdeclared, hsynthetic, statements_addDrafts hr hdeclared hsynthetic .google⟩

/-- A name that is half as long as one may be. -/
def halfName (c : Char) : String := String.ofList (List.replicate (Identifier.maxLength / 2) c)

/-- Two names of half the length are accepted, and the one that is made of them is not. -/
theorem refused_unnamedDraft :
    (Builder.start .postgres .google .rename default).addDrafts
        [unnamedDraft (halfName 't') (halfName 'a')]
        = .ok (unnamedBuilder (halfName 't') (halfName 'a'))
      ∧ (∀ n ∈ (unnamedDraft (halfName 't') (halfName 'a')).declaredNames, Identifier.Accepts n)
      ∧ Identifier.Accepts "id"
      ∧ statements .google (Mapper.map "id" (unnamedBuilder (halfName 't') (halfName 'a')).finish)
        = .error (Identifier.tooLong (halfName 't' ++ "_" ++ halfName 'a' ++ "_key")) := by
  refine ⟨by rfl, ?_, by decide, ?_⟩
  all_goals decide +kernel

end Ddl

end SchemaBridge
