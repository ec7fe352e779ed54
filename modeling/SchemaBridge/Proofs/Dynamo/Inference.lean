/-
# What is inferred of a sample

A type leads the values of an attribute if it is the most frequent of them and a large enough share of
them has it.  There is one such type at most, and where there is one it is found; otherwise the attribute
is a string and that is said.  Shares are rounded, but not so that it matters: in every sample that is
not too large the type that leads is the one that dominates, which nine tenths of the values have.  Only
how often each type occurs counts, so the order of the items makes no difference.

## Key statements

* `leads_iff_dominates`: the type that leads has nine tenths of the values.
* `inferType_spec`: the type that is found for some values.
* `hasType_iff`: the type that an attribute gets.
* `readTable_resampled`: a sample in another order.
-/
import Mathlib.Data.String.Basic
import Mathlib.Data.List.Perm.Basic
import Mathlib.Data.List.Nodup
import SchemaBridge.Dynamo.Reader
import SchemaBridge.Proofs.Dynamo.Share

namespace SchemaBridge.Dynamo

/-! ## Sets of names -/

/-- Names go into a list in ascending order at their place. -/
theorem pairwise_insertName {l : List String} (h : l.Pairwise (· < ·)) (n : String) :
    (insertName n l).Pairwise (· < ·) := by
  induction l with
  | nil => exact List.pairwise_singleton _ _
  | cons m l ih =>
    obtain ⟨hhead, htail⟩ := List.pairwise_cons.1 h
    unfold insertName
    split
    · rename_i hlt
      refine List.pairwise_cons.2 ⟨?_, h⟩
      intro k hk
      rcases List.mem_cons.1 hk with rfl | hk
      · exact hlt
      · exact lt_trans hlt (hhead k hk)
    split
    · exact h
    · rename_i hnot hne
      refine List.pairwise_cons.2 ⟨?_, ih htail⟩
      intro k hk
      rcases (mem_insertName n k l).1 hk with rfl | hk
      · exact lt_of_le_of_ne (not_lt.1 hnot) (Ne.symm hne)
      · exact hhead k hk

/-- The names of a list stand in ascending order. -/
theorem pairwise_nameSet (ns : List String) : (nameSet ns).Pairwise (· < ·) := by
  induction ns with
  | nil => exact List.Pairwise.nil
  | cons n ns ih => exact pairwise_insertName ih n

/-- No name is listed twice. -/
theorem nodup_nameSet (ns : List String) : (nameSet ns).Nodup :=
  (pairwise_nameSet ns).imp fun h => ne_of_lt h

/-- Lists with the same names have the same set of them. -/
theorem nameSet_congr {ns ns' : List String} (h : ∀ n, n ∈ ns ↔ n ∈ ns') :
    nameSet ns = nameSet ns' := by
  have hperm : (nameSet ns).Perm (nameSet ns') :=
    (List.perm_ext_iff_of_nodup (nodup_nameSet ns) (nodup_nameSet ns')).2 fun n => by
      rw [mem_nameSet, mem_nameSet, h n]
  exact hperm.eq_of_pairwise (fun a b _ _ hab hba => absurd hab (lt_asymm hba))
    (pairwise_nameSet ns) (pairwise_nameSet ns')

/-! ## Types that lead -/

/-- A type is the most frequent one of some values, or the first of several that are. -/
structure IsTop (type : String) (types : List String) : Prop where
  mem : type ∈ types
  most : ∀ other ∈ types, types.count other < types.count type
    ∨ (types.count other = types.count type ∧ type ≤ other)

/-- The most frequent type leads if enough of the values have it. -/
structure Leads (type : String) (types : List String) : Prop where
  top : IsTop type types
  share : isShare (types.count type) types.length = true

/-- Nine tenths of some values have a type. -/
def Dominates (type : String) (types : List String) : Prop :=
  type ∈ types ∧ 9 * types.length ≤ 10 * types.count type

/-- Two different types share the values. -/
theorem count_add_count_le (types : List String) {a b : String} (h : a ≠ b) :
    types.count a + types.count b ≤ types.length := by
  induction types with
  | nil => exact Nat.le_refl 0
  | cons t types ih =>
    rw [List.count_cons, List.count_cons, List.length_cons]
    simp only [beq_iff_eq]
    split
    · rename_i ha
      have hb : ¬ t = b := fun hb => h (ha.symm.trans hb)
      rw [if_neg hb]
      omega
    · split <;> omega

/-- No two types are the first of the most frequent ones. -/
theorem IsTop.unique {a b : String} {types : List String} (ha : IsTop a types) (hb : IsTop b types) :
    a = b := by
  rcases ha.most b hb.mem with hless | ⟨hsame, hab⟩
  · rcases hb.most a ha.mem with hmore | ⟨hsame, -⟩ <;> omega
  · rcases hb.most a ha.mem with hmore | ⟨-, hba⟩
    · omega
    · exact le_antisymm hab hba

/-- **The type that leads has nine tenths of the values**, and a type that has them leads, in every
sample that is not too large. -/
theorem leads_iff_dominates {types : List String} (h : types.length ≤ exactSample) (type : String) :
    Leads type types ↔ Dominates type types := by
  have hshare (hmem : type ∈ types) :=
    isShare_iff_nine_tenths (List.count_pos_iff.2 hmem) List.count_le_length h
  constructor
  · intro hleads
    exact ⟨hleads.top.mem, (hshare hleads.top.mem).1 hleads.share⟩
  · rintro ⟨hmem, hnine⟩
    refine ⟨⟨hmem, fun other hother => ?_⟩, (hshare hmem).2 hnine⟩
    by_cases heq : other = type
    · exact Or.inr ⟨by rw [heq], le_of_eq heq.symm⟩
    · have hboth := count_add_count_le types heq
      have hsome := List.count_pos_iff.2 hother
      exact Or.inl (by omega)

/-! ## The type that is found -/

/-- Of entries in ascending order the first of the greatest ones is left. -/
theorem foldl_moreFrequent (first : String × Nat) (rest : List (String × Nat))
    (h : (first :: rest).Pairwise (·.1 < ·.1)) :
    rest.foldl moreFrequent first ∈ first :: rest
      ∧ ∀ e ∈ first :: rest, e.2 < (rest.foldl moreFrequent first).2
        ∨ (e.2 = (rest.foldl moreFrequent first).2 ∧ (rest.foldl moreFrequent first).1 ≤ e.1) := by
  induction rest generalizing first with
  | nil =>
    exact ⟨List.mem_singleton_self _, List.forall_mem_singleton.2 (Or.inr ⟨rfl, le_refl _⟩)⟩
  | cons next rest ih =>
    obtain ⟨hfirst, hrest⟩ := List.pairwise_cons.1 h
    have hlt : first.1 < next.1 := hfirst next List.mem_cons_self
    -- of two that are equally frequent the earlier one stays
    by_cases hless : first.2 < next.2
    · have hstep : moreFrequent first next = next := if_pos hless
      rw [List.foldl_cons, hstep]
      obtain ⟨hmem, hmost⟩ := ih next hrest
      refine ⟨List.mem_cons_of_mem _ hmem, List.forall_mem_cons.2 ⟨Or.inl ?_, hmost⟩⟩
      rcases hmost next List.mem_cons_self with hnext | ⟨hnext, -⟩ <;> omega
    · have hstep : moreFrequent first next = first := if_neg hless
      rw [List.foldl_cons, hstep]
      obtain ⟨-, htail⟩ := List.pairwise_cons.1 hrest
      obtain ⟨hmem, hmost⟩ := ih first
        (List.pairwise_cons.2 ⟨fun e he => hfirst e (List.mem_cons_of_mem _ he), htail⟩)
      obtain ⟨hhead, hothers⟩ := List.forall_mem_cons.1 hmost
      refine ⟨?_, List.forall_mem_cons.2 ⟨hhead, List.forall_mem_cons.2 ⟨?_, hothers⟩⟩⟩
      · rcases List.mem_cons.1 hmem with heq | hmem
        · rw [heq]
          exact List.mem_cons_self
        · exact List.mem_cons_of_mem _ (List.mem_cons_of_mem _ hmem)
      · rcases hhead with hhead | ⟨hhead, hbefore⟩
        · exact Or.inl (by omega)
        · by_cases hsame : next.2 = first.2
          · exact Or.inr ⟨hsame.trans hhead, le_of_lt (lt_of_le_of_lt hbefore hlt)⟩
          · exact Or.inl (by omega)

/-- The entries of a tally stand in the order of their types. -/
theorem pairwise_tally (types : List String) : (tally types).Pairwise (·.1 < ·.1) :=
  (pairwise_nameSet types).map _ fun _ _ h => h

/-- Each type is counted as often as it occurs. -/
theorem mem_tally {types : List String} {e : String × Nat} :
    e ∈ tally types ↔ e.1 ∈ types ∧ e.2 = types.count e.1 := by
  unfold tally
  rw [List.mem_map]
  constructor
  · rintro ⟨t, ht, rfl⟩
    exact ⟨(mem_nameSet t types).1 ht, rfl⟩
  · rintro ⟨ht, hcount⟩
    exact ⟨e.1, (mem_nameSet e.1 types).2 ht, Prod.ext rfl hcount.symm⟩

/-- Nothing is counted if there is nothing. -/
theorem tally_eq_nil_iff {types : List String} : tally types = [] ↔ types = [] := by
  constructor
  · intro h
    refine List.eq_nil_iff_forall_not_mem.2 fun t ht => ?_
    have hmem : (t, types.count t) ∈ tally types := mem_tally.2 ⟨ht, rfl⟩
    rw [h] at hmem
    cases hmem
  · rintro rfl
    rfl

/-- What is found for some values: the type that leads them, or that there is none. -/
inductive Finds (types : List String) : Inferred → Prop
  | dominant {type : String} (h : Leads type types) : Finds types (.dominant type)
  | mixed (hsome : types ≠ []) (hnone : ∀ type, ¬ Leads type types) :
      Finds types (.mixed (tally types))
  | unknown (hnull : types = []) : Finds types .unknown

/-- It is one thing that is found. -/
theorem Finds.unique {types : List String} {found found' : Inferred} (h : Finds types found)
    (h' : Finds types found') : found = found' := by
  cases h with
  | dominant h =>
    cases h' with
    | dominant h' => rw [h.top.unique h'.top]
    | mixed _ hnone => exact absurd h (hnone _)
    | unknown hnull => exact absurd hnull (List.ne_nil_of_mem h.top.mem)
  | mixed hsome hnone =>
    cases h' with
    | dominant h' => exact absurd h' (hnone _)
    | mixed => rfl
    | unknown hnull => exact absurd hnull hsome
  | unknown hnull =>
    cases h' with
    | dominant h' => exact absurd hnull (List.ne_nil_of_mem h'.top.mem)
    | mixed hsome _ => exact absurd hnull hsome
    | unknown => rfl

/-- The type that leads is found. -/
theorem inferType_spec (types : List String) : Finds types (inferType types) := by
  unfold inferType
  split
  · rename_i hnil
    exact .unknown (tally_eq_nil_iff.1 hnil)
  · rename_i first rest htally
    obtain ⟨hmem, hmost⟩ := foldl_moreFrequent first rest (htally ▸ pairwise_tally types)
    rw [← htally] at hmem hmost
    obtain ⟨htop, hcount⟩ := mem_tally.1 hmem
    generalize rest.foldl moreFrequent first = top at htop hcount hmost
    have hfirst : IsTop top.1 types := ⟨htop, fun other hother =>
      hcount ▸ hmost (other, types.count other) (mem_tally.2 ⟨hother, rfl⟩)⟩
    dsimp only
    split
    · rename_i hshare
      exact .dominant ⟨hfirst, hcount ▸ hshare⟩
    · rename_i hshare
      rw [← htally]
      refine .mixed (List.ne_nil_of_mem htop) fun type hleads => hshare ?_
      rw [hcount, ← hleads.top.unique hfirst]
      exact hleads.share

/-! ## The type of an attribute -/

/-- What is said of an attribute that has values of several types. -/
def mixedDetail (t : TableExport) (name : String) : String :=
  "Attribute " ++ t.name ++ "." ++ name ++ " has mixed types in the sample ("
    ++ describeCounts (tally (sampledTypes name t.items)) ++ "); mapped as string."

/-- What is said of an attribute that has no values. -/
def unknownDetail (t : TableExport) (name : String) : String :=
  "Attribute " ++ t.name ++ "." ++ name ++ " is only null in the sample; mapped as string."

/-- The type of an attribute, with what is said if it is not known: the one of its last definition,
else the one that wins its values, else a string. -/
inductive HasType (Wins : String → List String → Prop) (t : TableExport) (name : String) :
    String → Option String → Prop
  | declared {before after : List AttributeDefinition} {d : AttributeDefinition}
      (h : t.definitions = before ++ d :: after) (hname : d.name = name)
      (hlast : ∀ e ∈ after, e.name ≠ name) : HasType Wins t name d.type none
  | dominant (hfree : ∀ d ∈ t.definitions, d.name ≠ name) {type : String}
      (h : Wins type (sampledTypes name t.items)) : HasType Wins t name type none
  | mixed (hfree : ∀ d ∈ t.definitions, d.name ≠ name) (hsome : sampledTypes name t.items ≠ [])
      (hnone : ∀ type, ¬ Wins type (sampledTypes name t.items)) :
      HasType Wins t name "S" (some (mixedDetail t name))
  | unknown (hfree : ∀ d ∈ t.definitions, d.name ≠ name) (hnull : sampledTypes name t.items = []) :
      HasType Wins t name "S" (some (unknownDetail t name))

/-- In a sample that is not too large the type that leads is the one that dominates. -/
theorem HasType.dominates {t : TableExport} {name type : String} {doubt : Option String}
    (h : HasType Leads t name type doubt) (hsize : t.items.length ≤ exactSample) :
    HasType Dominates t name type doubt := by
  have hfew : (sampledTypes name t.items).length ≤ exactSample :=
    Nat.le_trans (List.length_filterMap_le _ _) hsize
  have hleads := leads_iff_dominates hfew
  cases h with
  | declared hds hname hlast => exact .declared hds hname hlast
  | dominant hfree h => exact .dominant hfree ((hleads _).1 h)
  | mixed hfree hsome hnone => exact .mixed hfree hsome fun type h => hnone type ((hleads type).2 h)
  | unknown hfree hnull => exact .unknown hfree hnull

namespace TableExport

variable {t : TableExport} {name : String}

/-- Of several definitions the last one counts. -/
theorem declaredType?_of_last {before after : List AttributeDefinition} {d : AttributeDefinition}
    (h : t.definitions = before ++ d :: after) (hname : d.name = name)
    (hlast : ∀ e ∈ after, e.name ≠ name) : t.declaredType? name = some d.type := by
  have hafter : after.reverse.find? (fun d => d.name = name) = none := by
    refine List.find?_eq_none.2 fun e he => ?_
    simpa using hlast e (List.mem_reverse.1 he)
  unfold declaredType?
  rw [h, List.reverse_append, List.reverse_cons, List.append_assoc, List.find?_append, hafter]
  simp [hname]

/-- Without a definition no type is declared. -/
theorem declaredType?_of_free (hfree : ∀ d ∈ t.definitions, d.name ≠ name) :
    t.declaredType? name = none := by
  unfold declaredType?
  rw [Option.map_eq_none_iff, List.find?_eq_none]
  intro d hd
  simpa using hfree d (List.mem_reverse.1 hd)

/-- An attribute has a last definition or none. -/
theorem exists_last_or_free (t : TableExport) (name : String) :
    (∃ before d after, t.definitions = before ++ d :: after ∧ d.name = name
      ∧ ∀ e ∈ after, e.name ≠ name) ∨ ∀ d ∈ t.definitions, d.name ≠ name := by
  induction t.definitions with
  | nil => exact Or.inr (List.forall_mem_nil _)
  | cons d ds ih =>
    rcases ih with ⟨before, e, after, hds, hname, hlast⟩ | hfree
    · exact Or.inl ⟨d :: before, e, after, by rw [hds, List.cons_append], hname, hlast⟩
    · by_cases hd : d.name = name
      · exact Or.inl ⟨[], d, ds, rfl, hd, hfree⟩
      · exact Or.inr (List.forall_mem_cons.2 ⟨hd, hfree⟩)

end TableExport

/-- Without a definition the type is what is found in the sample. -/
theorem attributeType_of_free {t : TableExport} {name : String}
    (hfree : ∀ d ∈ t.definitions, d.name ≠ name) {found : Inferred}
    (h : Finds (sampledTypes name t.items) found) : t.attributeType name = match found with
      | .dominant type => (type, none)
      | .mixed counts => ("S", some ("Attribute " ++ t.name ++ "." ++ name
        ++ " has mixed types in the sample (" ++ describeCounts counts ++ "); mapped as string."))
      | .unknown => ("S", some (unknownDetail t name)) := by
  unfold TableExport.attributeType
  rw [TableExport.declaredType?_of_free hfree, (inferType_spec _).unique h]
  cases found <;> rfl

/-- Every attribute has one type, and it is the one that is found for it. -/
theorem hasType_iff {t : TableExport} {name type : String} {doubt : Option String} :
    HasType Leads t name type doubt ↔ t.attributeType name = (type, doubt) := by
  constructor
  · intro h
    cases h with
    | declared hds hname hlast =>
      unfold TableExport.attributeType
      rw [TableExport.declaredType?_of_last hds hname hlast]
    | dominant hfree h => exact attributeType_of_free hfree (.dominant h)
    | mixed hfree hsome hnone => exact attributeType_of_free hfree (.mixed hsome hnone)
    | unknown hfree hnull => exact attributeType_of_free hfree (.unknown hnull)
  · intro h
    rcases t.exists_last_or_free name with ⟨before, d, after, hds, hname, hlast⟩ | hfree
    · unfold TableExport.attributeType at h
      rw [TableExport.declaredType?_of_last hds hname hlast] at h
      cases h
      exact .declared hds hname hlast
    · -- without a declared type it is the sample that decides, in one of three ways
      have hfinds := inferType_spec (sampledTypes name t.items)
      rw [attributeType_of_free hfree hfinds] at h
      generalize inferType (sampledTypes name t.items) = found at hfinds h
      cases hfinds with
      | dominant hleads =>
        cases h
        exact .dominant hfree hleads
      | mixed hsome hnone =>
        cases h
        exact .mixed hfree hsome hnone
      | unknown hnull =>
        cases h
        exact .unknown hfree hnull

/-! ## Samples in another order -/

/-- Names are sampled in one order, whatever that of the items. -/
theorem sampledNames_perm {items items' : List Item} (h : items'.Perm items) :
    sampledNames items' = sampledNames items :=
  nameSet_congr fun _ => (h.flatMap_right _).mem_iff

/-- Types are sampled as often, whatever the order of the items. -/
theorem sampledTypes_perm {items items' : List Item} (h : items'.Perm items) (name : String) :
    (sampledTypes name items').Perm (sampledTypes name items) :=
  h.filterMap _

/-- Only how often each type occurs counts. -/
theorem inferType_perm {types types' : List String} (h : types'.Perm types) :
    inferType types' = inferType types := by
  have htally : tally types' = tally types := by
    unfold tally
    rw [nameSet_congr fun _ => h.mem_iff]
    exact List.map_congr_left fun t _ => congrArg (Prod.mk t) (h.count_eq t)
  unfold inferType
  rw [htally, h.length_eq]

namespace TableExport

/-- A table with its sample in another order. -/
def Resampled (t t' : TableExport) : Prop :=
  ∃ items, items.Perm t.items ∧ t' = { t with items }

variable {t t' : TableExport}

/-- The type of an attribute does not depend on the order of the sample. -/
theorem attributeType_resampled (h : t.Resampled t') : t'.attributeType = t.attributeType := by
  obtain ⟨items, hperm, rfl⟩ := h
  funext name
  have htypes := inferType_perm (sampledTypes_perm hperm name)
  unfold attributeType
  dsimp only
  rw [htypes]
  rfl

theorem attributeOrder_resampled (h : t.Resampled t') : t'.attributeOrder = t.attributeOrder := by
  obtain ⟨items, hperm, rfl⟩ := h
  unfold attributeOrder
  dsimp only
  rw [sampledNames_perm hperm]

/-- The table is described in the same way. -/
theorem draft_resampled (h : t.Resampled t') : t'.draft = t.draft := by
  have htypes := attributeType_resampled h
  have horder := attributeOrder_resampled h
  obtain ⟨items, -, rfl⟩ := h
  have hcolumns : columnDraft { t with items } = columnDraft t := by
    funext name
    unfold columnDraft
    rw [htypes]
  unfold draft
  rw [horder, hcolumns]

theorem ambiguities_resampled (h : t.Resampled t') : t'.ambiguities = t.ambiguities := by
  unfold ambiguities
  rw [attributeOrder_resampled h, attributeType_resampled h]

end TableExport

/-- So it is read in the same way. -/
theorem readTable_resampled {t t' : TableExport} (h : t.Resampled t') (b : Builder) :
    readTable b t' = readTable b t := by
  have hdraft := TableExport.draft_resampled h
  have hdoubts := TableExport.ambiguities_resampled h
  obtain ⟨items, -, rfl⟩ := h
  unfold readTable
  rw [hdraft, hdoubts]
  rfl

end SchemaBridge.Dynamo
