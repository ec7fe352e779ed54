/-
# Maps and whole models read back

The tables of a model and its issue counts are objects whose fields are ordered by their text, so
they come back in another order than they were written in.  The decoders put them into the order of
the identifiers and of the categories again, which is the one the model had.

## Key statements

* `decodeTables_encodeTables`, `decodeCounts_encodeCounts`: maps come back in their own order.
* `decodeModel_encodeModel`: a model with all its parts.
-/
import SchemaBridge.Proofs.Schema.Moment
import SchemaBridge.Proofs.Session.Parts

namespace SchemaBridge

/-- Counts in the order of their categories. -/
structure FitsCounts (counts : List (IssueCategory × Nat)) : Prop where
  ordered : (counts.map (·.1)).Sublist IssueCategory.all
  word64 : ∀ e ∈ counts, FitsWord64 e.2

/-- The numbers of some metadata are such as sessions hold. -/
structure Audit.Fits (a : Audit) : Prop where
  bytesRead : FitsWord64 a.bytesRead
  startedAt : a.startedAt.Fits
  completedAt : ∀ i, a.completedAt = some i → i.Fits
  durationMs : ∀ n, a.durationMs = some n → FitsWord64 n
  verificationRuns : FitsWord32 a.verificationRuns
  issueCounts : FitsCounts a.issueCounts

/-- What the types of a model's fields promise: numbers within the words that hold them, moments of
the calendar, and maps in the order of their keys.  Nothing is asked of its texts. -/
structure Model.Fits (m : Model) : Prop where
  ordered : (m.tables.map (·.1.val)).Pairwise (· < ·)
  keys : ∀ e ∈ m.tables, FitsWord32 e.1.val
  tables : ∀ e ∈ m.tables, e.2.Fits
  issues : ∀ i ∈ m.issues, i.target.Fits
  audit : m.audit.Fits
  nextId : FitsWord32 m.nextId

namespace Session

open Json (object last? required optional withDefault decodeText decodeNat decodeWord32
  decodeWord64 decodeList)

/-! ## Maps -/

/-- A permutation of the images of a list consists of the images of a permutation. -/
theorem exists_map_eq_of_perm {α β : Type} {f : α → β} {l : List α} {l' : List β}
    (h : l'.Perm (l.map f)) : ∃ r : List α, r.Perm l ∧ r.map f = l' := by
  induction l generalizing l' with
  | nil =>
    rw [List.map_nil, List.perm_nil] at h
    exact ⟨[], List.Perm.refl _, h.symm⟩
  | cons a l ih =>
    obtain ⟨s, t, rfl⟩ := List.append_of_mem (h.symm.subset List.mem_cons_self)
    have hrest : (s ++ t).Perm (l.map f) := (List.perm_middle.symm.trans h).cons_inv
    obtain ⟨r, hr, hmap⟩ := ih hrest
    obtain ⟨u, v, rfl, rfl, rfl⟩ := List.map_eq_append_iff.1 hmap
    exact ⟨u ++ a :: v, List.perm_middle.trans (hr.cons a), by simp⟩

/-- An object without repeated keys has the fields it was made of, in some order. -/
theorem exists_perm_object {α : Type} {f : α → String × Json} {l : List α}
    (h : (l.map fun a => (f a).1).Nodup) :
    ∃ r : List α, r.Perm l ∧ object (l.map f) = .obj (r.map f) := by
  have hnodup : ((l.map f).map (·.1)).Nodup := by
    rw [List.map_map]
    exact h
  obtain ⟨r, hr, hmap⟩ := exists_map_eq_of_perm (Json.perm_orderFields hnodup)
  exact ⟨r, hr, by rw [object, hmap]⟩

/-! ## Counts -/

/-- No two categories have one name. -/
theorem name_injective : Function.Injective IssueCategory.name := by
  intro c d h
  have hc := IssueCategory.ofName?_name c
  rw [h, IssueCategory.ofName?_name d] at hc
  exact (Option.some.inj hc).symm

/-- A key that is not there is not found. -/
theorem lookup_eq_none {κ β : Type} [DecidableEq κ] {l : List (κ × β)} {k : κ}
    (h : k ∉ l.map (·.1)) : l.lookup k = none := by
  rw [List.lookup_eq_none_iff]
  intro e he
  rw [bne_iff_ne]
  rintro rfl
  exact h (List.mem_map_of_mem he)

/-- Values under distinct keys are found in whatever order they stand. -/
theorem lookup_perm {κ β : Type} [DecidableEq κ] {l r : List (κ × β)} (h : r.Perm l)
    (hl : (l.map (·.1)).Nodup) (k : κ) : r.lookup k = l.lookup k := by
  induction h with
  | nil => rfl
  | cons e _ ih =>
    rw [Json.lookup_cons_if, Json.lookup_cons_if, ih (List.nodup_cons.1 hl).2]
  | swap e f r =>
    have hne : f.1 ≠ e.1 := by
      intro heq
      rw [List.map_cons, List.map_cons, heq] at hl
      exact (List.nodup_cons.1 hl).1 List.mem_cons_self
    simp only [Json.lookup_cons_if]
    by_cases hf : k = f.1
    · simp [hf, hne]
    · simp [hf]
  | trans hab hbc ihab ihbc =>
    rw [ihab ((hbc.map (·.1)).nodup_iff.2 hl), ihbc hl]

/-- Counts are listed again in the order of the categories. -/
theorem filterMap_lookup {κ β : Type} [DecidableEq κ] {all : List κ} (hall : all.Nodup)
    {counts : List (κ × β)} (h : (counts.map (·.1)).Sublist all) :
    (all.filterMap fun c => (counts.lookup c).map fun n => (c, n)) = counts := by
  induction all generalizing counts with
  | nil =>
    rw [List.sublist_nil, List.map_eq_nil_iff] at h
    subst h
    rfl
  | cons c all ih =>
    obtain ⟨hc, hrest⟩ := List.nodup_cons.1 hall
    cases counts with
    | nil => simp
    | cons e counts =>
      -- counts are some of all categories in their order: the first is this one, or none is
      by_cases he : e.1 = c
      · subst he
        rw [List.map_cons, List.cons_sublist_cons] at h
        have hlater : (all.filterMap fun c => ((e :: counts).lookup c).map fun n => (c, n))
            = all.filterMap fun c => (counts.lookup c).map fun n => (c, n) := by
          refine List.filterMap_congr fun c hmem => ?_
          have hne : c ≠ e.1 := by
            rintro rfl
            exact hc hmem
          rw [Json.lookup_cons_if, if_neg hne]
        rw [List.filterMap_cons, Json.lookup_cons_if, if_pos rfl, hlater, ih hrest h]
        rfl
      · have hsub : ((e :: counts).map (·.1)).Sublist all := by
          rcases List.sublist_cons_iff.1 h with hsub | ⟨r, hr, -⟩
          · exact hsub
          · rw [List.map_cons, List.cons.injEq] at hr
            exact absurd hr.1 he
        have hnone : (e :: counts).lookup c = none :=
          lookup_eq_none fun hmem => hc (hsub.subset hmem)
        rw [List.filterMap_cons, hnone]
        exact ih hrest hsub

/-- Numbers of issues can be written. -/
theorem written_encodeCounts {counts : List (IssueCategory × Nat)} (h : FitsCounts counts) :
    Written 2 (encodeCounts counts) := by
  refine written_object fun f hf => ?_
  obtain ⟨e, he, rfl⟩ := List.mem_map.1 hf
  exact written_nat _ (h.word64 e he)

/-- Numbers of issues are read back. -/
theorem decodeCounts_encodeCounts {counts : List (IssueCategory × Nat)} (h : FitsCounts counts) :
    decodeCounts (encodeCounts counts) = .ok counts := by
  have hall : IssueCategory.all.Nodup := by decide
  have hkeys : (counts.map (·.1)).Nodup := hall.sublist h.ordered
  have hnodup : (counts.map fun e => e.1.name).Nodup := by
    have hnames := hkeys.map name_injective
    rwa [List.map_map] at hnames
  obtain ⟨r, hr, hobject⟩ :=
    exists_perm_object (f := fun e : IssueCategory × Nat => (e.1.name, encodeNat e.2)) hnodup
  have hencode : encodeCounts counts = .obj (r.map fun e => (e.1.name, encodeNat e.2)) := hobject
  rw [hencode]
  unfold decodeCounts
  dsimp only
  rw [mapM_map_ok, ok_bind]
  · simp only [lookup_perm hr hkeys]
    rw [filterMap_lookup hall h.ordered]
    rfl
  · intro e he
    simp only [IssueCategory.ofName?_name]
    rw [decodeWord64_encodeNat (h.word64 e (hr.subset he))]
    rfl

/-! ## Tables -/

/-- An identifier in decimal digits is read back. -/
theorem tableKey?_decimal {i : TableId} (h : FitsWord32 i.val) :
    tableKey? (Text.decimal i.val) = some i := by
  unfold tableKey? Text.decimal
  rw [String.toList_ofList]
  split
  · -- only the number zero has a zero in front
    rename_i heq
    have hzero := (Text.toDigits_eq_zero_cons heq).1
    rw [← hzero]
  · rename_i hne heq
    exact absurd (Text.toDigits_eq_zero_cons heq).2 hne
  · rw [Text.readNat?_toDigits]
    simp [Option.filter, show i.val ≤ 4294967295 from h]

/-- Tables can be written. -/
theorem written_encodeTables {tables : List (TableId × Table)} (h : ∀ e ∈ tables, e.2.Fits) :
    Written 7 (encodeTables tables) := by
  refine written_object fun f hf => ?_
  obtain ⟨e, he, rfl⟩ := List.mem_map.1 hf
  exact written_encodeTable (h e he)

/-- Tables are read back. -/
theorem decodeTables_encodeTables {tables : List (TableId × Table)}
    (hordered : (tables.map (·.1.val)).Pairwise (· < ·)) (hkeys : ∀ e ∈ tables, FitsWord32 e.1.val)
    (h : ∀ e ∈ tables, e.2.Fits) : decodeTables (encodeTables tables) = .ok tables := by
  have hinjective : Function.Injective fun i : TableId => Text.decimal i.val :=
    fun i j hij => congrArg TableId.mk (Text.decimal_inj hij)
  have hnodup : (tables.map fun e => Text.decimal e.1.val).Nodup := by
    have htexts := (nodup_keys_of_ordered hordered).map hinjective
    rwa [List.map_map] at htexts
  obtain ⟨r, hr, hobject⟩ := exists_perm_object
    (f := fun e : TableId × Table => (Text.decimal e.1.val, encodeTable e.2)) hnodup
  have hencode : encodeTables tables
      = .obj (r.map fun e => (Text.decimal e.1.val, encodeTable e.2)) := hobject
  rw [hencode]
  unfold decodeTables
  dsimp only
  rw [mapM_map_ok, ok_bind]
  · exact congrArg Except.ok (foldl_insertSorted_eq hordered hr)
  · intro e he
    have hmem := hr.subset he
    simp only [tableKey?_decimal (hkeys e hmem)]
    rw [decodeTable_encodeTable (h e hmem)]
    rfl

/-! ## Metadata -/

/-- A moment is read back. -/
theorem decodeInstant_encodeInstant {i : Instant} (h : i.Fits) :
    decodeInstant (encodeInstant i) = .ok i := by
  unfold decodeInstant encodeInstant
  simp only [Moment.parse?_text h]

/-- Metadata can be written. -/
theorem written_encodeAudit {a : Audit} (h : a.Fits) : Written 3 (encodeAudit a) := by
  refine written_object (writtenFields_append (writtenFields_append (writtenFields_append
    (writtenFields_append (writtenFields_append (writtenFields_append (writtenFields_append
      (writtenFields_cons (written_str _ _) (writtenFields_cons (written_str _ _)
        (writtenFields_nil _)))
      (writtenFields_optional fun s _ => written_str _ s))
      (writtenFields_optional fun s _ => written_str _ s))
      (writtenFields_cons (written_nat _ h.bytesRead)
        (writtenFields_cons (written_str _ _) (writtenFields_nil _))))
      (writtenFields_optional fun i _ => written_str _ (Moment.text i)))
      (writtenFields_optional fun n hn => written_nat _ (h.durationMs n hn)))
      (writtenFields_optional fun s _ => written_str _ s))
    (writtenFields_cons (written_word32 _ h.verificationRuns)
      (writtenFields_cons (written_encodeCounts h.issueCounts) (writtenFields_nil _))))

/-- Metadata is read back. -/
theorem decodeAudit_encodeAudit {a : Audit} (h : a.Fits) :
    decodeAudit (encodeAudit a) = .ok a := by
  unfold decodeAudit encodeAudit
  refine decode_object fun fs hl => ?_
  simp at hl
  obtain ⟨hrequest, htype, hconfig, hdigest, hbytes, hstarted, hcompleted, hduration, hresumed,
    hruns, hcounts⟩ := hl
  rw [required_eq htype (a := ()) (decodeName_str (by simp)), ok_bind,
    required_eq hrequest (decodeText_str _), ok_bind,
    optional_eq hconfig (by simp) fun s _ => decodeText_str s, ok_bind,
    optional_eq hdigest (by simp) fun s _ => decodeText_str s, ok_bind,
    withDefault_some hbytes (decodeWord64_encodeNat h.bytesRead), ok_bind,
    required_eq hstarted (decodeInstant_encodeInstant h.startedAt), ok_bind,
    optional_eq hcompleted (by simp [encodeInstant])
      fun i hi => decodeInstant_encodeInstant (h.completedAt i hi), ok_bind,
    optional_eq hduration (by simp [encodeNat])
      fun n hn => decodeWord64_encodeNat (h.durationMs n hn), ok_bind,
    optional_eq hresumed (by simp) fun s _ => decodeText_str s, ok_bind,
    withDefault_some hruns (decodeWord32_encodeNat h.verificationRuns), ok_bind,
    withDefault_some hcounts (decodeCounts_encodeCounts h.issueCounts)]
  rfl

/-! ## Models -/

/-- A model can be written. -/
theorem written_encodeModel {m : Model} (h : m.Fits) : Written 8 (encodeModel m) := by
  refine written_object (writtenFields_cons (written_str _ _) (writtenFields_cons (written_str _ _)
    (writtenFields_cons (written_encodeTables h.tables) (writtenFields_cons ?_
      (writtenFields_cons ?_ (writtenFields_cons (written_word32 _ h.nextId)
        (writtenFields_nil _)))))))
  · exact written_list fun i hi => (written_encodeIssue (h.issues i hi)).mono (by decide)
  · exact (written_encodeAudit h.audit).mono (by decide)

/-- A model is read back. -/
theorem decodeModel_encodeModel {m : Model} (h : m.Fits) :
    decodeModel (encodeModel m) = .ok m := by
  unfold decodeModel encodeModel
  refine decode_object fun fs hl => ?_
  simp at hl
  obtain ⟨hsource, htarget, htables, hissues, haudit, hnext⟩ := hl
  rw [required_eq hsource (decodeName_str (SourceDialect.ofName?_name _)), ok_bind,
    required_eq htarget (decodeName_str (TargetDialect.ofName?_name _)), ok_bind,
    required_eq htables (decodeTables_encodeTables h.ordered h.keys h.tables), ok_bind,
    withDefault_some hissues (decodeList_encodeList fun i hi =>
      decodeIssue_encodeIssue (h.issues i hi)), ok_bind,
    required_eq haudit (decodeAudit_encodeAudit h.audit), ok_bind,
    withDefault_some hnext (decodeWord32_encodeNat h.nextId)]
  rfl

end Session

end SchemaBridge
