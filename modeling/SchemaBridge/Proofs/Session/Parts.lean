/-
# The parts of a model read back

Every part of a model below its tables is decoded from what was encoded for it.  Numbers have to be
within the range of the words that hold them, which is all that is asked.

## Key statements

* `decodeTable_encodeTable`, `decodeIssue_encodeIssue`: tables and issues with all their parts.
* `written_encodeTable`, `written_encodeIssue`: what is written for them can be read as text.
-/
import SchemaBridge.Proofs.Session.Records

namespace SchemaBridge

/-- A number of 32 bits. -/
def FitsWord32 (n : Nat) : Prop := n ≤ 4294967295

/-- A number of 64 bits. -/
def FitsWord64 (n : Nat) : Prop := n ≤ 18446744073709551615

instance (n : Nat) : Decidable (FitsWord32 n) := inferInstanceAs (Decidable (n ≤ _))

instance (n : Nat) : Decidable (FitsWord64 n) := inferInstanceAs (Decidable (n ≤ _))

/-- A word fits where two do. -/
theorem FitsWord32.word64 {n : Nat} (h : FitsWord32 n) : FitsWord64 n :=
  Nat.le_trans h (by decide)

/-- The numbers of a type of the source are such as sessions hold. -/
structure SourceType.Fits (t : SourceType) : Prop where
  mods : ∀ n ∈ t.mods, -9223372036854775808 ≤ n ∧ n ≤ 9223372036854775807
  arrayDims : FitsWord32 t.arrayDims

/-- The length of a type of the target is a word. -/
def TargetType.Fits (t : TargetType) : Prop := ∀ n, t.length = some n → FitsWord32 n

/-- The numbers of a column are such as sessions hold. -/
structure Column.Fits (c : Column) : Prop where
  id : FitsWord32 c.id.val
  sourceType : c.sourceType.Fits
  targetType : ∀ t, c.targetType = some t → t.Fits

/-- The identifiers of an index are words. -/
structure Index.Fits (i : Index) : Prop where
  id : FitsWord32 i.id.val
  keys : ∀ k ∈ i.keys, FitsWord32 k.column.val

/-- The identifiers of a foreign key are words. -/
structure ForeignKey.Fits (f : ForeignKey) : Prop where
  id : FitsWord32 f.id.val
  columns : ∀ c ∈ f.columns, FitsWord32 c.val
  referencedTable : FitsWord32 f.referencedTable.val
  referencedColumns : ∀ c ∈ f.referencedColumns, FitsWord32 c.val

/-- The numbers of a table are such as sessions hold. -/
structure Table.Fits (t : Table) : Prop where
  id : FitsWord32 t.id.val
  columns : ∀ c ∈ t.columns, c.Fits
  primaryKey : ∀ k ∈ t.primaryKey, FitsWord32 k.column.val
  indexes : ∀ i ∈ t.indexes, i.Fits
  foreignKeys : ∀ f ∈ t.foreignKeys, f.Fits
  checks : ∀ c ∈ t.checks, FitsWord32 c.id.val

/-- The identifiers an issue is about are words. -/
def IssueTarget.Fits : IssueTarget → Prop
  | .schema => True
  | .table t => FitsWord32 t.val
  | .column t c => FitsWord32 t.val ∧ FitsWord32 c.val
  | .index t i => FitsWord32 t.val ∧ FitsWord32 i.val
  | .foreignKey t f => FitsWord32 t.val ∧ FitsWord32 f.val
  | .check t c => FitsWord32 t.val ∧ FitsWord32 c.val

namespace Session

open Json (Decoder Readable object optionalField flagField last? required optional withDefault
  recordFields decodeText decodeBool decodeNat decodeWord32 decodeWord64 decodeInt64 decodeList
  decodeName)

/-! ## Identifiers -/

/-- A word can be written. -/
theorem written_word32 (depth : Nat) {n : Nat} (h : FitsWord32 n) : Written depth (encodeNat n) :=
  written_nat depth h.word64

/-- A word is read back. -/
theorem decodeWord32_encodeNat {n : Nat} (h : FitsWord32 n) :
    decodeWord32 (encodeNat n) = .ok n :=
  decodeNat_encodeNat h

/-- Two words are read back. -/
theorem decodeWord64_encodeNat {n : Nat} (h : FitsWord64 n) :
    decodeWord64 (encodeNat n) = .ok n :=
  decodeNat_encodeNat h

/-- The identifier of a table is read back. -/
theorem decodeTableId_encodeNat {i : TableId} (h : FitsWord32 i.val) :
    decodeTableId (encodeNat i.val) = .ok i := by
  unfold decodeTableId
  rw [decodeWord32_encodeNat h]
  rfl

/-- The identifier of a column is read back. -/
theorem decodeColumnId_encodeNat {i : ColumnId} (h : FitsWord32 i.val) :
    decodeColumnId (encodeNat i.val) = .ok i := by
  unfold decodeColumnId
  rw [decodeWord32_encodeNat h]
  rfl

/-- The identifier of an index is read back. -/
theorem decodeIndexId_encodeNat {i : IndexId} (h : FitsWord32 i.val) :
    decodeIndexId (encodeNat i.val) = .ok i := by
  unfold decodeIndexId
  rw [decodeWord32_encodeNat h]
  rfl

/-- The identifier of a foreign key is read back. -/
theorem decodeForeignKeyId_encodeNat {i : ForeignKeyId} (h : FitsWord32 i.val) :
    decodeForeignKeyId (encodeNat i.val) = .ok i := by
  unfold decodeForeignKeyId
  rw [decodeWord32_encodeNat h]
  rfl

/-- The identifier of a check is read back. -/
theorem decodeCheckId_encodeNat {i : CheckId} (h : FitsWord32 i.val) :
    decodeCheckId (encodeNat i.val) = .ok i := by
  unfold decodeCheckId
  rw [decodeWord32_encodeNat h]
  rfl

/-! ## Types and expressions -/

theorem written_encodeSourceType {t : SourceType} (h : t.Fits) :
    Written 3 (encodeSourceType t) := by
  refine written_object (writtenFields_append (writtenFields_append (writtenFields_append
    (writtenFields_append (writtenFields_cons (written_str _ _) (writtenFields_nil _)) ?_) ?_) ?_)
    (writtenFields_cons (written_str _ _) (writtenFields_nil _)))
  · refine writtenFields_list fun n hn => written_int _ ?_
    obtain ⟨hlow, hhigh⟩ := h.mods n hn
    exact ⟨by omega, Int.le_trans hhigh (by decide)⟩
  · exact writtenFields_list fun s _ => written_str _ s
  · split
    · exact writtenFields_nil _
    · exact writtenFields_cons (written_word32 _ h.arrayDims) (writtenFields_nil _)

/-- A type of the source is read back. -/
theorem decodeSourceType_encodeSourceType {t : SourceType} (h : t.Fits) :
    decodeSourceType (encodeSourceType t) = .ok t := by
  unfold decodeSourceType encodeSourceType
  refine decode_object fun fs hl => ?_
  simp at hl
  obtain ⟨hname, hmods, hvalues, hdims, hraw⟩ := hl
  have harray : withDefault fs "array_dims" 0 decodeWord32 = .ok t.arrayDims := by
    by_cases hd : t.arrayDims = 0
    · rw [hd]
      exact withDefault_none (by rw [hdims, if_pos hd])
    · exact withDefault_some (by rw [hdims, if_neg hd]) (decodeWord32_encodeNat h.arrayDims)
  rw [required_eq hname (decodeText_str _), ok_bind,
    withDefault_list hmods fun n hn => decodeInt64_int (h.mods n hn), ok_bind,
    withDefault_list hvalues fun s _ => decodeText_str s, ok_bind, harray, ok_bind,
    required_eq hraw (decodeText_str _)]
  rfl

theorem written_encodeTargetType {t : TargetType} (h : t.Fits) :
    Written 2 (encodeTargetType t) := by
  refine written_object (writtenFields_append (writtenFields_append
    (writtenFields_cons (written_str _ _) (writtenFields_nil _)) ?_) (writtenFields_flag _ _ _))
  exact writtenFields_optional fun n hn => written_word32 _ (h n hn)

/-- A type of the target is read back. -/
theorem decodeTargetType_encodeTargetType {t : TargetType} (h : t.Fits) :
    decodeTargetType (encodeTargetType t) = .ok t := by
  unfold decodeTargetType encodeTargetType
  refine decode_object fun fs hl => ?_
  simp at hl
  obtain ⟨hkind, hlength, harray⟩ := hl
  rw [required_eq hkind (decodeName_str (TargetKind.ofName?_name _)), ok_bind,
    optional_eq hlength (fun n hn => (written_word32 0 (h n hn)).notNull)
      fun n hn => decodeWord32_encodeNat (h n hn), ok_bind, withDefault_flag harray]
  rfl

theorem written_encodeExpression (e : Expression) : Written 2 (encodeExpression e) :=
  written_object (writtenFields_append (writtenFields_append (writtenFields_append
    (writtenFields_cons (written_str _ _) (writtenFields_nil _))
    (writtenFields_optional fun s _ => written_str _ s))
    (writtenFields_cons (written_str _ _) (writtenFields_nil _)))
    (writtenFields_optional fun s _ => written_str _ s))

/-- An expression is read back. -/
theorem decodeExpression_encodeExpression (e : Expression) :
    decodeExpression (encodeExpression e) = .ok e := by
  unfold decodeExpression encodeExpression
  refine decode_object fun fs hl => ?_
  simp at hl
  obtain ⟨hsource, htranslated, hstatus, hrejection⟩ := hl
  rw [required_eq hsource (decodeText_str _), ok_bind,
    optional_eq htranslated (by simp) fun s _ => decodeText_str s, ok_bind,
    withDefault_some hstatus (decodeName_str (VerificationStatus.ofName?_name _)), ok_bind,
    optional_eq hrejection (by simp) fun s _ => decodeText_str s]
  rfl

theorem written_encodeKeyPart {k : KeyPart} (h : FitsWord32 k.column.val) :
    Written 2 (encodeKeyPart k) :=
  written_object (writtenFields_append
    (writtenFields_cons (written_word32 _ h) (writtenFields_nil _)) (writtenFields_flag _ _ _))

/-- A part of a key is read back. -/
theorem decodeKeyPart_encodeKeyPart {k : KeyPart} (h : FitsWord32 k.column.val) :
    decodeKeyPart (encodeKeyPart k) = .ok k := by
  unfold decodeKeyPart encodeKeyPart
  refine decode_object fun fs hl => ?_
  simp at hl
  obtain ⟨hcolumn, hdesc⟩ := hl
  rw [required_eq hcolumn (decodeColumnId_encodeNat h), ok_bind, withDefault_flag hdesc]
  rfl

/-! ## Columns, keys and checks -/

theorem written_encodeColumn {c : Column} (h : c.Fits) : Written 4 (encodeColumn c) := by
  have hhead : WrittenFields 3 [("id", encodeNat c.id.val), ("name", .str c.name),
      ("source_type", encodeSourceType c.sourceType)] :=
    writtenFields_cons (written_word32 _ h.id) (writtenFields_cons (written_str _ _)
      (writtenFields_cons (written_encodeSourceType h.sourceType) (writtenFields_nil _)))
  refine written_object (writtenFields_append (writtenFields_append (writtenFields_append
    (writtenFields_append (writtenFields_append (writtenFields_append (writtenFields_append hhead
      ?_) ?_) ?_) ?_) ?_) (writtenFields_flag _ _ _)) (writtenFields_flag _ _ _))
  · exact writtenFields_optional fun t ht =>
      (written_encodeTargetType (h.targetType t ht)).mono (by decide)
  · exact writtenFields_optional fun c _ => written_str _ _
  · exact writtenFields_cons (written_bool _ _) (writtenFields_nil _)
  · exact writtenFields_optional fun e _ => (written_encodeExpression e).mono (by decide)
  · exact writtenFields_optional fun e _ => (written_encodeExpression e).mono (by decide)

/-- A column is read back. -/
theorem decodeColumn_encodeColumn {c : Column} (h : c.Fits) :
    decodeColumn (encodeColumn c) = .ok c := by
  unfold decodeColumn encodeColumn
  refine decode_object fun fs hl => ?_
  simp at hl
  obtain ⟨hid, hname, hsource, htarget, hconfidence, hnullable, hdefault, hgenerated, hidentity,
    hsynthetic⟩ := hl
  rw [required_eq hid (decodeColumnId_encodeNat h.id), ok_bind,
    required_eq hname (decodeText_str _), ok_bind,
    required_eq hsource (decodeSourceType_encodeSourceType h.sourceType), ok_bind,
    optional_eq htarget (fun t ht => (written_encodeTargetType (h.targetType t ht)).notNull)
      fun t ht => decodeTargetType_encodeTargetType (h.targetType t ht), ok_bind,
    optional_eq hconfidence (by simp) fun c _ => decodeName_str (Confidence.ofName?_name c),
    ok_bind, required_eq hnullable (decodeBool_bool _), ok_bind,
    optional_eq hdefault (fun e _ => (written_encodeExpression e).notNull)
      fun e _ => decodeExpression_encodeExpression e, ok_bind,
    optional_eq hgenerated (fun e _ => (written_encodeExpression e).notNull)
      fun e _ => decodeExpression_encodeExpression e, ok_bind,
    withDefault_flag hidentity, ok_bind, withDefault_flag hsynthetic]
  rfl

theorem written_encodeIndex {i : Index} (h : i.Fits) : Written 4 (encodeIndex i) := by
  refine written_object (writtenFields_cons (written_word32 _ h.id) (writtenFields_cons
    (written_str _ _) (writtenFields_cons ?_ (writtenFields_cons (written_bool _ _)
      (writtenFields_nil _)))))
  exact written_list fun k hk => written_encodeKeyPart (h.keys k hk)

/-- An index is read back. -/
theorem decodeIndex_encodeIndex {i : Index} (h : i.Fits) :
    decodeIndex (encodeIndex i) = .ok i := by
  unfold decodeIndex encodeIndex
  refine decode_object fun fs hl => ?_
  simp at hl
  obtain ⟨hid, hname, hkeys, hunique⟩ := hl
  rw [required_eq hid (decodeIndexId_encodeNat h.id), ok_bind,
    required_eq hname (decodeText_str _), ok_bind,
    required_eq hkeys (decodeList_encodeList fun k hk => decodeKeyPart_encodeKeyPart (h.keys k hk)),
    ok_bind, required_eq hunique (decodeBool_bool _)]
  rfl

theorem written_encodePolicy (p : FkPolicy) : Written 2 (encodePolicy p) :=
  written_object (writtenFields_append
    (writtenFields_cons (written_str _ _) (writtenFields_nil _))
    (writtenFields_optional fun a _ => written_str _ a.name))

/-- An action is read back. -/
theorem decodeAction_name (a : FkAction) : decodeAction (.str a.name) = .ok a :=
  decodeName_str (FkAction.ofName?_name a)

/-- A policy is read back. -/
theorem decodePolicy_encodePolicy (p : FkPolicy) : decodePolicy (encodePolicy p) = .ok p := by
  unfold decodePolicy encodePolicy
  refine decode_object fun fs hl => ?_
  simp at hl
  obtain ⟨hsource, htarget⟩ := hl
  rw [required_eq hsource (decodeAction_name _), ok_bind,
    optional_eq htarget (by simp) fun a _ => decodeAction_name a]
  rfl

theorem written_encodeColumnIds {ids : List ColumnId} (h : ∀ c ∈ ids, FitsWord32 c.val) :
    Written 2 (encodeColumnIds ids) :=
  written_list fun c hc => written_word32 _ (h c hc)

/-- Identifiers of columns are read back. -/
theorem decodeColumnIds_encodeColumnIds {ids : List ColumnId}
    (h : ∀ c ∈ ids, FitsWord32 c.val) :
    decodeList decodeColumnId (encodeColumnIds ids) = .ok ids :=
  decodeList_encodeList fun c hc => decodeColumnId_encodeNat (h c hc)

theorem written_encodeForeignKey {f : ForeignKey} (h : f.Fits) :
    Written 3 (encodeForeignKey f) :=
  written_object (writtenFields_cons (written_word32 _ h.id) (writtenFields_cons (written_str _ _)
    (writtenFields_cons (written_encodeColumnIds h.columns)
      (writtenFields_cons (written_word32 _ h.referencedTable)
        (writtenFields_cons (written_encodeColumnIds h.referencedColumns)
          (writtenFields_cons (written_encodePolicy f.onDelete)
            (writtenFields_cons (written_encodePolicy f.onUpdate) (writtenFields_nil _))))))))

/-- A foreign key is read back. -/
theorem decodeForeignKey_encodeForeignKey {f : ForeignKey} (h : f.Fits) :
    decodeForeignKey (encodeForeignKey f) = .ok f := by
  unfold decodeForeignKey encodeForeignKey
  refine decode_object fun fs hl => ?_
  simp at hl
  obtain ⟨hid, hname, hcolumns, htable, hreferenced, hdelete, hupdate⟩ := hl
  rw [required_eq hid (decodeForeignKeyId_encodeNat h.id), ok_bind,
    required_eq hname (decodeText_str _), ok_bind,
    required_eq hcolumns (decodeColumnIds_encodeColumnIds h.columns), ok_bind,
    required_eq htable (decodeTableId_encodeNat h.referencedTable), ok_bind,
    required_eq hreferenced (decodeColumnIds_encodeColumnIds h.referencedColumns), ok_bind,
    withDefault_some hdelete (decodePolicy_encodePolicy f.onDelete), ok_bind,
    withDefault_some hupdate (decodePolicy_encodePolicy f.onUpdate)]
  rfl

theorem written_encodeCheck {c : CheckConstraint} (h : FitsWord32 c.id.val) :
    Written 3 (encodeCheck c) :=
  written_object (writtenFields_cons (written_word32 _ h) (writtenFields_cons (written_str _ _)
    (writtenFields_cons (written_encodeExpression c.expr) (writtenFields_nil _))))

/-- A check is read back. -/
theorem decodeCheck_encodeCheck {c : CheckConstraint} (h : FitsWord32 c.id.val) :
    decodeCheck (encodeCheck c) = .ok c := by
  unfold decodeCheck encodeCheck
  refine decode_object fun fs hl => ?_
  simp at hl
  obtain ⟨hid, hname, hexpr⟩ := hl
  rw [required_eq hid (decodeCheckId_encodeNat h), ok_bind,
    required_eq hname (decodeText_str _), ok_bind,
    required_eq hexpr (decodeExpression_encodeExpression c.expr)]
  rfl

/-! ## Tables -/

theorem written_encodeTable {t : Table} (h : t.Fits) : Written 6 (encodeTable t) := by
  refine written_object (writtenFields_append (writtenFields_append (writtenFields_cons
    (written_word32 _ h.id) (writtenFields_cons (written_str _ _) (writtenFields_nil _)))
    (writtenFields_optional fun s _ => written_str _ s)) (writtenFields_cons (written_str _ _)
      (writtenFields_cons ?_ (writtenFields_cons ?_ (writtenFields_cons ?_ (writtenFields_cons ?_
        (writtenFields_cons ?_ (writtenFields_nil _))))))))
  · exact written_list fun c hc => written_encodeColumn (h.columns c hc)
  · exact written_list fun k hk => (written_encodeKeyPart (h.primaryKey k hk)).mono (by decide)
  · exact written_list fun i hi => written_encodeIndex (h.indexes i hi)
  · exact written_list fun f hf => (written_encodeForeignKey (h.foreignKeys f hf)).mono (by decide)
  · exact written_list fun c hc => (written_encodeCheck (h.checks c hc)).mono (by decide)

/-- A table is read back. -/
theorem decodeTable_encodeTable {t : Table} (h : t.Fits) :
    decodeTable (encodeTable t) = .ok t := by
  unfold decodeTable encodeTable
  refine decode_object fun fs hl => ?_
  simp at hl
  obtain ⟨hid, hname, hnspace, hsource, hcolumns, hprimary, hindexes, hforeign, hchecks⟩ := hl
  rw [required_eq hid (decodeTableId_encodeNat h.id), ok_bind,
    required_eq hname (decodeText_str _), ok_bind,
    optional_eq hnspace (by simp) fun s _ => decodeText_str s, ok_bind,
    required_eq hsource (decodeText_str _), ok_bind,
    required_eq hcolumns (decodeList_encodeList fun c hc =>
      decodeColumn_encodeColumn (h.columns c hc)), ok_bind,
    withDefault_some hprimary (decodeList_encodeList fun k hk =>
      decodeKeyPart_encodeKeyPart (h.primaryKey k hk)), ok_bind,
    withDefault_some hindexes (decodeList_encodeList fun i hi =>
      decodeIndex_encodeIndex (h.indexes i hi)), ok_bind,
    withDefault_some hforeign (decodeList_encodeList fun f hf =>
      decodeForeignKey_encodeForeignKey (h.foreignKeys f hf)), ok_bind,
    withDefault_some hchecks (decodeList_encodeList fun c hc =>
      decodeCheck_encodeCheck (h.checks c hc))]
  rfl

/-! ## Issues -/

theorem written_encodeTarget {t : IssueTarget} (h : t.Fits) : Written 2 (encodeTarget t) := by
  cases t with
  | schema => exact written_object (writtenFields_cons (written_str _ _) (writtenFields_nil _))
  | table t =>
    exact written_object (writtenFields_cons (written_str _ _)
      (writtenFields_cons (written_word32 _ h) (writtenFields_nil _)))
  | column t c | index t c | foreignKey t c | check t c =>
    exact written_object (writtenFields_cons (written_str _ _)
      (writtenFields_cons (written_word32 _ h.1)
        (writtenFields_cons (written_word32 _ h.2) (writtenFields_nil _))))

/-- The kind of a target is taken out of its object, and the other fields stay. -/
theorem splitTarget_object {fields : List (String × Json)} {kind : String}
    (h : last? fields "kind" = some (.str kind)) :
    ∃ l, splitTarget (object fields) = .ok (kind, .obj l) ∧ Json.Ordered l
      ∧ ∀ n, n ≠ "kind" → l.lookup n = last? fields n := by
  refine ⟨(Json.orderFields fields).filter fun f => f.1 ≠ "kind", ?_,
    (Json.ordered_orderFields fields).filter _, ?_⟩
  · unfold splitTarget object
    simp only [Json.lookup_orderFields, h]
  · intro n hn
    rw [Json.lookup_filter (p := fun k => k ≠ "kind") (by simpa using hn),
      Json.lookup_orderFields]

/-- A target with identifiers: what the record for them finds. -/
theorem recordFields_target {fields : List (String × Json)} (kind : String) (names : List String)
    (h : last? fields "kind" = some (.str kind)) (hnames : "kind" ∉ names) :
    ∃ l fs, splitTarget (object fields) = .ok (kind, .obj l)
      ∧ recordFields names (.obj l) = .ok fs ∧ ∀ n ∈ names, fs.lookup n = last? fields n := by
  obtain ⟨l, hsplit, hord, hl⟩ := splitTarget_object h
  obtain ⟨fs, hfs, hfind⟩ := Json.recordFields_ordered hord names
  refine ⟨l, fs, hsplit, hfs, fun n hn => (hfind n hn).trans (hl n ?_)⟩
  rintro rfl
  exact hnames hn

/-- A target in a table: what is found under the table and under the part. -/
theorem recordFields_part (kind part : String) (t c : Nat) (hkind : part ≠ "kind")
    (htable : part ≠ "table") :
    ∃ l fs, splitTarget (object [("kind", .str kind), ("table", encodeNat t), (part, encodeNat c)])
        = .ok (kind, .obj l)
      ∧ recordFields ["table", part] (.obj l) = .ok fs
      ∧ fs.lookup "table" = some (encodeNat t) ∧ fs.lookup part = some (encodeNat c) := by
  have hfirst : last? [("kind", .str kind), ("table", encodeNat t), (part, encodeNat c)] "kind"
      = some (.str kind) := by simp [hkind.symm]
  obtain ⟨l, fs, hsplit, hfs, hl⟩ :=
    recordFields_target kind ["table", part] hfirst (by simp [hkind.symm])
  refine ⟨l, fs, hsplit, hfs, ?_, ?_⟩
  · rw [hl "table" (by simp)]
    simp [htable.symm]
  · rw [hl part (by simp)]
    simp

/-- What an issue is about is read back. -/
theorem decodeTarget_encodeTarget {t : IssueTarget} (h : t.Fits) :
    decodeTarget (encodeTarget t) = .ok t := by
  unfold decodeTarget encodeTarget
  -- all kinds but the schema bring identifiers, the table's before that of the part
  cases t with
  | schema =>
    have hkind : last? [("kind", .str "schema")] "kind" = some (.str "schema") := by simp
    obtain ⟨l, hsplit, -, -⟩ := splitTarget_object hkind
    simp only [hsplit, ok_bind]
    rfl
  | table t =>
    have hkind : last? [("kind", .str "table"), ("table", encodeNat t.val)] "kind"
        = some (.str "table") := by simp
    obtain ⟨l, fs, hsplit, hfs, hl⟩ := recordFields_target "table" ["table"] hkind (by simp)
    simp at hl
    simp only [hsplit, ok_bind, hfs]
    rw [required_eq hl (decodeTableId_encodeNat h)]
    rfl
  | column t c =>
    obtain ⟨l, fs, hsplit, hfs, ht, hc⟩ :=
      recordFields_part "column" "column" t.val c.val (by decide) (by decide)
    simp only [hsplit, ok_bind, hfs]
    rw [required_eq ht (decodeTableId_encodeNat h.1), ok_bind,
      required_eq hc (decodeColumnId_encodeNat h.2)]
    rfl
  | index t c =>
    obtain ⟨l, fs, hsplit, hfs, ht, hc⟩ :=
      recordFields_part "index" "index" t.val c.val (by decide) (by decide)
    simp only [hsplit, ok_bind, hfs]
    rw [required_eq ht (decodeTableId_encodeNat h.1), ok_bind,
      required_eq hc (decodeIndexId_encodeNat h.2)]
    rfl
  | foreignKey t c =>
    obtain ⟨l, fs, hsplit, hfs, ht, hc⟩ :=
      recordFields_part "foreign_key" "foreign_key" t.val c.val (by decide) (by decide)
    simp only [hsplit, ok_bind, hfs]
    rw [required_eq ht (decodeTableId_encodeNat h.1), ok_bind,
      required_eq hc (decodeForeignKeyId_encodeNat h.2)]
    rfl
  | check t c =>
    obtain ⟨l, fs, hsplit, hfs, ht, hc⟩ :=
      recordFields_part "check" "check" t.val c.val (by decide) (by decide)
    simp only [hsplit, ok_bind, hfs]
    rw [required_eq ht (decodeTableId_encodeNat h.1), ok_bind,
      required_eq hc (decodeCheckId_encodeNat h.2)]
    rfl

theorem written_encodeIssue {i : Issue} (h : i.target.Fits) : Written 3 (encodeIssue i) :=
  written_object (writtenFields_cons (written_str _ _) (writtenFields_cons (written_str _ _)
    (writtenFields_cons (written_str _ _) (writtenFields_cons (written_encodeTarget h)
      (writtenFields_cons (written_str _ _) (writtenFields_nil _))))))

/-- An issue is read back. -/
theorem decodeIssue_encodeIssue {i : Issue} (h : i.target.Fits) :
    decodeIssue (encodeIssue i) = .ok i := by
  unfold decodeIssue encodeIssue
  refine decode_object fun fs hl => ?_
  simp at hl
  obtain ⟨hcategory, hseverity, hstage, htarget, hdetail⟩ := hl
  rw [required_eq hcategory (decodeName_str (IssueCategory.ofName?_name _)), ok_bind,
    required_eq hseverity (decodeName_str (Severity.ofName?_name _)), ok_bind,
    required_eq hstage (decodeName_str (Stage.ofName?_name _)), ok_bind,
    required_eq htarget (decodeTarget_encodeTarget h), ok_bind,
    required_eq hdetail (decodeText_str _)]
  rfl

end Session

end SchemaBridge
