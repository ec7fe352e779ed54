/-
# Sessions read back

What is saved is what a later run goes on with: the text of a session is read back as its header and
its model, if the model is one that reading accepts.  Nothing is asked of the texts in the model;
its numbers have to be within the words that hold them.

## Key statements

* `decode_encode_eq`: reading a session comes down to checking its model.
* `decode_encode`: a valid model is read back from its session.
-/
import SchemaBridge.Proofs.Session.Maps
import SchemaBridge.Session.Envelope

namespace SchemaBridge.Session

open Json (object last? required optional withDefault decodeText decodeBool)

/-! ## Headers -/

/-- A header can be written. -/
theorem writtenFields_encodeHeader (depth : Nat) {h : Header} (hversion : FitsWord32 h.version) :
    WrittenFields depth (encodeHeader h) :=
  writtenFields_append
    (writtenFields_cons (written_str _ _) (writtenFields_cons (written_word32 _ hversion)
      (writtenFields_cons (written_str _ _) (writtenFields_cons (written_bool _ _)
        (writtenFields_cons (written_str _ _) (writtenFields_nil _))))))
    (writtenFields_optional fun s _ => written_str _ s)

/-- A header is read from the fields of the envelope that are left beside the model. -/
theorem decodeHeader_encodeHeader {h : Header} (hversion : FitsWord32 h.version)
    (hsaved : h.savedAt.Fits) (body : Json) :
    decodeHeader ((object (("conv", body) :: encodeHeader h)).eraseField "conv") = .ok h := by
  obtain ⟨fs, hfs, hl⟩ := Json.recordFields_ordered
    ((Json.ordered_orderFields (("conv", body) :: encodeHeader h)).filter fun f => f.1 ≠ "conv")
    ["format", "version", "saved_at", "partial", "tool_version", "checksum"]
  -- the model is taken out first, and the order of the other fields does not matter
  have hfind : ∀ n ∈ ["format", "version", "saved_at", "partial", "tool_version", "checksum"],
      fs.lookup n = last? (encodeHeader h) n := by
    intro n hn
    have hne : n ≠ "conv" := by
      rintro rfl
      simp at hn
    rw [hl n hn, Json.lookup_filter (p := fun k => k ≠ "conv") (by simpa using hne),
      Json.lookup_orderFields, Json.last?_cons, if_neg hne, Option.or_none]
  unfold encodeHeader at hfind
  simp at hfind
  obtain ⟨hformat, hver, hsave, hpartial, htool, hsum⟩ := hfind
  unfold decodeHeader object Json.eraseField
  rw [hfs, ok_bind, required_eq hformat (decodeText_str _), ok_bind,
    required_eq hver (decodeWord32_encodeNat hversion), ok_bind,
    required_eq hsave (decodeInstant_encodeInstant hsaved), ok_bind,
    withDefault_some hpartial (decodeBool_bool _), ok_bind,
    required_eq htool (decodeText_str _), ok_bind,
    optional_eq hsum (by simp) fun s _ => decodeText_str s]
  rfl

/-! ## Envelopes -/

/-- The object that a session holds. -/
def envelopeOf (m : Model) (now : Instant) : Json :=
  object (("conv", encodeModel m) :: encodeHeader (headerFor m now))

/-- The version of the format is a word. -/
theorem fitsWord32_version (m : Model) (now : Instant) : FitsWord32 (headerFor m now).version := by
  show 1 ≤ 4294967295
  decide

/-- A session can be written. -/
theorem written_envelopeOf {m : Model} (h : m.Fits) (now : Instant) :
    Written 9 (envelopeOf m now) :=
  written_object (writtenFields_cons (written_encodeModel h)
    (writtenFields_encodeHeader _ (fitsWord32_version m now)))

/-- What is written is parsed. -/
theorem parse_encode {m : Model} (h : m.Fits) (now : Instant) :
    Json.parse (encode m now) = .ok (envelopeOf m now) :=
  Json.parse_prettyText ((written_envelopeOf h now).mono (by decide)).readable

theorem checkFormat_envelopeOf (m : Model) (now : Instant) :
    checkFormat (envelopeOf m now) = .ok () := by
  have hfield : (envelopeOf m now).field? "format" = some (.str formatTag) := by
    rw [envelopeOf, Json.field?_object]
    simp [encodeHeader, headerFor]
  unfold checkFormat
  rw [hfield]
  rfl

theorem checkVersion_envelopeOf (m : Model) (now : Instant) :
    checkVersion (envelopeOf m now) = .ok () := by
  have hfield : (envelopeOf m now).field? "version" = some (encodeNat formatVersion) := by
    rw [envelopeOf, Json.field?_object]
    simp [encodeHeader, headerFor]
  unfold checkVersion
  rw [hfield]
  rfl

theorem field?_conv (m : Model) (now : Instant) :
    (envelopeOf m now).field? "conv" = some (encodeModel m) := by
  rw [envelopeOf, Json.field?_object]
  simp [encodeHeader]

theorem checkSum_headerFor (m : Model) (now : Instant) :
    checkSum (headerFor m now) (encodeModel m) = .ok () := by
  unfold checkSum headerFor
  simp

/-- Reading a session comes down to checking its model. -/
theorem decode_encode_eq {m : Model} {now : Instant} (h : m.Fits) (hnow : now.Fits) :
    decode (encode m now) = m.validate.map fun _ => (headerFor m now, m) := by
  have hcanonical := (written_envelopeOf h now).canonical
  have hheader : decodeHeader ((envelopeOf m now).eraseField "conv") = .ok (headerFor m now) :=
    decodeHeader_encodeHeader (fitsWord32_version m now) hnow (encodeModel m)
  unfold decode
  simp only [parse_encode h now, hcanonical, pure_bind, checkFormat_envelopeOf, ok_bind,
    checkVersion_envelopeOf, field?_conv, hheader, checkSum_headerFor, decodeModel_encodeModel h]
  cases m.validate with
  | ok u => rfl
  | error e => rfl

/-- A model is saved as a complete one exactly when no issue says that a run was aborted. -/
theorem encodeComplete_eq_ok_iff (m : Model) (now : Instant) (text : String) :
    encodeComplete m now = .ok text
      ↔ (∀ i ∈ m.issues, i.category ≠ .aborted) ∧ text = encode m now := by
  have hpartial : m.isPartial = false ↔ ∀ i ∈ m.issues, i.category ≠ .aborted := by
    simp [Model.isPartial, Model.hasIssue]
  unfold encodeComplete
  rw [← hpartial]
  cases m.isPartial with
  | true => simp
  | false => simp [eq_comm]

/-- A valid model is read back from its session as it was, with a header that says whether it is
partial.  It can be saved as a complete model exactly when no run was aborted. -/
theorem decode_encode {m : Model} {now : Instant} (h : m.Fits) (hnow : now.Fits)
    (hvalid : m.validate = .ok ()) :
    (∃ header, decode (encode m now) = .ok (header, m) ∧ header.isPartial = m.isPartial)
      ∧ ((∃ text, encodeComplete m now = .ok text) ↔ ∀ i ∈ m.issues, i.category ≠ .aborted)
      ∧ ∀ text, encodeComplete m now = .ok text → text = encode m now := by
  refine ⟨⟨headerFor m now, ?_, rfl⟩, ?_, ?_⟩
  · rw [decode_encode_eq h hnow, hvalid]
    rfl
  · constructor
    · rintro ⟨text, htext⟩
      exact ((encodeComplete_eq_ok_iff m now text).1 htext).1
    · intro hissues
      exact ⟨encode m now, (encodeComplete_eq_ok_iff m now _).2 ⟨hissues, rfl⟩⟩
  · intro text htext
    exact ((encodeComplete_eq_ok_iff m now text).1 htext).2

/-- Two tables whose keys stand the other way round as texts. -/
def keptModel : Model :=
  { Model.empty .postgres .google (Audit.start "request" ⟨0, 0⟩) with
    tables :=
      [(⟨2⟩, { Table.empty ⟨2⟩ "naïve" with
          columns := [{ Column.plain ⟨3⟩ "größe" ⟨"text", [], [], 0, "text"⟩ with
            default := some (.fresh "'\"\\\n' || '😀'") }] }),
        (⟨10⟩, Table.empty ⟨10⟩ "b")]
    issues := [.raise .aborted .pipeline (.table ⟨10⟩) "stopped \t early"]
    nextId := 11 }

/-- The model fits into a session. -/
theorem fits_keptModel : keptModel.Fits := by
  have hkeys : ∀ e ∈ keptModel.tables, FitsWord32 e.1.val := by decide
  have haudit : keptModel.audit.Fits := by
    refine ⟨by decide, ⟨by decide, by decide, fun h => absurd h (by decide)⟩, fun _ h => ?_,
      fun _ h => ?_, by decide, ⟨List.nil_sublist _, by decide⟩⟩ <;> cases h
  have hissues : ∀ i ∈ keptModel.issues, i.target.Fits := by
    intro i hi
    rw [List.mem_singleton.1 hi]
    exact hkeys _ (List.mem_cons_of_mem _ List.mem_cons_self)
  refine ⟨by decide, hkeys, ?_, hissues, haudit, by decide⟩
  intro e he
  rcases List.mem_cons.1 he with rfl | he
  · refine ⟨by decide, ?_, by simp [Table.empty], by simp [Table.empty], by simp [Table.empty],
      by simp [Table.empty]⟩
    intro c hc
    rw [List.mem_singleton.1 hc]
    exact ⟨by decide, ⟨by simp [Column.plain], by decide⟩, by simp [Column.plain]⟩
  · rw [List.mem_singleton.1 he]
    exact ⟨by decide, by simp [Table.empty], by simp [Table.empty], by simp [Table.empty],
      by simp [Table.empty], by simp [Table.empty]⟩

theorem decode_encode_keptModel :
    keptModel.Fits ∧ (Instant.mk 59 1000000000).Fits ∧ keptModel.validate = .ok ()
      ∧ ∃ header, decode (encode keptModel ⟨59, 1000000000⟩) = .ok (header, keptModel)
        ∧ header.isPartial = true := by
  have hnow : (Instant.mk 59 1000000000).Fits := ⟨by decide, by decide, fun _ => by decide⟩
  have hvalid : keptModel.validate = .ok () := by decide
  exact ⟨fits_keptModel, hnow, hvalid, (decode_encode fits_keptModel hnow hvalid).1⟩

end SchemaBridge.Session
