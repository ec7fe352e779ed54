/-
# When what was read can be read again

A model that comes from a reader, is mapped and is saved as a session can be read back unless names
or keys stand in the way: tables and synthetic keys are named apart from others up to the case of
ASCII letters, but names are compared through their full lower case when a session is read, and an
export may hold an index without columns.

## Key statements

* `isClear_of_ascii`: names of ASCII characters never stand in the way.
* `Builder.IsRead.reloads_iff`: a mapped model can be read back exactly when it is clear.
-/
import SchemaBridge.Proofs.Assembly.Readers
import SchemaBridge.Proofs.Mapper.Names
import SchemaBridge.Proofs.Session.RoundTrip
import SchemaBridge.Schema.Identifier

namespace SchemaBridge

/-! ## Builders that readers leave -/

/-- What readers make of a new builder, with cancellations in between. -/
inductive Builder.IsRead : Builder → Prop
  | start (source : SourceDialect) (target : TargetDialect) (policy : CollisionPolicy)
      (audit : Audit) : IsRead (.start source target policy audit)
  | cancel {b : Builder} (h : b.IsRead) : b.cancel.IsRead
  | dump {b b' : Builder} {r r' : Dump.Reader} {text : String} (h : b.IsRead)
      (hread : r.read b text = .ok (r', b')) : b'.IsRead
  | exports {b b' : Builder} {path text : String} (h : b.IsRead)
      (hread : Dynamo.read path b text = .ok b') : b'.IsRead

/-- A builder that comes from a reading is sound. -/
theorem Builder.IsRead.sound {b : Builder} (h : b.IsRead) : b.Sound := by
  induction h with
  | start source target policy audit => exact .start source target policy audit
  | cancel _ ih => exact ih.cancel
  | dump _ hread ih => exact (Dump.Reader.leads_read ih hread).sound
  | exports _ hread ih => exact (Dynamo.leads_read ih hread).sound

/-! ## ASCII names -/

/-- All names of a model consist of ASCII characters. -/
structure Model.HasAsciiNames (m : Model) : Prop where
  tables : ∀ e ∈ m.tables, Text.IsAscii e.2.name
  columns : ∀ e ∈ m.tables, ∀ c ∈ e.2.columns, Text.IsAscii c.name

/-- Names in ASCII that differ up to case differ in lower case. -/
theorem nodup_lowerText {α : Type} {g : α → String} {l : List α}
    (hascii : ∀ a ∈ l, Text.IsAscii (g a)) (h : (l.map fun a => Text.folded (g a)).Nodup) :
    (l.map fun a => Text.lowerText (g a)).Nodup := by
  rw [List.Nodup, List.pairwise_map] at h ⊢
  refine h.imp_of_mem fun {a b} ha hb hne heq => hne ?_
  exact (Text.lowerText_eq_iff (hascii a ha) (hascii b hb)).1 heq

/-- Among ASCII names only an index without columns can stand in the way. -/
theorem isClear_of_ascii {m : Model} (hdescribed : AsDescribed m.tables) (hascii : m.HasAsciiNames)
    {synthetic : String} (hsynthetic : Text.IsAscii synthetic)
    (hkeys : ∀ e ∈ m.tables, ∀ i ∈ e.2.indexes, i.keys ≠ []) : Mapper.IsClear synthetic m := by
  refine ⟨nodup_lowerText hascii.tables hdescribed.names, hkeys, ?_⟩
  intro e he _ hmem
  obtain ⟨c, hc, hsame⟩ := List.mem_map.1 hmem
  have hname : Text.IsAscii (Mapper.syntheticName e.2 synthetic) :=
    Text.isAscii_freshName hsynthetic _ _ _
  exact Mapper.folded_ne_syntheticName e.2 synthetic c hc
    ((Text.lowerText_eq_iff (hascii.columns e he c hc) hname).1 hsame)

/-! ## Sessions -/

/-- A model that was read and mapped can be read back exactly when it is clear, as it is when its
names are of ASCII characters and every index has columns. -/
theorem Builder.IsRead.reloads_iff {b : Builder} (h : b.IsRead) (synthetic : String) :
    ((Mapper.map synthetic b.finish).validate = .ok () ↔ Mapper.IsClear synthetic b.finish)
      ∧ (∀ now : Instant, now.Fits → (Mapper.map synthetic b.finish).Fits →
        ((∃ header, Session.decode (Session.encode (Mapper.map synthetic b.finish) now)
            = .ok (header, Mapper.map synthetic b.finish))
          ↔ Mapper.IsClear synthetic b.finish))
      ∧ (b.finish.HasAsciiNames → Text.IsAscii synthetic →
        (∀ e ∈ b.finish.tables, ∀ i ∈ e.2.indexes, i.keys ≠ []) →
        Mapper.IsClear synthetic b.finish) := by
  -- what is read is sound and plain, so only names and empty indexes are left to check
  obtain ⟨hsound, hdescribed⟩ := h.sound.finish
  have hvalid := Mapper.validate_map_eq_ok_iff hsound hdescribed.plain synthetic
  refine ⟨hvalid, ?_, fun hascii => isClear_of_ascii hdescribed hascii⟩
  intro now hnow hfits
  rw [Session.decode_encode_eq hfits hnow, ← hvalid]
  cases (Mapper.map synthetic b.finish).validate with
  | ok => simp [Except.map]
  | error => simp [Except.map]

/-! ## A dump that cannot be reloaded -/

/-- Read a dump of PostgreSQL into a new builder. -/
def readDump (text : String) : Outcome Builder := do
  let r ← Dump.Reader.start .postgres
  let (_, b) ← r.read (.start .postgres .google .rename (Audit.start "request" ⟨0, 0⟩)) text
  return b

/-- A dump is a reading. -/
theorem isRead_of_readDump {text : String} {b : Builder} (h : readDump text = .ok b) :
    b.IsRead := by
  obtain ⟨r, -, h⟩ := bind_eq_ok_iff.1 h
  obtain ⟨⟨r', b'⟩, hread, h⟩ := bind_eq_ok_iff.1 h
  cases h
  exact .dump (.start _ _ _ _) hread

/-- Two tables whose names differ in the case of a letter beyond ASCII. -/
def accentedDump : String :=
  "CREATE TABLE \"É\" (id integer PRIMARY KEY);\nCREATE TABLE \"é\" (id integer PRIMARY KEY);"

/-- The model of the dump has two tables of one name in lower case. -/
theorem exists_readDump_accentedDump : ∃ b, readDump accentedDump = .ok b
    ∧ (Mapper.map "id" b.finish).validate
      = .error (.corruptSession "duplicate table name 'é'") := by
  have hmapped : (readDump accentedDump).map (fun b => (Mapper.map "id" b.finish).validate)
      = .ok (.error (.corruptSession "duplicate table name 'é'")) := by
    decide +kernel
  cases hread : readDump accentedDump with
  | error e =>
    rw [hread] at hmapped
    cases hmapped
  | ok b =>
    rw [hread] at hmapped
    exact ⟨b, rfl, Except.ok.inj hmapped⟩

/-- The synthetic key is named as it may be, the dump is read, and what comes of it is refused. -/
theorem refused_accentedDump : Identifier.validate "id" = .ok ()
    ∧ ∃ b, readDump accentedDump = .ok b ∧ b.IsRead
      ∧ (Mapper.map "id" b.finish).validate
        = .error (.corruptSession "duplicate table name 'é'") := by
  obtain ⟨b, hread, hrefused⟩ := exists_readDump_accentedDump
  exact ⟨by decide, b, hread, isRead_of_readDump hread, hrefused⟩

theorem reloads_iff_accentedDump : ∃ b, readDump accentedDump = .ok b ∧ b.IsRead
    ∧ ¬ Mapper.IsClear "id" b.finish := by
  obtain ⟨b, hread, hrefused⟩ := exists_readDump_accentedDump
  have h := isRead_of_readDump hread
  refine ⟨b, hread, h, fun hclear => ?_⟩
  have hvalid := (h.reloads_iff "id").1.2 hclear
  rw [hrefused] at hvalid
  cases hvalid

end SchemaBridge
