/-
# Records that are written and read

What an encoder has to be shown of, whatever it encodes: the value it writes can be read as text, is
canonical and is not null.  What a decoder has to be shown of: each of its fields finds what was
written for it, and takes its usual value where the field was left out.

## Key statements

* `written_object`, `written_list`: values are written if their parts are.
* `decode_object`: a record is decoded from the fields an object was made of.
* `required_eq`, `optional_eq`, `withDefault_list`, `withDefault_flag`: one field of a record.
-/
import SchemaBridge.Proofs.Json.Fields
import SchemaBridge.Proofs.Json.RoundTrip
import SchemaBridge.Proofs.Schema.Validity
import SchemaBridge.Session.Decode
import SchemaBridge.Session.Encode

namespace SchemaBridge.Session

open Json (Decoder Readable object optionalField flagField last? required optional withDefault
  recordFields decodeText decodeBool decodeNat decodeWord32 decodeWord64 decodeInt64 decodeList
  decodeName)

/-! ## Encoders -/

/-- A value as encoders write it, below `depth` containers that may still be opened. -/
structure Written (depth : Nat) (v : Json) : Prop where
  readable : Readable depth v
  canonical : v.canonical = v
  notNull : v ≠ .null

/-- What can be written in less depth can be written in more. -/
theorem Written.mono {depth depth' : Nat} {v : Json} (h : Written depth v) (hle : depth ≤ depth') :
    Written depth' v :=
  ⟨h.readable.mono hle, h.canonical, h.notNull⟩

/-- Fields whose values are written. -/
def WrittenFields (depth : Nat) (fields : List (String × Json)) : Prop :=
  ∀ f ∈ fields, Written depth f.2

/-- A text can be written. -/
theorem written_str (depth : Nat) (s : String) : Written depth (.str s) :=
  ⟨.str depth s, by rw [Json.canonical] <;> simp, by simp⟩

/-- A truth value can be written. -/
theorem written_bool (depth : Nat) (b : Bool) : Written depth (.bool b) :=
  ⟨.bool depth b, by rw [Json.canonical] <;> simp, by simp⟩

/-- A number of 64 bits can be written. -/
theorem written_int (depth : Nat) {n : Int} (h : Json.FitsWord n) : Written depth (.int n) :=
  ⟨.int depth h, by rw [Json.canonical] <;> simp, by simp⟩

theorem written_nat (depth : Nat) {n : Nat} (h : n ≤ 18446744073709551615) :
    Written depth (encodeNat n) := by
  refine written_int depth ⟨?_, ?_⟩
  · have hn : (0 : Int) ≤ n := Int.natCast_nonneg n
    omega
  · exact Int.ofNat_le.2 h

/-- An object of fields that can be written. -/
theorem written_object {depth : Nat} {fields : List (String × Json)}
    (h : WrittenFields (depth + 1) fields) : Written (depth + 2) (object fields) :=
  ⟨.obj fun f hf => (h f (Json.mem_orderFields hf)).readable,
    Json.canonical_object fun f hf => (h f hf).canonical, by simp [object]⟩

/-- A list of items that can be written. -/
theorem written_list {α : Type} {depth : Nat} {f : α → Json} {l : List α}
    (h : ∀ a ∈ l, Written (depth + 1) (f a)) : Written (depth + 2) (encodeList f l) := by
  have hall : ∀ v ∈ l.map f, Written (depth + 1) v := by
    intro v hv
    obtain ⟨a, ha, rfl⟩ := List.mem_map.1 hv
    exact h a ha
  exact ⟨.arr fun v hv => (hall v hv).readable,
    Json.canonical_arr fun v hv => (hall v hv).canonical, by simp [encodeList]⟩

theorem writtenFields_nil (depth : Nat) : WrittenFields depth [] := by
  intro f hf
  cases hf

/-- One field more. -/
theorem writtenFields_cons {depth : Nat} {k : String} {v : Json} {r : List (String × Json)}
    (hv : Written depth v) (hr : WrittenFields depth r) : WrittenFields depth ((k, v) :: r) := by
  intro f hf
  rcases List.mem_cons.1 hf with rfl | hf
  · exact hv
  · exact hr f hf

/-- Fields and more fields. -/
theorem writtenFields_append {depth : Nat} {a b : List (String × Json)}
    (ha : WrittenFields depth a) (hb : WrittenFields depth b) : WrittenFields depth (a ++ b) := by
  intro f hf
  rcases List.mem_append.1 hf with hf | hf
  · exact ha f hf
  · exact hb f hf

/-- A field that may be left out. -/
theorem writtenFields_optional {α : Type} {depth : Nat} {k : String} {w : α → Json} {o : Option α}
    (h : ∀ a, o = some a → Written depth (w a)) : WrittenFields depth (optionalField k w o) := by
  cases o with
  | none => exact writtenFields_nil depth
  | some a => exact writtenFields_cons (h a rfl) (writtenFields_nil depth)

/-- A flag, which is written if it is set. -/
theorem writtenFields_flag (depth : Nat) (k : String) (b : Bool) :
    WrittenFields depth (flagField k b) := by
  cases b with
  | false => exact writtenFields_nil depth
  | true => exact writtenFields_cons (written_bool depth true) (writtenFields_nil depth)

/-- A list, which is written if it is not empty. -/
theorem writtenFields_list {α : Type} {depth : Nat} {k : String} {f : α → Json} {l : List α}
    (h : ∀ a ∈ l, Written (depth + 1) (f a)) : WrittenFields (depth + 2) (listField k f l) := by
  unfold listField
  split
  · exact writtenFields_nil _
  · exact writtenFields_cons (written_list h) (writtenFields_nil _)

/-! ## Decoders -/

/-- A list is found if it is not empty. -/
@[simp] theorem last?_listField {α : Type} (key : String) (f : α → Json) (l : List α) (k : String) :
    last? (listField key f l) k
      = if k = key ∧ l ≠ [] then some (encodeList f l) else none := by
  cases l with
  | nil => simp [listField]
  | cons a l => simp [listField]

/-- What is found in one of two lists of fields. -/
@[simp] theorem last?_ite (p : Prop) [Decidable p] (a b : List (String × Json)) (k : String) :
    last? (if p then a else b) k = if p then last? a k else last? b k := by
  split <;> rfl

/-- A record is decoded from the fields an object was made of. -/
theorem decode_object {α : Type} {names : List String} {fields : List (String × Json)}
    {k : List (String × Json) → Except String α} {a : α}
    (h : ∀ fs, (∀ n ∈ names, fs.lookup n = last? fields n) → k fs = .ok a) :
    (recordFields names (object fields) >>= k) = .ok a := by
  obtain ⟨fs, hfs, hl⟩ := Json.recordFields_object fields names
  rw [hfs, ok_bind]
  exact h fs hl

variable {α : Type} {fs : List (String × Json)} {n : String}

/-- A field that must be there is read. -/
theorem required_eq {d : Decoder α} {v : Json} {a : α} (hl : fs.lookup n = some v)
    (hd : d v = .ok a) : required fs n d = .ok a := by
  unfold Json.required
  rw [hl]
  exact hd

/-- A field that may be left out is read. -/
theorem optional_eq {d : Decoder α} {w : α → Json} {o : Option α} (hl : fs.lookup n = o.map w)
    (hw : ∀ a, o = some a → w a ≠ .null) (hd : ∀ a, o = some a → d (w a) = .ok a) :
    optional fs n d = .ok o := by
  unfold Json.optional
  rw [hl]
  cases o with
  | none => rfl
  | some a =>
    have hnull := hw a rfl
    simp only [Option.map_some]
    rw [hd a rfl]
    rfl

/-- A field with a default is read if it is there. -/
theorem withDefault_some {d : Decoder α} {v : Json} {a usual : α} (hl : fs.lookup n = some v)
    (hd : d v = .ok a) : withDefault fs n usual d = .ok a := by
  unfold Json.withDefault
  rw [hl]
  exact hd

/-- The default counts if the field is not there. -/
theorem withDefault_none {d : Decoder α} {usual : α} (hl : fs.lookup n = none) :
    withDefault fs n usual d = .ok usual := by
  unfold Json.withDefault
  rw [hl]

/-- A flag is read. -/
theorem withDefault_flag {b : Bool}
    (hl : fs.lookup n = if b = true then some (.bool true) else none) :
    withDefault fs n false decodeBool = .ok b := by
  cases b with
  | false => exact withDefault_none hl
  | true => exact withDefault_some hl rfl

/-! ## Leaves and lists -/

/-- A text is read. -/
theorem decodeText_str (s : String) : decodeText (.str s) = .ok s := rfl

/-- A truth value is read. -/
theorem decodeBool_bool (b : Bool) : decodeBool (.bool b) = .ok b := rfl

/-- A number within its limit is read back. -/
theorem decodeNat_encodeNat {limit n : Nat} (h : n ≤ limit) :
    decodeNat limit (encodeNat n) = .ok n := by
  show (if n ≤ limit then Except.ok n else Json.expected "a smaller number") = _
  rw [if_pos h]

/-- A number of 64 bits is read. -/
theorem decodeInt64_int {n : Int} (h : -9223372036854775808 ≤ n ∧ n ≤ 9223372036854775807) :
    decodeInt64 (.int n) = .ok n := by
  unfold Json.decodeInt64
  dsimp only
  rw [if_pos h]

/-- A name that stands for something is read. -/
theorem decodeName_str {what : String} {ofName? : String → Option α} {s : String} {a : α}
    (h : ofName? s = some a) : decodeName what ofName? (.str s) = .ok a := by
  unfold Json.decodeName
  simp only [Json.decodeName.named, h]

/-- Items that are read back one by one. -/
theorem mapM_map_ok {β γ : Type} {d : β → Except String γ} {f : γ → β} {l : List γ}
    (h : ∀ a ∈ l, d (f a) = .ok a) : (l.map f).mapM d = .ok l := by
  induction l with
  | nil => rfl
  | cons a l ih =>
    rw [List.map_cons, List.mapM_cons, h a List.mem_cons_self, ok_bind,
      ih fun b hb => h b (List.mem_cons_of_mem _ hb)]
    rfl

/-- A list is read back if its items are. -/
theorem decodeList_encodeList {d : Decoder α} {f : α → Json} {l : List α}
    (h : ∀ a ∈ l, d (f a) = .ok a) : decodeList d (encodeList f l) = .ok l :=
  mapM_map_ok h

/-- A list that is left out when it is empty. -/
theorem withDefault_list {d : Decoder α} {f : α → Json} {l : List α}
    (hl : fs.lookup n = if l = [] then none else some (encodeList f l))
    (h : ∀ a ∈ l, d (f a) = .ok a) : withDefault fs n [] (decodeList d) = .ok l := by
  cases l with
  | nil => exact withDefault_none hl
  | cons a l => exact withDefault_some hl (decodeList_encodeList h)

end SchemaBridge.Session
