/-
# Fields of objects

An object that is written keeps its fields ordered by key.  Ordering does nothing to fields that are
ordered, and a field that is looked up is the last one of its key that was put in, so a record finds
what was written for each of its fields, or nothing where the field was left out.

## Key statements

* `canonical_object`: an object of canonical values is canonical.
* `recordFields_object`: what a record finds in an object.
-/
import Mathlib.Data.String.Basic
import SchemaBridge.Json.Decode

namespace SchemaBridge.Json

/-! ## Order -/

/-- Fields in strictly ascending order of their keys. -/
def Ordered (l : List (String × Json)) : Prop := l.Pairwise fun f g => f.1 < g.1

/-- A field of an object with one more is that one or was there. -/
theorem mem_insertField {key : String} {value : Json} {l : List (String × Json)}
    {f : String × Json} (h : f ∈ insertField key value l) : f = (key, value) ∨ f ∈ l := by
  induction l with
  | nil => exact Or.inl (List.mem_singleton.1 h)
  | cons g r ih =>
    obtain ⟨k, v⟩ := g
    unfold insertField at h
    split at h
    · exact List.mem_cons.1 h
    · split at h
      · rcases List.mem_cons.1 h with h | h
        · exact Or.inl h
        · exact Or.inr (List.mem_cons_of_mem _ h)
      · rcases List.mem_cons.1 h with h | h
        · exact Or.inr (h ▸ List.mem_cons_self)
        · rcases ih h with h | h
          · exact Or.inl h
          · exact Or.inr (List.mem_cons_of_mem _ h)

/-- One field more keeps the order of keys. -/
theorem ordered_insertField (key : String) (value : Json) {l : List (String × Json)}
    (h : Ordered l) : Ordered (insertField key value l) := by
  induction l with
  | nil => exact List.pairwise_singleton _ _
  | cons g r ih =>
    obtain ⟨k, v⟩ := g
    obtain ⟨hhead, htail⟩ := List.pairwise_cons.1 h
    unfold insertField
    -- a field goes in front of a greater one, in place of an equal one or further back
    split
    · rename_i hlt
      refine List.pairwise_cons.2 ⟨?_, h⟩
      intro f hf
      rcases List.mem_cons.1 hf with rfl | hf
      · exact hlt
      · exact lt_trans hlt (hhead f hf)
    · rename_i hlt
      split
      · rename_i heq
        subst heq
        exact List.pairwise_cons.2 ⟨hhead, htail⟩
      · rename_i hne
        refine List.pairwise_cons.2 ⟨?_, ih htail⟩
        intro f hf
        rcases mem_insertField hf with rfl | hf
        · exact lt_of_le_of_ne (not_lt.1 hlt) (Ne.symm hne)
        · exact hhead f hf

theorem ordered_foldl (fields : List (String × Json)) {done : List (String × Json)}
    (h : Ordered done) : Ordered (fields.foldl (fun done f => insertField f.1 f.2 done) done) := by
  induction fields generalizing done with
  | nil => exact h
  | cons f r ih => exact ih (ordered_insertField f.1 f.2 h)

/-- Fields are ordered by their keys. -/
theorem ordered_orderFields (fields : List (String × Json)) : Ordered (orderFields fields) :=
  ordered_foldl fields List.Pairwise.nil

/-- Fields come from those that are inserted. -/
theorem mem_foldl_insertField {fields done : List (String × Json)} {f : String × Json}
    (h : f ∈ fields.foldl (fun done f => insertField f.1 f.2 done) done) : f ∈ done ∨ f ∈ fields := by
  induction fields generalizing done with
  | nil => exact Or.inl h
  | cons g r ih =>
    rcases ih h with h | h
    · rcases mem_insertField h with h | h
      · exact Or.inr (h ▸ List.mem_cons_self)
      · exact Or.inl h
    · exact Or.inr (List.mem_cons_of_mem _ h)

/-- No field is made up. -/
theorem mem_orderFields {fields : List (String × Json)} {f : String × Json}
    (h : f ∈ orderFields fields) : f ∈ fields := by
  rcases mem_foldl_insertField h with h | h
  · cases h
  · exact h

/-- A field whose key is above all others goes to the end. -/
theorem insertField_of_last {key : String} {value : Json} {l : List (String × Json)}
    (h : ∀ f ∈ l, f.1 < key) : insertField key value l = l ++ [(key, value)] := by
  induction l with
  | nil => rfl
  | cons g r ih =>
    obtain ⟨k, v⟩ := g
    have hlt : k < key := h (k, v) List.mem_cons_self
    unfold insertField
    rw [if_neg (not_lt.2 hlt.le), if_neg hlt.ne', ih fun f hf => h f (List.mem_cons_of_mem _ hf)]
    rfl

/-- Fields that are in order stay as they are. -/
theorem foldl_insertField_of_ordered {done rest : List (String × Json)}
    (h : Ordered (done ++ rest)) :
    rest.foldl (fun done f => insertField f.1 f.2 done) done = done ++ rest := by
  induction rest generalizing done with
  | nil => simp
  | cons f rest ih =>
    have hlast : ∀ g ∈ done, g.1 < f.1 :=
      fun g hg => (List.pairwise_append.1 h).2.2 g hg f List.mem_cons_self
    rw [List.foldl_cons, insertField_of_last hlast, ih (by simpa using h)]
    simp

/-- Fields that are in order stay as they are. -/
theorem orderFields_of_ordered {l : List (String × Json)} (h : Ordered l) : orderFields l = l := by
  have hnil : Ordered ([] ++ l) := h
  exact foldl_insertField_of_ordered hnil

/-- A field under a key of its own is added to the others. -/
theorem perm_insertField {key : String} {value : Json} {l : List (String × Json)}
    (h : key ∉ l.map (·.1)) : (insertField key value l).Perm ((key, value) :: l) := by
  induction l with
  | nil => exact List.Perm.refl _
  | cons g r ih =>
    obtain ⟨k, v⟩ := g
    rw [List.map_cons, List.mem_cons, not_or] at h
    unfold insertField
    split
    · exact List.Perm.refl _
    · rw [if_neg h.1]
      exact ((ih h.2).cons (k, v)).trans (List.Perm.swap _ _ _)

/-- Fields with different keys are all kept. -/
theorem perm_foldl_insertField {fields done : List (String × Json)}
    (h : ((done ++ fields).map (·.1)).Nodup) :
    (fields.foldl (fun done f => insertField f.1 f.2 done) done).Perm (done ++ fields) := by
  induction fields generalizing done with
  | nil => simp
  | cons f r ih =>
    have hmiddle : (done ++ f :: r).Perm (f :: (done ++ r)) := List.perm_middle
    have hnodup := (hmiddle.map (·.1)).nodup h
    have hkey : f.1 ∉ done.map (·.1) := by
      intro hf
      refine (List.nodup_cons.1 hnodup).1 ?_
      rw [List.map_append]
      exact List.mem_append_left _ hf
    have hinsert : (insertField f.1 f.2 done ++ r).Perm (f :: (done ++ r)) :=
      (perm_insertField hkey).append_right r
    exact (ih ((hinsert.map (·.1)).symm.nodup hnodup)).trans (hinsert.trans hmiddle.symm)

/-- Fields of distinct keys are only brought into order. -/
theorem perm_orderFields {fields : List (String × Json)} (h : (fields.map (·.1)).Nodup) :
    (orderFields fields).Perm fields := by
  have hnil : ((([] : List (String × Json)) ++ fields).map (·.1)).Nodup := h
  exact perm_foldl_insertField hnil

/-! ## Canonical values -/

/-- Items in canonical form stay as they are. -/
theorem canonicalItems_eq_self {items : List Json} (h : ∀ v ∈ items, v.canonical = v) :
    canonicalItems items = items := by
  induction items with
  | nil => rfl
  | cons v r ih =>
    rw [canonicalItems, h v List.mem_cons_self, ih fun u hu => h u (List.mem_cons_of_mem _ hu)]

/-- Fields in canonical form stay as they are. -/
theorem canonicalFields_eq_self {fields : List (String × Json)}
    (h : ∀ f ∈ fields, f.2.canonical = f.2) : canonicalFields fields = fields := by
  induction fields with
  | nil => rfl
  | cons f r ih =>
    obtain ⟨k, v⟩ := f
    rw [canonicalFields, show v.canonical = v from h (k, v) List.mem_cons_self,
      ih fun g hg => h g (List.mem_cons_of_mem _ hg)]

/-- A list of canonical items is canonical. -/
theorem canonical_arr {items : List Json} (h : ∀ v ∈ items, v.canonical = v) :
    (Json.arr items).canonical = .arr items := by
  rw [canonical, canonicalItems_eq_self h]

/-- An object of canonical fields is canonical. -/
theorem canonical_object {fields : List (String × Json)} (h : ∀ f ∈ fields, f.2.canonical = f.2) :
    (object fields).canonical = object fields := by
  rw [object, canonical, canonicalFields_eq_self fun f hf => h f (mem_orderFields hf),
    orderFields_of_ordered (ordered_orderFields fields)]

/-! ## Looking up -/

/-- What is found behind one field more. -/
theorem lookup_cons_if {κ α : Type} [DecidableEq κ] (f : κ × α) (r : List (κ × α)) (k : κ) :
    (f :: r).lookup k = if k = f.1 then some f.2 else r.lookup k := by
  rw [List.lookup_cons]
  by_cases h : k = f.1
  · rw [if_pos h, beq_iff_eq.2 h]
  · rw [if_neg h, beq_eq_false_iff_ne.2 h]

/-- A field that is inserted is found, and no other one is lost. -/
theorem lookup_insertField (key : String) (value : Json) (l : List (String × Json)) (k : String) :
    (insertField key value l).lookup k = if k = key then some value else l.lookup k := by
  induction l with
  | nil => exact lookup_cons_if (key, value) [] k
  | cons g r ih =>
    obtain ⟨a, v⟩ := g
    unfold insertField
    split
    · exact lookup_cons_if (key, value) _ k
    · split
      · rename_i heq
        subst heq
        rw [lookup_cons_if, lookup_cons_if]
        by_cases h : k = key <;> simp [h]
      · rename_i hne
        rw [lookup_cons_if, lookup_cons_if, ih]
        by_cases h : k = key
        · subst h
          simp [hne]
        · simp [h]

/-- The last value of a key. -/
def last? (fields : List (String × Json)) (k : String) : Option Json := fields.reverse.lookup k

/-- Among no fields none is last. -/
@[simp] theorem last?_nil (k : String) : last? [] k = none := rfl

/-- The last field of a key is looked for in the second list first. -/
@[simp] theorem last?_append (a b : List (String × Json)) (k : String) :
    last? (a ++ b) k = (last? b k).or (last? a k) := by
  unfold last?
  rw [List.reverse_append, List.lookup_append]

/-- One field more in front is found if no other one is. -/
@[simp] theorem last?_cons (f : String × Json) (r : List (String × Json)) (k : String) :
    last? (f :: r) k = (last? r k).or (if k = f.1 then some f.2 else none) := by
  rw [← List.singleton_append, last?_append]
  exact congrArg _ (lookup_cons_if f [] k)

/-- A field that may be left out. -/
@[simp] theorem last?_optionalField {α : Type} (key : String) (w : α → Json) (o : Option α)
    (k : String) : last? (optionalField key w o) k = if k = key then o.map w else none := by
  cases o with
  | none => simp [optionalField]
  | some a => simp [optionalField]

/-- A flag, which is written if it is set. -/
@[simp] theorem last?_flagField (key : String) (b : Bool) (k : String) :
    last? (flagField key b) k = if k = key ∧ b = true then some (.bool true) else none := by
  cases b <;> simp [flagField]

/-- Of several fields with a key the last one counts. -/
theorem lookup_foldl_insertField (fields done : List (String × Json)) (k : String) :
    (fields.foldl (fun done f => insertField f.1 f.2 done) done).lookup k
      = (last? fields k).or (done.lookup k) := by
  induction fields generalizing done with
  | nil => rfl
  | cons f r ih =>
    rw [List.foldl_cons, ih, lookup_insertField, last?_cons]
    by_cases h : k = f.1
    · simp [h]
    · simp [h]

theorem lookup_orderFields (fields : List (String × Json)) (k : String) :
    (orderFields fields).lookup k = last? fields k := by
  rw [orderFields, lookup_foldl_insertField]
  simp

theorem field?_object (fields : List (String × Json)) (k : String) :
    (object fields).field? k = last? fields k :=
  lookup_orderFields fields k

/-! ## Records -/

/-- Other keys do not matter. -/
theorem lookup_filter {l : List (String × Json)} {p : String → Bool} {k : String}
    (h : p k = true) : (l.filter fun f => p f.1).lookup k = l.lookup k := by
  induction l with
  | nil => rfl
  | cons f r ih =>
    rw [List.filter_cons]
    by_cases hk : k = f.1
    · subst hk
      rw [if_pos h, lookup_cons_if, lookup_cons_if, if_pos rfl, if_pos rfl]
    · split
      · rw [lookup_cons_if, lookup_cons_if, if_neg hk, if_neg hk, ih]
      · rw [lookup_cons_if, if_neg hk, ih]

/-- Fields in order have each key once at most. -/
theorem countP_key_le_one {l : List (String × Json)} (h : Ordered l) (n : String) :
    l.countP (fun f => f.1 == n) ≤ 1 := by
  induction l with
  | nil => simp
  | cons f r ih =>
    obtain ⟨hhead, htail⟩ := List.pairwise_cons.1 h
    rw [List.countP_cons]
    by_cases hn : f.1 = n
    · have hzero : r.countP (fun g => g.1 == n) = 0 := by
        rw [List.countP_eq_zero]
        intro g hg hgn
        have hlt := hhead g hg
        rw [hn, eq_of_beq hgn] at hlt
        exact lt_irrefl n hlt
      rw [hzero]
      simp [hn]
    · simpa [hn] using ih htail

/-- In an object in order no field is repeated, and a record finds the declared ones. -/
theorem recordFields_ordered {l : List (String × Json)} (h : Ordered l) (names : List String) :
    ∃ fs, recordFields names (.obj l) = .ok fs ∧ ∀ n ∈ names, fs.lookup n = l.lookup n := by
  refine ⟨l.filter fun f => names.contains f.1, ?_, ?_⟩
  · have hnone : names.find? (fun n => 1 < (l.filter fun f => names.contains f.1).countP
        fun f => f.1 == n) = none := by
      rw [List.find?_eq_none]
      intro n _
      have hle := countP_key_le_one (h.filter fun f => names.contains f.1) n
      simpa using hle
    unfold recordFields
    simp only [hnone]
  · intro n hn
    exact lookup_filter (p := fun k => names.contains k) (by simpa using hn)

/-- The fields of a record are those of its names. -/
theorem recordFields_object (fields : List (String × Json)) (names : List String) :
    ∃ fs, recordFields names (object fields) = .ok fs ∧ ∀ n ∈ names, fs.lookup n = last? fields n := by
  obtain ⟨fs, hfs, hl⟩ := recordFields_ordered (ordered_orderFields fields) names
  exact ⟨fs, hfs, fun n hn => (hl n hn).trans (lookup_orderFields fields n)⟩

end SchemaBridge.Json
