/-
# Written values read back

A value without reals, whose whole numbers fit their words and whose containers are not nested too
deeply, is read back from the form in which it is written for readers.

## Key statements

* `readsBack_of_readable`: inside a text, whatever stands after the value.
* `parse_prettyText`: as a whole text.
-/
import SchemaBridge.Proofs.Json.Leaves

namespace SchemaBridge.Json

/-- A value that may stand where `depth` is the number of containers that may still be opened, and
one. -/
inductive Readable : Nat → Json → Prop
  | null (depth : Nat) : Readable depth .null
  | bool (depth : Nat) (b : Bool) : Readable depth (.bool b)
  | int (depth : Nat) {n : Int} (h : FitsWord n) : Readable depth (.int n)
  | str (depth : Nat) (s : String) : Readable depth (.str s)
  | arr {depth : Nat} {items : List Json} (h : ∀ v ∈ items, Readable (depth + 1) v) :
    Readable (depth + 2) (.arr items)
  | obj {depth : Nat} {fields : List (String × Json)} (h : ∀ f ∈ fields, Readable (depth + 1) f.2) :
    Readable (depth + 2) (.obj fields)

/-- A value that can be read in less depth can be read in more. -/
theorem Readable.mono {depth : Nat} {v : Json} (h : Readable depth v) :
    ∀ {depth' : Nat}, depth ≤ depth' → Readable depth' v := by
  induction h with
  | null _ => exact fun _ => .null _
  | bool _ b => exact fun _ => .bool _ b
  | int _ h => exact fun _ => .int _ h
  | str _ s => exact fun _ => .str _ s
  | arr _ ih =>
    intro depth' hle
    obtain ⟨k, rfl⟩ : ∃ k, depth' = k + 2 := ⟨depth' - 2, by omega⟩
    exact .arr fun v hv => ih v hv (by omega)
  | obj _ ih =>
    intro depth' hle
    obtain ⟨k, rfl⟩ : ∃ k, depth' = k + 2 := ⟨depth' - 2, by omega⟩
    exact .obj fun f hf => ih f hf (by omega)

mutual

/-- Number of reading steps that suffice for a value. -/
def steps : Json → Nat
  | .arr items => 1 + stepsItems items
  | .obj fields => 1 + stepsFields fields
  | _ => 1

/-- Steps for the items of a list. -/
def stepsItems : List Json → Nat
  | [] => 0
  | v :: r => 1 + steps v + stepsItems r

/-- Steps for the fields of an object. -/
def stepsFields : List (String × Json) → Nat
  | [] => 0
  | (_, v) :: r => 1 + steps v + stepsFields r

end

/-! ## Written forms -/

/-- How a number is written. -/
theorem prettyAt_nat (level n : Nat) : prettyAt level (.int (.ofNat n)) = Nat.toDigits 10 n := by
  simp [prettyAt, Text.decimalInt, Text.decimal]

/-- How a negative number is written. -/
theorem prettyAt_negSucc (level n : Nat) :
    prettyAt level (.int (.negSucc n)) = '-' :: Nat.toDigits 10 (n + 1) := by
  simp [prettyAt, Text.decimalInt, Text.decimal]

/-- How a text is written. -/
theorem prettyAt_str (level : Nat) (s : String) :
    prettyAt level (.str s) = '"' :: (writeString s).tail := by
  simp [prettyAt, writeString]

theorem prettyAt_arr_nil (level : Nat) : prettyAt level (.arr []) = ['[', ']'] := by
  simp [prettyAt, compact]

/-- How a list is written. -/
theorem prettyAt_arr_cons (level : Nat) (v : Json) (r : List Json) :
    prettyAt level (.arr (v :: r))
      = '[' :: (newLine (level + 1) ++ (prettyAt (level + 1) v ++ prettyItems level r)) := by
  simp [prettyAt]

theorem prettyAt_obj_nil (level : Nat) : prettyAt level (.obj []) = ['\x7b', '\x7d'] := by
  simp [prettyAt, compact]

/-- How an object is written. -/
theorem prettyAt_obj_cons (level : Nat) (k : String) (v : Json) (r : List (String × Json)) :
    prettyAt level (.obj ((k, v) :: r)) = '\x7b' :: (newLine (level + 1) ++ (writeString k
      ++ ':' :: ' ' :: (prettyAt (level + 1) v ++ prettyFields level r))) := by
  simp [prettyAt]

/-! ## Space -/

/-- White space at the beginning of a line is skipped. -/
theorem skipSpace_newLine (level : Nat) {s : List Char} (hs : skipSpace s = s) :
    skipSpace (newLine level ++ s) = s := by
  have hall : ∀ c ∈ newLine level, isSpace c = true := by
    intro c hc
    rcases List.mem_cons.1 hc with rfl | hc
    · rfl
    · rw [(List.mem_replicate.1 hc).2]
      rfl
  unfold skipSpace at hs ⊢
  rw [List.dropWhile_append_of_pos hall, hs]

/-- Nothing else is. -/
theorem skipSpace_cons {c : Char} (h : isSpace c = false) (r : List Char) :
    skipSpace (c :: r) = c :: r := by
  simp [skipSpace, h]

/-- The first character of a written value: no space, and no closing bracket. -/
def BeginsValue (c : Char) : Prop := isSpace c = false ∧ c ≠ ']'

/-- A digit begins a value. -/
theorem beginsValue_of_isDigit {c : Char} (h : c.isDigit = true) : BeginsValue c := by
  constructor
  · cases hs : isSpace c with
    | false => rfl
    | true =>
      simp only [isSpace, Bool.or_eq_true, beq_iff_eq] at hs
      rcases hs with ((rfl | rfl) | rfl) | rfl <;> exact absurd h (by decide)
  · rintro rfl
    exact absurd h (by decide)

/-- A number begins with a digit. -/
theorem toDigits_eq_cons (n : Nat) : ∃ c r, Nat.toDigits 10 n = c :: r ∧ c.isDigit = true := by
  cases h : Nat.toDigits 10 n with
  | nil => exact absurd h Nat.toDigits_ne_nil
  | cons c r => exact ⟨c, r, rfl, Text.isDigit_toDigits n c (h ▸ List.mem_cons_self)⟩

/-- What is written begins a value. -/
theorem prettyAt_eq_cons {depth : Nat} {v : Json} (h : Readable depth v) (level : Nat) :
    ∃ c r, prettyAt level v = c :: r ∧ BeginsValue c := by
  cases h with
  | null _ => exact ⟨'n', _, rfl, by decide, by decide⟩
  | bool _ b =>
    cases b with
    | false => exact ⟨'f', _, rfl, by decide, by decide⟩
    | true => exact ⟨'t', _, rfl, by decide, by decide⟩
  | @int _ n h =>
    cases n with
    | ofNat n =>
      obtain ⟨c, r, hd, hc⟩ := toDigits_eq_cons n
      exact ⟨c, r, (prettyAt_nat level n).trans hd, beginsValue_of_isDigit hc⟩
    | negSucc n => exact ⟨'-', _, prettyAt_negSucc level n, by decide, by decide⟩
  | str _ s => exact ⟨'"', _, prettyAt_str level s, by decide, by decide⟩
  | @arr _ items h =>
    cases items with
    | nil => exact ⟨'[', _, prettyAt_arr_nil level, by decide, by decide⟩
    | cons v r => exact ⟨'[', _, prettyAt_arr_cons level v r, by decide, by decide⟩
  | @obj _ fields h =>
    cases fields with
    | nil => exact ⟨'\x7b', _, prettyAt_obj_nil level, by decide, by decide⟩
    | cons f r => exact ⟨'\x7b', _, prettyAt_obj_cons level f.1 f.2 r, by decide, by decide⟩

/-- So no white space comes before it. -/
theorem skipSpace_prettyAt {depth : Nat} {v : Json} (h : Readable depth v) (level : Nat)
    (rest : List Char) : skipSpace (prettyAt level v ++ rest) = prettyAt level v ++ rest := by
  obtain ⟨c, r, hc, hb⟩ := prettyAt_eq_cons h level
  rw [hc]
  exact skipSpace_cons hb.1 _

/-! ## Reading -/

/-- A value that begins with a digit is a number. -/
theorem readValue_digits {s : List Char} {c : Char} {r : List Char} (fuel depth : Nat)
    (hs : skipSpace s = c :: r) (hc : c.isDigit = true) :
    readValue (fuel + 1) depth s = readUnsigned false (c :: r) := by
  rw [readValue, hs]
  split
  all_goals first
    | (rename_i heq
       injection heq with hhead
       rw [hhead] at hc
       exact absurd hc (by decide))
    | rfl

/-- What is no part of a number ends it. -/
theorem endsNumber_cons {c : Char} (h : c.isDigit = false ∧ c ≠ '.' ∧ c ≠ 'e' ∧ c ≠ 'E')
    (r : List Char) : EndsNumber (c :: r) := by
  intro d hd
  cases hd
  exact h

/-- What stands after an item of an array. -/
theorem endsNumber_prettyItems (level : Nat) (r : List Json) (rest : List Char) :
    EndsNumber (prettyItems level r ++ rest) := by
  cases r with
  | nil => exact endsNumber_cons (by decide) _
  | cons v r => exact endsNumber_cons (by decide) _

/-- What stands after a field of an object. -/
theorem endsNumber_prettyFields (level : Nat) (r : List (String × Json)) (rest : List Char) :
    EndsNumber (prettyFields level r ++ rest) := by
  cases r with
  | nil => exact endsNumber_cons (by decide) _
  | cons f r => exact endsNumber_cons (by decide) _

/-- A value is read wherever its written form stands, if enough fuel is left. -/
def ReadsBack (depth : Nat) (v : Json) : Prop :=
  ∀ fuel level rest s, steps v ≤ fuel → EndsNumber rest →
    skipSpace s = prettyAt level v ++ rest → readValue fuel depth s = .ok (v, rest)

theorem skipSpace_prettyItems_nil (level : Nat) (rest : List Char) :
    skipSpace (prettyItems level [] ++ rest) = ']' :: rest := by
  have hform : prettyItems level [] ++ rest = newLine level ++ ']' :: rest := by
    simp [prettyItems]
  rw [hform]
  exact skipSpace_newLine level (skipSpace_cons (by decide) rest)

theorem skipSpace_prettyItems_cons (level : Nat) (v : Json) (r : List Json) (rest : List Char) :
    skipSpace (prettyItems level (v :: r) ++ rest)
      = ',' :: (newLine (level + 1) ++ (prettyAt (level + 1) v ++ (prettyItems level r ++ rest))) := by
  have hform : prettyItems level (v :: r) ++ rest = ',' :: (newLine (level + 1)
      ++ (prettyAt (level + 1) v ++ (prettyItems level r ++ rest))) := by
    simp [prettyItems]
  rw [hform]
  exact skipSpace_cons (by decide) _

/-- The items of an array, if each of them is read. -/
theorem readItems_prettyItems {depth level : Nat} {r : List Json} {v : Json}
    (h : ∀ u ∈ v :: r, Readable depth u ∧ ReadsBack depth u) {fuel : Nat} {s rest : List Char}
    (hfuel : stepsItems (v :: r) ≤ fuel)
    (hs : skipSpace s = prettyAt (level + 1) v ++ (prettyItems level r ++ rest)) :
    readItems fuel depth s = .ok (v :: r, rest) := by
  induction r generalizing v fuel s with
  | nil =>
    obtain ⟨k, rfl⟩ : ∃ k, fuel = k + 1 := ⟨fuel - 1, by simp only [stepsItems] at hfuel; omega⟩
    have hv := (h v List.mem_cons_self).2 k (level + 1) _ s
      (by simp only [stepsItems] at hfuel; omega) (endsNumber_prettyItems level [] rest) hs
    rw [readItems]
    simp only [bind, Except.bind, hv, skipSpace_prettyItems_nil]
    rfl
  | cons u r ih =>
    obtain ⟨k, rfl⟩ : ∃ k, fuel = k + 1 := ⟨fuel - 1, by simp only [stepsItems] at hfuel; omega⟩
    have hv := (h v List.mem_cons_self).2 k (level + 1) _ s
      (by simp only [stepsItems] at hfuel; omega) (endsNumber_prettyItems level (u :: r) rest) hs
    have hu : Readable depth u := (h u (List.mem_cons_of_mem _ List.mem_cons_self)).1
    -- what follows is read with the fuel that the first item leaves
    have hrest : readItems k depth
        (newLine (level + 1) ++ (prettyAt (level + 1) u ++ (prettyItems level r ++ rest)))
          = .ok (u :: r, rest) :=
      ih (fun w hw => h w (List.mem_cons_of_mem _ hw))
        (by simp only [stepsItems] at hfuel ⊢; omega)
        (skipSpace_newLine _ (skipSpace_prettyAt hu _ _))
    rw [readItems]
    simp only [bind, Except.bind, hv, skipSpace_prettyItems_cons, hrest]
    rfl

theorem skipSpace_prettyFields_nil (level : Nat) (rest : List Char) :
    skipSpace (prettyFields level [] ++ rest) = '\x7d' :: rest := by
  have hform : prettyFields level [] ++ rest = newLine level ++ '\x7d' :: rest := by
    simp [prettyFields]
  rw [hform]
  exact skipSpace_newLine level (skipSpace_cons (by decide) rest)

theorem skipSpace_prettyFields_cons (level : Nat) (k : String) (v : Json)
    (r : List (String × Json)) (rest : List Char) :
    skipSpace (prettyFields level ((k, v) :: r) ++ rest)
      = ',' :: (newLine (level + 1) ++ (writeString k ++ ':' :: ' ' :: (prettyAt (level + 1) v
        ++ (prettyFields level r ++ rest)))) := by
  have hform : prettyFields level ((k, v) :: r) ++ rest = ',' :: (newLine (level + 1)
      ++ (writeString k ++ ':' :: ' ' :: (prettyAt (level + 1) v
        ++ (prettyFields level r ++ rest)))) := by
    simp [prettyFields]
  rw [hform]
  exact skipSpace_cons (by decide) _

theorem skipSpace_space (s : List Char) (hs : skipSpace s = s) : skipSpace (' ' :: s) = s := by
  show (if isSpace ' ' then skipSpace s else ' ' :: s) = s
  exact hs

/-- The fields of an object, if the value of each is read. -/
theorem readFields_prettyFields {depth level : Nat} {r : List (String × Json)} {k : String}
    {v : Json} (h : ∀ f ∈ (k, v) :: r, Readable depth f.2 ∧ ReadsBack depth f.2) {fuel : Nat}
    {s rest : List Char} (hfuel : stepsFields ((k, v) :: r) ≤ fuel)
    (hs : skipSpace s = writeString k ++ ':' :: ' ' :: (prettyAt (level + 1) v
      ++ (prettyFields level r ++ rest))) :
    readFields fuel depth s = .ok ((k, v) :: r, rest) := by
  -- the induction is on the fields after the first
  induction r generalizing k v fuel s with
  | nil =>
    obtain ⟨n, rfl⟩ : ∃ n, fuel = n + 1 := ⟨fuel - 1, by simp only [stepsFields] at hfuel; omega⟩
    obtain ⟨hreadable, hreads⟩ : Readable depth v ∧ ReadsBack depth v := h (k, v) List.mem_cons_self
    have hv := hreads n (level + 1) _
      (' ' :: (prettyAt (level + 1) v ++ (prettyFields level [] ++ rest)))
      (by simp only [stepsFields] at hfuel; omega) (endsNumber_prettyFields level [] rest)
      (skipSpace_space _ (skipSpace_prettyAt hreadable _ _))
    rw [readFields, hs, writeString_eq_cons, List.cons_append]
    simp only [bind, Except.bind, readStringFrom_writeString,
      skipSpace_cons (show isSpace ':' = false by decide), hv, skipSpace_prettyFields_nil]
    rfl
  | cons f r ih =>
    obtain ⟨n, rfl⟩ : ∃ n, fuel = n + 1 := ⟨fuel - 1, by simp only [stepsFields] at hfuel; omega⟩
    obtain ⟨k', v'⟩ := f
    obtain ⟨hreadable, hreads⟩ : Readable depth v ∧ ReadsBack depth v := h (k, v) List.mem_cons_self
    have hv := hreads n (level + 1) _
      (' ' :: (prettyAt (level + 1) v ++ (prettyFields level ((k', v') :: r) ++ rest)))
      (by simp only [stepsFields] at hfuel; omega) (endsNumber_prettyFields level _ rest)
      (skipSpace_space _ (skipSpace_prettyAt hreadable _ _))
    have hrest : readFields n depth (newLine (level + 1) ++ (writeString k' ++ ':' :: ' '
        :: (prettyAt (level + 1) v' ++ (prettyFields level r ++ rest))))
          = .ok ((k', v') :: r, rest) :=
      ih (fun w hw => h w (List.mem_cons_of_mem _ hw))
        (by simp only [stepsFields] at hfuel ⊢; omega)
        (skipSpace_newLine _ (by rw [writeString_eq_cons]; exact skipSpace_cons (by decide) _))
    rw [readFields, hs, writeString_eq_cons, List.cons_append]
    simp only [bind, Except.bind, readStringFrom_writeString,
      skipSpace_cons (show isSpace ':' = false by decide), hv, skipSpace_prettyFields_cons, hrest]
    rfl

/-- Every value takes a step. -/
theorem steps_pos (v : Json) : 0 < steps v := by
  cases v <;> simp only [steps] <;> omega

/-- A text that stands where white space may. -/
theorem readsBack_of_forms {depth : Nat} {v : Json} (h : ∀ fuel level rest s, steps v ≤ fuel + 1 →
    EndsNumber rest → skipSpace s = prettyAt level v ++ rest →
      readValue (fuel + 1) depth s = .ok (v, rest)) : ReadsBack depth v := by
  intro fuel level rest s hfuel hrest hs
  have hpos := steps_pos v
  obtain ⟨k, rfl⟩ : ∃ k, fuel = k + 1 := ⟨fuel - 1, by omega⟩
  exact h k level rest s hfuel hrest hs

/-- A number is read back. -/
theorem readsBack_int {depth : Nat} {n : Int} (h : FitsWord n) : ReadsBack depth (.int n) := by
  refine readsBack_of_forms fun fuel level rest s _ hrest hs => ?_
  cases n with
  | ofNat n =>
    rw [prettyAt_nat] at hs
    have hn : n ≤ maxWord := Int.ofNat_le.1 h.2
    obtain ⟨c, r, hd, hc⟩ := toDigits_eq_cons n
    have hs' : skipSpace s = c :: (r ++ rest) := by
      rw [hs, hd]
      rfl
    rw [readValue_digits fuel depth hs' hc, ← List.cons_append, ← hd, readUnsigned_nat hn hrest]
    rfl
  | negSucc n =>
    rw [prettyAt_negSucc] at hs
    have hn : n + 1 ≤ 9223372036854775808 := by
      have hlow := h.1
      omega
    rw [readValue, hs]
    exact readUnsigned_negSucc hn hrest

/-- A text is read back. -/
theorem readsBack_str (depth : Nat) (t : String) : ReadsBack depth (.str t) := by
  refine readsBack_of_forms fun fuel level rest s _ _ hs => ?_
  rw [prettyAt_str] at hs
  rw [readValue, hs]
  simp only [List.cons_append, readStringFrom_writeString]
  rfl

/-- An array is read one level deeper than its items. -/
theorem readsBack_arr {depth : Nat} {items : List Json}
    (h : ∀ v ∈ items, Readable (depth + 1) v ∧ ReadsBack (depth + 1) v) :
    ReadsBack (depth + 2) (.arr items) := by
  refine readsBack_of_forms fun fuel level rest s hfuel _ hs => ?_
  cases items with
  | nil =>
    rw [prettyAt_arr_nil] at hs
    rw [readValue, hs]
    rfl
  | cons v r =>
    rw [prettyAt_arr_cons] at hs
    have hv : Readable (depth + 1) v := (h v List.mem_cons_self).1
    obtain ⟨c, t, hc, hbegins⟩ := prettyAt_eq_cons hv (level + 1)
    have hitemsRead : readItems fuel (depth + 1)
        (prettyAt (level + 1) v ++ (prettyItems level r ++ rest)) = .ok (v :: r, rest) :=
      readItems_prettyItems h (by simp only [steps] at hfuel; omega) (skipSpace_prettyAt hv _ _)
    have hskip := skipSpace_newLine (level + 1)
      (skipSpace_prettyAt hv (level + 1) (prettyItems level r ++ rest))
    rw [readValue, hs]
    simp only [List.cons_append, List.append_assoc, hskip]
    rw [if_neg (by omega)]
    split
    · -- no item begins with the bracket that closes an empty array
      rename_i heq
      rw [hc] at heq
      injection heq with hhead
      exact absurd hhead hbegins.2
    · rw [show depth + 2 - 1 = depth + 1 by omega, hitemsRead]
      rfl

/-- An object is read one level deeper than the values of its fields. -/
theorem readsBack_obj {depth : Nat} {fields : List (String × Json)}
    (h : ∀ f ∈ fields, Readable (depth + 1) f.2 ∧ ReadsBack (depth + 1) f.2) :
    ReadsBack (depth + 2) (.obj fields) := by
  refine readsBack_of_forms fun fuel level rest s hfuel _ hs => ?_
  cases fields with
  | nil =>
    rw [prettyAt_obj_nil] at hs
    rw [readValue, hs]
    rfl
  | cons f r =>
    obtain ⟨k, v⟩ := f
    rw [prettyAt_obj_cons] at hs
    obtain ⟨body, hbody⟩ : ∃ body, body = writeString k ++ ':' :: ' ' :: (prettyAt (level + 1) v
      ++ (prettyFields level r ++ rest)) := ⟨_, rfl⟩
    have hspace : skipSpace body = body := by
      rw [hbody, writeString_eq_cons]
      exact skipSpace_cons (by decide) _
    have hfieldsRead : readFields fuel (depth + 1) body = .ok ((k, v) :: r, rest) :=
      readFields_prettyFields h (by simp only [steps] at hfuel; omega) (hspace.trans hbody)
    have hskip := skipSpace_newLine (level + 1) hspace
    rw [readValue, hs]
    simp only [List.cons_append, List.append_assoc, ← hbody, hskip]
    rw [if_neg (by omega)]
    split
    · -- a field begins with a quote, not with the brace that closes an empty object
      rw [writeString_eq_cons] at hbody
      injection hbody with hhead
      exact absurd hhead (by decide)
    · rw [show depth + 2 - 1 = depth + 1 by omega, hfieldsRead]
      rfl

/-- The step from the parts of a value to the value goes by the containers; the rest of the text
only has to end a number. -/
theorem readsBack_of_readable {depth : Nat} {v : Json} (h : Readable depth v) :
    ReadsBack depth v := by
  induction h with
  | null depth =>
    refine readsBack_of_forms fun fuel level rest s _ _ hs => ?_
    rw [readValue, hs]
    rfl
  | bool depth b =>
    refine readsBack_of_forms fun fuel level rest s _ _ hs => ?_
    cases b with
    | false =>
      rw [readValue, hs]
      rfl
    | true =>
      rw [readValue, hs]
      rfl
  | int depth h => exact readsBack_int h
  | str depth t => exact readsBack_str depth t
  | arr hitems ih => exact readsBack_arr fun v hv => ⟨hitems v hv, ih v hv⟩
  | obj hfields ih => exact readsBack_obj fun f hf => ⟨hfields f hf, ih f hf⟩

/-! ## Whole texts -/

/-- Items take no more steps than twice their characters. -/
theorem stepsItems_le {r : List Json}
    (h : ∀ v ∈ r, ∀ level, steps v ≤ 2 * (prettyAt level v).length) (level : Nat) :
    stepsItems r ≤ 2 * (prettyItems level r).length := by
  induction r with
  | nil => simp [stepsItems]
  | cons v r ih =>
    have hv := h v List.mem_cons_self (level + 1)
    have hr := ih fun u hu => h u (List.mem_cons_of_mem _ hu)
    simp only [stepsItems, prettyItems, List.length_cons, List.length_append]
    omega

theorem stepsFields_le {r : List (String × Json)}
    (h : ∀ f ∈ r, ∀ level, steps f.2 ≤ 2 * (prettyAt level f.2).length) (level : Nat) :
    stepsFields r ≤ 2 * (prettyFields level r).length := by
  induction r with
  | nil => simp [stepsFields]
  | cons f r ih =>
    obtain ⟨k, v⟩ := f
    have hv := h (k, v) List.mem_cons_self (level + 1)
    have hr := ih fun g hg => h g (List.mem_cons_of_mem _ hg)
    simp only [stepsFields, prettyFields, List.length_cons, List.length_append]
    simp only at hv
    omega

/-- A text is long enough to pay for the reading of its value. -/
theorem steps_le {depth : Nat} {v : Json} (h : Readable depth v) :
    ∀ level, steps v ≤ 2 * (prettyAt level v).length := by
  -- a value without parts takes one step, and its text has a character
  have hleaf : ∀ {depth : Nat} {v : Json}, Readable depth v → steps v = 1 →
      ∀ level, steps v ≤ 2 * (prettyAt level v).length := by
    intro depth v hv hone level
    obtain ⟨c, r, hc, -⟩ := prettyAt_eq_cons hv level
    rw [hone, hc, List.length_cons]
    omega
  induction h with
  | null depth => exact hleaf (.null depth) rfl
  | bool depth b => exact hleaf (.bool depth b) rfl
  | int depth h => exact hleaf (.int depth h) rfl
  | str depth s => exact hleaf (.str depth s) rfl
  | @arr depth items hitems ih =>
    intro level
    cases items with
    | nil =>
      have hv : Readable (depth + 2) (.arr []) := .arr hitems
      exact hleaf hv rfl level
    | cons v r =>
      have hv := ih v List.mem_cons_self (level + 1)
      have hr := stepsItems_le (fun u hu => ih u (List.mem_cons_of_mem _ hu)) level
      rw [prettyAt_arr_cons]
      simp only [steps, stepsItems, List.length_cons, List.length_append]
      omega
  | @obj depth fields hfields ih =>
    intro level
    cases fields with
    | nil =>
      have hv : Readable (depth + 2) (.obj []) := .obj hfields
      exact hleaf hv rfl level
    | cons f r =>
      obtain ⟨k, v⟩ := f
      have hv : steps v ≤ _ := ih (k, v) List.mem_cons_self (level + 1)
      have hr := stepsFields_le (fun g hg => ih g (List.mem_cons_of_mem _ hg)) level
      rw [prettyAt_obj_cons]
      simp only [steps, stepsFields, List.length_cons, List.length_append]
      simp only at hv
      omega

/-- A value that fits is read back from its text. -/
theorem parse_prettyText {v : Json} (h : Readable maxDepth v) : parse (prettyText v) = .ok v := by
  have hread := readsBack_of_readable h (2 * (prettyAt 0 v).length + 2) 0 [] (prettyAt 0 v)
    (Nat.le_trans (steps_le h 0) (Nat.le_add_right _ _)) (fun c hc => by cases hc)
    (by rw [List.append_nil]; simpa using skipSpace_prettyAt h 0 [])
  unfold parse prettyText
  simp only [String.toList_ofList, bind, Except.bind, hread]
  rfl

end SchemaBridge.Json
