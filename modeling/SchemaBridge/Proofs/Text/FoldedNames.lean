/-
# Names up to case

Names of tables and columns are compared up to the case of ASCII letters where they are chosen,
names of indexes through their full lower case, as all names are where a model is checked.  A fresh
name differs from all others in the sense in which it was chosen.  The two senses agree on names of
ASCII characters and differ on others.

## Key statements

* `freshName_free`: there are enough candidates for a fresh name.
* `folded_ne_freshName`, `lowerText_freshName_not_mem`: a fresh name is the same as no name that is
  taken, in either sense.
* `lowerText_eq_iff`: on ASCII names both comparisons are the same.
* `lowerText_eq_of_folded_eq`: the second comparison never tells apart what the first one does not.
-/
import Mathlib.Data.List.Nodup
import Mathlib.Data.List.Perm.Subperm
import SchemaBridge.Proofs.Text.Decimal
import SchemaBridge.Text.Casing
import SchemaBridge.Text.Pattern

namespace SchemaBridge.Text

/-- A name up to the case of ASCII letters. -/
def folded (s : String) : List Char := asciiFold s.toList

/-- Names are the same up to case if they are folded alike. -/
theorem sameFolded_iff {a b : String} : sameFolded a b = true ↔ folded a = folded b := by
  simp [sameFolded, folded]

/-- Digits have no case. -/
theorem asciiFold_toDigits (n : Nat) : asciiFold (Nat.toDigits 10 n) = Nat.toDigits 10 n := by
  refine (List.map_congr_left fun c hc => ?_).trans (List.map_id _)
  have hdigit := isDigit_toDigits n c hc
  simp only [Char.isDigit, Bool.and_eq_true, decide_eq_true_eq] at hdigit
  have hupper : ¬ (c.val ≥ 'A'.val ∧ c.val ≤ 'Z'.val) := by
    intro h
    exact absurd (UInt32.le_trans h.1 hdigit.2) (by decide)
  exact dif_neg hupper

/-! ## ASCII names -/

/-- A name of ASCII characters. -/
def IsAscii (s : String) : Prop := ∀ c ∈ s.toList, c.toNat < 128

instance (s : String) : Decidable (IsAscii s) :=
  decidable_of_iff (s.toList.all fun c => c.toNat < 128) (by unfold IsAscii; simp)

/-- Two names in ASCII make one. -/
theorem IsAscii.append {a b : String} (ha : IsAscii a) (hb : IsAscii b) : IsAscii (a ++ b) := by
  intro c hc
  rw [String.toList_append] at hc
  rcases List.mem_append.1 hc with hc | hc
  · exact ha c hc
  · exact hb c hc

/-- A number is in ASCII. -/
theorem isAscii_decimal (n : Nat) : IsAscii (decimal n) := by
  intro c hc
  rw [decimal, String.toList_ofList] at hc
  have hdigit := isDigit_toDigits n c hc
  simp only [Char.isDigit, Bool.and_eq_true, decide_eq_true_eq] at hdigit
  exact Nat.lt_of_le_of_lt (UInt32.le_iff_toNat_le.1 hdigit.2) (by decide)

/-- In ASCII, lower case is folding. -/
theorem lowerFrom_of_ascii {s : List Char} (h : ∀ c ∈ s, c.toNat < 128) (before : List Char) :
    lowerFrom before s = asciiFold s := by
  induction s generalizing before with
  | nil => rfl
  | cons c r ih =>
    have hc : c.toNat < 128 := h c List.mem_cons_self
    have hsigma : (c == 'Σ') = false := by
      rw [beq_eq_false_iff_ne]
      rintro rfl
      exact absurd hc (by decide)
    have hr := ih (fun d hd => h d (List.mem_cons_of_mem _ hd)) (c :: before)
    unfold lowerFrom
    rw [hsigma, hr]
    simp [lowerChar, hc, asciiFold]

/-- On ASCII names both comparisons are the same. -/
theorem lowerText_eq_iff {a b : String} (ha : IsAscii a) (hb : IsAscii b) :
    lowerText a = lowerText b ↔ folded a = folded b := by
  unfold lowerText lower folded
  rw [lowerFrom_of_ascii ha, lowerFrom_of_ascii hb]
  exact ⟨fun h => String.ofList_injective h, congrArg String.ofList⟩

/-! ## Full lower case -/

/-- A number behind a text has no influence on the letters before it. -/
theorem nextIsCased_append (r ds : List Char) :
    nextIsCased (r ++ '_' :: ds) = nextIsCased r := by
  have hignorable : CharTable.mem CharTable.caseIgnorable '_'.toNat = false := by decide +kernel
  have hcased : CharTable.mem CharTable.cased '_'.toNat = false := by decide +kernel
  unfold nextIsCased
  rw [List.dropWhile_append]
  cases h : r.dropWhile fun c => CharTable.mem CharTable.caseIgnorable c.toNat with
  | nil =>
    simp only [List.isEmpty_nil, if_true, List.dropWhile_cons, hignorable]
    exact hcased
  | cons c s => rfl

/-- Nor has what stands in front of the sign any on those behind it. -/
theorem lowerFrom_sign_before (before rest s : List Char) :
    lowerFrom (before ++ '_' :: rest) s = lowerFrom before s := by
  induction s generalizing before with
  | nil => rfl
  | cons c s ih =>
    unfold lowerFrom
    rw [nextIsCased_append, ← List.cons_append, ih]

/-- The sign parts a text into two that have nothing to do with one another. -/
theorem lowerFrom_sign (before s r : List Char) :
    lowerFrom before (s ++ '_' :: r) = lowerFrom before s ++ '_' :: lower r := by
  induction s generalizing before with
  | nil =>
    have hsign : lowerChar '_' = ['_'] := by decide
    have hrest : lowerFrom ('_' :: before) r = lower r := lowerFrom_sign_before [] before r
    show lowerFrom before ('_' :: r) = '_' :: lower r
    rw [lowerFrom, hrest, if_neg (by decide), hsign]
    rfl
  | cons c s ih =>
    rw [List.cons_append, lowerFrom, lowerFrom, nextIsCased_append, ih, List.append_assoc]

/-! ## Both senses -/

/-- The two senses in which names are the same. -/
inductive Comparison
  /-- Up to the case of ASCII letters. -/
  | ascii
  /-- In full lower case. -/
  | full

namespace Comparison

/-- What is compared of a name. -/
def form : Comparison → String → List Char
  | ascii => folded
  | full => fun s => lower s.toList

/-- The sign between two parts of a name parts what is compared of it. -/
theorem form_sign (c : Comparison) (a b : String) :
    c.form (a ++ "_" ++ b) = c.form a ++ '_' :: c.form b := by
  have hlist : (a ++ "_" ++ b).toList = a.toList ++ '_' :: b.toList := by simp
  cases c with
  | ascii =>
    show asciiFold (a ++ "_" ++ b).toList = _
    rw [hlist, asciiFold, List.map_append]
    rfl
  | full =>
    show lower (a ++ "_" ++ b).toList = _
    rw [hlist]
    exact lowerFrom_sign [] a.toList b.toList

/-- On ASCII names there is one sense only. -/
theorem form_of_ascii (c : Comparison) {s : String} (h : IsAscii s) : c.form s = folded s := by
  cases c with
  | ascii => rfl
  | full => exact lowerFrom_of_ascii h []

/-- A number reads the same in every comparison. -/
theorem form_decimal (c : Comparison) (n : Nat) : c.form (decimal n) = Nat.toDigits 10 n := by
  rw [c.form_of_ascii (isAscii_decimal n)]
  show asciiFold (String.ofList (Nat.toDigits 10 n)).toList = _
  rw [String.toList_ofList, asciiFold_toDigits]

/-- A number behind a name adds what it is made of. -/
theorem form_numbered (c : Comparison) (base : String) (n : Nat) :
    c.form (base ++ "_" ++ decimal n) = c.form base ++ '_' :: Nat.toDigits 10 n := by
  rw [form_sign, form_decimal]

end Comparison

/-! ## Fresh names -/

/-- The candidates for a name differ from each other. -/
theorem nodup_candidates (c : Comparison) (base : String) (start count : Nat) :
    ((candidates base start count).map c.form).Nodup := by
  unfold candidates
  rw [List.map_cons, List.map_map, List.nodup_cons]
  constructor
  · intro hmem
    obtain ⟨i, -, hi⟩ := List.mem_map.1 hmem
    have hlength := congrArg List.length hi
    rw [Function.comp_apply, c.form_numbered, List.length_append, List.length_cons] at hlength
    omega
  · refine List.Nodup.map_on ?_ List.nodup_range
    intro i _ j _ hij
    rw [Function.comp_apply, Function.comp_apply, c.form_numbered, c.form_numbered] at hij
    have hdigits := (List.cons.inj (List.append_cancel_left hij)).2
    have hdecimal : decimal (i + start) = decimal (j + start) := congrArg String.ofList hdigits
    have := decimal_inj hdecimal
    omega

/-- There are more candidates than names in use, so one of them is free. -/
theorem freshName_free (c : Comparison) {taken : String → Bool} {used : List (List Char)}
    (htaken : ∀ n, taken n = true → c.form n ∈ used) (base : String) (start : Nat) :
    taken (freshName taken base start used.length) = false := by
  have hfree : ∃ n ∈ candidates base start used.length, taken n = false := by
    by_contra hno
    -- if all candidates were taken, there would be as many names as candidates
    have hsub : (candidates base start used.length).map c.form ⊆ used := by
      intro f hf
      obtain ⟨n, hn, rfl⟩ := List.mem_map.1 hf
      refine htaken n ?_
      rw [← Bool.not_eq_false]
      exact fun h => hno ⟨n, hn, h⟩
    have hle := ((nodup_candidates c base start used.length).subperm hsub).length_le
    simp only [candidates, List.length_map, List.length_cons, List.length_range] at hle
    omega
  obtain ⟨n, hn, hnfree⟩ := hfree
  have hsome : ((candidates base start used.length).find? fun n => !taken n).isSome = true :=
    List.find?_isSome.2 ⟨n, hn, by rw [hnfree]; rfl⟩
  obtain ⟨d, hd⟩ := Option.isSome_iff_exists.1 hsome
  have hfresh : freshName taken base start used.length = d := by
    unfold freshName
    rw [hd]
    rfl
  rw [hfresh]
  simpa using List.find?_some hd

/-- A name, as it is or with a number behind it. -/
def IsNumbered (base name : String) : Prop := name = base ∨ ∃ k, name = base ++ "_" ++ decimal k

/-- A fresh name is the base with a number or without. -/
theorem isNumbered_freshName (taken : String → Bool) (base : String) (start count : Nat) :
    IsNumbered base (freshName taken base start count) := by
  unfold freshName
  cases hfind : (candidates base start count).find? fun n => !taken n with
  | none => exact Or.inl rfl
  | some d =>
    rcases List.mem_cons.1 (List.mem_of_find?_eq_some hfind) with rfl | hd
    · exact Or.inl rfl
    · obtain ⟨i, -, rfl⟩ := List.mem_map.1 hd
      exact Or.inr ⟨i + start, rfl⟩

/-- A fresh name goes on from its base. -/
theorem exists_freshName_eq (taken : String → Bool) (base : String) (start count : Nat) :
    ∃ tail, freshName taken base start count = base ++ tail := by
  rcases isNumbered_freshName taken base start count with h | ⟨k, h⟩
  · exact ⟨"", by rw [h, String.append_empty]⟩
  · exact ⟨"_" ++ decimal k, by rw [h, String.append_assoc]⟩

/-- A longer base gives another name. -/
theorem freshName_ne {base name : String} (h : name.length < base.length) (taken : String → Bool)
    (start count : Nat) : freshName taken base start count ≠ name := by
  obtain ⟨tail, htail⟩ := exists_freshName_eq taken base start count
  intro hname
  rw [htail] at hname
  have hlength := congrArg String.length hname
  rw [String.length_append] at hlength
  omega

/-- A fresh name is the same as no name that is taken. -/
theorem folded_ne_freshName {taken : String → Bool} {names : List String}
    (htaken : ∀ c, taken c = names.any fun n => sameFolded n c) (base : String) (start : Nat) :
    ∀ n ∈ names, folded n ≠ folded (freshName taken base start names.length) := by
  have hused : ∀ c, taken c = true → folded c ∈ names.map folded := by
    intro c hc
    rw [htaken] at hc
    obtain ⟨n, hn, hsame⟩ := List.any_eq_true.1 hc
    rw [← sameFolded_iff.1 hsame]
    exact List.mem_map_of_mem hn
  have hfree := freshName_free .ascii hused base start
  rw [List.length_map, htaken, List.any_eq_false] at hfree
  intro n hn hsame
  exact hfree n hn (sameFolded_iff.2 hsame)

/-- A fresh name is in full lower case none of those that are taken. -/
theorem lowerText_freshName_not_mem (used : List String) (base : String) (start : Nat) :
    lowerText (freshName (fun n => used.contains (lowerText n)) base start used.length) ∉ used := by
  have hused : ∀ c, used.contains (lowerText c) = true → lower c.toList ∈ used.map (·.toList) := by
    intro c hc
    refine List.mem_map.2 ⟨lowerText c, List.contains_iff_mem.1 hc, ?_⟩
    rw [lowerText, String.toList_ofList]
  have hfree := freshName_free .full hused base start
  rw [List.length_map] at hfree
  intro hmem
  rw [List.contains_iff_mem.2 hmem] at hfree
  cases hfree

/-- A fresh name is made of its base and digits. -/
theorem isAscii_freshName {base : String} (h : IsAscii base) (taken : String → Bool)
    (start count : Nat) : IsAscii (freshName taken base start count) := by
  rcases isNumbered_freshName taken base start count with hname | ⟨k, hname⟩
  all_goals rw [hname]
  · exact h
  · have hsign : IsAscii "_" := by decide
    exact (h.append hsign).append (isAscii_decimal k)

/-! ## Full lower case and ASCII letters -/

/-- What full lower case looks at in a character. -/
structure LooksAlike (c d : Char) : Prop where
  lower : lowerChar c = lowerChar d
  cased : CharTable.mem CharTable.cased c.toNat = CharTable.mem CharTable.cased d.toNat
  ignorable : CharTable.mem CharTable.caseIgnorable c.toNat
    = CharTable.mem CharTable.caseIgnorable d.toNat
  sigma : (c == 'Σ') = (d == 'Σ')

/-- A letter looks like itself in lower case. -/
theorem looksAlike_toLower (c : Char) : LooksAlike c.toLower c := by
  by_cases h : c.val ≥ 'A'.val ∧ c.val ≤ 'Z'.val
  · -- there are 26 letters of which this has to be checked
    have hletters : ∀ n < 26, lowerChar (Char.ofNat (65 + n)).toLower = lowerChar (Char.ofNat (65 + n))
        ∧ CharTable.mem CharTable.cased (Char.ofNat (65 + n)).toLower.toNat
          = CharTable.mem CharTable.cased (Char.ofNat (65 + n)).toNat
        ∧ CharTable.mem CharTable.caseIgnorable (Char.ofNat (65 + n)).toLower.toNat
          = CharTable.mem CharTable.caseIgnorable (Char.ofNat (65 + n)).toNat
        ∧ ((Char.ofNat (65 + n)).toLower == 'Σ') = (Char.ofNat (65 + n) == 'Σ') := by
      decide +kernel
    have hlow : 65 ≤ c.toNat := UInt32.le_iff_toNat_le.1 h.1
    have hhigh : c.toNat ≤ 90 := UInt32.le_iff_toNat_le.1 h.2
    obtain ⟨hl, hc, hi, hs⟩ := hletters (c.toNat - 65) (by omega)
    have hsame : Char.ofNat (65 + (c.toNat - 65)) = c := by
      rw [Nat.add_sub_cancel' hlow, Char.ofNat_toNat]
    rw [hsame] at hl hc hi hs
    exact ⟨hl, hc, hi, hs⟩
  · have hsame : c.toLower = c := dif_neg h
    rw [hsame]
    exact ⟨rfl, rfl, rfl, rfl⟩

/-- Letters that are the same in lower case look alike. -/
theorem looksAlike_of_toLower {c d : Char} (h : c.toLower = d.toLower) : LooksAlike c d := by
  have hc := looksAlike_toLower c
  have hd := looksAlike_toLower d
  rw [h] at hc
  exact ⟨hc.lower.symm.trans hd.lower, hc.cased.symm.trans hd.cased,
    hc.ignorable.symm.trans hd.ignorable, hc.sigma.symm.trans hd.sigma⟩

/-- Whether a letter follows depends on how the text looks. -/
theorem nextIsCased_congr {r s : List Char} (h : List.Forall₂ LooksAlike r s) :
    nextIsCased r = nextIsCased s := by
  induction h with
  | nil => rfl
  | @cons c d r s hcd _ ih =>
    unfold nextIsCased at ih ⊢
    rw [List.dropWhile_cons, List.dropWhile_cons, hcd.ignorable]
    cases CharTable.mem CharTable.caseIgnorable d.toNat with
    | true => exact ih
    | false => exact hcd.cased

/-- Texts that look alike are the same in lower case. -/
theorem lowerFrom_congr {r s before before' : List Char} (h : List.Forall₂ LooksAlike r s)
    (hbefore : List.Forall₂ LooksAlike before before') : lowerFrom before r = lowerFrom before' s := by
  induction h generalizing before before' with
  | nil => rfl
  | cons hcd hrest ih =>
    unfold lowerFrom
    rw [hcd.sigma, hcd.lower, nextIsCased_congr hbefore, nextIsCased_congr hrest,
      ih (.cons hcd hbefore)]

/-- Names that are the same up to the case of ASCII letters are the same in full lower case. -/
theorem lowerText_eq_of_folded_eq {a b : String} (h : folded a = folded b) :
    lowerText a = lowerText b := by
  have halike : List.Forall₂ LooksAlike a.toList b.toList := by
    have hmap : List.Forall₂ Eq (a.toList.map Char.toLower) (b.toList.map Char.toLower) := by
      rw [List.forall₂_eq_eq_eq]
      exact h
    rw [List.forall₂_map_left_iff, List.forall₂_map_right_iff] at hmap
    exact hmap.imp fun _ _ => looksAlike_of_toLower
  unfold lowerText lower
  rw [lowerFrom_congr halike .nil]

end SchemaBridge.Text
