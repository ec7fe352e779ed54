/-
# Lower case, once and twice

A name is in lower case after it has been put into lower case once.  Where it has no capital sigma, whose
lower case depends on what stands around it, each character is taken by itself.

## Key statements

* `lowerChar_of_mem_lowerChar`: the lower case of a character is its own.
* `lower_lower`: a text is put into lower case once.
* `mem_of_mem_lower`: marks come from marks alone.
-/
import SchemaBridge.Proofs.Text.FoldedNames
import SchemaBridge.Proofs.Text.Words

namespace SchemaBridge.Text

namespace CharTable

/-! ## Runs of the table -/

/-- The first code point a run maps to. -/
def CaseRun.low (r : CaseRun) : Nat := (r.first + r.shift).toNat

/-- The last code point a run maps to. -/
def CaseRun.high (r : CaseRun) : Nat := (r.last + r.shift).toNat

/-- What a run maps to lies apart from another run, or in the gaps of it. -/
def CaseRun.avoids (r r' : CaseRun) : Bool :=
  Nat.blt r.high r'.first || Nat.blt r'.last r.low
    || (r.step == 2 || r.low == r.high) && r'.step == 2 && r.low % 2 != r'.first % 2

/-- What a run maps to is mapped by no run that it avoids. -/
theorem CaseRun.map?_eq_none {r r' : CaseRun} (h : r.avoids r' = true) (hshift : 0 ≤ r.first + r.shift)
    {n m : Nat} (hm : r.map? n = some m) : r'.map? m = none := by
  unfold CaseRun.map? at hm ⊢
  split at hm
  · rename_i hrange
    cases hm
    simp only [Bool.and_eq_true, decide_eq_true_eq, beq_iff_eq] at hrange
    rw [if_neg]
    simp only [CaseRun.avoids, CaseRun.low, CaseRun.high, Bool.or_eq_true, Bool.and_eq_true,
      Nat.blt_eq, beq_iff_eq, bne_iff_ne] at h
    simp only [Bool.and_eq_true, decide_eq_true_eq, beq_iff_eq]
    rintro ⟨⟨hlow, hhigh⟩, hmod⟩
    rcases h with (h | h) | ⟨⟨hstep | hsingle, hstep'⟩, hne⟩
    · omega
    · omega
    · rw [hstep] at hrange
      rw [hstep'] at hmod
      omega
    · rw [hstep'] at hmod
      omega
  · cases hm

/-- What the runs map to is mapped to nothing else. -/
theorem runs_avoid : (lowerRuns.all fun r => lowerRuns.all r.avoids) = true := by
  decide +kernel

/-- What a run maps to are characters beyond ASCII, the letter `k` apart, and none that has a longer lower
case. -/
def CaseRun.IsPlain (r : CaseRun) : Prop :=
  0 ≤ r.first + r.shift ∧ (r.high < 0xD800 ∨ 0xE000 ≤ r.low ∧ r.high < 0x110000)
    ∧ (128 ≤ r.low ∨ r.low = 107 ∧ r.high = 107) ∧ ∀ e ∈ lowerLong, r.high < e.1 ∨ e.1 < r.low

instance (r : CaseRun) : Decidable r.IsPlain := by
  unfold CaseRun.IsPlain
  infer_instance

/-- All runs are plain. -/
theorem runs_plain : ∀ r ∈ lowerRuns, r.IsPlain := by
  decide +kernel

/-- Where a code point is mapped to. -/
theorem CaseRun.map?_range {r : CaseRun} {n m : Nat} (hm : r.map? n = some m) :
    r.low ≤ m ∧ m ≤ r.high := by
  unfold CaseRun.map? at hm
  split at hm
  · rename_i hrange
    cases hm
    simp only [Bool.and_eq_true, decide_eq_true_eq] at hrange
    unfold CaseRun.low CaseRun.high
    omega
  · cases hm

/-- What a plain run maps to is a character. -/
theorem CaseRun.toNat_ofNat {r : CaseRun} (h : r.IsPlain) {n m : Nat} (hm : r.map? n = some m) :
    (Char.ofNat m).toNat = m := by
  obtain ⟨hlow, hhigh⟩ := r.map?_range hm
  obtain ⟨-, hvalid, -⟩ := h
  have hm : m.isValidChar := by
    unfold Nat.isValidChar
    omega
  unfold Char.ofNat
  rw [dif_pos hm]
  rfl

end CharTable

/-! ## One character -/

/-- Beyond ASCII a character has a longer lower case, or one by a run, or none but itself. -/
theorem lowerChar_cases {c : Char} (hc : 128 ≤ c.toNat) :
    (∃ e ∈ CharTable.lowerLong, lowerChar c = e.2.map Char.ofNat)
      ∨ (∃ r ∈ CharTable.lowerRuns, ∃ m, r.map? c.toNat = some m ∧ lowerChar c = [Char.ofNat m])
      ∨ lowerChar c = [c] := by
  unfold lowerChar
  rw [if_neg (by omega)]
  split
  · rename_i n cs hfound
    exact Or.inl ⟨(n, cs), List.mem_of_find?_eq_some hfound, rfl⟩
  · cases hrun : CharTable.lowerRuns.findSome? (·.map? c.toNat) with
    | none =>
      refine Or.inr (Or.inr ?_)
      rw [Option.getD_none, Char.ofNat_toNat]
    | some m =>
      obtain ⟨r, hr, hm⟩ := List.exists_of_findSome?_eq_some hrun
      exact Or.inr (Or.inl ⟨r, hr, m, hm, rfl⟩)

/-- The code point a run maps to is mapped to itself. -/
theorem lowerChar_of_run {r : CharTable.CaseRun} (hr : r ∈ CharTable.lowerRuns) {n m : Nat}
    (hm : r.map? n = some m) : lowerChar (Char.ofNat m) = [Char.ofNat m] := by
  have hplain := CharTable.runs_plain r hr
  have hvalue := r.toNat_ofNat hplain hm
  obtain ⟨hlow, hhigh⟩ := r.map?_range hm
  obtain ⟨hshift, -, hascii, hlong⟩ := hplain
  rcases hascii with hascii | ⟨hlow', hhigh'⟩
  · have hfind : CharTable.lowerLong.find? (·.1 == m) = none := by
      rw [List.find?_eq_none]
      intro e he heq
      obtain rfl : e.1 = m := beq_iff_eq.1 heq
      rcases hlong e he with h | h <;> omega
    have hnone : CharTable.lowerRuns.findSome? (·.map? m) = none := by
      rw [List.findSome?_eq_none_iff]
      intro r' hr'
      have havoids := List.all_eq_true.1 (List.all_eq_true.1 CharTable.runs_avoid r hr) r' hr'
      exact CharTable.CaseRun.map?_eq_none havoids hshift hm
    unfold lowerChar
    rw [hvalue, if_neg (by omega), hfind, hnone]
    rfl
  · -- the Kelvin sign is mapped to the letter
    obtain rfl : m = 107 := by omega
    decide

/-- The lower case of an ASCII character. -/
theorem lowerChar_ascii {c : Char} (hc : c.toNat < 128) :
    lowerChar c = [c.toLower] ∧ c.toLower.toNat < 128 ∧ c.toLower.toLower = c.toLower := by
  refine ⟨by unfold lowerChar; rw [if_pos hc], ?_⟩
  rcases toLower_cases c with ⟨hlow, hhigh, hlower⟩ | ⟨hrange, hsame⟩
  · rcases toLower_cases c.toLower with ⟨-, hhigh', -⟩ | ⟨-, hsame⟩
    · omega
    · exact ⟨by omega, hsame⟩
  · rw [hsame]
    exact ⟨hc, hsame⟩

/-- **The lower case of a character** is its own lower case. -/
theorem lowerChar_of_mem_lowerChar {c d : Char} (h : d ∈ lowerChar c) : lowerChar d = [d] := by
  by_cases hc : c.toNat < 128
  · obtain ⟨hlower, hascii, hagain⟩ := lowerChar_ascii hc
    rw [hlower] at h
    rw [List.mem_singleton.1 h, (lowerChar_ascii hascii).1, hagain]
  · rcases lowerChar_cases (Nat.le_of_not_lt hc) with ⟨e, he, hlower⟩ | ⟨r, hr, m, hm, hlower⟩ | hlower
    all_goals rw [hlower] at h
    · have hlong : ∀ e ∈ CharTable.lowerLong, ∀ n ∈ e.2, lowerChar (Char.ofNat n) = [Char.ofNat n] := by
        decide +kernel
      obtain ⟨n, hn, rfl⟩ := List.mem_map.1 h
      exact hlong e he n hn
    · rw [List.mem_singleton.1 h]
      exact lowerChar_of_run hr hm
    · rw [List.mem_singleton.1 h]
      exact hlower

/-- A mark is the lower case of nothing but itself. -/
theorem eq_of_mem_lowerChar {c m : Char} (hm : m.toNat < 128) (hmark : m.isAlpha = false)
    (h : m ∈ lowerChar c) : c = m := by
  have hletter : ¬ (97 ≤ m.toNat ∧ m.toNat ≤ 122) := by
    rintro ⟨hlow, hhigh⟩
    have hlower : m.isLower = true := by
      unfold Char.isLower
      rw [Bool.and_eq_true, decide_eq_true_eq, decide_eq_true_eq]
      exact ⟨UInt32.le_iff_toNat_le.2 hlow, UInt32.le_iff_toNat_le.2 hhigh⟩
    unfold Char.isAlpha at hmark
    rw [hlower, Bool.or_true] at hmark
    cases hmark
  by_cases hc : c.toNat < 128
  · obtain ⟨hlower, hascii, -⟩ := lowerChar_ascii hc
    rw [hlower] at h
    obtain rfl := List.mem_singleton.1 h
    rcases toLower_cases c with ⟨hlow, hhigh, hvalue⟩ | ⟨-, hsame⟩
    · omega
    · exact hsame.symm
  · rcases lowerChar_cases (Nat.le_of_not_lt hc) with ⟨e, he, hlower⟩ | ⟨r, hr, n, hn, hlower⟩ | hlower
    all_goals rw [hlower] at h
    · -- what is beyond ASCII has letters or other such characters as its lower case
      have hlong : ∀ e ∈ CharTable.lowerLong, ∀ n ∈ e.2,
          97 ≤ (Char.ofNat n).toNat ∧ (Char.ofNat n).toNat ≤ 122 ∨ 128 ≤ (Char.ofNat n).toNat := by
        decide +kernel
      obtain ⟨n, hn, rfl⟩ := List.mem_map.1 h
      rcases hlong e he n hn with hin | hout
      · exact absurd hin hletter
      · omega
    · obtain ⟨hlow, hhigh⟩ := r.map?_range hn
      have hvalue := r.toNat_ofNat (CharTable.runs_plain r hr) hn
      obtain ⟨-, -, hascii, -⟩ := CharTable.runs_plain r hr
      rw [← List.mem_singleton.1 h] at hvalue
      omega
    · exact (List.mem_singleton.1 h).symm

/-! ## Texts -/

/-- A text without capital sigma is put into lower case one character after the other. -/
theorem lowerFrom_eq_flatMap {s : List Char} (h : 'Σ' ∉ s) (before : List Char) :
    lowerFrom before s = s.flatMap lowerChar := by
  induction s generalizing before with
  | nil => rfl
  | cons c s ih =>
    have hc : (c == 'Σ') = false := by
      rw [beq_eq_false_iff_ne]
      rintro rfl
      exact h List.mem_cons_self
    unfold lowerFrom
    rw [hc, ih fun hs => h (List.mem_cons_of_mem _ hs), List.flatMap_cons]
    rfl

/-- Without a capital sigma, characters are put into lower case one by one. -/
theorem lower_eq_flatMap {s : List Char} (h : 'Σ' ∉ s) : lower s = s.flatMap lowerChar :=
  lowerFrom_eq_flatMap h []

/-- **A text is put into lower case once.** -/
theorem lower_lower {s : List Char} (h : 'Σ' ∉ s) : lower (lower s) = lower s := by
  have hsettled : ∀ d ∈ s.flatMap lowerChar, lowerChar d = [d] := by
    intro d hd
    obtain ⟨c, -, hd⟩ := List.mem_flatMap.1 hd
    exact lowerChar_of_mem_lowerChar hd
  have hsigma : 'Σ' ∉ s.flatMap lowerChar := by
    intro hmem
    exact absurd (hsettled 'Σ' hmem) (by decide +kernel)
  rw [lower_eq_flatMap h, lower_eq_flatMap hsigma, List.flatMap_congr hsettled,
    List.flatMap_singleton']

/-- A mark that is in the lower case of a text is in the text. -/
theorem mem_of_mem_lower {s : List Char} (h : 'Σ' ∉ s) {m : Char} (hm : m.toNat < 128)
    (hmark : m.isAlpha = false) (hmem : m ∈ lower s) : m ∈ s := by
  rw [lower_eq_flatMap h] at hmem
  obtain ⟨c, hc, hmem⟩ := List.mem_flatMap.1 hmem
  exact eq_of_mem_lowerChar hm hmark hmem ▸ hc

end SchemaBridge.Text
