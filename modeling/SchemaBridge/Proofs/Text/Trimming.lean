/-
# Trimmed text

White space before a text does not count when it is trimmed, and a text that is not blank begins,
once trimmed, with its first character that is not blank.

## Key statements

* `trim_append_of_blank`: white space in front of a text.
* `head?_trim`: the first character of a trimmed text.
* `dropPiece?_eq_some_iff`: what is left after a piece.
-/
import Mathlib.Data.List.TakeWhile
import SchemaBridge.Text.Pattern

namespace SchemaBridge.Text

/-! ## Pieces at the beginning -/

/-- A piece is dropped if the text begins with it. -/
theorem dropPiece?_eq_some_iff {p s r : List Char} : dropPiece? p s = some r ↔ s = p ++ r := by
  induction p generalizing s with
  | nil =>
    show some s = some r ↔ s = r
    exact Option.some_inj
  | cons a p ih =>
    cases s with
    | nil => simp [dropPiece?]
    | cons b s =>
      simp only [dropPiece?, List.cons_append, List.cons.injEq]
      by_cases h : a = b
      · subst h
        simp [ih]
      · have hne : (a == b) = false := beq_eq_false_iff_ne.2 h
        rw [hne, if_neg Bool.false_ne_true]
        constructor
        · intro hn
          cases hn
        · rintro ⟨hba, -⟩
          exact absurd hba.symm h

/-- A piece in front is dropped. -/
theorem dropPiece?_append (p r : List Char) : dropPiece? p (p ++ r) = some r :=
  dropPiece?_eq_some_iff.2 rfl

/-! ## White space in front -/

variable {a s : List Char}

/-- Blanks in front are trimmed. -/
theorem trimStart_append_of_blank (ha : a.all isBlank = true) :
    trimStart (a ++ s) = trimStart s := by
  unfold trimStart
  exact List.dropWhile_append_of_pos (List.all_eq_true.1 ha)

theorem trim_append_of_blank (ha : a.all isBlank = true) : trim (a ++ s) = trim s := by
  unfold trim
  rw [trimStart_append_of_blank ha]

/-- Nothing is left if all is blank. -/
theorem trimStart_eq_nil_iff : trimStart s = [] ↔ s.all isBlank = true := by
  unfold trimStart
  rw [List.dropWhile_eq_nil_iff, List.all_eq_true]

/-- A text that is not blank keeps what follows it. -/
theorem trimStart_append_of_not_blank (hs : s.all isBlank = false) (a : List Char) :
    trimStart (s ++ a) = trimStart s ++ a := by
  have hne : trimStart s ≠ [] := by
    intro hnil
    rw [trimStart_eq_nil_iff.1 hnil] at hs
    cases hs
  unfold trimStart at hne ⊢
  rw [List.dropWhile_append, if_neg (by simpa using hne)]

/-- Characters are dropped as far as one that is not to be dropped, and no further. -/
theorem dropWhile_append_cons {p : Char → Bool} {c : Char} (hc : p c = false) (a r : List Char) :
    (a ++ c :: r).dropWhile p = a.dropWhile p ++ c :: r := by
  rw [List.dropWhile_append]
  split
  · rename_i hnil
    rw [List.isEmpty_iff.1 hnil]
    exact dropWhile_eq_self_of_head hc
  · rfl

/-- Trimming the front ends at a character that is not blank. -/
theorem trimStart_append_cons {c : Char} (hc : isBlank c = false) (a r : List Char) :
    trimStart (a ++ c :: r) = trimStart a ++ c :: r := dropWhile_append_cons hc a r

theorem trimEnd_append_cons {c : Char} (hc : isBlank c = false) (a r : List Char) :
    trimEnd (a ++ c :: r) = a ++ c :: trimEnd r := by
  have hreverse : (a ++ c :: r).reverse = r.reverse ++ c :: a.reverse := by simp
  have hend : trimEnd (a ++ c :: r) = (trimStart (r.reverse ++ c :: a.reverse)).reverse := by
    rw [← hreverse]
    rfl
  rw [hend, trimStart_append_cons hc]
  simp [trimEnd, dropEndWhile, trimStart]

/-- The first character that is left is not blank. -/
theorem isBlank_of_head?_trimStart {c : Char} (h : (trimStart s).head? = some c) :
    isBlank c = false := by
  have hhead := List.head?_dropWhile_not isBlank s
  unfold trimStart at h
  rw [h] at hhead
  simpa using hhead

/-- White space at the end of a text does not change how it begins. -/
theorem head?_trim (s : List Char) : (trim s).head? = (trimStart s).head? := by
  unfold trim trimEnd dropEndWhile
  cases hs : trimStart s with
  | nil => rfl
  | cons c r =>
    have hc : isBlank c = false := isBlank_of_head?_trimStart (by rw [hs]; rfl)
    have hrest : (r.reverse ++ [c]).dropWhile isBlank = r.reverse.dropWhile isBlank ++ [c] := by
      rw [List.dropWhile_append]
      split
      · rename_i hnil
        rw [List.isEmpty_iff.1 hnil]
        simp [hc]
      · rfl
    rw [List.reverse_cons, hrest, List.reverse_append]
    rfl

/-- Nothing is left of both ends if all is blank. -/
theorem trim_eq_nil_iff : trim s = [] ↔ s.all isBlank = true := by
  rw [← List.head?_eq_none_iff, head?_trim, List.head?_eq_none_iff, trimStart_eq_nil_iff]

/-! ## Words -/

/-- No word has a blank. -/
theorem wordsFrom_not_blank {run : List Char} (hrun : ∀ c ∈ run, isBlank c = false) (s : List Char) :
    ∀ w ∈ wordsFrom run s, ∀ c ∈ w, isBlank c = false := by
  induction s generalizing run with
  | nil =>
    intro w hw c hc
    cases run with
    | nil => cases hw
    | cons d run =>
      obtain rfl : w = (d :: run).reverse := List.mem_singleton.1 hw
      exact hrun c (List.mem_reverse.1 hc)
  | cons d s ih =>
    intro w hw c hc
    unfold wordsFrom at hw
    split at hw
    · split at hw
      · exact ih (List.forall_mem_nil _) w hw c hc
      · rcases List.mem_cons.1 hw with rfl | hw
        · exact hrun c (List.mem_reverse.1 hc)
        · exact ih (List.forall_mem_nil _) w hw c hc
    · rename_i hd
      exact ih (List.forall_mem_cons.2 ⟨Bool.not_eq_true _ ▸ hd, hrun⟩) w hw c hc

/-- There is no white space in a word. -/
theorem words_not_blank (s : List Char) : ∀ w ∈ words s, ∀ c ∈ w, isBlank c = false :=
  wordsFrom_not_blank (List.forall_mem_nil _) s

end SchemaBridge.Text
