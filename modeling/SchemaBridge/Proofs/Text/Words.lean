/-
# Words of a text

A text is cut into words at its white space, and into two parts at the last occurrence of a character.
Here is what is found of a text that was put together.

## Key statements

* `words_append_blank`, `words_spaced`: words before white space are the first ones.
* `breakOn?_append`, `breakAtLast?_append`: a text that is parted at the first or the last occurrence of
  a character.
* `occurs_iff`: the pieces that occur in a text.
* `occurs_append_cons`: a sign that a piece does not have parts a text into two.
* `isBlank_toLower`: the case of a letter has nothing to do with white space.
-/
import Mathlib.Data.List.Infix
import SchemaBridge.Proofs.Text.Trimming

namespace SchemaBridge.Text

/-- A text without white space in it. -/
def IsSolid (s : List Char) : Prop := ∀ c ∈ s, isBlank c = false

instance (s : List Char) : Decidable (IsSolid s) := List.decidableBAll (isBlank · = false) s

/-- The run that is being read goes on to the next white space. -/
theorem wordsFrom_of_ne_nil {run : List Char} (hrun : run ≠ []) (s : List Char) :
    wordsFrom run s = (run.reverse ++ s.takeWhile fun c => !isBlank c)
      :: words (s.dropWhile fun c => !isBlank c) := by
  induction s generalizing run with
  | nil => simp [wordsFrom, words, hrun]
  | cons c s ih =>
    unfold wordsFrom
    by_cases hc : isBlank c = true
    · -- the run is over, and the other words begin behind it
      rw [if_pos hc, if_neg (by simpa using hrun), List.takeWhile_cons_of_neg (by simp [hc]),
        List.dropWhile_cons_of_neg (by simp [hc]), List.append_nil, words, wordsFrom, if_pos hc]
      rfl
    · rw [if_neg hc, ih (List.cons_ne_nil _ _), List.takeWhile_cons_of_pos (by simpa using hc),
        List.dropWhile_cons_of_pos (by simpa using hc), List.reverse_cons, List.append_assoc]
      rfl

/-- A text that begins with a word. -/
theorem words_cons {c : Char} (hc : isBlank c = false) (s : List Char) :
    words (c :: s) = (c :: s.takeWhile fun c => !isBlank c)
      :: words (s.dropWhile fun c => !isBlank c) := by
  unfold words
  rw [wordsFrom, if_neg (by simp [hc]), wordsFrom_of_ne_nil (List.cons_ne_nil _ _)]
  rfl

/-- A blank in front brings no word. -/
theorem words_blank (c : Char) (hc : isBlank c = true) (s : List Char) : words (c :: s) = words s := by
  unfold words
  rw [wordsFrom, if_pos hc]
  rfl

/-- What is taken of a text up to white space is taken before it. -/
theorem takeWhile_append_blank {c : Char} (hc : isBlank c = true) (w s : List Char) :
    (w ++ c :: s).takeWhile (fun c => !isBlank c) = w.takeWhile fun c => !isBlank c := by
  rw [List.takeWhile_append, List.takeWhile_cons_of_neg (by simp [hc]), List.append_nil]
  split
  · rename_i hlength
    exact ((List.takeWhile_prefix _).eq_of_length hlength).symm
  · rfl

/-- A word is taken up to its end. -/
theorem takeWhile_of_isSolid {w : List Char} (hw : IsSolid w) :
    w.takeWhile (fun c => !isBlank c) = w :=
  List.takeWhile_eq_self_iff.2 fun c hc => by rw [hw c hc]; rfl

/-- A word before white space is the first one. -/
theorem words_append_blank {w : List Char} (hne : w ≠ []) (hw : IsSolid w) {c : Char}
    (hc : isBlank c = true) (s : List Char) : words (w ++ c :: s) = w :: words s := by
  obtain ⟨d, w, rfl⟩ := List.exists_cons_of_ne_nil hne
  obtain ⟨hd, hw⟩ := List.forall_mem_cons.1 hw
  rw [List.cons_append, words_cons hd, takeWhile_append_blank hc, takeWhile_of_isSolid hw,
    List.dropWhile_append_of_pos fun d hd => by rw [hw d hd]; rfl,
    List.dropWhile_cons_of_neg (by simp [hc]), words_blank c hc]

/-- Words with a space after each of them are the first ones. -/
theorem words_spaced {ws : List (List Char)} (h : ∀ w ∈ ws, w ≠ [] ∧ IsSolid w) (s : List Char) :
    words (ws.flatMap (· ++ [' ']) ++ s) = ws ++ words s := by
  induction ws with
  | nil => rfl
  | cons w ws ih =>
    obtain ⟨⟨hne, hw⟩, hws⟩ := List.forall_mem_cons.1 h
    rw [List.flatMap_cons, List.append_assoc, List.append_assoc, List.singleton_append,
      words_append_blank hne hw (by decide), ih hws, List.cons_append]

/-- A capital letter of ASCII becomes the small one, and any other character stays. -/
theorem toLower_cases (c : Char) : (65 ≤ c.toNat ∧ c.toNat ≤ 90 ∧ c.toLower.toNat = c.toNat + 32)
    ∨ ((c.toNat < 65 ∨ 90 < c.toNat) ∧ c.toLower = c) := by
  by_cases hupper : c.val ≥ 'A'.val ∧ c.val ≤ 'Z'.val
  · have hlow : 65 ≤ c.toNat := UInt32.le_iff_toNat_le.1 hupper.1
    have hhigh : c.toNat ≤ 90 := UInt32.le_iff_toNat_le.1 hupper.2
    have hval : c.toLower.toNat = (c.toNat + 32) % 2 ^ 32 :=
      congrArg Char.toNat (dif_pos hupper)
    exact Or.inl ⟨hlow, hhigh, by omega⟩
  · refine Or.inr ⟨?_, dif_neg hupper⟩
    by_contra hrange
    rw [not_or, Nat.not_lt, Nat.not_lt] at hrange
    exact hupper ⟨UInt32.le_iff_toNat_le.2 hrange.1, UInt32.le_iff_toNat_le.2 hrange.2⟩

/-- A text without white space is one word. -/
theorem words_of_isSolid {w : List Char} (hne : w ≠ []) (hw : IsSolid w) : words w = [w] := by
  obtain ⟨c, s, rfl⟩ := List.exists_cons_of_ne_nil hne
  obtain ⟨hc, hs⟩ := List.forall_mem_cons.1 hw
  have hdrop : s.dropWhile (fun c => !isBlank c) = [] := by
    rw [List.dropWhile_eq_nil_iff]
    exact fun d hd => by rw [hs d hd]; rfl
  rw [words_cons hc, takeWhile_of_isSolid hs, hdrop]
  rfl

/-- The case of a letter has nothing to do with white space. -/
theorem isBlank_toLower (c : Char) : isBlank c.toLower = isBlank c := by
  have hprinted : ∀ d : Char, 33 ≤ d.toNat → d.toNat < 128 → isBlank d = false := by
    intro d hlow hhigh
    have hspace : (d == ' ') = false := by
      rw [beq_eq_false_iff_ne]
      rintro rfl
      exact absurd hlow (by decide)
    unfold isBlank
    rw [if_pos hhigh, hspace, Bool.false_or, Bool.and_eq_false_iff]
    exact Or.inr (decide_eq_false (by omega))
  rcases toLower_cases c with ⟨hlow, hhigh, hlower⟩ | ⟨-, hsame⟩
  · rw [hprinted c (by omega) (by omega), hprinted c.toLower (by omega) (by omega)]
  · rw [hsame]

/-! ## Pieces -/

/-- A piece occurs in a text if it is a run of it. -/
theorem occurs_iff {piece s : List Char} : occurs piece s = true ↔ piece <:+: s := by
  unfold occurs
  induction s with
  | nil =>
    unfold breakOn?
    rw [List.infix_nil]
    cases piece <;> simp
  | cons c s ih =>
    rw [breakOn?, List.infix_cons_iff]
    cases hdrop : dropPiece? piece (c :: s) with
    | some rest => exact iff_of_true rfl (Or.inl ⟨rest, (dropPiece?_eq_some_iff.1 hdrop).symm⟩)
    | none =>
      have hprefix : ¬ piece <+: c :: s := by
        rintro ⟨rest, hrest⟩
        rw [dropPiece?_eq_some_iff.2 hrest.symm] at hdrop
        cases hdrop
      rw [or_iff_right hprefix, ← ih, Option.isSome_map]

/-- A piece occurs where it stands. -/
theorem occurs_append (a piece b : List Char) : occurs piece (a ++ piece ++ b) = true :=
  occurs_iff.2 (List.infix_append a piece b)

/-- A piece that occurs on neither side of a sign, and does not have it, does not occur. -/
theorem infix_append_cons {piece : List Char} {c : Char} (hc : c ∉ piece) {a b : List Char}
    (h : piece <:+: a ++ c :: b) : piece <:+: a ∨ piece <:+: b := by
  obtain ⟨front, back, heq⟩ := h
  rw [List.append_assoc] at heq
  rcases List.append_eq_append_iff.1 heq with ⟨mid, ha, hmid⟩ | ⟨mid, hfront, hmid⟩
  · -- the piece begins before the sign, and cannot go on behind it
    rcases List.append_eq_append_iff.1 hmid with ⟨rest, hrest, -⟩ | ⟨rest, hpiece, hrest⟩
    · exact Or.inl ⟨front, rest, by rw [ha, hrest, List.append_assoc]⟩
    · cases rest with
      | nil =>
        rw [List.append_nil] at hpiece
        exact Or.inl ⟨front, [], by rw [ha, hpiece, List.append_nil]⟩
      | cons d rest =>
        obtain rfl : c = d := (List.cons.inj hrest).1
        exact absurd (hpiece ▸ List.mem_append_right _ List.mem_cons_self) hc
  · cases mid with
    | nil =>
      have hpiece : piece ++ back = c :: b := hmid.symm
      cases piece with
      | nil => exact Or.inl (List.nil_infix)
      | cons d piece => exact absurd (List.cons.inj hpiece).1.symm (List.ne_of_not_mem_cons hc)
    | cons d mid =>
      obtain ⟨-, rfl⟩ := List.cons.inj hmid
      exact Or.inr ⟨mid, back, List.append_assoc mid piece back⟩

/-- A piece occurs before or after a character that it does not have. -/
theorem occurs_append_cons {piece : List Char} {c : Char} (hc : c ∉ piece) (a b : List Char) :
    occurs piece (a ++ c :: b) = (occurs piece a || occurs piece b) := by
  rw [Bool.eq_iff_iff, Bool.or_eq_true, occurs_iff, occurs_iff, occurs_iff]
  refine ⟨infix_append_cons hc, fun h => ?_⟩
  rcases h with h | h
  · exact h.trans (List.prefix_append a (c :: b)).isInfix
  · exact h.trans ((List.suffix_cons c b).trans (List.suffix_append a (c :: b))).isInfix

/-! ## The first and the last occurrence of a character -/

/-- Without the character there is no break. -/
theorem breakOn?_eq_none {c : Char} {s : List Char} (h : c ∉ s) : breakOn? [c] s = none := by
  cases hbreak : breakOn? [c] s with
  | none => rfl
  | some p =>
    have hoccurs : occurs [c] s = true := by
      unfold occurs
      rw [hbreak]
      rfl
    exact absurd ((occurs_iff.1 hoccurs).subset (List.mem_singleton_self c)) h

/-- A text is broken at the first occurrence. -/
theorem breakOn?_append {c : Char} {front : List Char} (h : c ∉ front) (tail : List Char) :
    breakOn? [c] (front ++ c :: tail) = some (front, tail) := by
  induction front with
  | nil =>
    have hdrop : dropPiece? [c] (c :: tail) = some tail := dropPiece?_append [c] tail
    rw [List.nil_append, breakOn?, hdrop]
  | cons d front ih =>
    have hne : (c == d) = false := beq_eq_false_iff_ne.2 (List.ne_of_not_mem_cons h)
    have hdrop : dropPiece? [c] (d :: (front ++ c :: tail)) = none := by
      rw [dropPiece?, hne]
      rfl
    rw [List.cons_append, breakOn?, hdrop]
    dsimp only
    rw [ih (List.not_mem_of_not_mem_cons h)]
    rfl

theorem breakAtLast?_append {c : Char} {tail : List Char} (h : c ∉ tail) (front : List Char) :
    breakAtLast? c (front ++ c :: tail) = some (front, tail) := by
  have hne : ∀ d ∈ tail.reverse, (d != c) = true := by
    intro d hd
    rw [bne_iff_ne]
    rintro rfl
    exact h (List.mem_reverse.1 hd)
  have hreverse : (front ++ c :: tail).reverse = tail.reverse ++ c :: front.reverse := by simp
  unfold breakAtLast?
  rw [hreverse, List.takeWhile_append_of_pos hne, List.dropWhile_append_of_pos hne,
    List.takeWhile_cons_of_neg (by simp), List.dropWhile_cons_of_neg (by simp)]
  simp

/-- Without the character there is none. -/
theorem breakAtLast?_eq_none {c : Char} {s : List Char} (h : c ∉ s) : breakAtLast? c s = none := by
  have hall : s.reverse.dropWhile (· != c) = [] := by
    rw [List.dropWhile_eq_nil_iff]
    intro d hd
    rw [bne_iff_ne]
    rintro rfl
    exact h (List.mem_reverse.1 hd)
  unfold breakAtLast?
  rw [hall]

/-! ## Ends -/

/-- Nothing is dropped of a text whose characters are all kept. -/
theorem strip_eq_self {p : Char → Bool} {s : List Char} (h : ∀ c ∈ s, p c = false) :
    strip p s = s := by
  have hdrop : ∀ l : List Char, (∀ c ∈ l, p c = false) → l.dropWhile p = l := by
    intro l hl
    cases l with
    | nil => rfl
    | cons c l => exact dropWhile_eq_self_of_head (hl c List.mem_cons_self)
  unfold strip dropEndWhile
  rw [hdrop s h, hdrop s.reverse fun c hc => h c (List.mem_reverse.1 hc), List.reverse_reverse]

/-- A character that is stripped in front. -/
theorem strip_cons {p : Char → Bool} {c : Char} (hc : p c = true) (s : List Char) :
    strip p (c :: s) = strip p s := by
  unfold strip
  rw [List.dropWhile_cons_of_pos hc]

/-- A character that is stripped at the end. -/
theorem strip_append_singleton {p : Char → Bool} {c : Char} (hc : p c = true) (s : List Char) :
    strip p (s ++ [c]) = strip p s := by
  unfold strip dropEndWhile
  rw [List.dropWhile_append]
  split
  · rename_i hnil
    rw [List.isEmpty_iff.1 hnil, List.dropWhile_cons_of_pos hc, List.dropWhile_nil]
  · rw [List.reverse_append, List.reverse_singleton, List.singleton_append,
      List.dropWhile_cons_of_pos hc]

/-- Nothing is dropped where the last character stays. -/
theorem dropEndWhile_eq_self {p : Char → Bool} {s : List Char}
    (h : ∀ c, s.getLast? = some c → p c = false) : dropEndWhile p s = s := by
  unfold dropEndWhile
  cases hs : s.reverse with
  | nil => simpa using hs
  | cons c r =>
    have hlast : s.getLast? = some c := by
      rw [← List.head?_reverse, hs]
      rfl
    rw [dropWhile_eq_self_of_head (h c hlast), ← hs, List.reverse_reverse]

/-- White space around a text comes off. -/
theorem trim_between {w w' : List Char} (hw : w.all isBlank = true) (hw' : w'.all isBlank = true)
    {c d : Char} (hc : isBlank c = false) (hd : isBlank d = false) (s : List Char) :
    trim (w ++ c :: (s ++ d :: w')) = c :: (s ++ [d]) := by
  have hend : trimEnd w' = [] := by
    unfold trimEnd dropEndWhile
    rw [List.reverse_eq_nil_iff, List.dropWhile_eq_nil_iff]
    exact fun x hx => List.all_eq_true.1 hw' x (List.mem_reverse.1 hx)
  rw [trim_append_of_blank hw]
  unfold trim
  rw [show trimStart (c :: (s ++ d :: w')) = (c :: s) ++ d :: w' from
    List.dropWhile_cons_of_neg (by simp [hc]), trimEnd_append_cons hd, hend]
  rfl

/-- A text without blanks is trimmed already. -/
theorem trim_of_isSolid {s : List Char} (h : IsSolid s) : trim s = s :=
  strip_eq_self h

/-- No character is new. -/
theorem mem_of_mem_dropEndWhile {p : Char → Bool} {s : List Char} {c : Char}
    (h : c ∈ dropEndWhile p s) : c ∈ s :=
  List.mem_reverse.1 ((List.dropWhile_sublist p).subset (List.mem_reverse.1 h))

end SchemaBridge.Text
