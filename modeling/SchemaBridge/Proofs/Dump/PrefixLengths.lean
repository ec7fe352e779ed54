/-
# Lengths of covered beginnings

An index of MySQL may cover the beginning of a column only.  The length of this beginning stands
between parentheses behind the name of the column, and is taken out of a statement before it is read.
It is looked for behind backticks, whatever these belong to.

## Key statements

* `left_eq_self_iff`: which texts stay as they are.
* `left_append`: texts lose their lengths one by one, where none goes on from one text in the next.
* `namesFrom_append`: a text that loses nothing names no column.
* `left_shortened`, `namesFrom_shortened`: a name with a length behind it.
-/
import SchemaBridge.Dump.IndexText
import SchemaBridge.Proofs.Dump.Literals
import SchemaBridge.Proofs.Sql.Quoting

namespace SchemaBridge.Dump

/-! ## Lengths -/

/-- A number between parentheses. -/
def IsLength (l : List Char) : Prop :=
  ∃ ds : List Char, ds ≠ [] ∧ (∀ d ∈ ds, d.isDigit = true) ∧ l = '(' :: (ds ++ [')'])

/-- A text does not begin with a length. -/
def BeginsNoLength (s : List Char) : Prop := ∀ l r, IsLength l → s ≠ l ++ r

/-- A text has a backtick somewhere with a length behind it. -/
def HoldsLength (s : List Char) : Prop := ∃ a l b, IsLength l ∧ s = a ++ '\x60' :: (l ++ b)

/-- A character that a length may have. -/
def IsLengthChar (c : Char) : Prop := c = '(' ∨ c = ')' ∨ c.isDigit = true

instance : DecidablePred IsLengthChar :=
  fun c => inferInstanceAs (Decidable (c = '(' ∨ c = ')' ∨ c.isDigit = true))

section Lengths

variable {c : Char} {a b l r s seen : List Char}

/-- A length is made of parentheses and digits. -/
theorem IsLength.of_mem (h : IsLength l) (hc : c ∈ l) : IsLengthChar c := by
  obtain ⟨ds, -, hds, rfl⟩ := h
  rcases List.mem_cons.1 hc with rfl | hc
  · exact Or.inl rfl
  rcases List.mem_append.1 hc with hc | hc
  · exact Or.inr (Or.inr (hds c hc))
  · exact Or.inr (Or.inl (List.mem_singleton.1 hc))

/-- What follows a length. -/
theorem afterLength?_eq_some_iff : afterLength? s = some r ↔ ∃ l, IsLength l ∧ s = l ++ r := by
  constructor
  · intro h
    unfold afterLength? at h
    split at h
    · rename_i t
      split at h
      · rename_i d ds rest hds hrest
        obtain rfl := Option.some.inj h
        refine ⟨'(' :: ((d :: ds) ++ [')']), ⟨d :: ds, List.cons_ne_nil _ _, ?_, rfl⟩, ?_⟩
        · rw [← hds]
          exact fun x hx => List.mem_takeWhile_imp hx
        · rw [List.cons_append, List.append_assoc, ← hds, List.singleton_append, ← hrest,
            List.takeWhile_append_dropWhile]
      · cases h
    · cases h
  · rintro ⟨l, ⟨ds, hne, hds, rfl⟩, rfl⟩
    have hends : Char.isDigit ')' ≠ true := by decide
    rw [List.cons_append, List.append_assoc, List.singleton_append, afterLength?,
      List.takeWhile_append_of_pos hds, List.dropWhile_append_of_pos hds,
      List.takeWhile_cons_of_neg hends, List.dropWhile_cons_of_neg hends, List.append_nil]
    cases ds with
    | nil => exact absurd rfl hne
    | cons d ds => rfl

/-- Nothing follows a length where there is none. -/
theorem afterLength?_eq_none_iff : afterLength? s = none ↔ BeginsNoLength s := by
  rw [Option.eq_none_iff_forall_ne_some]
  constructor
  · intro h l r hl hs
    exact h r (afterLength?_eq_some_iff.2 ⟨l, hl, hs⟩)
  · intro h r hr
    obtain ⟨l, hl, hs⟩ := afterLength?_eq_some_iff.1 hr
    exact h l r hl hs

/-- Where a text does not begin without a length it begins with one. -/
theorem exists_length_of_not (h : ¬ BeginsNoLength s) : ∃ l r, IsLength l ∧ s = l ++ r := by
  unfold BeginsNoLength at h
  push Not at h
  exact h

/-- Texts are made of backticks with a length behind them and of other characters. -/
theorem lengthInduction {P : List Char → Prop} (nil : P [])
    (length : ∀ l r, IsLength l → P r → P ('\x60' :: (l ++ r)))
    (other : ∀ c r, (c = '\x60' → BeginsNoLength r) → P r → P (c :: r)) (s : List Char) : P s := by
  induction hn : s.length using Nat.strong_induction_on generalizing s with
  | _ n ih =>
    cases s with
    | nil => exact nil
    | cons c r =>
      rw [List.length_cons] at hn
      by_cases h : c = '\x60' → BeginsNoLength r
      · exact other c r h (ih r.length (by omega) r rfl)
      · obtain ⟨rfl, hbegins⟩ := Classical.not_imp.1 h
        obtain ⟨l, r, hl, rfl⟩ := exists_length_of_not hbegins
        rw [List.length_append] at hn
        exact length l r hl (ih r.length (by omega) r rfl)

/-! ## What is left of a text -/

/-- The text since the last backtick with a parenthesis behind it, last character first, when one more
character has been read. -/
def seenAfter (seen : List Char) (c : Char) (r : List Char) : List Char :=
  if c = '\x60' ∧ r.head? = some '(' then [] else c :: seen

/-- A length behind a backtick is dropped, and the name before it is noted. -/
theorem dropLengthsFrom_length (hl : IsLength l) (seen r : List Char) :
    dropLengthsFrom seen ('\x60' :: (l ++ r)) = ('\x60' :: (dropLengthsFrom [] r).1,
      (nameBefore? seen).toList ++ (dropLengthsFrom [] r).2) := by
  have hhead : (('\x60' : Char) == '\x60' && (l ++ r).head? == some '(') = true := by
    obtain ⟨ds, -, -, rfl⟩ := hl
    rfl
  have hafter : afterLength? (l ++ r) = some r := afterLength?_eq_some_iff.2 ⟨l, hl, rfl⟩
  rw [dropLengthsFrom, if_pos hhead]
  split
  · rename_i rest hrest
    obtain rfl : r = rest := Option.some.inj (hafter.symm.trans hrest)
    rfl
  · rename_i hnone
    rw [hafter] at hnone
    cases hnone

/-- Anything else is kept. -/
theorem dropLengthsFrom_other (h : c = '\x60' → BeginsNoLength r) (seen : List Char) :
    dropLengthsFrom seen (c :: r) = (c :: (dropLengthsFrom (seenAfter seen c r) r).1,
      (dropLengthsFrom (seenAfter seen c r) r).2) := by
  rw [dropLengthsFrom]
  unfold seenAfter
  by_cases hopens : c = '\x60' ∧ r.head? = some '('
  · have hhead : (c == '\x60' && r.head? == some '(') = true := by simp [hopens]
    have hnone : afterLength? r = none := afterLength?_eq_none_iff.2 (h hopens.1)
    rw [if_pos hhead, if_pos hopens]
    split
    · rename_i rest hrest
      rw [hnone] at hrest
      cases hrest
    · rfl
  · have hhead : ¬ (c == '\x60' && r.head? == some '(') = true := by simpa using hopens
    rw [if_neg hhead, if_neg hopens]

/-- What is left of a text without its lengths. -/
def left (s : List Char) : List Char := (dropLengthsFrom [] s).1

/-- What is left does not depend on what has been seen. -/
theorem fst_dropLengthsFrom (seen s : List Char) : (dropLengthsFrom seen s).1 = left s := by
  induction s using lengthInduction generalizing seen with
  | nil => simp [left, dropLengthsFrom]
  | length l r hl ih =>
    unfold left
    rw [dropLengthsFrom_length hl, dropLengthsFrom_length hl]
  | other c r h ih =>
    unfold left
    rw [dropLengthsFrom_other h, dropLengthsFrom_other h, ih, ih]

/-- Nothing is left of nothing. -/
theorem left_nil : left [] = [] := by simp [left, dropLengthsFrom]

/-- A length behind a backtick is not left. -/
theorem left_length (hl : IsLength l) (r : List Char) : left ('\x60' :: (l ++ r)) = '\x60' :: left r := by
  unfold left
  rw [dropLengthsFrom_length hl]

/-- Anything else is left. -/
theorem left_other (h : c = '\x60' → BeginsNoLength r) : left (c :: r) = c :: left r := by
  rw [left, dropLengthsFrom_other h, fst_dropLengthsFrom]

/-- No more is left than there was. -/
theorem length_left_le (s : List Char) : (left s).length ≤ s.length := by
  induction s using lengthInduction with
  | nil => rw [left_nil]
  | length l r hl ih =>
    rw [left_length hl, List.length_cons, List.length_cons, List.length_append]
    omega
  | other c r h ih =>
    rw [left_other h, List.length_cons, List.length_cons]
    omega

/-- A character that begins no length in front. -/
theorem holdsLength_cons (h : c = '\x60' → BeginsNoLength r) : HoldsLength (c :: r) ↔ HoldsLength r := by
  constructor
  · rintro ⟨a, l, b, hl, heq⟩
    cases a with
    | nil =>
      obtain ⟨rfl, rfl⟩ := List.cons.inj heq
      exact absurd rfl (h rfl l b hl)
    | cons d a =>
      obtain ⟨-, rfl⟩ := List.cons.inj heq
      exact ⟨a, l, b, hl, rfl⟩
  · rintro ⟨a, l, b, hl, rfl⟩
    exact ⟨c :: a, l, b, hl, rfl⟩

/-- A text stays as it is exactly if no backtick in it has a length behind it. -/
theorem left_eq_self_iff : left s = s ↔ ¬ HoldsLength s := by
  induction s using lengthInduction with
  | nil =>
    refine iff_of_true left_nil ?_
    rintro ⟨a, l, b, -, heq⟩
    simp at heq
  | length l r hl ih =>
    refine iff_of_false (fun heq => ?_) (not_not_intro ⟨[], l, r, hl, rfl⟩)
    have hlength := congrArg List.length heq
    have hle := length_left_le r
    have hpos : 0 < l.length := by
      obtain ⟨ds, -, -, rfl⟩ := hl
      exact Nat.succ_pos _
    rw [left_length hl, List.length_cons, List.length_cons, List.length_append] at hlength
    omega
  | other c r h ih =>
    rw [left_other h, holdsLength_cons h, ← ih]
    exact ⟨fun heq => (List.cons.inj heq).2, congrArg _⟩

instance : DecidablePred HoldsLength :=
  fun s => decidable_of_iff (¬ left s = s) (not_congr left_eq_self_iff |>.trans not_not)

end Lengths

/-! ## Texts behind each other -/

/-- No length behind a backtick of a text goes on in the text behind it. -/
def Apart (a b : List Char) : Prop :=
  ∀ y, '\x60' :: y <:+ a → ∀ l r, IsLength l → y ++ b = l ++ r → ∃ z, y = l ++ z

/-- The columns that are named behind what has been seen. -/
def namesFrom (seen s : List Char) : List String := (dropLengthsFrom seen s).2

/-- What has been seen behind a text that loses nothing, where `b` follows. -/
def seenBehind (b : List Char) : List Char → List Char → List Char
  | seen, [] => seen
  | seen, c :: a => seenBehind b (seenAfter seen c (a ++ b)) a

section Apart

variable {c e : Char} {a b l r s t x y seen : List Char}

theorem dropLengths_eq (s : String) :
    dropLengths s = (String.ofList (left s.toList), namesFrom [] s.toList) := rfl

theorem namesFrom_nil (seen : List Char) : namesFrom seen [] = [] := by
  unfold namesFrom
  rw [dropLengthsFrom]

/-- The end of a text is apart from what follows. -/
theorem Apart.of_suffix (h : Apart a b) (hs : t <:+ a) : Apart t b := fun y hy => h y (hy.trans hs)

/-- Where texts are apart, no length begins in one and ends in the other. -/
theorem Apart.beginsNoLength (h : Apart (c :: r) b) (hc : c = '\x60' → BeginsNoLength r) :
    c = '\x60' → BeginsNoLength (r ++ b) := by
  rintro rfl l r' hl heq
  obtain ⟨z, rfl⟩ := h r List.suffix_rfl l r' hl heq
  exact hc rfl l z hl rfl

/-- A text goes on behind the beginning of another one, or ends within it. -/
theorem exists_of_append_eq (heq : y ++ b = l ++ r) :
    (∃ z, y = l ++ z) ∨ ∃ e z, l = y ++ e :: z ∧ b.head? = some e := by
  rcases List.append_eq_append_iff.1 heq with ⟨z, rfl, rfl⟩ | ⟨z, rfl, -⟩
  · cases z with
    | nil => exact Or.inl ⟨[], by rw [List.append_nil, List.append_nil]⟩
    | cons e z => exact Or.inr ⟨e, z, rfl, rfl⟩
  · exact Or.inl ⟨z, rfl⟩

/-- Texts are apart if the second begins with nothing that a length has. -/
theorem apart_of_head (h : ∀ e, b.head? = some e → ¬ IsLengthChar e) (a : List Char) : Apart a b := by
  intro y _ l r hl heq
  rcases exists_of_append_eq heq with hz | ⟨e, z, rfl, he⟩
  · exact hz
  · exact absurd (hl.of_mem (List.mem_append_right y List.mem_cons_self)) (h e he)

/-- A text without backticks is apart from any other. -/
theorem apart_of_not_mem (h : '\x60' ∉ a) (b : List Char) : Apart a b :=
  fun _ hy => absurd (hy.subset List.mem_cons_self) h

/-- A text that ends with nothing a length has is apart from what follows. -/
theorem apart_concat (he : ¬ IsLengthChar e) (hb : e = '\x60' → BeginsNoLength b) (x : List Char) :
    Apart (x ++ [e]) b := by
  intro y hy l r hl heq
  obtain ⟨u, hu⟩ := hy
  rcases List.eq_nil_or_concat y with rfl | ⟨y, e', rfl⟩
  · -- the last character is the backtick itself
    obtain rfl : '\x60' = e := List.singleton_inj.1 (List.append_inj_right' hu rfl)
    exact absurd heq (hb rfl l r hl)
  · rw [List.concat_eq_append, ← List.cons_append, ← List.append_assoc] at hu
    obtain rfl : e' = e := List.singleton_inj.1 (List.append_inj_right' hu rfl)
    rcases exists_of_append_eq heq with hz | ⟨d, z, rfl, -⟩
    · exact hz
    · exact absurd (hl.of_mem (by simp)) he

/-- Texts that stand apart lose their lengths one by one. -/
theorem left_append (h : Apart a b) : left (a ++ b) = left a ++ left b := by
  induction a using lengthInduction with
  | nil => rw [left_nil, List.nil_append, List.nil_append]
  | length l r hl ih =>
    have hr : r <:+ '\x60' :: (l ++ r) := (List.suffix_append l r).trans (List.suffix_cons _ _)
    rw [List.cons_append, List.append_assoc, left_length hl, left_length hl, ih (h.of_suffix hr),
      List.cons_append]
  | other c r hc ih =>
    rw [List.cons_append, left_other (h.beginsNoLength hc), left_other hc,
      ih (h.of_suffix (List.suffix_cons c r)), List.cons_append]

/-- A text that loses nothing names no column. -/
theorem namesFrom_append (h : Apart a b) (hno : ¬ HoldsLength a) (seen : List Char) :
    namesFrom seen (a ++ b) = namesFrom (seenBehind b seen a) b := by
  induction a using lengthInduction generalizing seen with
  | nil => rfl
  | length l r hl _ => exact absurd ⟨[], l, r, hl, rfl⟩ hno
  | other c r hc ih =>
    rw [holdsLength_cons hc] at hno
    have hnames : namesFrom seen (c :: (r ++ b)) = namesFrom (seenAfter seen c (r ++ b)) (r ++ b) := by
      unfold namesFrom
      rw [dropLengthsFrom_other (h.beginsNoLength hc)]
    rw [List.cons_append, hnames, ih (h.of_suffix (List.suffix_cons c r)) hno, seenBehind]

/-- All is seen of a text without backticks. -/
theorem seenBehind_of_not_mem (h : '\x60' ∉ a) (b seen : List Char) :
    seenBehind b seen a = a.reverse ++ seen := by
  induction a generalizing seen with
  | nil => rfl
  | cons c a ih =>
    have hc : c ≠ '\x60' := fun hc => h (hc ▸ List.mem_cons_self)
    have hseen : seenAfter seen c (a ++ b) = c :: seen := if_neg fun hopens => hc hopens.1
    rw [seenBehind, ih (fun hmem => h (List.mem_cons_of_mem c hmem)), hseen, List.reverse_cons,
      List.append_assoc, List.singleton_append]

end Apart

/-! ## Names with a length -/

/-- A name between backticks. -/
def backticked (n : List Char) : List Char := quotation '\x60' (Identifier.doubled '\x60' n)

/-- A name is read back from the text before its closing backtick. -/
def IsReadBack (n : List Char) : Prop := '\x60' ∉ n ∧ n.head? ≠ some '('

instance : DecidablePred IsReadBack :=
  fun n => inferInstanceAs (Decidable ('\x60' ∉ n ∧ n.head? ≠ some '('))

section Names

variable {l n seen rest : List Char} {name : String}

theorem backticked_append (n s : List Char) :
    backticked n ++ s = '\x60' :: Identifier.doubled '\x60' n ++ '\x60' :: s := by
  unfold backticked quotation
  rw [← List.cons_append, List.append_assoc, List.singleton_append]

/-- There is no name without a backtick before it. -/
theorem nameBefore?_of_not_mem (h : '\x60' ∉ seen) : nameBefore? seen = none := by
  have hdrop : seen.dropWhile (· != '\x60') = [] :=
    List.dropWhile_eq_nil_iff.2 fun c hc => bne_iff_ne.2 fun heq => h (heq ▸ hc)
  rw [nameBefore?, hdrop]

/-- A name without backticks is found. -/
theorem nameBefore?_reverse (h : '\x60' ∉ n) (seen : List Char) :
    nameBefore? (n.reverse ++ '\x60' :: seen) = some (String.ofList n) := by
  have hall : ∀ c ∈ n.reverse, (c != '\x60') = true := fun c hc =>
    bne_iff_ne.2 fun heq => h (heq ▸ List.mem_reverse.1 hc)
  have hclose : ¬ (('\x60' : Char) != '\x60') = true := by decide
  rw [nameBefore?, List.dropWhile_append_of_pos hall, List.takeWhile_append_of_pos hall,
    List.dropWhile_cons, List.takeWhile_cons, if_neg hclose, if_neg hclose, List.append_nil,
    List.reverse_reverse]

/-- A name that is found has no backtick. -/
theorem not_mem_of_nameBefore? (h : nameBefore? seen = some name) : '\x60' ∉ name.toList := by
  unfold nameBefore? at h
  split at h
  · cases h
  · obtain rfl := Option.some.inj h
    rw [String.toList_ofList, List.mem_reverse]
    exact fun hmem => absurd (List.mem_takeWhile_imp hmem) (by decide)

/-- The name before a length is read back if no backtick is in it and no parenthesis follows its opening
backtick. -/
theorem nameBefore?_eq_some_iff (n seen rest : List Char) :
    nameBefore? (seenBehind ('\x60' :: rest) seen ('\x60' :: Identifier.doubled '\x60' n))
      = some (String.ofList n) ↔ IsReadBack n := by
  by_cases hn : '\x60' ∈ n
  · refine iff_of_false (fun h => ?_) (fun h => h.1 hn)
    have hnot := not_mem_of_nameBefore? h
    rw [String.toList_ofList] at hnot
    exact hnot hn
  rw [Identifier.doubled_of_not_mem hn, seenBehind, seenBehind_of_not_mem hn]
  have hhead : (n ++ '\x60' :: rest).head? = some '(' ↔ n.head? = some '(' := by
    cases n <;> simp
  unfold seenAfter
  by_cases hopens : n.head? = some '('
  · refine iff_of_false ?_ (fun h => h.2 hopens)
    rw [if_pos ⟨rfl, hhead.2 hopens⟩, List.append_nil,
      nameBefore?_of_not_mem (fun h => hn (List.mem_reverse.1 h))]
    exact nofun
  · refine iff_of_true ?_ ⟨hn, hopens⟩
    rw [if_neg fun h => hopens (hhead.1 h.2), nameBefore?_reverse hn]

/-- A text is apart from a backtick after it. -/
theorem apart_backtick (a s : List Char) : Apart a ('\x60' :: s) := by
  refine apart_of_head (fun e he => ?_) a
  obtain rfl := Option.some.inj he
  decide

/-- A quoted name with a length loses the length. -/
theorem left_shortened (hl : IsLength l) (n rest : List Char) :
    left (backticked n ++ (l ++ rest)) = left (backticked n) ++ left rest := by
  have hclose : left ['\x60'] = ['\x60'] := by
    rw [left_other, left_nil]
    rintro - l r ⟨ds, -, -, rfl⟩ heq
    cases heq
  rw [← List.append_nil (backticked n), List.append_assoc, List.nil_append, backticked_append,
    backticked_append, left_append (apart_backtick _ _), left_append (apart_backtick _ _),
    left_length hl, hclose, List.append_assoc, List.singleton_append]

/-- A quoted name with a length is noted as far as it is seen. -/
theorem namesFrom_shortened (hl : IsLength l) (hno : ¬ HoldsLength (backticked n))
    (seen rest : List Char) : namesFrom seen (backticked n ++ (l ++ rest))
      = (nameBefore? (seenBehind ('\x60' :: (l ++ rest)) seen
          ('\x60' :: Identifier.doubled '\x60' n))).toList ++ namesFrom [] rest := by
  have hopen : ¬ HoldsLength ('\x60' :: Identifier.doubled '\x60' n) := by
    rintro ⟨a, l, b, hl, heq⟩
    refine hno ⟨a, l, b ++ ['\x60'], hl, ?_⟩
    rw [← List.append_nil (backticked n), backticked_append, heq]
    simp
  rw [backticked_append, namesFrom_append (apart_backtick _ _) hopen]
  unfold namesFrom
  rw [dropLengthsFrom_length hl]

end Names

end SchemaBridge.Dump
