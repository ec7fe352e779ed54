/-
# Places in a dump

The scan looks ahead: a quotation mark may be doubled, a dollar may begin a tag, two characters
together may open a comment.  At a place that the scan comes to, none of this reaches over: what stands
before the place is read in the same way if something else follows it, as long as this can neither go
on with what came before nor open a comment with it.

In this module texts are cut at a place: `x ++ e :: y` has it before `e`, and `x ++ f :: z` is a text
in which something else follows.

## Key statements

* `quotedSpan_place`, `commentSpan_place`, …: segments that end before a place.
* `Scan.step_place`: a step that ends before a place.
* `Scan.Reads.place`: all steps up to a place.  The end of a line is one only if the last step has not
  left it, as a comment does that goes on to there.
-/
import SchemaBridge.Proofs.Dump.Scanning

namespace SchemaBridge.Dump

variable {x y z l : List Char} {e f : Char}

/-! ## Segments that end before a place -/

/-- A segment that passes a place leaves less than what follows the place. -/
theorem ne_of_length_le {a : List Char} (h : a.length ≤ y.length) : a ≠ l ++ e :: y := by
  intro heq
  rw [heq, List.length_append, List.length_cons] at h
  omega

/-- A quotation that ends before a place ends there whatever follows the place. -/
theorem quotedSpan_place {q : Char} {b : Bool} (hf : f ≠ q) {x l : List Char}
    (h : (quotedSpan q b (x ++ e :: y)).2 = l ++ e :: y) :
    quotedSpan q b (x ++ f :: z) = ((quotedSpan q b (x ++ e :: y)).1, l ++ f :: z) := by
  -- the scan looks one character ahead, so the last one before the place is a case of its own
  match x with
  | [] => exact absurd h (ne_of_length_le (length_quotedSpan_cons q b e y))
  | [c] =>
    rw [List.singleton_append, quotedSpan_cons_cons] at h ⊢
    rw [List.singleton_append, quotedSpan_cons_cons]
    split at h
    · exact absurd h (ne_of_length_le (length_quotedSpan q b y))
    · rename_i hpair
      have hpair' : ¬ ((b && c == '\\') || (c == q && f == q)) = true := by simp_all
      rw [if_neg hpair, if_neg hpair']
      split at h
      · rename_i hclose
        obtain rfl : l = [] := by simpa using h
        rw [if_pos hclose, if_pos hclose]
        rfl
      · exact absurd h (ne_of_length_le (length_quotedSpan_cons q b e y))
  | c :: c' :: x =>
    simp only [List.cons_append] at h ⊢
    rw [quotedSpan_cons_cons] at h ⊢
    rw [quotedSpan_cons_cons]
    split at h
    · rename_i hpair
      rw [if_pos hpair, if_pos hpair, quotedSpan_place hf h]
    · rename_i hpair
      rw [if_neg hpair, if_neg hpair]
      split at h
      · rename_i hclose
        obtain rfl : c' :: x = l := List.append_cancel_right h
        rw [if_pos hclose, if_pos hclose]
        rfl
      · rename_i hclose
        have ih := quotedSpan_place (x := c' :: x) hf h
        simp only [List.cons_append] at ih
        rw [if_neg hclose, if_neg hclose, ih]
termination_by x.length

theorem commentSpan_place (w : List Char) {x l : List Char}
    (h : (commentSpan (x ++ e :: y)).2 = l ++ e :: y) :
    commentSpan (x ++ w) = ((commentSpan (x ++ e :: y)).1, l ++ w) := by
  match x with
  | [] => exact absurd h (ne_of_length_le (length_commentSpan_cons e y))
  | [c] =>
    rw [List.singleton_append, commentSpan_cons_cons] at h
    split at h
    · exact absurd h (ne_of_length_le (Nat.le_refl _))
    · exact absurd h (ne_of_length_le (length_commentSpan_cons e y))
  | c :: c' :: x =>
    simp only [List.cons_append] at h ⊢
    rw [commentSpan_cons_cons] at h ⊢
    rw [commentSpan_cons_cons]
    split at h
    · rename_i hclose
      obtain rfl : x = l := List.append_cancel_right h
      rw [if_pos hclose, if_pos hclose]
    · rename_i hclose
      have ih := commentSpan_place w (x := c' :: x) h
      simp only [List.cons_append] at ih
      rw [if_neg hclose, if_neg hclose, ih]
termination_by x.length

/-- If there is a piece in a text, there is room for it. -/
theorem length_throughPiece_of_eq_append {p s : List Char} (h : (throughPiece p s).2 = l ++ e :: y) :
    p.length + (l ++ e :: y).length ≤ s.length := by
  induction s with
  | nil =>
    rw [throughPiece] at h
    simp at h
  | cons c r ih =>
    cases hdrop : Text.dropPiece? p (c :: r) with
    | some rest =>
      rw [throughPiece_of_some (List.cons_ne_nil c r) hdrop] at h
      obtain rfl : rest = l ++ e :: y := h
      exact Nat.le_of_eq (length_dropPiece? hdrop).symm
    | none =>
      rw [throughPiece_of_none hdrop] at h
      exact Nat.le_succ_of_le (ih h)

/-- The piece lies before the place. -/
theorem length_le_of_throughPiece {p : List Char}
    (h : (throughPiece p (x ++ e :: y)).2 = l ++ e :: y) : p.length + l.length ≤ x.length := by
  have hlength := length_throughPiece_of_eq_append h
  simp only [List.length_append, List.length_cons] at hlength
  omega

theorem throughPiece_place (w : List Char) {p x l : List Char} (hp : p ≠ [])
    (h : (throughPiece p (x ++ e :: y)).2 = l ++ e :: y) :
    throughPiece p (x ++ w) = ((throughPiece p (x ++ e :: y)).1, l ++ w) := by
  have hpos : 0 < p.length := List.length_pos_iff.2 hp
  induction x with
  | nil =>
    have hroom := length_le_of_throughPiece h
    rw [List.length_nil] at hroom
    omega
  | cons c x ih =>
    have hroom := length_le_of_throughPiece h
    simp only [List.cons_append] at h ⊢
    cases hdrop : Text.dropPiece? p (c :: (x ++ e :: y)) with
    | some rest =>
      rw [throughPiece_of_some (List.cons_ne_nil _ _) hdrop] at h
      rw [throughPiece_of_some (List.cons_ne_nil _ _) hdrop]
      obtain rfl : rest = l ++ e :: y := h
      have hx : c :: x = p ++ l := by
        have heq := Text.dropPiece?_eq_some_iff.1 hdrop
        rw [← List.append_assoc, ← List.cons_append] at heq
        exact List.append_cancel_right heq
      refine throughPiece_of_some (List.cons_ne_nil _ _) ?_
      rw [Text.dropPiece?_eq_some_iff, ← List.cons_append, hx, List.append_assoc]
    | none =>
      -- an earlier piece that ended behind the place would leave no room for the one that was found
      have hdrop' : Text.dropPiece? p (c :: (x ++ w)) = none := by
        rw [Option.eq_none_iff_forall_ne_some]
        intro rest hrest
        rw [Text.dropPiece?_eq_some_iff, ← List.cons_append] at hrest
        obtain ⟨u, hu⟩ : p <+: c :: x :=
          List.prefix_of_prefix_length_le ⟨rest, hrest.symm⟩ (List.prefix_append _ w) (by omega)
        have hsome : Text.dropPiece? p (c :: (x ++ e :: y)) = some (u ++ e :: y) := by
          rw [Text.dropPiece?_eq_some_iff, ← List.cons_append, ← hu, List.append_assoc]
        rw [hsome] at hdrop
        cases hdrop
      rw [throughPiece_of_none hdrop] at h
      rw [throughPiece_of_none hdrop]
      rw [throughPiece_of_none hdrop', ih h]

/-- A line that goes on over a place leaves less than what follows, or nothing before it. -/
theorem length_lineSpan_of_not_mem (he : e = '\n' → l ≠ []) (hx : '\n' ∉ x) :
    (lineSpan (x ++ e :: y)).2.length < (l ++ e :: y).length := by
  have hall : ∀ c ∈ x, isNotLineEnd c = true := fun c hc => bne_iff_ne.2 fun heq => hx (heq ▸ hc)
  show ((x ++ e :: y).dropWhile isNotLineEnd).length < _
  rw [List.dropWhile_append_of_pos hall, List.length_append, List.length_cons]
  by_cases hend : e = '\n'
  · have hpos : 0 < l.length := List.length_pos_iff.2 (he hend)
    have hlength := length_dropWhile isNotLineEnd (e :: y)
    rw [List.length_cons] at hlength
    omega
  · have hstays : isNotLineEnd e = true := bne_iff_ne.2 hend
    have hlength := length_dropWhile isNotLineEnd y
    rw [List.dropWhile_cons_of_pos hstays]
    omega

theorem lineSpan_place (w : List Char) {x l : List Char} (he : e = '\n' → l ≠ [])
    (h : (lineSpan (x ++ e :: y)).2 = l ++ e :: y) :
    lineSpan (x ++ w) = ((lineSpan (x ++ e :: y)).1, l ++ w) := by
  by_cases hx : '\n' ∈ x
  · obtain ⟨row, rest, rfl, hrow⟩ := exists_eq_append_newline hx
    simp only [List.append_assoc, List.cons_append] at h ⊢
    rw [lineSpan_append_newline hrow] at h ⊢
    rw [lineSpan_append_newline hrow]
    obtain rfl : '\n' :: rest = l := List.append_cancel_right h
    rfl
  · have hlength := length_lineSpan_of_not_mem (y := y) he hx
    rw [h] at hlength
    exact absurd hlength (Nat.lt_irrefl _)

theorem copyRows_place (w : List Char) {x l : List Char} {n m : Nat} (he : e = '\n' → l ≠ [])
    (hn : x.length < n) (hm : x.length < m)
    (h : (copyRows n ('\n' :: (x ++ e :: y))).2 = l ++ e :: y) :
    copyRows m ('\n' :: (x ++ w)) = ((copyRows n ('\n' :: (x ++ e :: y))).1, l ++ w) := by
  obtain ⟨n, rfl⟩ := Nat.exists_eq_add_one_of_ne_zero (Nat.ne_zero_of_lt hn)
  obtain ⟨m, rfl⟩ := Nat.exists_eq_add_one_of_ne_zero (Nat.ne_zero_of_lt hm)
  -- rows that end before the place are read, and the last one would go beyond it
  by_cases hx : '\n' ∈ x
  · obtain ⟨row, rest, rfl, hrow⟩ := exists_eq_append_newline hx
    simp only [List.append_assoc, List.cons_append] at h ⊢
    rw [copyRows_append_newline n hrow] at h ⊢
    rw [copyRows_append_newline m hrow]
    split at h
    · rename_i hend
      obtain rfl : '\n' :: rest = l := List.append_cancel_right h
      rw [if_pos hend, if_pos hend]
      rfl
    · rename_i hend
      simp only [List.length_append, List.length_cons] at hn hm
      rw [if_neg hend, if_neg hend,
        copyRows_place w (x := rest) (l := l) (n := n) (m := m) he (by omega) (by omega) h]
  · have hlength := length_lineSpan_of_not_mem (y := y) he hx
    rw [copyRows_succ] at h
    split at h
    · rw [h] at hlength
      exact absurd hlength (Nat.lt_irrefl _)
    · have hrows := length_copyRows n (lineSpan (x ++ e :: y)).2
      rw [h] at hrows
      exact absurd hlength (Nat.not_lt_of_le hrows)
termination_by x.length

theorem copySpan_place (w : List Char) (he : e = '\n' → l ≠ [])
    (h : (copySpan (x ++ e :: y)).2 = l ++ e :: y) :
    copySpan (x ++ w) = ((copySpan (x ++ e :: y)).1, l ++ w) := by
  by_cases hx : '\n' ∈ x
  · obtain ⟨row, rest, rfl, hrow⟩ := exists_eq_append_newline hx
    unfold copySpan at h ⊢
    simp only [List.append_assoc, List.cons_append] at h ⊢
    rw [lineSpan_append_newline hrow] at h ⊢
    rw [lineSpan_append_newline hrow]
    refine copyRows_place w he ?_ ?_ h <;>
      simp only [List.length_cons, List.length_append] <;> omega
  · have hlength := length_lineSpan_of_not_mem (y := y) he hx
    have hrows : (copySpan (x ++ e :: y)).2.length ≤ _ := length_copyRows _ _
    rw [h] at hrows
    exact absurd hlength (Nat.not_lt_of_le hrows)

/-! ## Tags that end before a place -/

/-- The letters of a tag end before a place that breaks them. -/
theorem exists_of_tagLetters?_place (hf : ¬ IsTagLetter f) (hdollar : f ≠ '$') {letters : List Char}
    (h : tagLetters? (x ++ f :: z) = some letters) : ∃ u, x = letters ++ '$' :: u := by
  obtain ⟨hall, rest, heq⟩ := tagLetters?_eq_some_iff.1 h
  rcases List.append_eq_append_iff.1 heq with ⟨u, hletters, hu⟩ | ⟨u, hx, hu⟩
  · -- the place lies in the letters, or at the dollar after them
    cases u with
    | nil => exact absurd (List.cons.inj hu).1 hdollar
    | cons a u =>
      obtain rfl : f = a := (List.cons.inj hu).1
      exact absurd (hall f (by simp [hletters])) hf
  · cases u with
    | nil => exact absurd (List.cons.inj hu).1.symm hdollar
    | cons a u =>
      obtain rfl : '$' = a := (List.cons.inj hu).1
      exact ⟨u, hx⟩

theorem dollarTag?_place (w : List Char) (hf : ¬ IsTagLetter f) (hdollar : f ≠ '$') {tag : List Char}
    (h : dollarTag? (x ++ f :: z) = some tag) : dollarTag? (x ++ w) = some tag := by
  obtain ⟨letters, rest, htag, rfl, heq⟩ := dollarTag?_eq_some_iff.1 h
  obtain ⟨u, rfl⟩ :=
    exists_of_tagLetters?_place hf hdollar (tagLetters?_eq_some_iff.2 ⟨htag.all, rest, heq⟩)
  exact dollarTag?_eq_some_iff.2 ⟨letters, u ++ w, htag, rfl, List.append_assoc _ _ _⟩

/-! ## Steps -/

/-- A character that does not go on with what stands before it: it doubles no quotation mark, is part
of no tag and opens no comment with a slash. -/
structure IsBreak (f : Char) : Prop where
  not_quote : ¬ Scan.IsQuote f
  not_letter : ¬ IsTagLetter f
  not_dollar : f ≠ '$'
  not_star : f ≠ '*'

namespace Scan

variable {d : SourceDialect} {s s' : Scan} {c : Char}

/-- The segment that begins here goes on to the end of a line, which is left: it is a comment, or the
rows of copied data follow it. -/
def LeavesLineEnd (d : SourceDialect) (s : Scan) (c : Char) (r : List Char) : Prop :=
  OpensLine d c r ∨ c = ';' ∧ isCopyFromStdin (Text.trim s.current.reverse) = true

/-- What is left before a place is an end of what was before it. -/
theorem suffix_of_append_place {u l : List Char} (h : x ++ e :: y = u ++ (l ++ e :: y)) : l <:+ x :=
  ⟨u, (List.append_cancel_right (h.trans (List.append_assoc u l _).symm)).symm⟩

/-- What begins before a place begins there whatever follows. -/
theorem opens_place (hd : d ≠ .mysql) (hf : IsBreak f) (hdash : f = '-' → ¬ ['-'] <:+ c :: x)
    (h : Opens d c (x ++ f :: z)) : Opens d c (x ++ e :: y) := by
  rcases h with h | (⟨hc, hr⟩ | ⟨-, h⟩) | ⟨hc, hr⟩
  · exact .inl h
  · cases x with
    | nil =>
      have hfd : f = '-' := Option.some_inj.1 hr
      exact absurd (hc ▸ List.suffix_rfl) (hdash hfd)
    | cons a x => exact .inr (.inl (.inl ⟨hc, hr⟩))
  · exact absurd h hd
  · cases x with
    | nil => exact absurd (Option.some_inj.1 hr) hf.not_star
    | cons a x => exact .inr (.inr ⟨hc, hr⟩)

/-- The end of a statement before a place is one whatever follows the place. -/
theorem delimited_place
    (he : e = '\n' → l = [] → isCopyFromStdin (Text.trim s.current.reverse) = false)
    (h : s.delimited d (x ++ e :: y) = (s', l ++ e :: y)) :
    s.delimited d (x ++ f :: z) = (s', l ++ f :: z) := by
  unfold delimited at h ⊢
  dsimp only at h ⊢
  split at h
  · rename_i hcopy
    obtain ⟨hs, hrest⟩ := Prod.mk.inj h
    have he' : e = '\n' → l ≠ [] := by
      intro hend hl
      rw [he hend hl, Bool.and_false] at hcopy
      cases hcopy
    rw [if_pos hcopy, copySpan_place _ he' hrest, hs]
  · rename_i hcopy
    obtain ⟨hs, hrest⟩ := Prod.mk.inj h
    rw [if_neg hcopy, hs, List.append_cancel_right hrest]

theorem comment_place (h : s.comment d (x ++ e :: y) = (s', l ++ e :: y)) :
    s.comment d (x ++ f :: z) = (s', l ++ f :: z) := by
  have hspan := commentSpan_place (f :: z) (congrArg Prod.snd h)
  have hs := congrArg Prod.fst h
  unfold comment at hs ⊢
  rw [hspan]
  exact Prod.ext hs rfl

/-- A quotation as a segment before a place. -/
theorem segment_place_quote (hquote : IsQuote c) (hf : IsBreak f)
    (h : s.segment d c (x ++ e :: y) = (s', l ++ e :: y)) :
    s.segment d c (x ++ f :: z) = (s', l ++ f :: z) := by
  rw [segment_quote hquote] at h ⊢
  obtain ⟨hs', hrest⟩ := Prod.mk.inj h
  have hne : f ≠ c := fun heq => hf.not_quote (heq ▸ hquote)
  rw [quotedSpan_place hne hrest, hs']

/-- A comment to the end of the line as a segment before a place. -/
theorem segment_place_line (he : e = '\n' → l ≠ []) (hr : (x ++ e :: y).head? = some '-')
    (h : s.segment d '-' (x ++ e :: y) = (s', l ++ e :: y)) :
    s.segment d '-' (x ++ f :: z) = (s', l ++ f :: z) := by
  rw [segment_line (.inl ⟨rfl, hr⟩)] at h
  obtain ⟨hs', hrest⟩ := Prod.mk.inj h
  cases x with
  | nil =>
    obtain rfl : e = '-' := Option.some_inj.1 hr
    have hlength := length_lineSpan_of_not_mem (y := y) he (List.not_mem_nil (a := '\n'))
    exact absurd (congrArg List.length hrest) (Nat.ne_of_lt hlength)
  | cons a x =>
    have hline : OpensLine d '-' (a :: x ++ f :: z) := .inl ⟨rfl, hr⟩
    have hspan := lineSpan_place (x := a :: x) (f :: z) he hrest
    rw [segment_line hline, hs']
    exact congrArg (Prod.mk s') (congrArg Prod.snd hspan)

/-- A comment as a segment before a place. -/
theorem segment_place_comment (hr : (x ++ e :: y).head? = some '*')
    (h : s.segment d '/' (x ++ e :: y) = (s', l ++ e :: y)) :
    s.segment d '/' (x ++ f :: z) = (s', l ++ f :: z) := by
  cases x with
  | nil =>
    obtain rfl : e = '*' := Option.some_inj.1 hr
    have hrest := congrArg Prod.snd h
    rw [List.nil_append, segment_comment] at hrest
    exact absurd hrest (ne_of_length_le (length_comment d s y))
  | cons a x =>
    obtain rfl : a = '*' := Option.some_inj.1 hr
    simp only [List.cons_append] at h ⊢
    rw [segment_comment] at h ⊢
    exact comment_place h

/-- A dollar quote as a segment before a place. -/
theorem segment_place_dollar (hd : d ≠ .mysql) (hafter : ∀ r, s.delimiter.after? '$' r = none)
    (hf : IsBreak f) (h : s.segment d '$' (x ++ e :: y) = (s', l ++ e :: y)) :
    s.segment d '$' (x ++ f :: z) = (s', l ++ f :: z) := by
  cases htag : dollarTag? (x ++ e :: y) with
  | none =>
    have htag' : dollarTag? (x ++ f :: z) = none := by
      rw [Option.eq_none_iff_forall_ne_some]
      intro tag htag'
      rw [dollarTag?_place (e :: y) hf.not_letter hf.not_dollar htag'] at htag
      cases htag
    rw [segment_dollar hd (hafter _) htag] at h
    obtain ⟨hs', hrest⟩ := Prod.mk.inj h
    rw [segment_dollar hd (hafter _) htag', hs', List.append_cancel_right hrest]
  | some tag =>
    obtain ⟨letters, rest, hletters, -, hr⟩ := dollarTag?_eq_some_iff.1 htag
    rw [hr, segment_tag hd (hafter _) hletters] at h
    obtain ⟨hs', hrest⟩ := Prod.mk.inj h
    -- what is left lies behind the tag, so the tag lies before the place
    have happend := throughPiece_append (tagOf letters) rest
    rw [hrest, ← List.append_assoc] at happend
    generalize (throughPiece (tagOf letters) rest).1 ++ l = u at happend
    subst happend
    rw [← List.cons_append, ← List.append_assoc] at hr
    obtain rfl : x = letters ++ '$' :: u := List.append_cancel_right hr
    have hp : tagOf letters ≠ [] := List.cons_ne_nil _ _
    simp only [List.append_assoc, List.cons_append]
    rw [segment_tag hd (hafter _) hletters, throughPiece_place (f :: z) hp hrest, hs']

/-- A segment that ends before a place. -/
theorem segment_place (hd : d ≠ .mysql) (hs : s.delimiter = ⟨';', []⟩)
    (he : e = '\n' → l = [] → ¬ s.LeavesLineEnd d c (x ++ e :: y))
    (hf : IsBreak f) (hdash : f = '-' → ¬ ['-'] <:+ c :: x)
    (h : s.segment d c (x ++ e :: y) = (s', l ++ e :: y)) :
    s.segment d c (x ++ f :: z) = (s', l ++ f :: z) := by
  by_cases hquote : IsQuote c
  · exact segment_place_quote hquote hf h
  by_cases hline : c = '-' ∧ (x ++ e :: y).head? = some '-'
  · obtain ⟨rfl, hr⟩ := hline
    exact segment_place_line (fun hend hl => he hend hl (.inl (.inl ⟨rfl, hr⟩))) hr h
  by_cases hcomment : c = '/' ∧ (x ++ e :: y).head? = some '*'
  · obtain ⟨rfl, hr⟩ := hcomment
    exact segment_place_comment hr h
  -- what follows a place may open nothing new, since a break comes first
  have hopens : ¬ Opens d c (x ++ e :: y) := by
    rintro (h | (h | ⟨-, h⟩) | h)
    · exact hquote h
    · exact hline h
    · exact hd h
    · exact hcomment h
  have hopens' : ¬ Opens d c (x ++ f :: z) := fun h => hopens (opens_place hd hf hdash h)
  by_cases hdelimiter : c = ';'
  · have hafter : ∀ r, s.delimiter.after? c r = some r := fun r => by
      rw [hs, hdelimiter]
      rfl
    rw [segment_delimiter hopens (hafter _)] at h
    rw [segment_delimiter hopens' (hafter _)]
    refine delimited_place (fun hend hl => ?_) h
    exact Bool.eq_false_iff.2 fun hcopy => he hend hl (.inr ⟨hdelimiter, hcopy⟩)
  have hafter : ∀ r, s.delimiter.after? c r = none := fun r => by
    rw [hs]
    exact if_neg fun hc => hdelimiter (beq_iff_eq.1 hc)
  by_cases hdollar : c = '$'
  · subst hdollar
    exact segment_place_dollar hd hafter hf h
  · rw [segment_plain hopens (hafter _) fun h => absurd h hdollar] at h
    obtain ⟨hs', hrest⟩ := Prod.mk.inj h
    rw [segment_plain hopens' (hafter _) fun h => absurd h hdollar, hs',
      List.append_cancel_right hrest]

/-- Where no delimiter is set, a step is a segment. -/
theorem step_eq_of_ne_mysql (hd : d ≠ .mysql) (s : Scan) (c : Char) (r : List Char) :
    s.step d c r = s.noted.segment d c r := by
  refine step_eq_segment (if_neg fun h => hd ?_)
  exact beq_iff_eq.1 (Bool.and_eq_true _ _ ▸ h).2

/-- A step that ends before a place. -/
theorem step_place (hd : d ≠ .mysql) (hs : s.delimiter = ⟨';', []⟩)
    (he : e = '\n' → l = [] → ¬ s.LeavesLineEnd d c (x ++ e :: y))
    (hf : IsBreak f) (hdash : f = '-' → ¬ ['-'] <:+ c :: x)
    (h : s.step d c (x ++ e :: y) = (s', l ++ e :: y)) :
    s.step d c (x ++ f :: z) = (s', l ++ f :: z) := by
  rw [step_eq_of_ne_mysql hd] at h ⊢
  refine segment_place hd ((delimiter_noted s).trans hs) ?_ hf hdash h
  intro hend hl hleaves
  unfold LeavesLineEnd at hleaves
  rw [current_noted] at hleaves
  exact he hend hl hleaves

/-- A step takes at least one character. -/
theorem Reads.eq_of_same_rest {rest : List Char} (h : Reads d s rest s' rest) : s' = s := by
  cases h with
  | refl => rfl
  | @step _ _ c r _ h =>
    have hsuffix := h.isSuffix.length_le
    have hlength := length_step d s c r
    simp only [List.length_cons] at hsuffix
    omega

/-- The last step was one that leaves the end of a line. -/
def LineEndLeft (d : SourceDialect) (s : Scan) (r : List Char) (s' : Scan) (rest : List Char) : Prop :=
  ∃ t c u, Reads d s r t (c :: u) ∧ t.step d c u = (s', rest) ∧ t.LeavesLineEnd d c u

/-- Steps that lead to a place lead to it whatever follows. -/
theorem Reads.place (hd : d ≠ .mysql) (hs : s.delimiter = ⟨';', []⟩) {before : List Char}
    (he : e = '\n' → ¬ LineEndLeft d s (before ++ e :: y) s' (e :: y))
    (hf : IsBreak f) (hdash : f = '-' → ¬ ['-'] <:+ before)
    (h : Reads d s (before ++ e :: y) s' (e :: y)) :
    Reads d s (before ++ f :: z) s' (f :: z) := by
  generalize hr : before ++ e :: y = r at h he
  generalize hrest : e :: y = rest at h he
  induction h generalizing before with
  | refl s r =>
    obtain rfl : before = [] := List.append_left_eq_self.1 (hr.trans hrest.symm)
    exact .refl s (f :: z)
  | @step s s' c r rest h ih =>
    subst hrest
    obtain ⟨l, hl⟩ := h.isSuffix
    cases before with
    | nil =>
      -- the step would have passed the place
      have hlength := length_step d s c r
      rw [← hl, ← (List.cons.inj hr).2] at hlength
      exact absurd rfl (ne_of_length_le hlength)
    | cons a before =>
      rw [List.cons_append] at hr ⊢
      obtain ⟨rfl, rfl⟩ := List.cons.inj hr
      have hstep : s.step d a (before ++ e :: y) = ((s.step d a (before ++ e :: y)).1, l ++ e :: y) :=
        Prod.ext rfl hl.symm
      have he' : e = '\n' → l = [] → ¬ s.LeavesLineEnd d a (before ++ e :: y) := by
        intro hend hnil hleaves
        rw [hnil, List.nil_append] at hl
        rw [← hl] at h
        refine he hend ⟨s, a, before ++ e :: y, .refl s _, Prod.ext ?_ hl.symm, hleaves⟩
        exact h.eq_of_same_rest.symm
      have hbefore : l <:+ a :: before := by
        obtain ⟨m, rest, hmakes⟩ := s.exists_move d a (before ++ e :: y)
        obtain ⟨part, hpart, -⟩ := hmakes.part
        rw [hmakes.step_eq] at hl
        rw [show rest = l ++ e :: y from hl.symm] at hpart
        exact (suffix_of_append_place hpart).trans (List.suffix_cons a before)
      have hdash' : f = '-' → ¬ ['-'] <:+ l := fun hfd hsuffix =>
        hdash hfd (hsuffix.trans hbefore)
      apply Reads.step
      rw [step_place hd hs he' hf hdash hstep]
      refine ih ((delimiter_step hd s a _).trans hs) hdash' hl rfl ?_
      rintro hend ⟨t, b, u, hreads, hlast⟩
      exact he hend ⟨t, b, u, .step hreads, hlast⟩

end Scan

end SchemaBridge.Dump
