/-
# Statements in pieces

A statement of MySQL is made of plain text, literals, comments and names, and some names have the length
of a covered beginning behind them.  These lengths are meant to be taken out, and nothing else.  But a
literal, a comment or a name that holds a backtick with a length behind it loses this length, too; a
statement without such pieces loses the lengths behind its names only.

## Key statements

* `IsReading`: the pieces of a statement.
* `left_textOf`: what is left of a statement, piece by piece.
* `columns_iff`: whether the columns are named that had a length.
* `existsUnique_isReading`: every text is made of pieces, and in one way.
* `dropLengths_pieces`: which statements lose their lengths and nothing else.
-/
import Mathlib.Algebra.Order.BigOperators.Group.List
import Mathlib.Algebra.Order.Group.Nat
import SchemaBridge.Proofs.Dump.MadeTables
import SchemaBridge.Proofs.Dump.PrefixLengths

namespace SchemaBridge.Dump

/-! ## Pieces -/

/-- What a statement is made of. -/
inductive Piece
  | plain (c : Char)
  | literal (q : Char) (body : List Char)
  | comment (text : List Char)
  | name (n : List Char)
  | shortened (n l : List Char)
  | unclosed (text : List Char)

namespace Piece

/-- A piece without the length of a covered beginning. -/
def kept : Piece → List Char
  | plain c => [c]
  | literal q body => quotation q body
  | comment text => text
  | name n => backticked n
  | shortened n _ => backticked n
  | unclosed text => text

/-- A piece as it is written. -/
def text : Piece → List Char
  | shortened n l => backticked n ++ l
  | p => p.kept

/-- The column of which the beginning is covered. -/
def column? : Piece → Option String
  | shortened n _ => some (String.ofList n)
  | _ => none

end Piece

/-- The text that pieces make. -/
def textOf (ps : List Piece) : List Char := ps.flatMap Piece.text

/-- A quotation or a comment begins with a character, and does not end in the text behind it. -/
structure IsUnclosed (c : Char) (t : List Char) : Prop where
  opens : Scan.Opens .mysql c t
  not_line : ¬ Scan.OpensLine .mysql c t
  literal : IsStringMark c → ∀ body r, IsQuotedBody c true body → t = body ++ c :: r → r.head? = some c
  name : c = '\x60' → ∀ n r, c :: t = backticked n ++ r → r.head? = some '\x60'
  comment : c = '/' → ¬ ['*', '/'] <:+: t.tail

/-- A piece of a statement of MySQL may stand before a text.  A quotation ends where its mark stands
alone, and a length is that of a covered beginning where it stands right behind a name. -/
inductive StandsBefore : Piece → List Char → Prop
  | plain {c : Char} {r : List Char} (hc : ¬ Scan.Opens .mysql c r) : StandsBefore (.plain c) r
  | literal {q : Char} {body r : List Char} (hq : IsStringMark q) (hbody : IsQuotedBody q true body)
      (hclosed : r.head? ≠ some q) : StandsBefore (.literal q body) r
  | lineComment {c : Char} {t r : List Char} (hopens : Scan.OpensLine .mysql c t) (hline : '\n' ∉ t)
      (hend : ∀ e, r.head? = some e → e = '\n') : StandsBefore (.comment (c :: t)) r
  | blockComment {body r : List Char} (hbody : ¬ ['*', '/'] <:+: body) :
      StandsBefore (.comment ('/' :: '*' :: (body ++ ['*', '/']))) r
  | name {n r : List Char} (hclosed : r.head? ≠ some '\x60') (hno : BeginsNoLength r) :
      StandsBefore (.name n) r
  | shortened {n l r : List Char} (hl : IsLength l) : StandsBefore (.shortened n l) r
  | unclosed {c : Char} {t : List Char} (h : IsUnclosed c t) : StandsBefore (.unclosed (c :: t)) []

/-- The pieces of a statement. -/
def IsReading : List Piece → Prop
  | [] => True
  | p :: ps => StandsBefore p (textOf ps) ∧ IsReading ps

section Pieces

variable {c q : Char} {body l n r r' s t : List Char} {p p' : Piece} {ps ps' : List Piece}

/-- A piece comes before the others. -/
theorem textOf_cons (p : Piece) (ps : List Piece) : textOf (p :: ps) = p.text ++ textOf ps :=
  List.flatMap_cons

/-- A piece stands apart from what follows it, unless it has the length of a covered beginning. -/
theorem StandsBefore.apart (h : StandsBefore p r) :
    p.text = p.kept ∧ p.column? = none ∧ Apart p.kept r ∨ ∃ n l, IsLength l ∧ p = .shortened n l := by
  cases h with
  | @plain c _ hc =>
    have hne : '\x60' ∉ [c] := fun hmem =>
      hc (Or.inl (Or.inr (Or.inr (List.mem_singleton.1 hmem).symm)))
    exact Or.inl ⟨rfl, rfl, apart_of_not_mem hne _⟩
  | @literal q body _ hq =>
    have hmark : ¬ IsLengthChar q ∧ q ≠ '\x60' := by rcases hq with rfl | rfl <;> decide
    exact Or.inl ⟨rfl, rfl, apart_concat hmark.1 (fun hq => absurd hq hmark.2) (q :: body)⟩
  | lineComment _ _ hend =>
    refine Or.inl ⟨rfl, rfl, apart_of_head (fun e he => ?_) _⟩
    rw [hend e he]
    decide
  | @blockComment body =>
    have happart : Apart (('/' :: '*' :: (body ++ ['*'])) ++ ['/']) r :=
      apart_concat (by decide) (fun hc => absurd hc (by decide)) _
    refine Or.inl ⟨rfl, rfl, ?_⟩
    simpa [Piece.kept] using happart
  | @name n _ _ hno =>
    exact Or.inl ⟨rfl, rfl, apart_concat (by decide) (fun _ => hno)
      ('\x60' :: Identifier.doubled '\x60' n)⟩
  | @shortened n l _ hl => exact Or.inr ⟨n, l, hl, rfl⟩
  | unclosed => exact Or.inl ⟨rfl, rfl, apart_of_head (fun e he => by cases he) _⟩

/-- The lengths behind names are lost, and those within the pieces. -/
theorem left_textOf (h : IsReading ps) : left (textOf ps) = ps.flatMap fun p => left p.kept := by
  induction ps with
  | nil => exact left_nil
  | cons p ps ih =>
    obtain ⟨htext, -, happart⟩ | ⟨n, l, hl, rfl⟩ := h.1.apart
    · rw [textOf_cons, htext, left_append happart, ih h.2, List.flatMap_cons]
    · rw [textOf_cons, Piece.text, List.append_assoc, left_shortened hl, ih h.2, List.flatMap_cons,
        Piece.kept]

/-- Lists in blocks are the same if the blocks are, when none is longer on one side. -/
theorem flatMap_eq_iff_of_length_le {α β : Type} {f g : α → List β} (h : ∀ a, (f a).length ≤ (g a).length)
    (as : List α) : as.flatMap f = as.flatMap g ↔ ∀ a ∈ as, f a = g a := by
  refine ⟨fun heq => ?_, List.flatMap_congr⟩
  induction as with
  | nil => exact fun a ha => absurd ha List.not_mem_nil
  | cons a as ih =>
    rw [List.flatMap_cons, List.flatMap_cons] at heq
    have hrest : (as.flatMap f).length ≤ (as.flatMap g).length := by
      rw [List.length_flatMap, List.length_flatMap]
      exact List.sum_le_sum fun a _ => h a
    have hlength : (f a).length = (g a).length := by
      have htotal := congrArg List.length heq
      rw [List.length_append, List.length_append] at htotal
      have := h a
      omega
    obtain ⟨hhead, htail⟩ := List.append_inj heq hlength
    rw [List.forall_mem_cons]
    exact ⟨hhead, ih htail⟩

/-- Nothing else is lost if no piece holds a length. -/
theorem left_textOf_eq_iff (h : IsReading ps) :
    left (textOf ps) = ps.flatMap Piece.kept ↔ ∀ p ∈ ps, ¬ HoldsLength p.kept := by
  rw [left_textOf h]
  exact (flatMap_eq_iff_of_length_le (fun p => length_left_le p.kept) ps).trans
    (forall₂_congr fun p _ => left_eq_self_iff)

/-! ## The columns named -/

/-- No more names are found than there are columns with lengths. -/
theorem length_namesFrom_le (h : IsReading ps) (hno : ∀ p ∈ ps, ¬ HoldsLength p.kept)
    (seen : List Char) : (namesFrom seen (textOf ps)).length ≤ (ps.filterMap Piece.column?).length := by
  induction ps generalizing seen with
  | nil => exact (congrArg List.length (namesFrom_nil seen)).le
  | cons p ps ih =>
    obtain ⟨hp, hrest⟩ := List.forall_mem_cons.1 hno
    obtain ⟨htext, hcolumn, happart⟩ | ⟨n, l, hl, rfl⟩ := h.1.apart
    · rw [textOf_cons, htext, namesFrom_append happart hp, List.filterMap_cons_none hcolumn]
      exact ih h.2 hrest _
    · have hcolumn : (Piece.shortened n l).column? = some (String.ofList n) := rfl
      rw [textOf_cons, Piece.text, List.append_assoc, namesFrom_shortened hl hp,
        List.filterMap_cons_some hcolumn, List.length_append, List.length_cons, Nat.add_comm]
      exact Nat.add_le_add (ih h.2 hrest []) Option.length_toList_le

/-- Where there is no room for more, the first element is the optional one. -/
theorem toList_append_eq_cons_iff {α : Type} {o : Option α} {a : α} {as bs : List α}
    (h : as.length ≤ bs.length) : o.toList ++ as = a :: bs ↔ o = some a ∧ as = bs := by
  cases o with
  | none =>
    refine iff_of_false (fun heq => ?_) (fun heq => nomatch heq.1)
    have hlength := congrArg List.length heq
    rw [Option.toList_none, List.nil_append, List.length_cons] at hlength
    omega
  | some b => rw [Option.toList_some, List.singleton_append, List.cons.injEq, Option.some.injEq]

/-- The columns are named if each name can be read back. -/
theorem columns_iff (h : IsReading ps) (hno : ∀ p ∈ ps, ¬ HoldsLength p.kept) (seen : List Char) :
    namesFrom seen (textOf ps) = ps.filterMap Piece.column?
      ↔ ∀ name ∈ ps.filterMap Piece.column?, IsReadBack name.toList := by
  induction ps generalizing seen with
  | nil => exact iff_of_true (namesFrom_nil seen) fun name hname => absurd hname List.not_mem_nil
  | cons p ps ih =>
    obtain ⟨hp, hrest⟩ := List.forall_mem_cons.1 hno
    obtain ⟨htext, hcolumn, happart⟩ | ⟨n, l, hl, rfl⟩ := h.1.apart
    · rw [textOf_cons, htext, namesFrom_append happart hp, List.filterMap_cons_none hcolumn]
      exact ih h.2 hrest _
    · have hcolumn : (Piece.shortened n l).column? = some (String.ofList n) := rfl
      rw [textOf_cons, Piece.text, List.append_assoc, namesFrom_shortened hl hp,
        List.filterMap_cons_some hcolumn, toList_append_eq_cons_iff (length_namesFrom_le h.2 hrest []),
        nameBefore?_eq_some_iff, ih h.2 hrest, List.forall_mem_cons, String.toList_ofList]

/-! ## Every text is made of pieces -/

/-- A text is made of pieces. -/
def IsReadable (s : List Char) : Prop := ∃ ps, IsReading ps ∧ textOf ps = s

/-- A piece in front of what is readable. -/
theorem StandsBefore.isReadable (h : StandsBefore p r) (hr : IsReadable r) :
    IsReadable (p.text ++ r) := by
  obtain ⟨ps, hps, rfl⟩ := hr
  exact ⟨p :: ps, ⟨h, hps⟩, textOf_cons p ps⟩

/-- What is not closed is one piece. -/
theorem IsUnclosed.isReadable (h : IsUnclosed c t) : IsReadable (c :: t) :=
  ⟨[.unclosed (c :: t)], ⟨.unclosed h, trivial⟩, List.append_nil (c :: t)⟩

/-- Only a dash or a number sign opens a comment to the end of the line. -/
theorem not_opensLine (h : c ∉ ['-', '#']) (t : List Char) : ¬ Scan.OpensLine .mysql c t := by
  rintro (⟨rfl, -⟩ | ⟨rfl, -⟩) <;> simp at h

/-- A literal, and what follows it. -/
theorem isReadable_literal (hq : IsStringMark q)
    (ih : ∀ r : List Char, r.length < (q :: t).length → IsReadable r) : IsReadable (q :: t) := by
  have hquote : Scan.IsQuote q := hq.imp_right Or.inl
  have hother : q ∉ ['-', '#'] ∧ q ≠ '\x60' ∧ q ≠ '/' := by rcases hq with rfl | rfl <;> decide
  by_cases hclosed : ∀ body r, IsQuotedBody q true body → t = body ++ q :: r → r.head? = some q
  · exact IsUnclosed.isReadable ⟨Or.inl hquote, not_opensLine hother.1 t, fun _ => hclosed,
      fun hq => absurd hq hother.2.1, fun hq => absurd hq hother.2.2⟩
  push Not at hclosed
  obtain ⟨body, rest, hbody, rfl, hend⟩ := hclosed
  have htext : q :: (body ++ q :: rest) = (Piece.literal q body).text ++ rest := by
    simp [Piece.text, Piece.kept, quotation]
  rw [htext]
  exact (StandsBefore.literal hq hbody hend).isReadable (ih rest (by simp; omega))

/-- A quoted name, and what follows it. -/
theorem isReadable_name (ih : ∀ r : List Char, r.length < ('\x60' :: t).length → IsReadable r) :
    IsReadable ('\x60' :: t) := by
  by_cases hclosed : ∀ n r, '\x60' :: t = backticked n ++ r → r.head? = some '\x60'
  · exact IsUnclosed.isReadable ⟨Or.inl (by decide), not_opensLine (by decide) t,
      fun hq => absurd hq (by decide), fun _ => hclosed, fun hq => absurd hq (by decide)⟩
  push Not at hclosed
  obtain ⟨n, rest, htext, hend⟩ := hclosed
  rw [htext] at ih ⊢
  have hshorter : rest.length < (backticked n ++ rest).length := by
    simp [backticked, quotation]
    omega
  by_cases hno : BeginsNoLength rest
  · exact (StandsBefore.name hend hno).isReadable (ih rest hshorter)
  · obtain ⟨l, r, hl, rfl⟩ := exists_length_of_not hno
    rw [← List.append_assoc]
    refine (StandsBefore.shortened (n := n) hl).isReadable (ih r ?_)
    rw [List.length_append] at hshorter
    omega

/-- A comment to the end of the line, and what follows it. -/
theorem isReadable_lineComment (hopens : Scan.OpensLine .mysql c t)
    (ih : ∀ r : List Char, r.length < (c :: t).length → IsReadable r) : IsReadable (c :: t) := by
  have htext : c :: t = (Piece.comment (c :: t.takeWhile isNotLineEnd)).text ++ t.dropWhile isNotLineEnd :=
    congrArg (c :: ·) List.takeWhile_append_dropWhile.symm
  have hshorter := (List.dropWhile_sublist (p := isNotLineEnd) (l := t)).length_le
  rw [htext]
  refine StandsBefore.isReadable ?_ (ih _ (by simpa using Nat.lt_succ_of_le hshorter))
  refine .lineComment ?_ (not_mem_takeWhile_isNotLineEnd t) fun e he => ?_
  · -- a second dash is no line end
    rcases hopens with ⟨rfl, hdash⟩ | hhash
    · obtain ⟨r, rfl⟩ := List.head?_eq_some_iff.1 hdash
      exact Or.inl ⟨rfl, rfl⟩
    · exact Or.inr hhash
  · have hstop := List.head?_dropWhile_not isNotLineEnd t
    rw [he] at hstop
    simpa [isNotLineEnd] using hstop

/-- Where comments are closed, one mark is the first. -/
theorem exists_first_close (h : ['*', '/'] <:+: t) :
    ∃ body rest, t = body ++ '*' :: '/' :: rest ∧ ¬ ['*', '/'] <:+: body := by
  induction t with
  | nil => exact absurd (List.eq_nil_of_infix_nil h) (List.cons_ne_nil _ _)
  | cons c t ih =>
    by_cases hprefix : ['*', '/'] <+: c :: t
    · obtain ⟨rest, hrest⟩ := hprefix
      exact ⟨[], rest, hrest.symm, fun hin => absurd (List.eq_nil_of_infix_nil hin) (List.cons_ne_nil _ _)⟩
    · obtain ⟨body, rest, rfl, hbody⟩ := ih ((List.infix_cons_iff.1 h).resolve_left hprefix)
      refine ⟨c :: body, rest, rfl, fun hin => ?_⟩
      rcases List.infix_cons_iff.1 hin with hin | hin
      · exact hprefix (hin.trans (List.prefix_append (c :: body) _))
      · exact hbody hin

/-- A comment, and what follows it. -/
theorem isReadable_blockComment
    (ih : ∀ r : List Char, r.length < ('/' :: '*' :: t).length → IsReadable r) :
    IsReadable ('/' :: '*' :: t) := by
  by_cases hclosed : ['*', '/'] <:+: t
  · obtain ⟨body, rest, rfl, hbody⟩ := exists_first_close hclosed
    have htext : '/' :: '*' :: (body ++ '*' :: '/' :: rest)
        = (Piece.comment ('/' :: '*' :: (body ++ ['*', '/']))).text ++ rest := by
      simp [Piece.text, Piece.kept]
    rw [htext]
    exact (StandsBefore.blockComment hbody).isReadable (ih rest (by simp; omega))
  · exact IsUnclosed.isReadable ⟨Or.inr (Or.inr ⟨rfl, rfl⟩), not_opensLine (by decide) _,
      fun hq => absurd hq (by decide), fun hq => absurd hq (by decide), fun _ => hclosed⟩

/-- Every text is made of pieces. -/
theorem exists_isReading (s : List Char) : ∃ ps, IsReading ps ∧ textOf ps = s := by
  show IsReadable s
  induction hn : s.length using Nat.strong_induction_on generalizing s with
  | _ n ih =>
    have hshorter : ∀ r : List Char, r.length < s.length → IsReadable r := fun r hr =>
      ih r.length (hn ▸ hr) r rfl
    cases s with
    | nil => exact ⟨[], trivial, rfl⟩
    | cons c r =>
      by_cases hopens : Scan.Opens .mysql c r
      · rcases hopens with (hq | hq | rfl) | hline | ⟨rfl, hstar⟩
        · exact isReadable_literal (Or.inl hq) hshorter
        · exact isReadable_literal (Or.inr hq) hshorter
        · exact isReadable_name hshorter
        · exact isReadable_lineComment hline hshorter
        · obtain ⟨r, rfl⟩ := List.head?_eq_some_iff.1 hstar
          exact isReadable_blockComment hshorter
      · exact (StandsBefore.plain hopens).isReadable (hshorter r (Nat.lt_succ_self _))

/-! ## A text begins with one piece only -/

instance (c : Char) (t : List Char) : Decidable (Scan.OpensLine .mysql c t) :=
  inferInstanceAs (Decidable (c = '-' ∧ t.head? = some '-' ∨ c = '#' ∧ SourceDialect.mysql = .mysql))

/-- The piece that a text begins with, unless this does not end. -/
def closedPiece : List Char → Piece
  | [] => .unclosed []
  | c :: t =>
    if IsStringMark c then .literal c (quotedSpan c true t).1.dropLast
    else if c = '\x60' then
      match Sql.quotedNameSpan? '\x60' [] t with
      | none => .unclosed (c :: t)
      | some (n, r) =>
        match afterLength? r with
        | none => .name n.toList
        | some r' => .shortened n.toList (r.take (r.length - r'.length))
    else if Scan.OpensLine .mysql c t then .comment (c :: t.takeWhile isNotLineEnd)
    else if c = '/' ∧ t.head? = some '*' then .comment (c :: '*' :: (commentSpan t.tail).1)
    else .plain c

/-- A comment is opened whatever follows. -/
theorem opensLine_append (h : Scan.OpensLine .mysql c t) (r : List Char) :
    Scan.OpensLine .mysql c (t ++ r) :=
  h.imp_left fun h => ⟨h.1, by rw [List.head?_append, h.2]; rfl⟩

/-- The rest of a line. -/
theorem takeWhile_isNotLineEnd (hline : '\n' ∉ t) (hend : ∀ e, r.head? = some e → e = '\n') :
    (t ++ r).takeWhile isNotLineEnd = t := by
  have hall : ∀ c ∈ t, isNotLineEnd c = true := fun c hc =>
    bne_iff_ne.2 fun heq => hline (heq ▸ hc)
  rw [List.takeWhile_append_of_pos hall]
  cases r with
  | nil => exact List.append_nil t
  | cons e r =>
    obtain rfl := hend e rfl
    rw [List.takeWhile_cons_of_neg (by decide), List.append_nil]

/-- A quoted name is read up to its mark. -/
theorem quotedNameSpan?_backtick (n : List Char) (hclosed : r.head? ≠ some '\x60') :
    Sql.quotedNameSpan? '\x60' [] (Identifier.doubled '\x60' n ++ '\x60' :: r)
      = some (String.ofList n, r) := Sql.quotedNameSpan?_doubled '\x60' n hclosed []

/-- A piece that ends is found again at the beginning of the text. -/
theorem StandsBefore.eq_closedPiece (h : StandsBefore p r) (hp : ∀ t, p ≠ .unclosed t) :
    p = closedPiece (p.text ++ r) := by
  -- a piece is known by its first character, except that a name may go on with a length
  cases h with
  | @plain c _ hc =>
    have hmark : ¬ IsStringMark c := fun hq => hc (Or.inl (hq.imp_right Or.inl))
    have htick : c ≠ '\x60' := fun hq => hc (Or.inl (Or.inr (Or.inr hq)))
    show _ = closedPiece (c :: r)
    rw [closedPiece, if_neg hmark, if_neg htick, if_neg fun h => hc (Or.inr (Or.inl h)),
      if_neg fun h => hc (Or.inr (Or.inr h))]
  | @literal q body _ hq hbody hclosed =>
    have hescape : q ≠ '\\' := by rcases hq with rfl | rfl <;> decide
    show _ = closedPiece (q :: (body ++ [q] ++ r))
    rw [closedPiece, if_pos hq, List.append_assoc, List.singleton_append,
      Scan.quotedSpan_closed hescape hbody hclosed, List.dropLast_concat]
  | @lineComment c t _ hopens hline hend =>
    have hother : ¬ IsStringMark c ∧ c ≠ '\x60' := by
      rcases hopens with ⟨rfl, -⟩ | ⟨rfl, -⟩ <;> decide
    show _ = closedPiece (c :: (t ++ r))
    rw [closedPiece, if_neg hother.1, if_neg hother.2, if_pos (opensLine_append hopens r),
      takeWhile_isNotLineEnd hline hend]
  | @blockComment body _ hbody =>
    show _ = closedPiece ('/' :: '*' :: (body ++ ['*', '/'] ++ r))
    rw [closedPiece, if_neg (by decide), if_neg (by decide), if_neg (not_opensLine (by decide) _),
      if_pos ⟨rfl, rfl⟩, List.append_assoc]
    exact congrArg (fun b => Piece.comment ('/' :: '*' :: b))
      (congrArg Prod.fst (commentSpan_of_closed hbody r)).symm
  | @name n _ hclosed hno =>
    show _ = closedPiece (backticked n ++ r)
    rw [backticked_append, List.cons_append, closedPiece, if_neg (by decide), if_pos rfl,
      quotedNameSpan?_backtick n hclosed]
    dsimp only
    rw [afterLength?_eq_none_iff.2 hno, String.toList_ofList]
  | @shortened n l _ hl =>
    have hclosed : (l ++ r).head? ≠ some '\x60' := by
      obtain ⟨ds, -, -, rfl⟩ := hl
      exact fun h => absurd (Option.some.inj h) (by decide)
    show _ = closedPiece (backticked n ++ l ++ r)
    rw [List.append_assoc, backticked_append, List.cons_append, closedPiece, if_neg (by decide),
      if_pos rfl, quotedNameSpan?_backtick n hclosed]
    dsimp only
    rw [afterLength?_eq_some_iff.2 ⟨l, hl, rfl⟩, String.toList_ofList]
    dsimp only
    rw [List.length_append, Nat.add_sub_cancel_right, List.take_left]
  | unclosed h => exact absurd rfl (hp _)

/-- What ends is not left open. -/
theorem StandsBefore.not_isUnclosed (h : StandsBefore p r) (hp : ∀ t, p ≠ .unclosed t)
    (htext : p.text ++ r = c :: t) : ¬ IsUnclosed c t := by
  intro hu
  -- what is open has no end in the text, and each of these has one
  cases h with
  | plain hc =>
    obtain ⟨rfl, rfl⟩ := List.cons.inj htext
    exact hc hu.opens
  | @literal q body _ hq hbody hclosed =>
    obtain ⟨rfl, rfl⟩ := List.cons.inj htext
    exact hclosed (hu.literal hq body r hbody (by simp))
  | lineComment hopens =>
    obtain ⟨rfl, rfl⟩ := List.cons.inj htext
    exact hu.not_line (opensLine_append hopens r)
  | @blockComment body _ hbody =>
    obtain ⟨rfl, rfl⟩ := List.cons.inj htext
    exact hu.comment rfl ⟨body, r, rfl⟩
  | @name n _ hclosed =>
    obtain ⟨rfl, -⟩ := List.cons.inj htext
    exact hclosed (hu.name rfl n r htext.symm)
  | @shortened n l _ hl =>
    obtain ⟨rfl, -⟩ := List.cons.inj htext
    have hhead := hu.name rfl n (l ++ r) (by rw [← htext, Piece.text, List.append_assoc])
    obtain ⟨ds, -, -, rfl⟩ := hl
    exact absurd (Option.some.inj hhead) (by decide)
  | unclosed h => exact hp _ rfl

/-- What is not closed is read in one way. -/
theorem StandsBefore.eq_of_unclosed (h : StandsBefore (.unclosed t) r) (h' : StandsBefore p' r')
    (heq : t ++ r = p'.text ++ r') : p' = .unclosed t := by
  cases h with
  | @unclosed c t h =>
    by_contra hp
    have hp' : ∀ u, p' ≠ .unclosed u := by
      rintro u rfl
      cases h' with
      | unclosed h' =>
        rw [List.append_nil] at heq
        exact hp (congrArg Piece.unclosed ((List.append_nil _).symm.trans heq.symm))
    rw [List.append_nil] at heq
    exact h'.not_isUnclosed hp' heq.symm h

/-- The first piece of a text is determined. -/
theorem StandsBefore.unique (h : StandsBefore p r) (h' : StandsBefore p' r')
    (heq : p.text ++ r = p'.text ++ r') : p = p' := by
  by_cases hp : ∃ t, p = .unclosed t
  · obtain ⟨t, rfl⟩ := hp
    exact (h.eq_of_unclosed h' heq).symm
  by_cases hp' : ∃ t, p' = .unclosed t
  · obtain ⟨t, rfl⟩ := hp'
    exact h'.eq_of_unclosed h heq.symm
  push Not at hp hp'
  rw [h.eq_closedPiece hp, heq, ← h'.eq_closedPiece hp']

/-- No piece is empty. -/
theorem StandsBefore.text_ne_nil (h : StandsBefore p r) : p.text ≠ [] := by
  cases h <;> simp [Piece.text, Piece.kept, quotation, backticked]

/-- A text is made of pieces in one way. -/
theorem IsReading.unique (h : IsReading ps) (h' : IsReading ps') (heq : textOf ps = textOf ps') :
    ps = ps' := by
  induction ps generalizing ps' with
  | nil =>
    cases ps' with
    | nil => rfl
    | cons p' ps' =>
      rw [textOf_cons] at heq
      exact absurd (List.append_eq_nil_iff.1 heq.symm).1 h'.1.text_ne_nil
  | cons p ps ih =>
    cases ps' with
    | nil =>
      rw [textOf_cons] at heq
      exact absurd (List.append_eq_nil_iff.1 heq).1 h.1.text_ne_nil
    | cons p' ps' =>
      rw [textOf_cons, textOf_cons] at heq
      obtain rfl := h.1.unique h'.1 heq
      rw [ih h.2 h'.2 (List.append_cancel_left heq)]

/-- Every text is read in one way. -/
theorem existsUnique_isReading (s : List Char) : ∃! ps, IsReading ps ∧ textOf ps = s := by
  obtain ⟨ps, hps, htext⟩ := exists_isReading s
  exact ⟨ps, ⟨hps, htext⟩, fun _ h => h.1.unique hps (h.2.trans htext.symm)⟩

/-! ## What a statement loses -/

/-- A statement loses the lengths behind its names, which are named in order, and nothing else, exactly
if no backtick in a literal, a comment or a name of it has a length behind it, and every name that has
a length can be read back. -/
theorem dropLengths_pieces (s : String) : (∃! ps, IsReading ps ∧ textOf ps = s.toList)
    ∧ ∀ ps, IsReading ps → textOf ps = s.toList →
      (dropLengths s).1 = String.ofList (ps.flatMap fun p => left p.kept)
      ∧ (∀ p ∈ ps, left p.kept = p.kept ↔ ¬ HoldsLength p.kept)
      ∧ (dropLengths s = (String.ofList (ps.flatMap Piece.kept), ps.filterMap Piece.column?)
        ↔ (∀ p ∈ ps, ¬ HoldsLength p.kept)
          ∧ ∀ name ∈ ps.filterMap Piece.column?, IsReadBack name.toList) := by
  refine ⟨existsUnique_isReading s.toList, fun ps hps htext => ?_⟩
  rw [dropLengths_eq, ← htext]
  refine ⟨by rw [left_textOf hps], fun p _ => left_eq_self_iff, ?_⟩
  rw [Prod.mk.injEq, String.ofList_inj, left_textOf_eq_iff hps]
  exact and_congr_right fun hno => columns_iff hps hno []

/-- Text that opens nothing. -/
theorem IsReading.plains (h : IsReading ps)
    (ht : t.all (fun c => decide (IsPlain .mysql c) && c != '-' && c != '/') = true) :
    IsReading (t.map Piece.plain ++ ps) := by
  induction t with
  | nil => exact h
  | cons c t ih =>
    rw [List.all_cons, Bool.and_eq_true, Bool.and_eq_true, Bool.and_eq_true, decide_eq_true_iff,
      bne_iff_ne, bne_iff_ne] at ht
    obtain ⟨⟨⟨hplain, hdash⟩, hslash⟩, ht⟩ := ht
    refine ⟨.plain ?_, ih ht⟩
    rintro (hquote | (⟨hc, -⟩ | ⟨hc, -⟩) | ⟨hc, -⟩)
    · exact hplain.not_quote hquote
    · exact hdash hc
    · exact hplain.not_hash rfl hc
    · exact hslash hc

end Pieces

/-- A number between parentheses is a length. -/
theorem isLength_ten : IsLength "(10)".toList :=
  ⟨['1', '0'], by decide, List.all_eq_true.1 (by decide), by decide⟩

/-- A statement with an index on the beginning of a column, and a literal that holds a length. -/
def coveredStatement : List Piece :=
  "CREATE TABLE t (".toList.map .plain ++ .name ['a'] :: (" varchar(40) DEFAULT ".toList.map .plain
    ++ .literal '\'' "(9)".toList :: (", KEY k (".toList.map .plain
    ++ .shortened ['a'] "(10)".toList :: ("))".toList.map .plain ++ [])))

theorem dropLengths_pieces_coveredStatement :
    IsReading coveredStatement
    ∧ String.ofList (textOf coveredStatement)
      = "CREATE TABLE t (`a` varchar(40) DEFAULT '(9)', KEY k (`a`(10)))"
    ∧ dropLengths "CREATE TABLE t (`a` varchar(40) DEFAULT '(9)', KEY k (`a`(10)))"
      = ("CREATE TABLE t (`a` varchar(40) DEFAULT '(9)', KEY k (`a`))", ["a"]) := by
  have hreading : IsReading coveredStatement := by
    refine .plains ⟨.name (by decide) (afterLength?_eq_none_iff.1 (by decide)), ?_⟩ (by decide)
    refine .plains ⟨.literal (by decide) (.of_all (by decide)) (by decide), ?_⟩ (by decide)
    exact .plains ⟨.shortened isLength_ten, .plains trivial (by decide)⟩ (by decide)
  have htext : textOf coveredStatement
      = "CREATE TABLE t (`a` varchar(40) DEFAULT '(9)', KEY k (`a`(10)))".toList := by decide +kernel
  have hdrops := ((dropLengths_pieces _).2 _ hreading htext).2.2.2 (by decide +kernel)
  exact ⟨hreading, by rw [htext, String.ofList_toList], hdrops.trans (by decide +kernel)⟩

/-- A statement with a literal that looks like an index on the beginning of a column. -/
def quotingStatement : List Piece :=
  "CREATE TABLE t (a varchar(40) DEFAULT ".toList.map .plain
    ++ .literal '\'' "see `x`(10)".toList :: (")".toList.map .plain ++ [])

/-- A literal loses a length, and it is not read as it was declared; and a name that holds a backtick is
not read back. -/
theorem literal_loses_length :
    (IsReading quotingStatement
      ∧ String.ofList (textOf quotingStatement)
        = "CREATE TABLE t (a varchar(40) DEFAULT 'see `x`(10)')"
      ∧ String.ofList (quotingStatement.flatMap Piece.kept)
        = "CREATE TABLE t (a varchar(40) DEFAULT 'see `x`(10)')"
      ∧ quotingStatement.filterMap Piece.column? = []
      ∧ dropLengths "CREATE TABLE t (a varchar(40) DEFAULT 'see `x`(10)')"
        = ("CREATE TABLE t (a varchar(40) DEFAULT 'see `x`')", ["x"])
      ∧ (Reader.columnsOf .mysql "CREATE TABLE t (a varchar(40) DEFAULT 'see `x`(10)');").map
        (List.map fun c => c.default.map (·.source)) = some [some "'see `x`'"])
    ∧ IsReading [.shortened ['a', '\x60', 'b'] "(10)".toList]
      ∧ dropLengths (String.ofList (textOf [.shortened ['a', '\x60', 'b'] "(10)".toList]))
        = ("`a``b`", ["b"]) := by
  have hbody : IsQuotedBody '\'' true "see `x`(10)".toList := .of_all (by decide)
  have hreading : IsReading quotingStatement :=
    .plains ⟨.literal (by decide) hbody (by decide), .plains trivial (by decide)⟩ (by decide)
  refine ⟨⟨hreading, ?_⟩, ⟨.shortened isLength_ten, trivial⟩, ?_⟩ <;> decide +kernel

end SchemaBridge.Dump
