/-
# Statements that are joined and split again

A dump that is written as one statement after another, each with a semicolon and a line end after it, is
cut into these statements again.  Quoted text and dollar quotes in them may hold anything, semicolons
and comments included.

Two quotations with the same mark may stand side by side, as in `'a''b'`.  The scan takes them for one
with a doubled mark in it; what is left of the statement is made of the same parts all the same.

## Key statements

* `quotedSpan_of_isMadeOfParts`: quoted text, and the quotations that follow it at once.
* `Scan.reads_parts`: a statement is read to its end.
* `statementTexts_join`: joined statements are found again.
-/
import SchemaBridge.Proofs.Dump.Scanning

namespace SchemaBridge.Dump

variable {d : SourceDialect}

/-! ## Texts of statements -/

/-- Text between quotation marks.  The mark occurs doubled only; where there are escapes, a backslash
takes the next character with it. -/
inductive IsQuotedBody (q : Char) (escapes : Bool) : List Char → Prop
  | nil : IsQuotedBody q escapes []
  | doubled {t : List Char} (h : IsQuotedBody q escapes t) : IsQuotedBody q escapes (q :: q :: t)
  | escaped {t : List Char} (c : Char) (he : escapes = true) (h : IsQuotedBody q escapes t) :
      IsQuotedBody q escapes ('\\' :: c :: t)
  | other {c : Char} {t : List Char} (hc : c ≠ q) (hb : escapes = true → c ≠ '\\')
      (h : IsQuotedBody q escapes t) : IsQuotedBody q escapes (c :: t)

/-- A character that begins nothing by itself. -/
structure IsPlain (d : SourceDialect) (c : Char) : Prop where
  not_quote : ¬ Scan.IsQuote c
  not_semicolon : c ≠ ';'
  not_hash : d = .mysql → c ≠ '#'
  not_dollar : d ≠ .mysql → c ≠ '$'

/-- What is plain begins no quotation and no comment, and ends no statement. -/
theorem isPlain_iff {c : Char} : IsPlain d c ↔ ¬ Scan.IsQuote c ∧ c ≠ ';' ∧ (d = .mysql → c ≠ '#')
    ∧ (d ≠ .mysql → c ≠ '$') :=
  ⟨fun h => ⟨h.not_quote, h.not_semicolon, h.not_hash, h.not_dollar⟩,
    fun ⟨hq, hs, hh, hd⟩ => ⟨hq, hs, hh, hd⟩⟩

instance : DecidablePred (IsPlain d) := fun _ => decidable_of_iff _ isPlain_iff.symm

/-- Whether a quotation knows escapes. -/
def hasEscapes (d : SourceDialect) (q : Char) : Bool := d == .mysql && q == '\''

/-- Text made of plain characters that open no comment, of quoted text, and of dollar quotes that end
with the first tag after the opening one. -/
inductive IsMadeOfParts (d : SourceDialect) : List Char → Prop
  | nil : IsMadeOfParts d []
  | plain {c : Char} {t : List Char} (hc : IsPlain d c) (hdash : c = '-' → t.head? ≠ some '-')
      (hslash : c = '/' → t.head? ≠ some '*') (h : IsMadeOfParts d t) : IsMadeOfParts d (c :: t)
  | quoted {q : Char} {body t : List Char} (hq : Scan.IsQuote q)
      (hbody : IsQuotedBody q (hasEscapes d q) body) (h : IsMadeOfParts d t) :
      IsMadeOfParts d (q :: (body ++ q :: t))
  | dollar {letters body t : List Char} (hd : d ≠ .mysql) (hl : IsTag letters)
      (hbody : ∀ a b, body ++ tagOf letters = a ++ (tagOf letters ++ b) → b = [])
      (h : IsMadeOfParts d t) : IsMadeOfParts d (tagOf letters ++ (body ++ (tagOf letters ++ t)))

/-- The text of a statement, with no white space around it. -/
structure IsStatementText (d : SourceDialect) (text : String) : Prop where
  nonempty : text ≠ ""
  trimmed : Text.trim text.toList = text.toList
  parts : IsMadeOfParts d text.toList

/-- A statement's text that can be joined with others. -/
structure IsJoinable (d : SourceDialect) (text : String) : Prop extends IsStatementText d text where
  /-- No copied rows are expected after it. -/
  copy : d ≠ .mysql → isCopyFromStdin text.toList = false
  /-- It is no line that changes the delimiter. -/
  delimiter : d = .mysql → afterDelimiterWord? text.toList = none

/-- Text without marks and backslashes may be quoted. -/
theorem IsQuotedBody.of_all {q : Char} {b : Bool} {t : List Char}
    (h : t.all (fun c => c != q && c != '\\') = true) : IsQuotedBody q b t := by
  induction t with
  | nil => exact .nil
  | cons c t ih =>
    rw [List.all_cons, Bool.and_eq_true, Bool.and_eq_true, bne_iff_ne, bne_iff_ne] at h
    obtain ⟨⟨hc, hb⟩, ht⟩ := h
    exact .other hc (fun _ => hb) (ih ht)

/-- Plain text in front of parts. -/
theorem IsMadeOfParts.plain_append {a t : List Char}
    (ha : a.all (fun c => decide (IsPlain d c) && c != '-' && c != '/') = true)
    (h : IsMadeOfParts d t) : IsMadeOfParts d (a ++ t) := by
  induction a with
  | nil => exact h
  | cons c a ih =>
    simp only [List.all_cons, Bool.and_eq_true, bne_iff_ne, decide_eq_true_eq] at ha
    obtain ⟨⟨⟨hc, hdash⟩, hslash⟩, ha⟩ := ha
    refine .plain hc (fun hcd => absurd hcd hdash) (fun hcs => absurd hcs hslash) (ih ?_)
    simpa only [Bool.and_eq_true, bne_iff_ne, decide_eq_true_eq] using ha

/-! ## Where the parts end -/

/-- What may be quoted is passed over. -/
theorem quotedSpan_of_isQuotedBody {q : Char} {b : Bool} {body : List Char}
    (h : IsQuotedBody q b body) (c : Char) (r : List Char) :
    quotedSpan q b (body ++ c :: r)
      = (body ++ (quotedSpan q b (c :: r)).1, (quotedSpan q b (c :: r)).2) := by
  induction h with
  | nil => rfl
  | @doubled t _ ih =>
    have hpair : ((b && q == '\\') || (q == q && q == q)) = true := by simp
    simp only [List.cons_append]
    rw [quotedSpan_cons_cons, if_pos hpair, ih]
  | @escaped t c' he _ ih =>
    have hpair : ((b && '\\' == '\\') || ('\\' == q && c' == q)) = true := by simp [he]
    simp only [List.cons_append]
    rw [quotedSpan_cons_cons, if_pos hpair, ih]
  | @other c' t hc hb _ ih =>
    have hclose : (c' == q) = false := beq_eq_false_iff_ne.2 hc
    have hescape : (b && c' == '\\') = false := by
      cases b with
      | false => rfl
      | true => exact beq_eq_false_iff_ne.2 (hb rfl)
    -- the scan looks at two characters; there is always a second one, behind the text at the latest
    cases hu : t ++ c :: r with
    | nil => simp at hu
    | cons c'' u =>
      rw [List.cons_append, hu, quotedSpan_cons_cons, hescape, hclose, Bool.false_and, Bool.or_self,
        if_neg Bool.false_ne_true, if_neg Bool.false_ne_true, ← hu, ih]
      rfl

/-- The mark that is not doubled closes. -/
theorem quotedSpan_close {q : Char} {b : Bool} {body : List Char} (h : IsQuotedBody q b body)
    (hq : q ≠ '\\') {c : Char} (hc : c ≠ q) (r : List Char) :
    quotedSpan q b (body ++ q :: c :: r) = (body ++ [q], c :: r) := by
  have hpair : ((b && q == '\\') || (q == q && c == q)) = false := by
    simp [hq, hc]
  have hclose : (q == q) = true := beq_iff_eq.2 rfl
  rw [quotedSpan_of_isQuotedBody h, quotedSpan_cons_cons, hpair, if_neg Bool.false_ne_true,
    if_pos hclose]

/-- The mark that is doubled goes on. -/
theorem quotedSpan_again {q : Char} {b : Bool} {body : List Char} (h : IsQuotedBody q b body)
    (r : List Char) : quotedSpan q b (body ++ q :: q :: r)
      = (body ++ q :: q :: (quotedSpan q b r).1, (quotedSpan q b r).2) := by
  have hpair : ((b && q == '\\') || (q == q && q == q)) = true := by simp
  rw [quotedSpan_of_isQuotedBody h, quotedSpan_cons_cons, if_pos hpair]

/-- A quotation is taken together with those that follow it at once, whatever text they are in. -/
theorem exists_quotedSpan {q f : Char} {b : Bool} {P : List Char → Prop} (hq : q ≠ '\\') (hf : f ≠ q)
    (hP : ∀ t, P t → t.head? = some q →
      ∃ body u, t = q :: (body ++ q :: u) ∧ IsQuotedBody q b body ∧ P u)
    {t : List Char} (ht : P t) {body : List Char} (hbody : IsQuotedBody q b body) (r : List Char) :
    ∃ u v, t = u ++ v ∧ P v
      ∧ quotedSpan q b (body ++ q :: (t ++ f :: r)) = (body ++ q :: u, v ++ f :: r) := by
  induction hn : t.length using Nat.strong_induction_on generalizing t body with
  | _ n ih =>
    by_cases hhead : t.head? = some q
    · obtain ⟨body', u, rfl, hbody', hu⟩ := hP t ht hhead
      rw [List.length_cons, List.length_append, List.length_cons] at hn
      obtain ⟨w, v, rfl, hv, hspan⟩ := ih u.length (by omega) hu hbody' rfl
      refine ⟨q :: (body' ++ q :: w), v, by simp, hv, ?_⟩
      simp only [List.cons_append, List.append_assoc] at hspan ⊢
      rw [quotedSpan_again hbody, hspan]
    · refine ⟨[], t, rfl, ht, ?_⟩
      cases t with
      | nil => exact quotedSpan_close hbody hq hf r
      | cons c t => exact quotedSpan_close hbody hq (fun hc => hhead (congrArg some hc)) _

/-- A quotation ends within the parts after its first mark, and parts are left. -/
theorem quotedSpan_of_isMadeOfParts {q : Char} (hq : Scan.IsQuote q) {t : List Char}
    (ht : IsMadeOfParts d t) {body : List Char} (hbody : IsQuotedBody q (hasEscapes d q) body)
    (r : List Char) : ∃ u v, t = u ++ v ∧ IsMadeOfParts d v
      ∧ quotedSpan q (hasEscapes d q) (body ++ q :: (t ++ ';' :: r))
        = (body ++ q :: u, v ++ ';' :: r) := by
  have hbackslash : q ≠ '\\' := by rcases hq with rfl | rfl | rfl <;> decide
  have hsemicolon : ';' ≠ q := by rcases hq with rfl | rfl | rfl <;> decide
  refine exists_quotedSpan hbackslash hsemicolon (fun t ht hhead => ?_) ht hbody r
  cases ht with
  | nil => cases hhead
  | plain hc _ _ _ =>
    obtain rfl := Option.some_inj.1 hhead
    exact absurd hq hc.not_quote
  | @quoted q' body' t _ hbody' ht =>
    obtain rfl : q' = q := Option.some_inj.1 hhead
    exact ⟨body', t, rfl, hbody', ht⟩
  | dollar _ _ _ _ =>
    obtain rfl : '$' = q := Option.some_inj.1 hhead
    exact absurd hq (by decide)

/-- The first tag after the opening one closes. -/
theorem throughPiece_of_first {p body : List Char} (hp : p ≠ [])
    (h : ∀ a b, body ++ p = a ++ (p ++ b) → b = []) (rest : List Char) :
    throughPiece p (body ++ (p ++ rest)) = (body ++ p, rest) := by
  induction body with
  | nil =>
    have hne : p ++ rest ≠ [] := fun hnil => hp (List.append_eq_nil_iff.1 hnil).1
    exact throughPiece_of_some hne (Text.dropPiece?_append p rest)
  | cons c body ih =>
    -- the tag cannot begin earlier and reach into what follows
    have hdrop : Text.dropPiece? p (c :: (body ++ (p ++ rest))) = none := by
      rw [Option.eq_none_iff_forall_ne_some]
      intro v hv
      rw [Text.dropPiece?_eq_some_iff] at hv
      have hprefix : p <+: c :: body ++ p :=
        List.prefix_of_prefix_length_le ⟨v, hv.symm⟩ ⟨rest, by simp⟩
          (by rw [List.length_append]; exact Nat.le_add_left _ _)
      obtain ⟨b, hb⟩ := hprefix
      obtain rfl := h [] b hb.symm
      have hlength := congrArg List.length hb
      simp only [List.length_append, List.length_cons, List.length_nil] at hlength
      omega
    have hbody : ∀ a b, body ++ p = a ++ (p ++ b) → b = [] := by
      intro a b hab
      refine h (c :: a) b ?_
      rw [List.cons_append, hab]
      rfl
    rw [List.cons_append, throughPiece_of_none hdrop, ih hbody]
    rfl

/-- No tag begins before the one that is found first. -/
theorem length_le_throughPiece {p a b : List Char} (hp : p ≠ []) :
    b.length ≤ (throughPiece p (a ++ (p ++ b))).2.length := by
  induction a with
  | nil =>
    have hne : p ++ b ≠ [] := fun hnil => hp (List.append_eq_nil_iff.1 hnil).1
    rw [List.nil_append, throughPiece_of_some hne (Text.dropPiece?_append p b)]
  | cons c a ih =>
    rw [List.cons_append]
    cases hdrop : Text.dropPiece? p (c :: (a ++ (p ++ b))) with
    | some rest =>
      have hlength := length_dropPiece? hdrop
      rw [throughPiece_of_some (List.cons_ne_nil _ _) hdrop]
      simp only [List.length_cons, List.length_append] at hlength ⊢
      omega
    | none =>
      rw [throughPiece_of_none hdrop]
      exact ih

/-- Whether the closing tag of a dollar quote is the first can be computed. -/
theorem first_of_throughPiece {p body : List Char} (hp : p ≠ [])
    (h : (throughPiece p (body ++ p)).2 = []) (a b : List Char) (heq : body ++ p = a ++ (p ++ b)) :
    b = [] := by
  have hlength := length_le_throughPiece (a := a) (b := b) hp
  rw [← heq, h] at hlength
  exact List.length_eq_zero_iff.1 (Nat.le_zero.1 hlength)

namespace Scan

variable {s s' : Scan}

/-- Text is added to the statement that is read. -/
structure Adds (s : Scan) (text : List Char) (s' : Scan) : Prop where
  statements : s'.statements = s.statements
  current : s'.current = text.reverse ++ s.current
  delimiter : s'.delimiter = s.delimiter

theorem Adds.refl (s : Scan) : s.Adds [] s := ⟨rfl, rfl, rfl⟩

/-- Texts that are added one after another. -/
theorem Adds.trans {s'' : Scan} {a b : List Char} (h : s.Adds a s') (h' : s'.Adds b s'') :
    s.Adds (a ++ b) s'' where
  statements := h'.statements.trans h.statements
  current := by rw [h'.current, h.current, List.reverse_append, List.append_assoc]
  delimiter := h'.delimiter.trans h.delimiter

/-- Noting where a statement begins adds nothing. -/
theorem Adds.of_noted {text : List Char} (h : s.noted.Adds text s') : s.Adds text s' := by
  unfold noted at h
  split at h <;> exact ⟨h.statements, h.current, h.delimiter⟩

/-- A plain character that opens no comment is taken by itself. -/
theorem segment_isPlain {c : Char} {r : List Char} (hs : s.delimiter = ⟨';', []⟩) (hc : IsPlain d c)
    (hdash : c = '-' → r.head? ≠ some '-') (hslash : c = '/' → r.head? ≠ some '*') :
    s.segment d c r = (s.plain c, r) := by
  have hopens : ¬ Opens d c r := by
    rintro (h | (⟨hcd, h⟩ | ⟨hch, hd⟩) | ⟨hcs, h⟩)
    · exact hc.not_quote h
    · exact hdash hcd h
    · exact hc.not_hash hd hch
    · exact hslash hcs h
  have hafter : s.delimiter.after? c r = none := by
    rw [hs]
    exact if_neg fun h => hc.not_semicolon (beq_iff_eq.1 h)
  exact segment_plain hopens hafter fun h => Classical.by_contradiction fun hd => hc.not_dollar hd h

/-- So it is before a semicolon. -/
theorem segment_plain_part {c : Char} {u : List Char} (hs : s.delimiter = ⟨';', []⟩) (hc : IsPlain d c)
    (hdash : c = '-' → u.head? ≠ some '-') (hslash : c = '/' → u.head? ≠ some '*') (r : List Char) :
    s.segment d c (u ++ ';' :: r) = (s.plain c, u ++ ';' :: r) := by
  have hhead : ∀ a, a ≠ ';' → u.head? ≠ some a → (u ++ ';' :: r).head? ≠ some a := by
    intro a ha hu
    cases u with
    | nil => exact fun h => ha (Option.some_inj.1 h).symm
    | cons b u => exact hu
  exact segment_isPlain hs hc (fun h => hhead _ (by decide) (hdash h))
    fun h => hhead _ (by decide) (hslash h)

/-- A quotation is taken together with those that follow it at once. -/
theorem segment_quoted_part {q : Char} {body t : List Char} (hq : IsQuote q)
    (hbody : IsQuotedBody q (hasEscapes d q) body) (ht : IsMadeOfParts d t) (r : List Char) :
    ∃ w v, t = w ++ v ∧ IsMadeOfParts d v ∧ s.segment d q (body ++ q :: t ++ ';' :: r)
      = ({ s.take (q :: (body ++ q :: w)) with conditionalOnly := false }, v ++ ';' :: r) := by
  obtain ⟨w, v, rfl, hv, hspan⟩ := quotedSpan_of_isMadeOfParts hq ht hbody r
  unfold hasEscapes at hspan
  refine ⟨w, v, rfl, hv, ?_⟩
  rw [List.append_assoc, List.cons_append, segment_quote hq, hspan]

/-- A dollar quote is taken through its closing tag. -/
theorem segment_dollar_part {letters body : List Char} (hs : s.delimiter = ⟨';', []⟩) (hd : d ≠ .mysql)
    (hl : IsTag letters)
    (hbody : ∀ a b, body ++ tagOf letters = a ++ (tagOf letters ++ b) → b = []) (rest : List Char) :
    s.segment d '$' (letters ++ '$' :: (body ++ (tagOf letters ++ rest)))
      = (s.take (tagOf letters ++ (body ++ tagOf letters)), rest) := by
  have hafter : ∀ r, s.delimiter.after? '$' r = none := by
    intro r
    rw [hs]
    rfl
  have hp : tagOf letters ≠ [] := List.cons_ne_nil _ _
  rw [segment_tag hd (hafter _) hl, throughPiece_of_first hp hbody]

/-- One part of a statement is read. -/
theorem step_part {c : Char} {u : List Char} (hs : s.delimiter = ⟨';', []⟩)
    (ht : IsMadeOfParts d (c :: u)) {r : List Char}
    (hline : s.delimiterLine? d c (u ++ ';' :: r) = none) :
    ∃ s' w v, u = w ++ v ∧ IsMadeOfParts d v
      ∧ s.step d c (u ++ ';' :: r) = (s', v ++ ';' :: r) ∧ s.Adds (c :: w) s' := by
  have hs' : s.noted.delimiter = ⟨';', []⟩ := (delimiter_noted s).trans hs
  rw [step_eq_segment hline]
  -- the first part may be a word of any length, a quotation or one character
  generalize htext : c :: u = t at ht
  cases ht with
  | nil => cases htext
  | plain hc hdash hslash ht =>
    obtain ⟨rfl, rfl⟩ := List.cons.inj htext
    exact ⟨s.noted.plain c, [], u, rfl, ht, segment_plain_part hs' hc hdash hslash r,
      .of_noted ⟨rfl, rfl, rfl⟩⟩
  | @quoted q body t hq hbody ht =>
    obtain ⟨rfl, rfl⟩ := List.cons.inj htext
    obtain ⟨w, v, rfl, hv, hsegment⟩ := segment_quoted_part (s := s.noted) hq hbody ht r
    refine ⟨_, body ++ c :: w, v, ?_, hv, hsegment, .of_noted ⟨rfl, rfl, rfl⟩⟩
    rw [List.append_assoc, List.cons_append]
  | @dollar letters body t hd hl hbody ht =>
    have htag : tagOf letters ++ (body ++ (tagOf letters ++ t))
      = '$' :: (letters ++ '$' :: (body ++ (tagOf letters ++ t))) := by simp [tagOf]
    rw [htag] at htext
    obtain ⟨rfl, rfl⟩ := List.cons.inj htext
    have hsegment := segment_dollar_part hs' hd hl hbody (t ++ ';' :: r)
    have hadds : s.noted.Adds ('$' :: (letters ++ '$' :: (body ++ tagOf letters)))
        (s.noted.take (tagOf letters ++ (body ++ tagOf letters))) :=
      ⟨rfl, by simp [take, tagOf], rfl⟩
    refine ⟨_, letters ++ '$' :: (body ++ tagOf letters), t, by simp, ht, ?_, .of_noted hadds⟩
    simp only [List.append_assoc, List.cons_append]
    exact hsegment

/-- The parts of a statement are read to its end.  Before the first of them either the statement has
begun, or it begins with a character that is not blank and no line that changes the delimiter. -/
theorem reads_parts {t : List Char} (hs : s.delimiter = ⟨';', []⟩) (ht : IsMadeOfParts d t)
    {r : List Char} (hbegin : ∀ c u, t = c :: u → (s.isBlank = false ∨ Text.isBlank c = false)
      ∧ s.delimiterLine? d c (u ++ ';' :: r) = none) :
    ∃ s', Reads d s (t ++ ';' :: r) s' (';' :: r) ∧ s.Adds t s' := by
  induction hn : t.length using Nat.strong_induction_on generalizing s t with
  | _ n ih =>
    cases t with
    | nil => exact ⟨s, .refl s _, .refl s⟩
    | cons c u =>
      obtain ⟨hblank, hline⟩ := hbegin c u rfl
      obtain ⟨s₁, w, v, rfl, hv, hstep, hadds⟩ := step_part hs ht hline
      have hbegun : s₁.isBlank = false := by
        unfold isBlank at hblank ⊢
        rw [hadds.current, List.all_append, List.all_reverse, List.all_cons]
        rcases hblank with h | h <;> simp [h]
      have hbegin₁ : ∀ c u, v = c :: u → (s₁.isBlank = false ∨ Text.isBlank c = false)
          ∧ s₁.delimiterLine? d c (u ++ ';' :: r) = none := by
        intro c' u' _
        exact ⟨.inl hbegun, delimiterLine?_of_begun hbegun _ _ _⟩
      simp only [List.length_cons, List.length_append] at hn
      obtain ⟨s₂, hreads, hadds₂⟩ :=
        ih v.length (by omega) (hadds.delimiter.trans hs) hv hbegin₁ rfl
      refine ⟨s₂, .trans (.of_step hstep) hreads, ?_⟩
      exact hadds.trans hadds₂

/-- A text that stands on its own line with a semicolon behind it is found. -/
def IsFound (d : SourceDialect) (text : String) : Prop :=
  ∀ s : Scan, s.delimiter = ⟨';', []⟩ → s.isBlank = true → ∀ r : List Char,
    ∃ s' n, Reads d s (text.toList ++ ';' :: '\n' :: r) s' r
      ∧ s'.statements = ⟨text, n⟩ :: s.statements
      ∧ s'.isBlank = true ∧ s'.delimiter = ⟨';', []⟩

/-- It is found if all of it is read into the statement and no copied rows are expected. -/
theorem isFound_of_reads {text : String} (hne : text ≠ "") (htrim : Text.trim text.toList = text.toList)
    (hcopy : d ≠ .mysql → isCopyFromStdin text.toList = false)
    (hreads : ∀ s : Scan, s.delimiter = ⟨';', []⟩ → ∀ r : List Char,
      ∃ s', Reads d s (text.toList ++ ';' :: r) s' (';' :: r) ∧ s.Adds text.toList s') :
    IsFound d text := by
  intro s hs hblank r
  obtain ⟨s₁, hreads, hadds⟩ := hreads s hs ('\n' :: r)
  have htext : Text.trim s₁.current.reverse = text.toList := by
    rw [hadds.current, List.reverse_append, List.reverse_reverse,
      Text.trim_append_of_blank (List.all_reverse.trans hblank), htrim]
  have hne : text.toList ≠ [] := fun hnil => hne (String.toList_eq_nil_iff.1 hnil)
  have hs₁ : s₁.delimiter = ⟨';', []⟩ := hadds.delimiter.trans hs
  -- the statement asks for no rows, so the semicolon ends it
  have hcopy : ¬ (d ≠ .mysql ∧ isCopyFromStdin (Text.trim s₁.current.reverse) = true) := by
    rintro ⟨hd, hrows⟩
    rw [htext, hcopy hd] at hrows
    cases hrows
  have hclose := (step_semicolon hs₁ ('\n' :: r)).trans (if_neg hcopy)
  have hs₂ : s₁.noted.close.delimiter = ⟨';', []⟩ := (delimiter_noted s₁).trans hs₁
  have hline := step_white (s := s₁.noted.close) (d := d) hs₂ (.inr rfl) r
  refine ⟨s₁.noted.close.noted.plain '\n', s₁.noted.startLine,
    hreads.trans (.trans (.of_step hclose) (.of_step hline)), ?_, rfl, hs₂⟩
  have hnoted : s₁.noted.statements = s₁.statements := statements_noted s₁
  show s₁.noted.close.statements = _
  rw [close_statements (by rw [current_noted, htext]) hne, hnoted, hadds.statements,
    String.ofList_toList]

/-- A statement that is joined with others is read with the end of its line. -/
theorem isFound_of_isJoinable {text : String} (h : IsJoinable d text) : IsFound d text := by
  have hhead : ∀ c u, text.toList = c :: u → Text.isBlank c = false := by
    intro c u hcu
    have hfirst := Text.head?_trim text.toList
    rw [h.trimmed, hcu] at hfirst
    exact Text.isBlank_of_head?_trimStart hfirst.symm
  refine isFound_of_reads h.nonempty h.trimmed h.copy fun s hs r => ?_
  refine reads_parts hs h.parts fun c u hcu => ⟨.inr (hhead c u hcu), ?_⟩
  unfold delimiterLine?
  split
  · rename_i hcond
    have hd : d = .mysql := beq_iff_eq.1 (Bool.and_eq_true _ _ ▸ hcond).2
    rw [← List.cons_append, ← hcu]
    exact afterDelimiterWord?_semicolon (h.delimiter hd) _
  · rfl

/-- Texts that are found are read one after another. -/
theorem reads_found {texts : List String} (h : ∀ t ∈ texts, IsFound d t)
    (hs : s.delimiter = ⟨';', []⟩) (hblank : s.isBlank = true) (r : List Char) :
    ∃ s', Reads d s ((texts.flatMap fun t => t.toList ++ [';', '\n']) ++ r) s' r
      ∧ s'.statements.map Statement.text = texts.reverse ++ s.statements.map Statement.text
      ∧ s'.isBlank = true ∧ s'.delimiter = ⟨';', []⟩ := by
  induction texts generalizing s with
  | nil => exact ⟨s, .refl s r, rfl, hblank, hs⟩
  | cons text texts ih =>
    obtain ⟨htext, htexts⟩ := List.forall_mem_cons.1 h
    obtain ⟨s₁, n, hreads, hfound, hblank₁, hs₁⟩ := htext s hs hblank
      ((texts.flatMap fun t => t.toList ++ [';', '\n']) ++ r)
    obtain ⟨s₂, hreads₂, hfound₂, hblank₂, hs₂⟩ := ih htexts hs₁ hblank₁
    refine ⟨s₂, ?_, ?_, hblank₂, hs₂⟩
    · rw [List.flatMap_cons, List.append_assoc, List.append_assoc]
      exact hreads.trans hreads₂
    · rw [hfound₂, hfound]
      simp

/-- Joined statements are read one after another. -/
theorem reads_joined {texts : List String} (h : ∀ t ∈ texts, IsJoinable d t)
    (hs : s.delimiter = ⟨';', []⟩) (hblank : s.isBlank = true) :
    ∃ s', Reads d s (texts.flatMap fun t => t.toList ++ [';', '\n']) s' []
      ∧ s'.statements.map Statement.text = texts.reverse ++ s.statements.map Statement.text
      ∧ s'.isBlank = true := by
  obtain ⟨s', hreads, hfound, hblank', -⟩ :=
    reads_found (fun t ht => isFound_of_isJoinable (h t ht)) hs hblank []
  rw [List.append_nil] at hreads
  exact ⟨s', hreads, hfound, hblank'⟩

end Scan

/-- **Splitting inverts joining.**  Statements that are written one after another are found again, as
long as none of them reads like a copy from the standard input. -/
theorem statementTexts_join {texts : List String} (h : ∀ t ∈ texts, IsJoinable d t) :
    statementTexts d (String.join (texts.map (· ++ ";\n"))) = texts := by
  have hjoin : (String.join (texts.map (· ++ ";\n"))).toList
      = texts.flatMap fun t => t.toList ++ [';', '\n'] := by
    rw [String.toList_join, List.flatMap_map]
    simp only [String.toList_append]
    rfl
  obtain ⟨s, hreads, hfound, hblank⟩ := Scan.reads_joined h (s := .start) rfl rfl
  unfold statementTexts statements
  rw [hjoin, hreads.run_eq, Scan.run_nil, Scan.close_of_isBlank hblank, List.map_reverse, hfound]
  simp [Scan.start]

/-- Statements with delimiters, comments and quotation marks in their literals. -/
def literalTexts : List String := ["SELECT 'a;''--'", "DO $x$; '/* $$ $x$"]

theorem statementTexts_join_literalTexts :
    statementTexts .postgres (String.join (literalTexts.map (· ++ ";\n"))) = literalTexts := by
  have hmarks : IsMadeOfParts .postgres
      ('\'' :: ("a;".toList ++ '\'' :: '\'' :: ("--".toList ++ ['\'']))) :=
    .quoted (by decide) (.of_all (by decide)) (.quoted (by decide) (.of_all (by decide)) .nil)
  have hselect : IsMadeOfParts .postgres "SELECT 'a;''--'".toList :=
    .plain_append (a := "SELECT ".toList) (by decide +kernel) hmarks
  have htag : IsTag ['x'] := by
    refine ⟨List.forall_mem_singleton.2 ?_, fun c hc => ?_⟩
    · unfold IsTagLetter
      decide
    · obtain rfl := Option.some_inj.1 hc
      decide
  have hdollars : IsMadeOfParts .postgres
      (tagOf ['x'] ++ ("; '/* $$ ".toList ++ (tagOf ['x'] ++ []))) :=
    .dollar (by decide) htag (first_of_throughPiece (by decide) (by decide +kernel)) .nil
  have hdo : IsMadeOfParts .postgres "DO $x$; '/* $$ $x$".toList :=
    .plain_append (a := "DO ".toList) (by decide +kernel) hdollars
  refine statementTexts_join (List.forall_mem_cons.2 ⟨?_, List.forall_mem_singleton.2 ?_⟩)
  · exact ⟨⟨by decide, by decide +kernel, hselect⟩, fun _ => by decide +kernel,
      fun _ => by decide +kernel⟩
  · exact ⟨⟨by decide, by decide +kernel, hdo⟩, fun _ => by decide +kernel,
      fun _ => by decide +kernel⟩

/-- A copy from a file, the name of which holds the words of a copy from the standard input. -/
def copyTexts : List String := ["COPY t FROM '/srv/rows from stdin.csv'", "CREATE TABLE a (id integer)"]

/-- The words are looked for in literals too: the statement after the copy is taken for its rows. -/
theorem statementTexts_join_copyTexts : (∀ t ∈ copyTexts, IsStatementText .postgres t)
    ∧ isCopyFromStdin "COPY t FROM ".toList = false
    ∧ statementTexts .postgres (String.join (copyTexts.map (· ++ ";\n")))
      = ["COPY t FROM '/srv/rows from stdin.csv'"] := by
  have hfile : IsMadeOfParts .postgres ('\'' :: ("/srv/rows from stdin.csv".toList ++ ['\''])) :=
    .quoted (by decide) (.of_all (by decide +kernel)) .nil
  have hcopy : IsMadeOfParts .postgres "COPY t FROM '/srv/rows from stdin.csv'".toList :=
    .plain_append (a := "COPY t FROM ".toList) (by decide +kernel) hfile
  have hcreate : IsMadeOfParts .postgres "CREATE TABLE a (id integer)".toList :=
    .plain_append (a := "CREATE TABLE a (id integer)".toList) (t := []) (by decide +kernel) .nil
  refine ⟨List.forall_mem_cons.2 ⟨?_, List.forall_mem_singleton.2 ?_⟩, by decide +kernel,
    by decide +kernel⟩
  · exact ⟨by decide, by decide +kernel, hcopy⟩
  · exact ⟨by decide, by decide +kernel, hcreate⟩

end SchemaBridge.Dump
