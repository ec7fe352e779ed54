/-
# Dollar signs in words

In PostgreSQL a word may hold dollar signs after its first character, and there they open nothing.  The
scan does not look at what stands before a dollar sign: where one word, or one text, reads like the tag
of a dollar quote, it takes this tag for the beginning of one.  Statements in which nothing reads so are
found again when they are joined.  Where a tag is met that does not come again, all that follows it is
taken into one statement.

## Key statements

* `IsMadeOfTokens`: text in which dollar signs stand within words.
* `Scan.reads_tokens`: such text is read into the statement, as long as it opens no tag.
* `dollars_in_words`: what dollar signs in words do to statements that are joined.
-/
import SchemaBridge.Proofs.Dump.Joining

namespace SchemaBridge.Dump

/-- A character with which a word begins: a letter, an underscore or one beyond the ASCII range. -/
def IsWordStart (c : Char) : Prop := c.isAlpha = true ∨ c = '_' ∨ 128 ≤ c.toNat

/-- A character with which a word goes on. -/
def IsWordPart (c : Char) : Prop := IsWordStart c ∨ c.isDigit = true ∨ c = '$'

instance : DecidablePred IsWordStart :=
  fun c => inferInstanceAs (Decidable (c.isAlpha = true ∨ c = '_' ∨ 128 ≤ c.toNat))

instance : DecidablePred IsWordPart :=
  fun c => inferInstanceAs (Decidable (IsWordStart c ∨ c.isDigit = true ∨ c = '$'))

/-- Text made of words, of quoted text and of other plain characters that open no comment.  Outside
quoted text a dollar sign stands within a word only. -/
inductive IsMadeOfTokens : List Char → Prop
  | nil : IsMadeOfTokens []
  | word {c : Char} {w t : List Char} (hc : IsWordStart c) (hw : ∀ x ∈ w, IsWordPart x)
      (h : IsMadeOfTokens t) : IsMadeOfTokens (c :: (w ++ t))
  | plain {c : Char} {t : List Char} (hc : IsPlain .postgres c) (hdash : c = '-' → t.head? ≠ some '-')
      (hslash : c = '/' → t.head? ≠ some '*') (h : IsMadeOfTokens t) : IsMadeOfTokens (c :: t)
  | quoted {q : Char} {body t : List Char} (hq : Scan.IsQuote q) (hbody : IsQuotedBody q false body)
      (h : IsMadeOfTokens t) : IsMadeOfTokens (q :: (body ++ q :: t))

/-- Nothing reads like the tag of a dollar quote. -/
def OpensNoTag (t : List Char) : Prop := ∀ letters, IsTag letters → ¬ tagOf letters <:+: t

/-- The text of a statement made of tokens. -/
structure IsTokenText (text : String) : Prop where
  nonempty : text ≠ ""
  trimmed : Text.trim text.toList = text.toList
  tokens : IsMadeOfTokens text.toList
  /-- No copied rows are expected after it. -/
  copy : isCopyFromStdin text.toList = false

/-- Plain text in front of tokens. -/
theorem IsMadeOfTokens.plain_append {a t : List Char}
    (ha : a.all (fun c => decide (IsPlain .postgres c) && c != '-' && c != '/') = true)
    (h : IsMadeOfTokens t) : IsMadeOfTokens (a ++ t) := by
  induction a with
  | nil => exact h
  | cons c a ih =>
    rw [List.all_cons, Bool.and_eq_true, Bool.and_eq_true, Bool.and_eq_true, bne_iff_ne, bne_iff_ne,
      decide_eq_true_eq] at ha
    obtain ⟨⟨⟨hc, hdash⟩, hslash⟩, ha⟩ := ha
    exact .plain hc (fun hcd => absurd hcd hdash) (fun hcs => absurd hcs hslash) (ih ha)

/-- A word in front of tokens. -/
theorem IsMadeOfTokens.word_append {c : Char} {w t : List Char} (hc : IsWordStart c)
    (hw : w.all (fun x => decide (IsWordPart x)) = true) (h : IsMadeOfTokens t) :
    IsMadeOfTokens (c :: (w ++ t)) :=
  .word hc (fun x hx => of_decide_eq_true (List.all_eq_true.1 hw x hx)) h

/-! ## Tags -/

/-- The end of a text that opens no tag opens none. -/
theorem OpensNoTag.of_suffix {t u : List Char} (h : OpensNoTag t) (hu : u <:+ t) : OpensNoTag u :=
  fun letters hl htag => h letters hl (htag.trans hu.isInfix)

/-- Whether a tag is opened can be computed. -/
theorem opensNoTag_iff {t : List Char} : OpensNoTag t
    ↔ ∀ n < t.length, t[n]? = some '$' → dollarTag? (t.drop (n + 1)) = none := by
  constructor
  · intro h n hn hdollar
    rw [Option.eq_none_iff_forall_ne_some]
    intro tag htag
    obtain ⟨letters, rest, hl, -, hrest⟩ := dollarTag?_eq_some_iff.1 htag
    obtain ⟨_, hget⟩ := List.getElem?_eq_some_iff.1 hdollar
    have hdrop : t.drop n = tagOf letters ++ rest := by
      rw [List.drop_eq_getElem_cons hn, hget, hrest]
      simp [tagOf]
    refine h letters hl ⟨t.take n, rest, ?_⟩
    rw [List.append_assoc, ← hdrop, List.take_append_drop]
  · rintro h letters hl ⟨x, y, rfl⟩
    have hsome : dollarTag? (letters ++ '$' :: y) = some (tagOf letters) :=
      dollarTag?_eq_some_iff.2 ⟨letters, y, hl, rfl, rfl⟩
    have hnone := h x.length (by simp [tagOf]) (by simp [tagOf])
    have hdrop : (x ++ tagOf letters ++ y).drop (x.length + 1) = letters ++ '$' :: y := by
      rw [List.append_assoc, List.drop_append]
      simp [tagOf]
    rw [hdrop, hsome] at hnone
    cases hnone

instance : DecidablePred OpensNoTag := fun _ => decidable_of_iff _ opensNoTag_iff.symm

/-- Whether a dollar sign opens a tag is decided before the first character that is no letter of a
tag. -/
theorem dollarTag?_eq_none {u r : List Char} {f : Char} (hf : ¬ IsTagLetter f)
    (h : OpensNoTag ('$' :: u ++ [f])) : dollarTag? (u ++ f :: r) = none := by
  rw [Option.eq_none_iff_forall_ne_some]
  intro tag htag
  obtain ⟨letters, rest, hl, -, heq⟩ := dollarTag?_eq_some_iff.1 htag
  rcases List.append_eq_append_iff.1 heq with ⟨x, rfl, hx⟩ | ⟨x, rfl, hx⟩
  · cases x with
    | nil =>
      obtain ⟨rfl, -⟩ := List.cons.inj hx
      rw [List.append_nil] at hl
      exact h u hl List.infix_rfl
    | cons a x =>
      obtain ⟨rfl, -⟩ := List.cons.inj hx
      exact hf (hl.all f (by simp))
  · cases x with
    | nil =>
      obtain ⟨rfl, -⟩ := List.cons.inj hx
      rw [List.append_nil] at h
      exact h letters hl List.infix_rfl
    | cons a x =>
      obtain ⟨rfl, -⟩ := List.cons.inj hx
      exact h letters hl ⟨[], x ++ [f], by simp [tagOf]⟩

/-- A piece that does not occur is looked for to the end. -/
theorem throughPiece_of_not_infix {p s : List Char} (h : ¬ p <:+: s) : throughPiece p s = (s, []) := by
  induction s with
  | nil => rfl
  | cons c r ih =>
    have hdrop : Text.dropPiece? p (c :: r) = none := by
      rw [Option.eq_none_iff_forall_ne_some]
      intro v hv
      rw [Text.dropPiece?_eq_some_iff] at hv
      exact h ⟨[], v, hv.symm⟩
    have hr : ¬ p <:+: r := fun hp => h (hp.trans (List.suffix_cons c r).isInfix)
    rw [throughPiece_of_none hdrop, ih hr]

/-! ## Words are plain -/

/-- What words are made of is plain but for dollar signs. -/
theorem isPlain_of_isWordPart {c : Char} (h : IsWordPart c) :
    c = '$' ∨ IsPlain .postgres c ∧ c ≠ '-' ∧ c ≠ '/' := by
  by_cases hdollar : c = '$'
  · exact .inl hdollar
  · have hne : ∀ k, ¬ IsWordPart k → c ≠ k := fun k hk hck => hk (hck ▸ h)
    refine .inr ⟨⟨?_, hne _ (by decide), nofun, fun _ => hdollar⟩, hne _ (by decide), hne _ (by decide)⟩
    rintro (hq | hq | hq)
    · exact hne _ (by decide) hq
    · exact hne _ (by decide) hq
    · exact hne _ (by decide) hq

/-- Where tokens begin with a mark, they begin with a quotation. -/
theorem IsMadeOfTokens.exists_quotation {q : Char} (hq : Scan.IsQuote q) {t : List Char}
    (ht : IsMadeOfTokens t) (hhead : t.head? = some q) :
    ∃ body u, t = q :: (body ++ q :: u) ∧ IsQuotedBody q false body ∧ IsMadeOfTokens u := by
  cases ht with
  | nil => cases hhead
  | @word c _ _ hc _ _ =>
    obtain rfl : c = q := Option.some_inj.1 hhead
    rcases hq with rfl | rfl | rfl <;> exact absurd hc (by decide)
  | plain hc _ _ _ =>
    obtain rfl := Option.some_inj.1 hhead
    exact absurd hq hc.not_quote
  | @quoted q' body u _ hbody hu =>
    obtain rfl : q' = q := Option.some_inj.1 hhead
    exact ⟨body, u, rfl, hbody, hu⟩

namespace Scan

variable {s s' : Scan} {f : Char} {r : List Char}

/-- A plain character is added. -/
theorem Adds.plain (s : Scan) (c : Char) : s.Adds [c] (s.noted.plain c) := .of_noted ⟨rfl, rfl, rfl⟩

/-- Where a dollar sign opens no tag, the characters of a word are taken one by one. -/
theorem reads_word {w t : List Char} (hs : s.delimiter = ⟨';', []⟩) (hw : ∀ x ∈ w, IsWordPart x)
    (hf : ¬ IsTagLetter f) (hnone : OpensNoTag (w ++ (t ++ [f]))) :
    ∃ s', Reads .postgres s (w ++ (t ++ f :: r)) s' (t ++ f :: r) ∧ s.Adds w s' := by
  induction w generalizing s with
  | nil => exact ⟨s, .refl s _, .refl s⟩
  | cons c w ih =>
    obtain ⟨hc, hw⟩ := List.forall_mem_cons.1 hw
    have hs₁ : s.noted.delimiter = ⟨';', []⟩ := (delimiter_noted s).trans hs
    have hline := delimiterLine?_of_ne (d := .postgres) (by decide) s c (w ++ (t ++ f :: r))
    obtain ⟨s₁, hstep, hadds⟩ : ∃ s₁,
        s.step .postgres c (w ++ (t ++ f :: r)) = (s₁, w ++ (t ++ f :: r)) ∧ s.Adds [c] s₁ := by
      rw [step_eq_segment hline]
      -- of the characters of words the dollar sign alone may begin something
      rcases isPlain_of_isWordPart hc with rfl | ⟨hplain, hdash, hslash⟩
      · have hafter : s.noted.delimiter.after? '$' (w ++ (t ++ f :: r)) = none := by
          rw [hs₁]
          rfl
        have htag : dollarTag? (w ++ (t ++ f :: r)) = none := by
          rw [← List.append_assoc]
          refine dollarTag?_eq_none hf ?_
          rw [List.cons_append, List.append_assoc]
          exact hnone
        exact ⟨_, segment_dollar (by decide) hafter htag, .of_noted ⟨rfl, rfl, rfl⟩⟩
      · exact ⟨_, segment_isPlain hs₁ hplain (fun h => absurd h hdash) (fun h => absurd h hslash),
          .plain s c⟩
    obtain ⟨s₂, hreads, hadds₂⟩ := ih (hadds.delimiter.trans hs) hw
      (hnone.of_suffix (List.suffix_cons c _))
    exact ⟨s₂, .trans (.of_step hstep) hreads, hadds.trans hadds₂⟩

/-- A quotation is taken together with those that follow it at once. -/
theorem segment_quoted_token {q : Char} {body t : List Char} (hq : IsQuote q)
    (hbody : IsQuotedBody q false body) (ht : IsMadeOfTokens t) (hf : f ≠ q) :
    ∃ w v, t = w ++ v ∧ IsMadeOfTokens v ∧ s.segment .postgres q (body ++ q :: (t ++ f :: r))
      = ({ s.take (q :: (body ++ q :: w)) with conditionalOnly := false }, v ++ f :: r) := by
  have hbackslash : q ≠ '\\' := by rcases hq with rfl | rfl | rfl <;> decide
  obtain ⟨w, v, hwv, hv, hspan⟩ :=
    exists_quotedSpan hbackslash hf (fun _ ht hhead => ht.exists_quotation hq hhead) ht hbody r
  refine ⟨w, v, hwv, hv, ?_⟩
  have hescapes : (SourceDialect.postgres == .mysql && q == '\'') = false := rfl
  rw [segment_quote hq, hescapes, hspan]

/-- One token is read, or some quotations that stand side by side. -/
theorem reads_token {t : List Char} (hs : s.delimiter = ⟨';', []⟩) (ht : IsMadeOfTokens t)
    (hne : t ≠ []) (hf : f = ';' ∨ f = '$') (hnone : OpensNoTag (t ++ [f])) (r : List Char) :
    ∃ s' w v, t = w ++ v ∧ w ≠ [] ∧ IsMadeOfTokens v
      ∧ Reads .postgres s (t ++ f :: r) s' (v ++ f :: r) ∧ s.Adds w s' := by
  have hline : ∀ c u, s.delimiterLine? .postgres c u = none := delimiterLine?_of_ne (by decide) s
  have hs₁ : s.noted.delimiter = ⟨';', []⟩ := (delimiter_noted s).trans hs
  -- a word is read as far as it goes, or quotations one after another, or one character
  cases ht with
  | nil => exact absurd rfl hne
  | @word c w t hc hw ht =>
    have hletter : ¬ IsTagLetter f := by
      unfold IsTagLetter
      rcases hf with rfl | rfl <;> decide
    have hall : ∀ x ∈ c :: w, IsWordPart x := List.forall_mem_cons.2 ⟨.inl hc, hw⟩
    rw [← List.cons_append, List.append_assoc] at hnone
    obtain ⟨s', hreads, hadds⟩ := reads_word (r := r) hs hall hletter hnone
    rw [← List.append_assoc] at hreads
    exact ⟨s', c :: w, t, rfl, List.cons_ne_nil _ _, ht, hreads, hadds⟩
  | @plain c t hc hdash hslash ht =>
    have hhead : ∀ a, f ≠ a → t.head? ≠ some a → (t ++ f :: r).head? ≠ some a := by
      intro a ha hhead
      cases t with
      | nil => exact fun h => ha (Option.some_inj.1 h)
      | cons b t => exact hhead
    have hsegment : s.noted.segment .postgres c (t ++ f :: r) = (s.noted.plain c, t ++ f :: r) :=
      segment_isPlain hs₁ hc (fun h => hhead _ (by rcases hf with rfl | rfl <;> decide) (hdash h))
        fun h => hhead _ (by rcases hf with rfl | rfl <;> decide) (hslash h)
    exact ⟨s.noted.plain c, [c], t, rfl, List.cons_ne_nil _ _, ht,
      .of_step ((step_eq_segment (hline _ _)).trans hsegment), .plain s c⟩
  | @quoted q body t hq hbody ht =>
    have hfq : f ≠ q := by rcases hf with rfl | rfl <;> rcases hq with rfl | rfl | rfl <;> decide
    obtain ⟨w, v, rfl, hv, hsegment⟩ := segment_quoted_token (s := s.noted) (r := r) hq hbody ht hfq
    have hadds : s.noted.Adds (q :: (body ++ q :: w))
        { s.noted.take (q :: (body ++ q :: w)) with conditionalOnly := false } := ⟨rfl, rfl, rfl⟩
    refine ⟨_, q :: (body ++ q :: w), v, by simp, List.cons_ne_nil _ _, hv, ?_, .of_noted hadds⟩
    rw [List.cons_append, List.append_assoc, List.cons_append]
    exact .of_step ((step_eq_segment (hline _ _)).trans hsegment)

/-- Tokens are read to their end, as long as they open no tag. -/
theorem reads_tokens {t : List Char} (hs : s.delimiter = ⟨';', []⟩) (ht : IsMadeOfTokens t)
    (hf : f = ';' ∨ f = '$') (hnone : OpensNoTag (t ++ [f])) (r : List Char) :
    ∃ s', Reads .postgres s (t ++ f :: r) s' (f :: r) ∧ s.Adds t s' := by
  induction hn : t.length using Nat.strong_induction_on generalizing s t with
  | _ n ih =>
    by_cases hne : t = []
    · subst hne
      exact ⟨s, .refl s _, .refl s⟩
    · obtain ⟨s₁, w, v, rfl, hw, hv, hreads, hadds⟩ := reads_token hs ht hne hf hnone r
      rw [List.append_assoc] at hnone
      have hlength := List.length_pos_iff.2 hw
      rw [List.length_append] at hn
      obtain ⟨s₂, hreads₂, hadds₂⟩ := ih v.length (by omega) (hadds.delimiter.trans hs) hv
        (hnone.of_suffix (List.suffix_append _ _)) rfl
      exact ⟨s₂, hreads.trans hreads₂, hadds.trans hadds₂⟩

/-- A tag that does not come again takes everything that follows. -/
theorem step_tag {letters after : List Char} (hs : s.delimiter = ⟨';', []⟩) (hl : IsTag letters)
    (hnone : ¬ tagOf letters <:+: after) :
    s.step .postgres '$' (letters ++ '$' :: after)
      = (s.noted.take (tagOf letters ++ after), []) := by
  have hafter : s.noted.delimiter.after? '$' (letters ++ '$' :: after) = none := by
    rw [delimiter_noted, hs]
    rfl
  rw [step_eq_segment (delimiterLine?_of_ne (by decide) s _ _), segment_tag (by decide) hafter hl,
    throughPiece_of_not_infix hnone]

/-- A text of tokens that opens no tag is found again. -/
theorem isFound_of_isTokenText {text : String} (h : IsTokenText text)
    (hnone : OpensNoTag text.toList) : IsFound .postgres text := by
  have hend : OpensNoTag (text.toList ++ [';']) := by
    intro letters hl htag
    rcases List.infix_concat_iff.1 htag with ⟨a, ha⟩ | hinfix
    · have hlast := congrArg List.getLast? ha
      unfold tagOf at hlast
      rw [← List.append_assoc, List.getLast?_concat, List.getLast?_concat] at hlast
      exact absurd (Option.some_inj.1 hlast) (by decide)
    · exact hnone letters hl hinfix
  exact isFound_of_reads h.nonempty h.trimmed (fun _ => h.copy) fun s hs r =>
    reads_tokens hs h.tokens (.inl rfl) hend r

end Scan

/-- Statements that are joined, as characters. -/
theorem toList_joined (texts : List String) : (String.join (texts.map (· ++ ";\n"))).toList
    = texts.flatMap fun t => t.toList ++ [';', '\n'] := by
  rw [String.toList_join, List.flatMap_map]
  simp only [String.toList_append]
  rfl

namespace Scan

variable {texts : List String}

/-- Statements that are found one by one are found when they are joined. -/
theorem statementTexts_of_found (h : ∀ t ∈ texts, IsFound .postgres t) :
    statementTexts .postgres (String.join (texts.map (· ++ ";\n"))) = texts := by
  obtain ⟨s, hreads, htexts, hblank, -⟩ := reads_found h (s := .start) rfl rfl []
  rw [List.append_nil] at hreads
  unfold statementTexts Dump.statements
  rw [toList_joined, hreads.run_eq, run_nil, close_of_isBlank hblank, List.map_reverse, htexts]
  simp [start]

/-- Behind statements that are found, a tag that does not come again takes the rest into one
statement. -/
theorem statementTexts_of_tag (h : ∀ t ∈ texts, IsFound .postgres t) {before letters after : String}
    (htokens : IsMadeOfTokens before.toList) (hl : IsTag letters.toList)
    (hbefore : OpensNoTag (before.toList ++ ['$'])) (hafter : ¬ tagOf letters.toList <:+: after.toList) :
    statementTexts .postgres (String.join (texts.map (· ++ ";\n"))
        ++ (before ++ "$" ++ letters ++ "$" ++ after))
      = texts ++ [String.ofList (Text.trim (before ++ "$" ++ letters ++ "$" ++ after).toList)] := by
  let rest := before.toList ++ '$' :: (letters.toList ++ '$' :: after.toList)
  have hrest : (before ++ "$" ++ letters ++ "$" ++ after).toList = rest := by
    simp only [String.toList_append, List.append_assoc]
    rfl
  obtain ⟨s₁, hreads, htexts, hblank, hs₁⟩ := reads_found h (s := .start) rfl rfl rest
  obtain ⟨s₂, hreads₂, hadds⟩ := reads_tokens hs₁ htokens (.inr rfl) hbefore
    (letters.toList ++ '$' :: after.toList)
  have hs₂ : s₂.delimiter = ⟨';', []⟩ := hadds.delimiter.trans hs₁
  -- the open tag takes all that is left
  let s₃ := s₂.noted.take (tagOf letters.toList ++ after.toList)
  have hall : Reads .postgres .start _ s₃ [] :=
    (hreads.trans hreads₂).trans (.of_step (step_tag hs₂ hl hafter))
  have htext : Text.trim s₃.current.reverse = Text.trim rest := by
    have hcurrent : s₃.current.reverse = s₁.current.reverse ++ rest := by
      show ((tagOf letters.toList ++ after.toList).reverse ++ s₂.noted.current).reverse = _
      rw [current_noted, hadds.current]
      simp [rest, tagOf]
    rw [hcurrent, Text.trim_append_of_blank (List.all_reverse.trans hblank)]
  have hne : Text.trim rest ≠ [] := by
    intro hnil
    have hdollar : Text.isBlank '$' = true :=
      List.all_eq_true.1 (Text.trim_eq_nil_iff.1 hnil) '$' (by simp [rest])
    exact absurd hdollar (by decide)
  have hfound : s₃.close.statements.map Statement.text
      = String.ofList (Text.trim rest) :: texts.reverse := by
    have hnoted : s₃.statements = s₁.statements := (statements_noted s₂).trans hadds.statements
    rw [close_statements htext hne, List.map_cons, hnoted, htexts]
    simp [start]
  unfold statementTexts Dump.statements
  rw [String.toList_append, toList_joined, hrest, hall.run_eq, run_nil, List.map_reverse, hfound,
    List.reverse_cons, List.reverse_reverse]

end Scan

/-- **Dollar signs in words.**  Statements that are written one after another are found again, wherever
in their words dollar signs stand, as long as nothing in them reads like the tag of a dollar quote.  A tag
that is read in what follows them, and that does not come again, takes the rest of the dump into one
statement. -/
theorem dollars_in_words {texts : List String}
    (h : ∀ t ∈ texts, IsTokenText t ∧ OpensNoTag t.toList) :
    statementTexts .postgres (String.join (texts.map (· ++ ";\n"))) = texts
    ∧ ∀ before letters after : String, IsMadeOfTokens before.toList → IsTag letters.toList →
      OpensNoTag (before.toList ++ ['$']) → ¬ tagOf letters.toList <:+: after.toList →
        statementTexts .postgres (String.join (texts.map (· ++ ";\n"))
            ++ (before ++ "$" ++ letters ++ "$" ++ after))
          = texts ++ [String.ofList (Text.trim (before ++ "$" ++ letters ++ "$" ++ after).toList)] := by
  have hfound : ∀ t ∈ texts, Scan.IsFound .postgres t := by
    intro t ht
    obtain ⟨htext, hnone⟩ := h t ht
    exact Scan.isFound_of_isTokenText htext hnone
  exact ⟨Scan.statementTexts_of_found hfound,
    fun _ _ _ htokens hl hbefore hafter => Scan.statementTexts_of_tag hfound htokens hl hbefore hafter⟩

/-- Statements with dollar signs in their words. -/
def dollarTexts : List String := ["CREATE TABLE a$b (id int)", "SELECT x$1, 'c;' FROM a$b"]

theorem dollars_in_words_dollarTexts :
    statementTexts .postgres (String.join (dollarTexts.map (· ++ ";\n"))) = dollarTexts
    ∧ statementTexts .postgres (String.join (dollarTexts.map (· ++ ";\n"))
        ++ ("CREATE TABLE a" ++ "$" ++ "b" ++ "$" ++ "c (id int);\nCREATE TABLE d (id int);\n"))
      = dollarTexts ++ ["CREATE TABLE a$b$c (id int);\nCREATE TABLE d (id int);"] := by
  have hcreate : IsMadeOfTokens ("CREATE TABLE ".toList ++ 'a' :: (['$', 'b'] ++ " (id int)".toList)) := by
    refine .plain_append (by decide +kernel) (.word_append (by decide) (by decide) ?_)
    exact .plain_append (a := " (id int)".toList) (t := []) (by decide +kernel) .nil
  have hselect : IsMadeOfTokens ("SELECT ".toList ++ 'x' :: (['$', '1'] ++ (", ".toList
      ++ '\'' :: ("c;".toList ++ '\'' :: (" FROM ".toList ++ 'a' :: (['$', 'b'] ++ [])))))) := by
    refine .plain_append (by decide +kernel) (.word_append (by decide) (by decide) ?_)
    refine .plain_append (by decide +kernel) (.quoted (by decide) (.of_all (by decide +kernel)) ?_)
    exact .plain_append (by decide +kernel) (.word_append (by decide) (by decide) .nil)
  -- the letters behind a dollar sign in a word are no tag here, since no second one follows
  have htexts : ∀ t ∈ dollarTexts, IsTokenText t ∧ OpensNoTag t.toList := by
    refine List.forall_mem_cons.2 ⟨⟨?_, by decide +kernel⟩,
      List.forall_mem_singleton.2 ⟨?_, by decide +kernel⟩⟩
    · exact ⟨by decide, by decide +kernel, hcreate, by decide +kernel⟩
    · exact ⟨by decide, by decide +kernel, hselect, by decide +kernel⟩
  obtain ⟨hjoined, htagged⟩ := dollars_in_words htexts
  have hbefore : IsMadeOfTokens "CREATE TABLE a".toList :=
    .plain_append (a := "CREATE TABLE a".toList) (t := []) (by decide +kernel) .nil
  have htag : IsTag "b".toList := by
    refine ⟨List.forall_mem_singleton.2 ?_, fun c hc => ?_⟩
    · unfold IsTagLetter
      decide
    · obtain rfl := Option.some_inj.1 hc
      decide
  refine ⟨hjoined, (htagged _ _ _ hbefore htag (by decide +kernel) (by decide +kernel)).trans ?_⟩
  decide +kernel

/-- A table the name of which reads like a tag, and a statement after it. -/
def taggedTexts : List String := ["CREATE TABLE a$b$c (id int)", "CREATE TABLE d (id int)"]

/-- The tag within the name is taken for the beginning of a dollar quote. -/
theorem taggedTexts_taken_together : (∀ t ∈ taggedTexts, IsTokenText t)
    ∧ statementTexts .postgres (String.join (taggedTexts.map (· ++ ";\n")))
      = ["CREATE TABLE a$b$c (id int);\nCREATE TABLE d (id int);"] := by
  have htagged : IsMadeOfTokens
      ("CREATE TABLE ".toList ++ 'a' :: (['$', 'b', '$', 'c'] ++ " (id int)".toList)) := by
    refine .plain_append (by decide +kernel) (.word_append (by decide) (by decide) ?_)
    exact .plain_append (a := " (id int)".toList) (t := []) (by decide +kernel) .nil
  have hcreate : IsMadeOfTokens "CREATE TABLE d (id int)".toList :=
    .plain_append (a := "CREATE TABLE d (id int)".toList) (t := []) (by decide +kernel) .nil
  refine ⟨List.forall_mem_cons.2 ⟨?_, List.forall_mem_singleton.2 ?_⟩, by decide +kernel⟩
  · exact ⟨by decide, by decide +kernel, htagged, by decide +kernel⟩
  · exact ⟨by decide, by decide +kernel, hcreate, by decide +kernel⟩

end SchemaBridge.Dump
