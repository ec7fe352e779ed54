/-
# Parentheses around a check

The first parenthesis of a text is closed by one other at most.  A check loses a pair of parentheses
exactly if its first one is closed by its last one, where every parenthesis counts, also one inside a
literal or a quoted name.  So the body is the one that is due if and only if it makes no difference
whether these count.

## Key statements

* `paired_iff`: the parentheses of a text pair up as a walk along it says.
* `ClosedBy.unique`: one parenthesis closes the first.
* `checkBody_isBody`: which pair of parentheses a check loses, and when it should.
-/
import Mathlib.Data.List.Basic
import SchemaBridge.Live.Catalogue

namespace SchemaBridge.Live

/-! ## Texts whose parentheses pair up -/

/-- A text whose parentheses pair up.  Those between two marks of a kind are none. -/
inductive Paired (marks : List Char) : List Char → Prop
  | nil : Paired marks []
  | plain {c : Char} {r : List Char} (hopen : c ≠ '(') (hclose : c ≠ ')') (hmark : c ∉ marks)
      (h : Paired marks r) : Paired marks (c :: r)
  | quoted {q : Char} {body r : List Char} (hq : q ∈ marks) (hbody : q ∉ body)
      (h : Paired marks r) : Paired marks (q :: (body ++ q :: r))
  | group {inner r : List Char} (hinner : Paired marks inner) (h : Paired marks r) :
      Paired marks ('(' :: (inner ++ ')' :: r))

/-- The first parenthesis of a text is closed behind `inner`, and `rest` follows. -/
structure ClosedBy (marks s inner rest : List Char) : Prop where
  text : s = '(' :: (inner ++ ')' :: rest)
  paired : Paired marks inner

/-- The marks around literals and names. -/
def quoteMarks : List Char := ['\'', '"']

/-- Whether the parentheses of a text pair up, when `depth` of them are open before it and perhaps a
quotation. -/
def pairsFrom (marks : List Char) : Nat → Option Char → List Char → Bool
  | depth, none, [] => depth = 0
  | _, some _, [] => false
  | depth, some q, c :: r => pairsFrom marks depth (if c = q then none else some q) r
  | depth, none, c :: r =>
    if c = '(' then pairsFrom marks (depth + 1) none r
    else if c = ')' then
      match depth with
      | 0 => false
      | depth + 1 => pairsFrom marks depth none r
    else pairsFrom marks depth (if c ∈ marks then some c else none) r

section Walking

variable {marks : List Char}

/-- An opening parenthesis goes deeper. -/
theorem pairsFrom_open (depth : Nat) (r : List Char) :
    pairsFrom marks depth none ('(' :: r) = pairsFrom marks (depth + 1) none r := by
  simp [pairsFrom]

/-- A closing one comes back. -/
theorem pairsFrom_close (depth : Nat) (r : List Char) :
    pairsFrom marks (depth + 1) none (')' :: r) = pairsFrom marks depth none r := by
  simp [pairsFrom]

/-- One too many closes nothing. -/
theorem pairsFrom_close_zero (r : List Char) : pairsFrom marks 0 none (')' :: r) = false := by
  simp [pairsFrom]

/-- Any other character may open a quotation. -/
theorem pairsFrom_other {c : Char} (hopen : c ≠ '(') (hclose : c ≠ ')') (depth : Nat)
    (r : List Char) : pairsFrom marks depth none (c :: r)
      = pairsFrom marks depth (if c ∈ marks then some c else none) r := by
  simp [pairsFrom, hopen, hclose]

/-- A quotation ends at the next mark of its kind. -/
theorem pairsFrom_quotation {q : Char} {body : List Char} (hbody : q ∉ body) (depth : Nat)
    (r : List Char) : pairsFrom marks depth (some q) (body ++ q :: r)
      = pairsFrom marks depth none r := by
  induction body with
  | nil => simp [pairsFrom]
  | cons c body ih =>
    have hne : c ≠ q := (List.ne_of_not_mem_cons hbody).symm
    rw [List.cons_append, pairsFrom, if_neg hne, ih (List.not_mem_of_not_mem_cons hbody)]

/-- Quotations begin and end with no parenthesis. -/
def IsQuoting (marks : List Char) : Prop := '(' ∉ marks ∧ ')' ∉ marks

/-- No marks quote nothing. -/
theorem isQuoting_nil : IsQuoting [] := ⟨List.not_mem_nil, List.not_mem_nil⟩

/-- Quotation marks are no parentheses. -/
theorem isQuoting_quoteMarks : IsQuoting quoteMarks := by
  constructor <;> decide

/-- A text whose parentheses pair up leaves as many open as were open before. -/
theorem pairsFrom_append (hm : IsQuoting marks) {s : List Char} (h : Paired marks s) (depth : Nat)
    (t : List Char) : pairsFrom marks depth none (s ++ t) = pairsFrom marks depth none t := by
  induction h generalizing depth t with
  | nil => rfl
  | plain hopen hclose hmark _ ih =>
    rw [List.cons_append, pairsFrom_other hopen hclose, if_neg hmark, ih]
  | @quoted q body r hq hbody _ ih =>
    have hopen : q ≠ '(' := fun heq => hm.1 (heq ▸ hq)
    have hclose : q ≠ ')' := fun heq => hm.2 (heq ▸ hq)
    rw [List.cons_append, pairsFrom_other hopen hclose, if_pos hq, List.append_assoc,
      List.cons_append, pairsFrom_quotation hbody, ih]
  | @group inner r _ _ ihinner ih =>
    rw [List.cons_append, pairsFrom_open, List.append_assoc, List.cons_append, ihinner,
      pairsFrom_close, ih]

/-- A text in which a number of open parentheses are closed, one after the other. -/
def PairedFrom (marks : List Char) : Nat → List Char → Prop
  | 0, s => Paired marks s
  | depth + 1, s => ∃ a r, s = a ++ ')' :: r ∧ Paired marks a ∧ PairedFrom marks depth r

/-- What may stand before every text whose parentheses pair up may stand before this one, too. -/
theorem PairedFrom.prepend {p : List Char} (hp : ∀ s, Paired marks s → Paired marks (p ++ s))
    {depth : Nat} {s : List Char} (h : PairedFrom marks depth s) :
    PairedFrom marks depth (p ++ s) := by
  cases depth with
  | zero => exact hp s h
  | succ depth =>
    obtain ⟨a, r, rfl, ha, hr⟩ := h
    exact ⟨p ++ a, r, (List.append_assoc _ _ _).symm, hp a ha, hr⟩

/-- The walk has found a partner for every parenthesis.  The induction takes texts that begin inside a
quotation along, which then ends before the rest. -/
theorem pairedFrom_of_pairsFrom (s : List Char) : ∀ depth,
    (pairsFrom marks depth none s = true → PairedFrom marks depth s)
    ∧ ∀ q, pairsFrom marks depth (some q) s = true →
      ∃ body r, s = body ++ q :: r ∧ q ∉ body ∧ PairedFrom marks depth r := by
  induction s with
  | nil =>
    intro depth
    constructor
    · intro h
      obtain rfl : depth = 0 := by simpa [pairsFrom] using h
      exact .nil
    · intro q h
      cases h
  | cons c s ih =>
    intro depth
    constructor
    · intro h
      -- the walk goes on one level deeper, and comes back at the partner
      by_cases hopen : c = '('
      · subst hopen
        rw [pairsFrom_open] at h
        obtain ⟨a, r, rfl, ha, hr⟩ := (ih (depth + 1)).1 h
        have hgroup : PairedFrom marks depth ('(' :: (a ++ [')']) ++ r) :=
          hr.prepend fun t ht => by simpa using Paired.group ha ht
        simpa using hgroup
      by_cases hclose : c = ')'
      · subst hclose
        cases depth with
        | zero =>
          rw [pairsFrom_close_zero] at h
          cases h
        | succ depth =>
          rw [pairsFrom_close] at h
          exact ⟨[], s, rfl, .nil, (ih depth).1 h⟩
      rw [pairsFrom_other hopen hclose] at h
      by_cases hmark : c ∈ marks
      · rw [if_pos hmark] at h
        obtain ⟨body, r, rfl, hbody, hr⟩ := (ih depth).2 c h
        have hquoted : PairedFrom marks depth (c :: (body ++ [c]) ++ r) :=
          hr.prepend fun t ht => by simpa using Paired.quoted hmark hbody ht
        simpa using hquoted
      · rw [if_neg hmark] at h
        exact ((ih depth).1 h).prepend (p := [c]) fun t ht => .plain hopen hclose hmark ht
    · intro q h
      rw [pairsFrom] at h
      -- the mark that opened a quotation ends it, and no other
      by_cases hq : c = q
      · subst hq
        rw [if_pos rfl] at h
        exact ⟨[], s, rfl, List.not_mem_nil, (ih depth).1 h⟩
      · rw [if_neg hq] at h
        obtain ⟨body, r, rfl, hbody, hr⟩ := (ih depth).2 q h
        exact ⟨c :: body, r, rfl, List.not_mem_cons_of_ne_of_not_mem (Ne.symm hq) hbody, hr⟩

/-- **Parentheses pair up** exactly if a walk along the text ends at the depth at which it began. -/
theorem paired_iff (hm : IsQuoting marks) {s : List Char} :
    Paired marks s ↔ pairsFrom marks 0 none s = true := by
  constructor
  · intro h
    have hwalk := pairsFrom_append hm h 0 []
    rw [List.append_nil] at hwalk
    rw [hwalk]
    rfl
  · exact (pairedFrom_of_pairsFrom s 0).1

/-- **One parenthesis closes the first.** -/
theorem ClosedBy.unique (hm : IsQuoting marks) {s a r a' r' : List Char} (h : ClosedBy marks s a r)
    (h' : ClosedBy marks s a' r') : a = a' ∧ r = r' := by
  -- of two texts that are paired, the longer one would close a parenthesis behind the shorter one
  have hstep : ∀ {a r a' r' : List Char}, Paired marks a → Paired marks a' →
      a ++ ')' :: r = a' ++ ')' :: r' → ∀ x, a' = a ++ x → x = [] := by
    rintro a r a' r' ha ha' heq x rfl
    cases x with
    | nil => rfl
    | cons c x =>
      rw [List.append_assoc, List.append_cancel_left_eq, List.cons_append] at heq
      obtain ⟨rfl, -⟩ := List.cons.inj heq
      have hwalk := (paired_iff hm).1 ha'
      rw [pairsFrom_append hm ha, pairsFrom_close_zero] at hwalk
      cases hwalk
  have hsame : a ++ ')' :: r = a' ++ ')' :: r' :=
    (List.cons.inj (h.text.symm.trans h'.text)).2
  obtain rfl : a = a' := by
    rcases List.append_eq_append_iff.1 hsame with ⟨x, hx, -⟩ | ⟨x, hx, -⟩
    · rw [hx, hstep h.paired h'.paired hsame x hx, List.append_nil]
    · rw [hx, hstep h'.paired h.paired hsame.symm x hx, List.append_nil]
  exact ⟨rfl, (List.cons.inj (List.append_cancel_left hsame)).2⟩

end Walking

/-! ## Quotations without parentheses -/

/-- A text in which no parenthesis stands between two marks of a kind. -/
inductive PlainlyQuoted (marks : List Char) : List Char → Prop
  | nil : PlainlyQuoted marks []
  | plain {c : Char} {r : List Char} (hmark : c ∉ marks) (h : PlainlyQuoted marks r) :
      PlainlyQuoted marks (c :: r)
  | quoted {q : Char} {body r : List Char} (hq : q ∈ marks) (hbody : q ∉ body)
      (hopen : '(' ∉ body) (hclose : ')' ∉ body) (h : PlainlyQuoted marks r) :
      PlainlyQuoted marks (q :: (body ++ q :: r))

/-- A text without marks may come first. -/
theorem PlainlyQuoted.prepend {marks p r : List Char} (hp : ∀ c ∈ p, c ∉ marks)
    (h : PlainlyQuoted marks r) : PlainlyQuoted marks (p ++ r) := by
  induction p with
  | nil => exact h
  | cons c p ih =>
    obtain ⟨hc, hp⟩ := List.forall_mem_cons.1 hp
    exact .plain hc (ih hp)

/-- Where nothing is quoted, a text without parentheses changes no depth. -/
theorem pairsFrom_plain {p : List Char} (hopen : '(' ∉ p) (hclose : ')' ∉ p) (depth : Nat)
    (r : List Char) : pairsFrom [] depth none (p ++ r) = pairsFrom [] depth none r := by
  induction p with
  | nil => rfl
  | cons c p ih =>
    have hc : c ≠ '(' := (List.ne_of_not_mem_cons hopen).symm
    have hc' : c ≠ ')' := (List.ne_of_not_mem_cons hclose).symm
    rw [List.cons_append, pairsFrom_other hc hc', if_neg List.not_mem_nil,
      ih (List.not_mem_of_not_mem_cons hopen) (List.not_mem_of_not_mem_cons hclose)]

/-- Quotations without parentheses need not be told from other text. -/
theorem pairsFrom_of_plainlyQuoted {marks : List Char} (hm : IsQuoting marks) {s : List Char}
    (h : PlainlyQuoted marks s) (depth : Nat) :
    pairsFrom marks depth none s = pairsFrom [] depth none s := by
  induction h generalizing depth with
  | nil => rfl
  | @plain c r hmark _ ih =>
    by_cases hopen : c = '('
    · subst hopen
      rw [pairsFrom_open, pairsFrom_open, ih]
    by_cases hclose : c = ')'
    · subst hclose
      cases depth with
      | zero => rw [pairsFrom_close_zero, pairsFrom_close_zero]
      | succ depth => rw [pairsFrom_close, pairsFrom_close, ih]
    rw [pairsFrom_other hopen hclose, pairsFrom_other hopen hclose, if_neg hmark,
      if_neg List.not_mem_nil, ih]
  | @quoted q body r hq hbody hopen hclose _ ih =>
    have hqopen : q ≠ '(' := fun heq => hm.1 (heq ▸ hq)
    have hqclose : q ≠ ')' := fun heq => hm.2 (heq ▸ hq)
    rw [pairsFrom_other hqopen hqclose, pairsFrom_other hqopen hqclose, if_pos hq,
      if_neg List.not_mem_nil, pairsFrom_quotation hbody, pairsFrom_plain hopen hclose,
      pairsFrom_other hqopen hqclose, if_neg List.not_mem_nil, ih]

/-! ## The body of a check -/

/-- What a check loses by a kind of quotation: the parentheses at its ends if they are a pair, and else
nothing but white space. -/
structure IsBody (marks expression body : List Char) : Prop where
  inside : ∀ inner, ClosedBy marks (Text.trim expression) inner [] → body = inner
  /-- The first parenthesis is closed before the end. -/
  early : ∀ inner rest, ClosedBy marks (Text.trim expression) inner rest → rest ≠ [] →
    body = Text.trim expression
  /-- There is no first parenthesis, or nothing closes it. -/
  bare : (∀ inner rest, ¬ ClosedBy marks (Text.trim expression) inner rest) →
    body = Text.trim expression

/-- The body of a check, as what is between its parentheses or all of it. -/
theorem isBody_iff {marks : List Char} (hm : IsQuoting marks) {expression body : List Char} :
    IsBody marks expression body
      ↔ (∀ inner, ClosedBy marks (Text.trim expression) inner [] → body = inner)
        ∧ ((∀ inner, ¬ ClosedBy marks (Text.trim expression) inner []) →
          body = Text.trim expression) := by
  constructor
  · intro h
    refine ⟨h.inside, fun hnone => ?_⟩
    by_cases hclosed : ∃ inner rest, ClosedBy marks (Text.trim expression) inner rest
    · obtain ⟨inner, rest, hinner⟩ := hclosed
      refine h.early inner rest hinner ?_
      rintro rfl
      exact hnone inner hinner
    · exact h.bare fun inner rest hinner => hclosed ⟨inner, rest, hinner⟩
  · rintro ⟨hinside, hwhole⟩
    refine ⟨hinside, fun inner rest h hrest => ?_, fun hnone => ?_⟩
    · -- a parenthesis that is closed early is not closed at the end as well
      exact hwhole fun inner' h' => hrest (h.unique hm h').2
    · exact hwhole fun inner => hnone inner []

/-- Texts that are the body by two kinds of quotation lose the parentheses by both or by none. -/
theorem IsBody.closedBy {marks marks' : List Char} (hm' : IsQuoting marks')
    {expression body inner : List Char} (h : IsBody marks expression body)
    (h' : IsBody marks' expression body) (hinner : ClosedBy marks (Text.trim expression) inner []) :
    ClosedBy marks' (Text.trim expression) inner [] := by
  have hbody := h.inside inner hinner
  have hlength := congrArg List.length hinner.text
  by_cases hclosed : ∃ inner', ClosedBy marks' (Text.trim expression) inner' []
  · obtain ⟨inner', hinner'⟩ := hclosed
    rwa [hbody.symm.trans (h'.inside inner' hinner')]
  · -- the body would be the whole text, which is longer
    have hwhole := ((isBody_iff hm').1 h').2 fun inner' hinner' => hclosed ⟨inner', hinner'⟩
    rw [← hwhole, hbody] at hlength
    simp only [List.length_cons, List.length_append, List.length_nil] at hlength
    omega

/-- What is between two characters. -/
theorem between?_eq_some_iff {first last : Char} {s inner : List Char} :
    between? first last s = some inner ↔ s = first :: (inner ++ [last]) := by
  cases s with
  | nil => simp [between?]
  | cons c r =>
    unfold between?
    dsimp only
    constructor
    · intro h
      by_cases hends : c = first ∧ r.getLast? = some last
      · rw [if_pos hends] at h
        obtain ⟨rfl, hlast⟩ := hends
        obtain rfl := Option.some.inj h
        rw [List.dropLast_append_getLast? last hlast]
      · rw [if_neg hends] at h
        cases h
    · intro h
      obtain ⟨rfl, rfl⟩ := List.cons.inj h
      simp

/-- The parentheses of a text are counted as those of one without quotations. -/
theorem balancedFrom_eq (depth : Nat) (s : List Char) :
    balancedFrom depth s = pairsFrom [] depth none s := by
  induction s generalizing depth with
  | nil => cases depth <;> rfl
  | cons c r ih =>
    by_cases hopen : c = '('
    · subst hopen
      rw [pairsFrom_open, ← ih]
      cases depth <;> rfl
    by_cases hclose : c = ')'
    · subst hclose
      cases depth with
      | zero =>
        rw [pairsFrom_close_zero]
        rfl
      | succ depth =>
        rw [pairsFrom_close, ← ih]
        rfl
    rw [pairsFrom_other hopen hclose, if_neg List.not_mem_nil, ← ih]
    cases depth <;> simp [balancedFrom, hclose]

/-- Parentheses are balanced if each has a partner, where every one counts. -/
theorem balanced_iff {s : List Char} : balanced s = true ↔ Paired [] s := by
  rw [paired_iff isQuoting_nil, ← balancedFrom_eq]
  rfl

/-- A text is closed by its last parenthesis if those inside it have partners. -/
theorem closedBy_iff {marks s inner : List Char} :
    ClosedBy marks s inner [] ↔ between? '(' ')' s = some inner ∧ Paired marks inner := by
  rw [between?_eq_some_iff]
  exact ⟨fun h => ⟨h.text, h.paired⟩, fun h => ⟨h.1, h.2⟩⟩

/-- A check loses its outer parentheses as if nothing were quoted. -/
theorem isBody_checkBody (expression : List Char) : IsBody [] expression (checkBody expression) := by
  rw [isBody_iff isQuoting_nil]
  unfold checkBody
  dsimp only
  constructor
  · intro inner h
    obtain ⟨hbetween, hpaired⟩ := closedBy_iff.1 h
    rw [hbetween]
    exact if_pos (balanced_iff.2 hpaired)
  · intro hnone
    split
    · rename_i inner hbetween
      refine if_neg fun hbalanced => hnone inner ?_
      exact closedBy_iff.2 ⟨hbetween, balanced_iff.1 hbalanced⟩
    · rfl

/-- **The body of a check.**  A check loses the parentheses at its ends if they are a pair among all
that it has.  That is what it should lose if and only if they are one as well when those in literals
and quoted names are left aside, or in neither case, which is so if these hold none. -/
theorem checkBody_isBody (expression : List Char) :
    IsBody [] expression (checkBody expression)
    ∧ (IsBody quoteMarks expression (checkBody expression)
      ↔ ∀ inner, ClosedBy [] (Text.trim expression) inner []
        ↔ ClosedBy quoteMarks (Text.trim expression) inner [])
    ∧ ((∀ inner, Text.trim expression = '(' :: (inner ++ [')']) → PlainlyQuoted quoteMarks inner) →
      IsBody quoteMarks expression (checkBody expression)) := by
  have hcode := isBody_checkBody expression
  have hiff : IsBody quoteMarks expression (checkBody expression)
      ↔ ∀ inner, ClosedBy [] (Text.trim expression) inner []
        ↔ ClosedBy quoteMarks (Text.trim expression) inner [] := by
    constructor
    · intro h inner
      exact ⟨hcode.closedBy isQuoting_quoteMarks h, h.closedBy isQuoting_nil hcode⟩
    · intro hsame
      rw [isBody_iff isQuoting_nil] at hcode
      rw [isBody_iff isQuoting_quoteMarks]
      simp only [hsame] at hcode
      exact hcode
  refine ⟨hcode, hiff, fun hplain => hiff.2 fun inner => ?_⟩
  rw [closedBy_iff, closedBy_iff, between?_eq_some_iff]
  refine and_congr_right fun htext => ?_
  rw [paired_iff isQuoting_nil, paired_iff isQuoting_quoteMarks,
    pairsFrom_of_plainlyQuoted isQuoting_quoteMarks (hplain inner htext)]

/-- A check with a quotation that holds no parenthesis. -/
def plainCheck : List Char := " (mark <> 'a''b')".toList

theorem checkBody_isBody_plainCheck :
    (∀ inner, Text.trim plainCheck = '(' :: (inner ++ [')']) → PlainlyQuoted quoteMarks inner)
    ∧ IsBody quoteMarks plainCheck (checkBody plainCheck)
    ∧ checkBody plainCheck = "mark <> 'a''b'".toList := by
  have hplain : ∀ inner, Text.trim plainCheck = '(' :: (inner ++ [')']) →
      PlainlyQuoted quoteMarks inner := by
    intro inner h
    have hinner : between? '(' ')' (Text.trim plainCheck) = some ("mark <> 'a''b'".toList) := by
      decide
    rw [between?_eq_some_iff.2 h] at hinner
    obtain rfl := Option.some.inj hinner
    -- a doubled mark ends one quotation and begins the next
    have hlast : PlainlyQuoted quoteMarks ('\'' :: (['b'] ++ '\'' :: [])) :=
      .quoted (by decide) (by decide) (by decide) (by decide) .nil
    have hquoted : PlainlyQuoted quoteMarks
        ('\'' :: (['a'] ++ '\'' :: ('\'' :: (['b'] ++ '\'' :: [])))) :=
      .quoted (by decide) (by decide) (by decide) (by decide) hlast
    have hfront : ∀ c ∈ "mark <> ".toList, c ∉ quoteMarks := by
      have hall : ("mark <> ".toList.all fun c => decide (c ∉ quoteMarks)) = true := by decide
      simpa using List.all_eq_true.1 hall
    exact .prepend hfront hquoted
  exact ⟨hplain, (checkBody_isBody plainCheck).2.2 hplain, by decide⟩

/-- A check of two parts that are compared with a parenthesis each, and one that is compared with a
closing parenthesis. -/
theorem misread_checks :
    (ClosedBy quoteMarks "(a = '(') AND (b = ')')".toList "a = '('".toList " AND (b = ')')".toList
      ∧ checkBody "(a = '(') AND (b = ')')".toList = "a = '(') AND (b = ')'".toList
      ∧ ¬ IsBody quoteMarks "(a = '(') AND (b = ')')".toList
        (checkBody "(a = '(') AND (b = ')')".toList))
    ∧ ClosedBy quoteMarks "(mark <> ')'::text)".toList "mark <> ')'::text".toList []
      ∧ checkBody "(mark <> ')'::text)".toList = "(mark <> ')'::text)".toList
      ∧ ¬ IsBody quoteMarks "(mark <> ')'::text)".toList
        (checkBody "(mark <> ')'::text)".toList) := by
  have hfirst : ClosedBy quoteMarks "(a = '(') AND (b = ')')".toList "a = '('".toList
      " AND (b = ')')".toList :=
    ⟨by decide, (paired_iff isQuoting_quoteMarks).2 (by decide)⟩
  have hwhole : ClosedBy quoteMarks "(mark <> ')'::text)".toList "mark <> ')'::text".toList [] :=
    ⟨by decide, (paired_iff isQuoting_quoteMarks).2 (by decide)⟩
  refine ⟨⟨hfirst, by decide, fun h => ?_⟩, hwhole, by decide, fun h => ?_⟩
  · exact absurd (h.early _ _ hfirst (by decide)) (by decide)
  · exact absurd (h.inside _ hwhole) (by decide)

end SchemaBridge.Live
