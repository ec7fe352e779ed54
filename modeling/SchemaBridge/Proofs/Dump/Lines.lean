/-
# Lines of statements

The scan counts the line ends of every segment it takes, so that its line is the line of the place it
has come to.  A statement's line is that of the place where its first character that is not blank comes
from: the character itself, or the opening of the conditional comment that it stands in.

## Key statements

* `Scan.Reads.line`: the scan is on the line of its place.
* `Scan.IsPlaced.step`, `Scan.IsPlaced.reads`: the statements found so far, and the one that is read,
  are on the lines of their places.
* `exists_beginsAt`: every statement of a dump is on the line of its place.
-/
import SchemaBridge.Proofs.Dump.Scanning

namespace SchemaBridge.Dump

namespace Scan

variable {d : SourceDialect} {s s' : Scan} {c : Char} {r rest : List Char}

/-! ## The line of the scan -/

/-- A move counts the line ends that it takes. -/
theorem Makes.line_add {m : Move} (h : s.Makes d c r m rest) (hsolid : s.delimiter.IsSolid) :
    (s.noted.carry m).line + newlines rest = s.line + newlines (c :: r)
      ∧ (s.noted.carry m).delimiter.IsSolid := by
  obtain ⟨part, rfl, hlines⟩ := h.part
  constructor
  · rw [h.line, hlines hsolid, ← List.cons_append, newlines_append, Nat.add_assoc]
  · have hnoted : s.noted.delimiter.IsSolid := delimiter_noted s ▸ hsolid
    cases m with
    | take _ _ _ => exact hnoted
    | close _ => exact hnoted
    | delimit u => exact (h.delimit u rfl).2 hsolid

/-- The scan is on the line of the place it has come to. -/
theorem Reads.line (h : Reads d s r s' rest) (hsolid : s.delimiter.IsSolid) :
    s'.line + newlines rest = s.line + newlines r := by
  induction h with
  | refl => rfl
  | @step s s' c r rest _ ih =>
    obtain ⟨m, rest', hmakes⟩ := s.exists_move d c r
    obtain ⟨hline, hsolid'⟩ := hmakes.line_add hsolid
    rw [hmakes.step_eq] at ih
    rw [ih hsolid', hline]

/-- The first delimiter has no line end. -/
theorem isSolid_start : start.delimiter.IsSolid := by
  unfold Delimiter.IsSolid start
  decide

/-- The line of a place is one more than the line ends before it. -/
theorem Reads.line_eq {before : List Char} (h : Reads d start (before ++ rest) s rest) :
    s.line = 1 + newlines before := by
  have hline := h.line isSolid_start
  have hone : start.line = 1 := rfl
  rw [newlines_append] at hline
  omega

/-! ## Where statements begin -/

/-- The first character of a statement comes from the place before `c :: r`: it is the character that
stands there, or the first one in the conditional comment that opens there. -/
def Supplies (d : SourceDialect) (c : Char) (r : List Char) (first : Char) : Prop :=
  c = first ∨ d = .mysql ∧ c = '/' ∧ ∃ inner, r = '*' :: '!' :: inner
    ∧ (Text.trimStart (conditionalBody (commentSpan inner).1)).head? = some first

/-- A place in a dump where the statement with a number begins: the scan comes to it while the statement
is blank, and leaves it with something read. -/
structure BeginsAt (d : SourceDialect) (dump : List Char) (number : Nat) (first : Char)
    (before : List Char) (c : Char) (after : List Char) : Prop where
  place : dump = before ++ c :: after
  supplies : Supplies d c after first
  reads : ∃ s, Reads d start dump s (c :: after) ∧ s.statements.length = number ∧ s.isBlank = true
    ∧ (s.step d c after).1.isBlank = false

/-- The line of the place where a statement begins. -/
def IsOnLine (d : SourceDialect) (dump : List Char) (number : Nat) (first : Char) (line : Nat) : Prop :=
  ∃ before c after, BeginsAt d dump number first before c after ∧ line = 1 + newlines before

/-- The statements that have been found, and the one that is read, are on the lines of their places. -/
structure IsPlaced (d : SourceDialect) (dump : List Char) (s : Scan) : Prop where
  statements : ∀ k st, s.statements.reverse[k]? = some st →
    ∃ first, st.text.toList.head? = some first ∧ IsOnLine d dump k first st.line
  current : s.isBlank = false → ∃ first, (Text.trimStart s.current.reverse).head? = some first
    ∧ IsOnLine d dump s.statements.length first s.startLine

/-- At the beginning nothing has been found. -/
theorem IsPlaced.start (d : SourceDialect) (dump : List Char) : IsPlaced d dump start where
  statements k st h := by cases h
  current h := by cases h

/-- Ending a statement puts it among those that have been found. -/
theorem IsPlaced.close {dump : List Char} (h : s.IsPlaced d dump) : s.close.IsPlaced d dump where
  statements k st hk := by
    unfold Scan.close at hk
    dsimp only at hk
    rw [isEmpty_trim] at hk
    cases hblank : s.isBlank with
    | true =>
      rw [hblank] at hk
      exact h.statements k st hk
    | false =>
      rw [hblank, if_neg Bool.false_ne_true, List.reverse_cons, List.getElem?_append] at hk
      -- statements are kept with the last one first
      split at hk
      · exact h.statements k st hk
      · rename_i hlast
        rw [List.length_reverse] at hk hlast
        rw [List.getElem?_singleton] at hk
        split at hk
        · rename_i hzero
          obtain rfl := Option.some_inj.1 hk
          obtain rfl : k = s.statements.length := by omega
          obtain ⟨first, hfirst, hline⟩ := h.current hblank
          refine ⟨first, ?_, hline⟩
          rw [String.toList_ofList, Text.head?_trim, hfirst]
        · cases hk
  current hb := by cases hb

/-- Before its first character nothing is known of a statement. -/
theorem IsPlaced.noted {dump : List Char} (h : s.IsPlaced d dump) : s.noted.IsPlaced d dump where
  statements := by
    rw [statements_noted]
    exact h.statements
  current hb := by
    rw [isBlank_noted] at hb
    have hnoted : s.noted = s := by
      unfold Scan.noted
      rw [hb]
      rfl
    rw [hnoted]
    exact h.current hb

/-- What is taken into a blank statement begins with the character that the place supplies. -/
theorem Move.Begins.exists_supplies {text : List Char} {n : Nat} {b : Bool}
    (h : Move.Begins d c r (.take text n b)) (htext : text.all Text.isBlank = false) :
    ∃ first, (Text.trimStart text).head? = some first ∧ Supplies d c r first := by
  cases h with
  | blank _ _ hblank =>
    rw [hblank] at htext
    cases htext
  | shown _ _ hc hhead =>
    obtain ⟨text, rfl⟩ := List.head?_eq_some_iff.1 hhead
    refine ⟨c, ?_, .inl rfl⟩
    unfold Text.trimStart
    rw [List.dropWhile_cons_of_neg (by simp [hc])]
    rfl
  | @unwrapped inner _ _ hd hc hr =>
    have hspace : [' '].all Text.isBlank = true := by decide
    rw [List.all_append, hspace, Bool.and_true] at htext
    rw [Text.trimStart_append_of_not_blank htext]
    cases hbody : Text.trimStart (conditionalBody (commentSpan inner).1) with
    | nil =>
      rw [Text.trimStart_eq_nil_iff.1 hbody] at htext
      cases htext
    | cons first body => exact ⟨first, rfl, .inr ⟨hd, hc, inner, hr, by rw [hbody]; rfl⟩⟩

/-- The place before a step that begins a statement. -/
theorem Reads.isOnLine {dump : List Char} {first : Char} (h : Reads d start dump s (c :: r))
    (hblank : s.isBlank = true) (hbegun : (s.step d c r).1.isBlank = false)
    (hsupplies : Supplies d c r first) : IsOnLine d dump s.statements.length first s.line := by
  obtain ⟨before, hbefore⟩ := h.isSuffix
  refine ⟨before, c, r, ⟨hbefore.symm, hsupplies, s, h, rfl, hblank, hbegun⟩, ?_⟩
  rw [← hbefore] at h
  exact h.line_eq

/-- A step leaves the statements on their lines. -/
theorem IsPlaced.step {dump : List Char} (hreads : Reads d Scan.start dump s (c :: r))
    (h : s.IsPlaced d dump) : (s.step d c r).1.IsPlaced d dump := by
  obtain ⟨m, rest, hmakes⟩ := s.exists_move d c r
  have hstep := hmakes.step_eq
  rw [hstep]
  cases m with
  | close n => exact ⟨h.noted.close.statements, h.noted.close.current⟩
  | delimit u => exact ⟨h.noted.statements, fun hb => by cases hb⟩
  | take text n b =>
    refine ⟨h.noted.statements, fun hb => ?_⟩
    show ∃ first, (Text.trimStart (text.reverse ++ s.noted.current).reverse).head? = some first ∧ _
    rw [List.reverse_append, List.reverse_reverse]
    -- the first character that is no blank is one of earlier text, or comes with this step
    cases hblank : s.isBlank with
    | false =>
      have hbegun : s.noted.current.reverse.all Text.isBlank = false :=
        List.all_reverse.trans (isBlank_noted.trans hblank)
      obtain ⟨first, hfirst, hline⟩ := h.noted.current (isBlank_noted.trans hblank)
      refine ⟨first, ?_, hline⟩
      rw [Text.trimStart_append_of_not_blank hbegun, List.head?_append, hfirst]
      rfl
    | true =>
      have hnone : s.noted.current.reverse.all Text.isBlank = true :=
        List.all_reverse.trans (isBlank_noted.trans hblank)
      have htext : text.all Text.isBlank = false := by
        have hall : (text.reverse ++ s.noted.current).all Text.isBlank = false := hb
        rw [List.all_append, List.all_reverse, ← List.all_reverse (l := s.noted.current), hnone,
          Bool.and_true] at hall
        exact hall
      obtain ⟨first, hfirst, hsupplies⟩ := hmakes.begins.exists_supplies htext
      rw [Text.trimStart_append_of_blank hnone]
      refine ⟨first, hfirst, ?_⟩
      have hstart : s.noted.startLine = s.line := by
        unfold Scan.noted
        rw [hblank]
        rfl
      show IsOnLine d dump s.noted.statements.length first s.noted.startLine
      rw [statements_noted, hstart]
      refine hreads.isOnLine hblank ?_ hsupplies
      rw [hstep]
      exact hb

theorem IsPlaced.reads {dump : List Char} (hreads : Reads d Scan.start dump s r)
    (h : s.IsPlaced d dump) (hmore : Reads d s r s' rest) : s'.IsPlaced d dump := by
  induction hmore with
  | refl => exact h
  | @step s s' c r rest _ ih =>
    refine ih (hreads.trans ?_) (h.step hreads)
    exact .of_step rfl

end Scan

/-- Every statement of a dump is on the line of the place where it begins. -/
theorem exists_beginsAt {d : SourceDialect} {dump : String} {k : Nat} {st : Statement}
    (h : (statements d dump)[k]? = some st) :
    ∃ first, st.text.toList.head? = some first ∧ Scan.IsOnLine d dump.toList k first st.line := by
  have hplaced := (Scan.IsPlaced.start d dump.toList).reads (.refl _ _) (.run d .start dump.toList)
  exact hplaced.close.statements k st h

end SchemaBridge.Dump
