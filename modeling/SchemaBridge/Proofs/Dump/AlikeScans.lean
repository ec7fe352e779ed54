/-
# Scans that find the same statements

White space in front of a statement and the lines of a dump do not decide what a scan does.  Two scans
that differ in nothing else take the same steps and find the same statements, on lines that correspond.
Statements that one of them had found before are left alone.

## Key statements

* `Scan.Alike.step`, `Scan.Alike.run`: one step and all steps of two scans.
* `Scan.Alike.close_run`: the statements that both find.
-/
import Mathlib.Data.List.Forall2
import SchemaBridge.Proofs.Dump.Scanning

namespace SchemaBridge.Dump

/-- Statements of one text, on lines that correspond. -/
structure Statement.Corresponds (P : Nat → Nat → Prop) (a b : Statement) : Prop where
  text : b.text = a.text
  line : P a.line b.line

/-- Statements that correspond have the same texts. -/
theorem Statement.map_text_of_forall₂ {P : Nat → Nat → Prop} {a b : List Statement}
    (h : List.Forall₂ (Corresponds P) a b) : b.map text = a.map text := by
  induction h with
  | nil => rfl
  | cons hcorresponds _ ih => rw [List.map_cons, List.map_cons, hcorresponds.text, ih]

namespace Scan

/-- Two texts, last character first, that are the same but for white space in front. -/
def SameButFront (a b : List Char) : Prop :=
  ∃ x u v, a = x ++ u ∧ b = x ++ v ∧ u.all Text.isBlank = true ∧ v.all Text.isBlank = true

/-- Two scans that differ in white space in front of the statement they read and in lines.  One of them
has found some statements before. -/
structure Alike (P : Nat → Nat → Prop) (before : List Statement) (s t : Scan) : Prop where
  statements : ∃ found, t.statements = found ++ before
    ∧ List.Forall₂ (Statement.Corresponds P) s.statements found
  current : SameButFront s.current t.current
  line : P s.line t.line
  startLine : s.isBlank = false → P s.startLine t.startLine
  delimiter : t.delimiter = s.delimiter
  conditionalOnly : t.conditionalOnly = s.conditionalOnly

namespace SameButFront

variable {a b : List Char}

theorem refl (a : List Char) : SameButFront a a :=
  ⟨a, [], [], (List.append_nil a).symm, (List.append_nil a).symm, rfl, rfl⟩

/-- Blanks in front of nothing. -/
theorem of_blank (ha : a.all Text.isBlank = true) (hb : b.all Text.isBlank = true) :
    SameButFront a b := ⟨[], a, b, rfl, rfl, ha, hb⟩

/-- Texts that differ in front, with more after them. -/
theorem append (h : SameButFront a b) (text : List Char) :
    SameButFront (text ++ a) (text ++ b) := by
  obtain ⟨x, u, v, rfl, rfl, hu, hv⟩ := h
  exact ⟨text ++ x, u, v, (List.append_assoc _ _ _).symm, (List.append_assoc _ _ _).symm, hu, hv⟩

/-- Such texts are blank both or neither. -/
theorem all_isBlank (h : SameButFront a b) : b.all Text.isBlank = a.all Text.isBlank := by
  obtain ⟨x, u, v, rfl, rfl, hu, hv⟩ := h
  rw [List.all_append, List.all_append, hu, hv]

theorem trim_reverse (h : SameButFront a b) : Text.trim b.reverse = Text.trim a.reverse := by
  obtain ⟨x, u, v, rfl, rfl, hu, hv⟩ := h
  have hu' : u.reverse.all Text.isBlank = true := List.all_reverse.trans hu
  have hv' : v.reverse.all Text.isBlank = true := List.all_reverse.trans hv
  rw [List.reverse_append, List.reverse_append, Text.trim_append_of_blank hu',
    Text.trim_append_of_blank hv']

end SameButFront

variable {P : Nat → Nat → Prop} {before : List Statement} {d : SourceDialect} {s t : Scan}

namespace Alike

/-- Scans that are alike see the same of what follows. -/
theorem sameView (h : Alike P before s t) (d : SourceDialect) : SameView d s t :=
  ⟨h.current.all_isBlank, fun _ => h.current.trim_reverse, h.delimiter, h.conditionalOnly⟩

/-- Before the first characters of their statements both note their lines. -/
theorem noted (h : Alike P before s t) :
    Alike P before s.noted t.noted ∧ P s.noted.startLine t.noted.startLine := by
  have hblank : t.isBlank = s.isBlank := h.current.all_isBlank
  unfold Scan.noted
  cases hs : s.isBlank with
  | true =>
    rw [hblank.trans hs]
    exact ⟨⟨h.statements, h.current, h.line, fun _ => h.line, h.delimiter, h.conditionalOnly⟩, h.line⟩
  | false =>
    rw [hblank.trans hs]
    exact ⟨h, h.startLine hs⟩

theorem close (h : Alike P before s t) : Alike P before s.close t.close := by
  obtain ⟨found, hfound, hall⟩ := h.statements
  have htext := h.current.trim_reverse
  refine ⟨?_, .refl [], h.line, fun hb => (nomatch hb), h.delimiter, rfl⟩
  unfold Scan.close
  dsimp only
  rw [htext, isEmpty_trim]
  cases hblank : s.isBlank with
  | true => exact ⟨found, hfound, hall⟩
  | false =>
    -- a statement that is not blank has had its line noted
    rw [hfound]
    exact ⟨_ :: found, rfl, .cons ⟨rfl, h.startLine hblank⟩ hall⟩

variable (hP : ∀ {l l'} n, P l l' → P (l + n) (l' + n))
include hP

theorem carry (h : Alike P before s t) (hstart : P s.startLine t.startLine) (m : Move) :
    Alike P before (s.carry m) (t.carry m) := by
  cases m with
  | take text n b =>
    exact ⟨h.statements, h.current.append text.reverse, hP n h.line, fun _ => hstart, h.delimiter, rfl⟩
  | close n =>
    obtain ⟨hstatements, hcurrent, hline, hstartLine, hdelimiter, hconditional⟩ := h.close
    exact ⟨hstatements, hcurrent, hP n h.line, hstartLine, hdelimiter, hconditional⟩
  | delimit u =>
    exact ⟨h.statements, .refl [], h.line, fun hb => (nomatch hb), rfl, h.conditionalOnly⟩

/-- Both take the same step. -/
theorem step (h : Alike P before s t) (c : Char) (r : List Char) :
    (t.step d c r).2 = (s.step d c r).2
      ∧ Alike P before (s.step d c r).1 (t.step d c r).1 := by
  obtain ⟨m, rest, hmakes⟩ := s.exists_move d c r
  obtain ⟨hnoted, hstart⟩ := h.noted
  rw [hmakes.step_eq, hmakes.step t (h.sameView d)]
  exact ⟨rfl, hnoted.carry hP hstart m⟩

/-- Both go through a text alike. -/
theorem run (h : Alike P before s t) (r : List Char) : Alike P before (s.run d r) (t.run d r) := by
  induction hn : r.length using Nat.strong_induction_on generalizing s t r with
  | _ n ih =>
    cases r with
    | nil =>
      rw [run_nil, run_nil]
      exact h
    | cons c r =>
      obtain ⟨hrest, hstep⟩ := h.step hP (d := d) c r
      rw [run_cons, run_cons, hrest]
      refine ih (s.step d c r).2.length ?_ hstep _ rfl
      have hlength := length_step d s c r
      simp only [List.length_cons] at hn
      omega

/-- Both find the same statements. -/
theorem close_run (h : Alike P before s t) (r : List Char) :
    ∃ found, (t.run d r).close.statements = found ++ before
      ∧ List.Forall₂ (Statement.Corresponds P) (s.run d r).close.statements found :=
  (h.run hP r).close.statements

end Alike

end Scan

end SchemaBridge.Dump
