/-
# Names between quotes

A name between quotes is written with the quotes inside it doubled.  The grammar reads it as it was
meant, whatever it holds.

## Key statements

* `length_doubled`: how much longer a text is with its quotes doubled.
* `quotedNameSpan?_doubled`: a name between quotes is read as it was meant.
-/
import SchemaBridge.Schema.Identifier
import SchemaBridge.Sql.Lexer

namespace SchemaBridge

namespace Identifier

/-- One character more. -/
theorem doubled_cons (q c : Char) (s : List Char) :
    doubled q (c :: s) = (if c == q then [q, q] else [c]) ++ doubled q s := rfl

/-- One character more. -/
theorem backslashed_cons (c : Char) (s : List Char) : backslashed (c :: s)
    = (if c == '\\' || c == '\x60' then ['\\', c] else [c]) ++ backslashed s := rfl

/-- Each quote makes the text longer by one. -/
theorem length_doubled (q : Char) (s : List Char) :
    (doubled q s).length = s.length + s.count q := by
  induction s with
  | nil => rfl
  | cons c r ih => grind [doubled_cons]

/-- No character is new. -/
theorem mem_of_mem_doubled {q c : Char} {s : List Char} (h : c ∈ doubled q s) : c ∈ s := by
  induction s with
  | nil => exact h
  | cons d r ih => grind [doubled_cons]

/-- A text without quotes stays as it is. -/
theorem doubled_of_not_mem {q : Char} {s : List Char} (h : q ∉ s) : doubled q s = s := by
  induction s with
  | nil => rfl
  | cons c r ih => grind [doubled_cons]

end Identifier

namespace Sql

/-- A name as it is written: as it stands, or between quotes with those inside it doubled. -/
def Ident.written (i : Ident) : List Char :=
  match i.quote with
  | none => i.value.toList
  | some q => q :: (Identifier.doubled q i.value.toList ++ [q])

/-- A text without quotes is printed as it stands. -/
theorem doubledFrom_of_not_mem {q : Char} {s : List Char} (h : q ∉ s) (p : Char) :
    doubledFrom q p s = s := by
  fun_induction doubledFrom q p s <;> grind

/-- Doubled quotes are halved again. -/
theorem quotedNameSpan?_doubled (q : Char) (s : List Char) {rest : List Char}
    (h : rest.head? ≠ some q) (done : List Char) :
    quotedNameSpan? q done (Identifier.doubled q s ++ q :: rest)
      = some (String.ofList (done.reverse ++ s), rest) := by
  induction s generalizing done with
  | nil =>
    show quotedNameSpan? q done (q :: rest) = _
    rw [List.append_nil]
    cases rest with
    | nil => simp [quotedNameSpan?]
    | cons c rest =>
      have hne : (c == q) = false := by
        rw [beq_eq_false_iff_ne]
        rintro rfl
        exact h rfl
      simp [quotedNameSpan?, hne]
  | cons c s ih =>
    have hdone : (c :: done).reverse ++ s = done.reverse ++ c :: s := by simp
    rw [Identifier.doubled_cons]
    -- of a doubled quote the first is an escape, and the second is taken
    by_cases hc : c = q
    · subst hc
      simp only [beq_self_eq_true, if_true, List.cons_append, List.nil_append]
      rw [quotedNameSpan?, if_pos (by simp), if_pos (by simp), ih, hdone]
    · have hne : (c == q) = false := beq_eq_false_iff_ne.2 hc
      simp only [hne, Bool.false_eq_true, if_false, List.cons_append, List.nil_append]
      unfold quotedNameSpan?
      rw [if_neg (by simp [hne]), ih, hdone]

end Sql

end SchemaBridge
