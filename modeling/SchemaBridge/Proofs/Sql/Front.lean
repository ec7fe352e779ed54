/-
# Reading from the front

A parser takes its tokens from the front and leaves the others: what is left is a suffix of what was
there.  This holds of the parsers that take single tokens, and passes from parsers to what is made
of them: their sequences, choices, attempts and repetitions.  Where a parser is such a composition
the instances below find that out; where its cases depend on what was read the cases are gone
through one by one.

## Key statements

* `Takes.bind`: one parser after another.
* `Takes.exists_eq_append`: the tokens that were taken and those that are left.
-/
import Mathlib.Data.List.Basic
import SchemaBridge.Sql.TypeName

namespace SchemaBridge.Sql

namespace Parser

variable {α β : Type}

/-- A parser takes its tokens from the front. -/
class Takes (p : Parser α) : Prop where
  suffix {ts rest : List Token} {a : α} (h : p ts = .ok (a, rest)) : rest <:+ ts

/-- What a parser leaves is an end of what it was given. -/
theorem Takes.exists_eq_append {p : Parser α} [Takes p] {ts rest : List Token} {a : α}
    (h : p ts = .ok (a, rest)) : ∃ taken, ts = taken ++ rest := by
  obtain ⟨taken, ht⟩ := Takes.suffix h
  exact ⟨taken, ht.symm⟩

/-! ## Compositions -/

/-- A sequence that succeeds consists of two parsers that do. -/
theorem bind_eq_ok {p : Parser α} {f : α → Parser β} {ts rest : List Token} {b : β} :
    (p >>= f) ts = .ok (b, rest) ↔ ∃ a mid, p ts = .ok (a, mid) ∧ f a mid = .ok (b, rest) := by
  show Except.bind (p ts) (fun x => f x.1 x.2) = _ ↔ _
  cases p ts with
  | error e => simp [Except.bind]
  | ok x => simp [Except.bind, Prod.ext_iff]

/-- Two parsers, one after the other. -/
theorem Takes.bind {p : Parser α} {f : α → Parser β} [hp : Takes p] (hf : ∀ a, Takes (f a)) :
    Takes (p >>= f) where
  suffix h := by
    obtain ⟨a, mid, ha, hb⟩ := bind_eq_ok.1 h
    exact ((hf a).suffix hb).trans (hp.suffix ha)

instance {p : Parser α} {f : α → Parser β} [Takes p] [∀ a, Takes (f a)] : Takes (p >>= f) :=
  .bind inferInstance

instance (a : α) : Takes (pure a : Parser α) where
  suffix h := by
    cases h
    exact List.suffix_rfl

instance {p : Parser α} {f : α → β} [Takes p] : Takes (f <$> p) := by
  rw [map_eq_pure_bind]
  infer_instance

instance (e : Failure) : Takes (throw e : Parser α) where
  suffix h := by cases h

instance : Takes (fail : Parser α) := inferInstanceAs (Takes (throw _))

/-- One of two parsers. -/
theorem Takes.ite {c : Prop} [Decidable c] {p q : Parser α} (hp : Takes p) (hq : Takes q) :
    Takes (if c then p else q) := by
  split <;> assumption

instance {c : Prop} [Decidable c] {p q : Parser α} [Takes p] [Takes q] :
    Takes (if c then p else q) :=
  .ite inferInstance inferInstance

/-- A parser that looks at the tokens that are left, as one does whose steps they bound. -/
instance {p : List Token → Parser α} [∀ ts, Takes (p ts)] : Takes (fun ts => p ts ts) where
  suffix {ts _ _} h := Takes.suffix (p := p ts) h

instance {p : Parser α} [Takes p] : Takes (attempt p) where
  suffix h := by
    unfold attempt at h
    split at h
    next hp =>
      cases h
      exact Takes.suffix hp
    next => cases h
    next =>
      cases h
      exact List.suffix_rfl

/-! ## Single tokens -/

instance : Takes peek where
  suffix h := by
    cases h
    exact List.suffix_rfl

instance (n : Nat) : Takes (peekNth n) where
  suffix h := by
    cases h
    exact List.suffix_rfl

instance : Takes skip where
  suffix h := by
    cases h
    exact List.tail_suffix _

instance : Takes next where
  suffix {ts _ _} h := by
    cases ts with
    | nil => cases h
    | cons t r =>
      cases h
      exact List.suffix_cons _ _

instance (ks : List String) : Takes (keywords ks) where
  suffix h := by
    unfold keywords at h
    split at h <;> cases h
    · exact List.drop_suffix _ _
    · exact List.suffix_rfl

instance : Takes peekKey := by unfold peekKey; infer_instance

instance (s : String) : Takes (peekSymbol s) := by unfold peekSymbol; infer_instance

instance (k : String) : Takes (keyword k) := by unfold keyword; infer_instance

instance (ks : List String) : Takes (oneOf ks) := by unfold oneOf; infer_instance

instance (k : String) : Takes (expectKeyword k) := by unfold expectKeyword; infer_instance

instance (ks : List String) : Takes (expectKeywords ks) := by unfold expectKeywords; infer_instance

instance (s : String) : Takes (symbol s) := by unfold symbol; infer_instance

instance (s : String) : Takes (expect s) := by unfold expect; infer_instance

/-! ## Repetitions -/

/-- A parser between parentheses. -/
theorem Takes.parenthesized {p : Parser α} (hp : Takes p) : Takes (parenthesized p) := by
  unfold Parser.parenthesized
  infer_instance

instance {p : Parser α} [Takes p] : Takes (parenthesized p) := .parenthesized inferInstance

instance {p : Parser α} [Takes p] (fuel : Nat) : Takes (commaItems p fuel) := by
  induction fuel with
  | zero => exact inferInstanceAs (Takes fail)
  | succ fuel ih =>
    unfold commaItems
    infer_instance

instance {p : Parser α} [Takes p] : Takes (commaSeparated p) := by
  unfold commaSeparated
  infer_instance

instance {p : Parser (Option α)} [Takes p] (fuel : Nat) : Takes (repeatFuel p fuel) := by
  induction fuel with
  | zero => exact inferInstanceAs (Takes (pure []))
  | succ fuel ih =>
    unfold repeatFuel
    refine .bind fun o => ?_
    split <;> infer_instance

instance {p : Parser (Option α)} [Takes p] : Takes (many p) := by unfold many; infer_instance

/-! ## Names and literals -/

instance : Takes ident := by
  unfold ident
  refine .bind fun t => ?_
  split <;> infer_instance

instance (fuel : Nat) : Takes (nameParts fuel) := by
  induction fuel with
  | zero => exact inferInstanceAs (Takes (pure []))
  | succ fuel ih =>
    unfold nameParts
    infer_instance

instance : Takes objectName := by unfold objectName; infer_instance

instance : Takes wholeNumber := by
  unfold wholeNumber
  refine .bind fun t => ?_
  split
  · split <;> infer_instance
  · infer_instance

instance : Takes parameterName := by
  unfold parameterName
  refine .bind fun t => ?_
  split <;> infer_instance

instance (d : Dialect) : Takes (literalText d) := by
  unfold literalText
  refine .bind fun t => ?_
  split <;> infer_instance

instance : Takes columnNames := by unfold columnNames; infer_instance

instance : Takes optionalColumnNames := by unfold optionalColumnNames; infer_instance

end Parser

/-! ## Types -/

namespace TypeName

open Sql.Parser

instance : Takes optionalPrecision := by unfold optionalPrecision; infer_instance

instance : Takes optionalLength := by
  unfold optionalLength
  repeat' first | infer_instance | refine .bind fun _ => ?_ | split

instance : Takes optionalScale := by unfold optionalScale; infer_instance

instance : Takes labels := by
  unfold labels
  extract_lets label
  have hlabel : Takes label := .bind fun t => by split <;> infer_instance
  infer_instance

instance (fuel : Nat) : Takes (customParameters fuel) := by
  induction fuel with
  | zero => exact inferInstanceAs (Takes fail)
  | succ fuel ih =>
    unfold customParameters
    refine .bind fun t => ?_
    split <;> infer_instance

instance : Takes custom := by unfold custom; infer_instance

instance (text : String) : Takes (integer text) := by unfold integer; infer_instance

instance : Takes timeZone := by unfold timeZone; infer_instance

instance (text : String) : Takes (character text) := by unfold character; infer_instance

instance (d : Dialect) : Takes (preciseDate d) := by unfold preciseDate; infer_instance

/-- What is true of either choice. -/
theorem forall_mem_ite {α : Type} {c : Prop} [Decidable c] {x y : Option α} {P : α → Prop}
    (hx : ∀ a ∈ x, P a) (hy : ∀ a ∈ y, P a) : ∀ a ∈ if c then x else y, P a := by
  split <;> assumption

/-- What a keyword begins is taken from the front. -/
theorem takes_of_mem_ofKeyword? {d : Dialect} {k : String} : ∀ p ∈ ofKeyword? d k, Takes p := by
  unfold ofKeyword?
  split
  · rintro _ ⟨⟩
    infer_instance
  · repeat refine forall_mem_ite (by rintro _ ⟨⟩; infer_instance) ?_
    rintro _ ⟨⟩

instance (d : Dialect) (fuel : Nat) (t : TypeName) : Takes (arrayLevels d fuel t) := by
  induction fuel generalizing t with
  | zero => exact inferInstanceAs (Takes (pure t))
  | succ fuel ih =>
    unfold arrayLevels
    infer_instance

instance (d : Dialect) (fuel : Nat) : Takes (readFrom d fuel) := by
  induction fuel with
  | zero => exact inferInstanceAs (Takes fail)
  | succ fuel ih =>
    unfold readFrom
    refine .bind fun k => ?_
    split
    · repeat' first | infer_instance | refine .bind fun _ => ?_
    · extract_lets levels
      have hlevels (t) : Takes (levels t) := by unfold levels; infer_instance
      split
      · next hp =>
        have := takes_of_mem_ofKeyword? _ hp
        infer_instance
      · refine .bind fun t => ?_
        split <;> infer_instance

instance (d : Dialect) : Takes (read d) := by unfold read; infer_instance

end TypeName

end SchemaBridge.Sql
