/-
# The part of a text that is translated

Of a text only the expression at its front is translated, however the library finds it.  The tokens
after it are not looked at: they neither keep the text from being translated nor are they in the
translation, whatever they say about the expression before them.  Only where no expression is at the
front the text stays as it is.

## Key statements

* `translate_front`: what becomes of every text, and that this is what is verified and emitted.
-/
import SchemaBridge.Ddl.Statement
import SchemaBridge.Proofs.Verification.Rewriting
import SchemaBridge.Verification.Run

namespace SchemaBridge.Verification

open Sql (Library Token)
open Sql.Library (IsAtFront)

/-- A text is translated as the expression at its front, or stays as it is if there is none; and the
translation is what is verified and emitted. -/
theorem translate_front {L : Library} (lawful : L.IsLawful) (source : SourceDialect)
    (d : TargetDialect) (t : Table) (text : String) :
    ((∀ e taken rest, ¬ IsAtFront L (.ofSource source) text e taken rest)
        ∧ translateWith L source d t text = text
      ∨ ∃ e taken rest e', IsAtFront L (.ofSource source) text e taken rest
        ∧ (∀ e₂ taken₂ rest₂, IsAtFront L (.ofSource source) text e₂ taken₂ rest₂ →
          e₂ = e ∧ taken₂ = taken ∧ rest₂ = rest)
        ∧ Rewrites L source d t e e' ∧ translateWith L source d t text = L.print e')
    ∧ (∀ x : Expression, x.source = text → x.status = .unverified →
      Ddl.expressionText ⟨source, d⟩ t x = some (translate source d t text))
    ∧ ∀ (m : Model) (slot : ExpressionSlot) (x : Expression), m.source = source → m.target = d →
      m.table? slot.table = some t → m.expression? slot = some x → x.source = text →
      (requestFor? m slot).map (·.text) = some (translate source d t text) := by
  refine ⟨?_, ?_, ?_⟩
  · -- both readings of a text are the same one, of the expression and of the tokens it takes
    cases hparsed : L.expression? (.ofSource source) text with
    | none =>
      refine .inl ⟨fun e taken rest h => ?_, by rw [translateWith, hparsed]⟩
      have hsome := lawful.exists_isAtFront_iff.1 ⟨taken, rest, h⟩
      rw [hparsed] at hsome
      cases hsome
    | some e =>
      obtain ⟨taken, rest, h⟩ := lawful.exists_isAtFront_iff.2 hparsed
      refine .inr ⟨e, taken, rest, _, h, fun e₂ taken₂ rest₂ h₂ => h₂.unique h,
        rewrites_visit lawful source d t e, ?_⟩
      rw [translateWith, hparsed]
  · rintro x rfl hstatus
    rw [Ddl.expressionText, hstatus]
  · rintro m slot x rfl rfl htable hexpression rfl
    rw [requestFor?, htable, hexpression]
    rfl

/-! ## A check that is not read to its end -/

/-- In PostgreSQL this asks whether the comparison has no truth value, but the word for that is no
operator the library knows. -/
def unknownText : String := "price > 0 ISNULL"

/-- Prices with that check. -/
def unknownPrices : Table :=
  { tableWith ["price"] with checks := [⟨⟨3⟩, "unknown_price", .fresh unknownText⟩] }

/-- A model of this table. -/
def unknownPricesModel : Model :=
  { Model.empty .postgres .google (Audit.start "request" ⟨0, 0⟩) with
    tables := [(⟨1⟩, unknownPrices)]
    nextId := 4 }

/-- The word after the comparison is left over. -/
theorem rest_unknownText {e : Sql.Expr} {taken rest : List Token}
    (h : IsAtFront Sql.library .postgres unknownText e taken rest) :
    rest = [.word (.bare "ISNULL") "ISNULL"] := by
  have hread : (Sql.tokens? .postgres unknownText).bind
      (fun ts => (Sql.Expr.front? .postgres ts).map (·.2))
      = some [.word (.bare "ISNULL") "ISNULL"] := by decide +kernel
  have htokens : Sql.tokens? .postgres unknownText = some (taken ++ rest) := h.tokens
  have hfront : Sql.Expr.front? .postgres (taken ++ rest) = some (e, rest) := h.read
  rw [htokens, Option.bind_some, hfront] at hread
  exact Option.some.inj hread

/-- The operator after the comparison is lost. -/
theorem translate_unknownText :
    translate .postgres .google unknownPrices unknownText = "`price` > 0" := by
  decide +kernel

/-- Nothing of the last word is left in what is verified and emitted. -/
theorem translate_front_unknownPrices :
    (∃ (e : Sql.Expr) (taken : List Token) (e' : Sql.Expr),
      IsAtFront Sql.library .postgres unknownText e taken [.word (.bare "ISNULL") "ISNULL"]
        ∧ Rewrites Sql.library .postgres .google unknownPrices e e' ∧ e'.print = "`price` > 0")
    ∧ (requestFor? unknownPricesModel (.check ⟨1⟩ ⟨3⟩)).map (·.text) = some "`price` > 0"
    ∧ Ddl.expressionText ⟨.postgres, .google⟩ unknownPrices (.fresh unknownText)
      = some "`price` > 0" := by
  obtain ⟨hfront, hemitted, hverified⟩ :=
    translate_front Sql.isLawful_library .postgres .google unknownPrices unknownText
  rw [translate_unknownText] at hemitted hverified
  refine ⟨?_, hverified _ _ (.fresh unknownText) rfl rfl (by decide) (by decide) rfl,
    hemitted (.fresh unknownText) rfl rfl⟩
  rcases hfront with ⟨-, hsame⟩ | ⟨e, taken, rest, e', h, -, hrewrites, hprint⟩
  · exact absurd (translate_unknownText.symm.trans hsame) (by decide)
  · obtain rfl := rest_unknownText h
    exact ⟨e, taken, e', h, hrewrites, hprint.symm.trans translate_unknownText⟩

/-- The text is neither read to its end nor left as it is. -/
theorem truncated_check :
    ¬ ((∃ e taken, IsAtFront Sql.library .postgres unknownText e taken [])
      ∨ translate .postgres .google unknownPrices unknownText = unknownText) := by
  rintro (⟨e, taken, h⟩ | hsame)
  · cases rest_unknownText h
  · rw [translate_unknownText] at hsame
    exact absurd hsame (by decide)

end SchemaBridge.Verification
