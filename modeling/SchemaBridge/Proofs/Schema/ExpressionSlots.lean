/-
# One expression in each slot

A model is what it is without its expressions, together with the list of these.  So what a change in
one slot of a valid model does is said by both: the list differs in the expression at one place, and
all that is left without expressions is as it was.

## Key statements

* `Model.eq_of_bare`: a model is known by its bare tables and its expressions.
* `Model.HasDistinctParts.expressions_modifyExpression`: the list after a change.
* `Model.slots_address`: each slot leads to one expression, and no other one changes with it.
-/
import SchemaBridge.Proofs.Verification.Expressions

namespace SchemaBridge

/-! ## A model by its parts -/

/-- Two lists are the same if their elements look the same and the same is listed of them: how much is
listed of an element is known by its look, and the element by both. -/
theorem eq_of_map_of_flatMap {α β γ : Type} {look : α → β} {listed : α → List γ}
    (hlength : ∀ x y, look x = look y → (listed x).length = (listed y).length)
    (hext : ∀ x y, look x = look y → listed x = listed y → x = y) {l l' : List α}
    (hlook : l.map look = l'.map look) (hlisted : l.flatMap listed = l'.flatMap listed) : l = l' := by
  induction l generalizing l' with
  | nil => exact (List.map_eq_nil_iff.1 hlook.symm).symm
  | cons x l ih =>
    obtain ⟨y, l', rfl, hhead, htail⟩ := List.map_eq_cons_iff.1 hlook.symm
    rw [List.flatMap_cons, List.flatMap_cons] at hlisted
    obtain ⟨hx, hl⟩ := List.append_inj hlisted (hlength x y hhead.symm)
    rw [hext x y hhead.symm hx, ih htail.symm hl]

/-- A column has as many expressions without their contents. -/
theorem length_columnExpressions_bare (k : TableId) (c : Column) :
    (Model.columnExpressions k c.bare).length = (Model.columnExpressions k c).length := by
  unfold Model.columnExpressions Column.bare
  cases c.default <;> cases c.generated <;> rfl

/-- A column is determined by its expressions and the rest. -/
theorem Column.eq_of_bare {k : TableId} {c d : Column} (h : c.bare = d.bare)
    (he : Model.columnExpressions k c = Model.columnExpressions k d) : c = d := by
  have hid : c.id = d.id := by
    show c.bare.id = d.bare.id
    rw [h]
  have hlisted (c : Column) (e : Expression) :
      (c.default = some e ↔ (.default k c.id, e) ∈ Model.columnExpressions k c)
        ∧ (c.generated = some e ↔ (.generated k c.id, e) ∈ Model.columnExpressions k c) := by
    constructor <;> simp [mem_columnExpressions]
  have hdefault : c.default = d.default := by
    apply Option.ext
    intro e
    rw [(hlisted c e).1, (hlisted d e).1, he, hid]
  have hgenerated : c.generated = d.generated := by
    apply Option.ext
    intro e
    rw [(hlisted c e).2, (hlisted d e).2, he, hid]
  cases c
  cases d
  unfold Column.bare at h
  simp_all

theorem Table.eq_of_bare {t u : Table} (h : t.bare = u.bare)
    (he : Model.tableExpressions t = Model.tableExpressions u) : t = u := by
  have hid : t.id = u.id := by
    show t.bare.id = u.bare.id
    rw [h]
  have hcolumns : t.columns.map Column.bare = u.columns.map Column.bare := congrArg Table.columns h
  have hchecks : t.checks.map (fun k => { k with expr := .fresh "" })
      = u.checks.map fun k => ({ k with expr := .fresh "" } : CheckConstraint) :=
    congrArg Table.checks h
  unfold Model.tableExpressions at he
  rw [hid] at he
  -- the checks come last, and they are as many in both
  obtain ⟨hdefaults, hexprs⟩ := List.append_inj' he (by simpa using congrArg List.length hchecks)
  have hsame : t.columns = u.columns := by
    refine eq_of_map_of_flatMap ?_ (fun c d => Column.eq_of_bare) hcolumns hdefaults
    intro c d hcd
    rw [← length_columnExpressions_bare, hcd, length_columnExpressions_bare]
  have hsame' : t.checks = u.checks := by
    rw [List.map_eq_flatMap, List.map_eq_flatMap] at hexprs
    refine eq_of_map_of_flatMap (fun _ _ _ => rfl) ?_ hchecks hexprs
    rintro ⟨i, n, e⟩ ⟨i', n', e'⟩ hlook hlisted
    simp_all
  cases t
  cases u
  unfold Table.bare at h
  simp_all

/-- A model without the texts of its expressions. -/
def Model.bare (m : Model) : Model :=
  { m with tables := m.tables.map fun e => (e.1, e.2.bare) }

/-- **A model is known** by what it is without its expressions and by the list of these. -/
theorem Model.eq_of_bare {m m' : Model} (h : m.bare = m'.bare)
    (he : m.expressions = m'.expressions) : m = m' := by
  have htables : m.tables.map (fun e => (e.1, e.2.bare)) = m'.tables.map fun e => (e.1, e.2.bare) :=
    congrArg Model.tables h
  have hsame : m.tables = m'.tables := by
    unfold Model.expressions Model.tableList at he
    rw [List.flatMap_map, List.flatMap_map] at he
    refine eq_of_map_of_flatMap ?_ ?_ htables he
    · intro x y hxy
      have hslots := congrArg (fun e => ((Model.tableExpressions e.2).map (·.1)).length) hxy
      simpa only [Table.map_fst_tableExpressions_bare, List.length_map] using hslots
    · intro x y hxy hlisted
      obtain ⟨hkey, hbare⟩ := Prod.mk.inj hxy
      exact Prod.ext hkey (Table.eq_of_bare hbare hlisted)
  cases m
  cases m'
  unfold Model.bare at h
  simp_all

/-! ## A change in one slot -/

namespace Model

variable {m : Model}

/-- A change of an expression leaves the rest of the model. -/
theorem bare_modifyExpression (m : Model) (s : ExpressionSlot) (f : Expression → Expression) :
    (m.modifyExpression s f).bare = m.bare := by
  unfold bare
  rw [(m.sameBare_modifyExpression s f).tables]
  rfl

/-- The list of expressions is what the slots lead to. -/
theorem HasDistinctParts.expressions_eq (h : m.HasDistinctParts) : m.expressions
    = (Verification.slots m).filterMap fun s => (m.expression? s).map fun e => (s, e) := by
  unfold Verification.slots
  rw [List.filterMap_map]
  refine (List.filterMap_some.symm.trans ?_)
  apply List.filterMap_congr
  intro x hx
  show some x = (m.expression? x.1).map fun e => (x.1, e)
  rw [h.expression?_of_mem hx]
  rfl

/-- A change in one slot is a change of one expression in the list. -/
theorem HasDistinctParts.expressions_modifyExpression (h : m.HasDistinctParts) (s : ExpressionSlot)
    (f : Expression → Expression) : (m.modifyExpression s f).expressions
      = m.expressions.map fun x => if x.1 = s then (x.1, f x.2) else x := by
  have hsame := m.sameBare_modifyExpression s f
  rw [(h.of_sameBare hsame).expressions_eq, hsame.slots]
  unfold Verification.slots
  rw [List.filterMap_map, ← List.filterMap_eq_map]
  apply List.filterMap_congr
  intro x hx
  have hfound : m.expression? x.1 = some x.2 := h.expression?_of_mem hx
  show ((m.modifyExpression s f).expression? x.1).map (fun e => (x.1, e))
    = some (if x.1 = s then (x.1, f x.2) else x)
  rw [expression?_modifyExpression, hfound]
  by_cases hs : x.1 = s
  · rw [if_pos hs, if_pos hs]
    rfl
  · rw [if_neg hs, if_neg hs]
    rfl

/-- The place of an expression in the list is the only one with its slot. -/
theorem HasDistinctParts.expressions_split (h : m.HasDistinctParts)
    {before after : List (ExpressionSlot × Expression)} {s : ExpressionSlot} {e : Expression}
    (hsplit : m.expressions = before ++ (s, e) :: after) (f : Expression → Expression) :
    (m.modifyExpression s f).expressions = before ++ (s, f e) :: after := by
  have hslots : (m.expressions.map (·.1)).Nodup := h.nodup_slots
  rw [hsplit, List.map_append, List.map_cons, List.nodup_middle, List.nodup_cons,
    List.mem_append] at hslots
  obtain ⟨hother, -⟩ := hslots
  have hkept : ∀ l : List (ExpressionSlot × Expression), s ∉ l.map (·.1) →
      l.map (fun x => if x.1 = s then (x.1, f x.2) else x) = l := by
    intro l hl
    refine (List.map_congr_left fun x hx => ?_).trans (List.map_id l)
    apply if_neg
    rintro rfl
    exact hl (List.mem_map_of_mem hx)
  rw [h.expressions_modifyExpression, hsplit, List.map_append, List.map_cons,
    hkept before fun hm => hother (Or.inl hm), hkept after fun hm => hother (Or.inr hm)]
  rw [if_pos rfl]

/-- A slot leads to an expression of the list, to read it and to change it, and nothing changes with
it. -/
structure Addresses (m : Model) (before : List (ExpressionSlot × Expression)) (s : ExpressionSlot)
    (e : Expression) (after : List (ExpressionSlot × Expression)) : Prop where
  found : m.expression? s = some e
  /-- What is changed is this expression. -/
  changed : ∀ f, m.modifyExpression s f = m.modifyExpression s fun _ => f e
  /-- Every other expression stays as it is, where it is. -/
  listed : ∀ f, (m.modifyExpression s f).expressions = before ++ (s, f e) :: after
  /-- So does all that is no expression. -/
  bare : ∀ f, (m.modifyExpression s f).bare = m.bare
  /-- This leaves nothing open. -/
  only : ∀ f m', m'.expressions = before ++ (s, f e) :: after → m'.bare = m.bare →
    m' = m.modifyExpression s f

/-- Each slot addresses the expression that is listed with it, and nothing else. -/
theorem HasDistinctParts.addresses (h : m.HasDistinctParts)
    {before after : List (ExpressionSlot × Expression)} {s : ExpressionSlot} {e : Expression}
    (hsplit : m.expressions = before ++ (s, e) :: after) : m.Addresses before s e after := by
  have hlisted := h.expressions_split hsplit
  have hbare := bare_modifyExpression m s
  have honly : ∀ (f : Expression → Expression) (m' : Model),
      m'.expressions = before ++ (s, f e) :: after → m'.bare = m.bare →
        m' = m.modifyExpression s f := by
    intro f m' he hb
    apply eq_of_bare
    · rw [hb, hbare]
    · rw [he, hlisted]
  refine ⟨?_, ?_, hlisted, hbare, honly⟩
  · apply h.expression?_of_mem
    rw [hsplit]
    exact List.mem_append_right _ List.mem_cons_self
  · -- both changes leave the same expressions and the same of everything else
    intro f
    exact honly (fun _ => f e) _ (hlisted f) (hbare f)

/-- **Each slot addresses one expression.**  The slots of a valid model are distinct, and each leads to
the expression it is listed with, to read it and to change it.  No other expression changes with it,
nor anything else. -/
theorem slots_address (h : m.validate = .ok ()) :
    (m.expressions.map (·.1)).Nodup
      ∧ ∀ before s e after, m.expressions = before ++ (s, e) :: after →
        m.Addresses before s e after := by
  have hparts : m.HasDistinctParts := ((validate_eq_ok_iff m).1 h).hasDistinctParts
  exact ⟨hparts.nodup_slots, fun _ _ _ _ hsplit => hparts.addresses hsplit⟩

/-- A model whose only column has a default and is computed, with a check beside it. -/
def slottedModel : Model :=
  { Model.empty .postgres .google default with
    tables := [(⟨1⟩, { Table.empty ⟨1⟩ "t" with
      columns := [{ Column.plain ⟨2⟩ "x" ⟨"integer", [], [], 0, "integer"⟩ with
        default := some (.fresh "0")
        generated := some (.fresh "1") }]
      checks := [⟨⟨3⟩, "t_check", .fresh "x > 0"⟩] })]
    nextId := 4 }

/-- The default and the computed value have the identifier of one column. -/
theorem slots_address_slottedModel : slottedModel.validate = .ok ()
    ∧ slottedModel.expressions = [(.default ⟨1⟩ ⟨2⟩, .fresh "0")]
      ++ (.generated ⟨1⟩ ⟨2⟩, .fresh "1") :: [(.check ⟨1⟩ ⟨3⟩, .fresh "x > 0")]
    ∧ slottedModel.Addresses [(.default ⟨1⟩ ⟨2⟩, .fresh "0")] (.generated ⟨1⟩ ⟨2⟩) (.fresh "1")
      [(.check ⟨1⟩ ⟨3⟩, .fresh "x > 0")] := by
  have hvalid : slottedModel.validate = .ok () := by decide +kernel
  have hsplit : slottedModel.expressions = [(.default ⟨1⟩ ⟨2⟩, .fresh "0")]
      ++ (.generated ⟨1⟩ ⟨2⟩, .fresh "1") :: [(.check ⟨1⟩ ⟨3⟩, .fresh "x > 0")] := by
    rfl
  obtain ⟨-, haddress⟩ := slots_address hvalid
  exact ⟨hvalid, hsplit, haddress _ _ _ _ hsplit⟩

end Model

end SchemaBridge
