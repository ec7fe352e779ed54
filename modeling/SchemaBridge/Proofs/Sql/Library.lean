/-
# What a library for SQL promises

Nothing is assumed of a library but what its documentation says: trees are finite and are made up of
heads, frames and the expressions inside; the visitor changes every expression once, those inside one
before it; the parser reads from the front; and names and expressions are printed in known ways.

A place is the way to an expression at any depth: the number of a child, the number of a child of that
one, and so on.  A visitor that changes heads only changes the expressions at their places, and what
stands at a place is written in the text of the whole.  The library here keeps all the promises.

## Key statements

* `Library.at?_visit`: what stands at a place after a visit.
* `Library.exists_print_at`: the text of an expression contains that of each one inside it.
* `isLawful_library`: the promises are kept by the grammar and the trees here.
-/
import SchemaBridge.Proofs.Sql.Grammar
import SchemaBridge.Sql.Library

namespace SchemaBridge.Sql

/-! ## The promises -/

/-- Which heads may be put in place of a head: those of its kind, if a name has as many parts as before
and a call loses no arguments. -/
inductive Head.Admits : Head → Head → Prop
  | name (parts parts' : List Ident) (length : parts'.length = parts.length) :
      Admits (.name parts) (.name parts')
  | literal (kind kind' : LiteralKind) (value value' : String) :
      Admits (.literal kind value) (.literal kind' value')
  | cast (kind kind' : CastKind) (type type' : String) : Admits (.cast kind type) (.cast kind' type')
  | call (function function' : List Ident) {given given' : Bool} (keeps : given = true → given' = true) :
      Admits (.call function given) (.call function' given')
  | other : Admits .other .other

/-- What the documentation of a library says. -/
structure Library.IsLawful (L : Library) : Prop where
  /-- Trees are finite. -/
  finite : WellFounded fun c e => c ∈ L.children e
  head_withHead : ∀ e h, (L.head e).Admits h → L.head (L.withHead e h) = h
  frame_withHead : ∀ e h, (L.head e).Admits h → L.frame (L.withHead e h) = L.frame e
  children_withHead : ∀ e h, (L.head e).Admits h → L.children (L.withHead e h) = L.children e
  /-- The visitor comes to every expression once, and to those inside it before. -/
  visits : ∀ f e, ∃ e', L.visit f e = f e' ∧ L.head e' = L.head e ∧ L.frame e' = L.frame e
    ∧ L.children e' = (L.children e).map (L.visit f)
  /-- An expression is read from the front of the tokens. -/
  reads : ∀ d ts e rest, L.front? d ts = some (e, rest) → ∃ taken, ts = taken ++ rest
  /-- Head, frame and the texts of the expressions inside are all that is printed. -/
  print_congr : ∀ e e', L.head e = L.head e' → L.frame e = L.frame e' →
    (L.children e).map L.print = (L.children e').map L.print → L.print e = L.print e'
  /-- A name is printed with points between its parts. -/
  print_name : ∀ e parts, L.head e = .name parts → L.print e = L.printName parts
  /-- The text of an expression contains those of the expressions inside it. -/
  print_child : ∀ e, ∀ c ∈ L.children e, ∃ before after, L.print e = before ++ L.print c ++ after
  /-- A part of a name without quotes is printed as it stands. -/
  printIdent_bare : ∀ value, L.printIdent (.bare value) = value
  /-- Between quotes a quote is doubled unless it is doubled already or follows a backslash. -/
  printIdent_quoted : ∀ value, ∀ q ∈ ['"', '\x60'],
    L.printIdent ⟨value, some q⟩ = q.toString ++ doubled q value ++ q.toString

/-! ## Places -/

namespace Library

variable {L : Library}

/-- The expression at a place. -/
def at? (L : Library) : List Nat → L.Tree → Option L.Tree
  | [], e => some e
  | i :: place, e => (L.children e)[i]?.bind (L.at? place)

/-- The expression itself. -/
@[simp] theorem at?_nil (L : Library) (e : L.Tree) : L.at? [] e = some e := rfl

/-- A place in one of the expressions inside. -/
@[simp] theorem at?_cons (L : Library) (i : Nat) (place : List Nat) (e : L.Tree) :
    L.at? (i :: place) e = (L.children e)[i]?.bind (L.at? place) := rfl

/-- The children of an expression that was visited are its visited children, if the visitor leaves the
children of each expression alone. -/
theorem IsLawful.children_visit (h : L.IsLawful) {f : L.Tree → L.Tree}
    (hf : ∀ e, L.children (f e) = L.children e) (e : L.Tree) :
    L.children (L.visit f e) = (L.children e).map (L.visit f) := by
  obtain ⟨e', hvisit, -, -, hchildren⟩ := h.visits f e
  rw [hvisit, hf, hchildren]

/-- What stands at a place after a visit is what stood there, visited. -/
theorem IsLawful.at?_visit (h : L.IsLawful) {f : L.Tree → L.Tree}
    (hf : ∀ e, L.children (f e) = L.children e) (place : List Nat) (e : L.Tree) :
    L.at? place (L.visit f e) = (L.at? place e).map (L.visit f) := by
  induction place generalizing e with
  | nil => rfl
  | cons i place ih =>
    rw [at?_cons, at?_cons, h.children_visit hf, List.getElem?_map]
    cases (L.children e)[i]? with
    | none => rfl
    | some c => exact ih c

/-- The text of an expression contains that of each one inside it. -/
theorem IsLawful.exists_print_at (h : L.IsLawful) {n : L.Tree} {place : List Nat} {e : L.Tree}
    (hplace : L.at? place e = some n) : ∃ before after, L.print e = before ++ L.print n ++ after := by
  induction place generalizing e with
  | nil =>
    rw [← Option.some.inj hplace]
    exact ⟨"", "", by simp⟩
  | cons i place ih =>
    obtain ⟨c, hc, hn⟩ := Option.bind_eq_some_iff.1 hplace
    obtain ⟨before, after, hp⟩ := h.print_child e c (List.mem_of_getElem? hc)
    obtain ⟨inner, outer, hq⟩ := ih hn
    exact ⟨before ++ inner, outer ++ after, by rw [hp, hq]; simp only [String.append_assoc]⟩

/-- A qualified name is written with a point after its first part. -/
theorem printName_cons_cons (L : Library) (q i : Ident) (r : List Ident) :
    L.printName (q :: i :: r) = L.printIdent q ++ "." ++ L.printName (i :: r) :=
  String.toList_injective (by simp [printName, String.toList_intercalate])

/-- The last part of a name stands at the end of its text. -/
theorem exists_printName (L : Library) (qualifier : List Ident) (i : Ident) :
    ∃ before, L.printName (qualifier ++ [i]) = before ++ L.printIdent i := by
  induction qualifier with
  | nil => exact ⟨"", by simp [printName]⟩
  | cons q r ih =>
    obtain ⟨before, hr⟩ := ih
    obtain ⟨a, l, hl⟩ : ∃ a l, r ++ [i] = a :: l := by cases r <;> simp
    refine ⟨L.printIdent q ++ "." ++ before, ?_⟩
    rw [List.cons_append, hl, printName_cons_cons, ← hl, hr]
    simp only [String.append_assoc]

/-! ## The expression at the front -/

/-- An expression at the front of a text: the tokens it is made of, and those after it. -/
structure IsAtFront (L : Library) (d : Dialect) (text : String) (e : L.Tree)
    (taken rest : List L.Token) : Prop where
  tokens : L.tokens? d text = some (taken ++ rest)
  read : L.front? d (taken ++ rest) = some (e, rest)

variable {d : Dialect} {text : String} {e e₁ e₂ : L.Tree}
  {taken rest taken₁ rest₁ taken₂ rest₂ : List L.Token}

/-- A text has at most one expression at its front, and it ends in one place. -/
theorem IsAtFront.unique (h₁ : IsAtFront L d text e₁ taken₁ rest₁)
    (h₂ : IsAtFront L d text e₂ taken₂ rest₂) : e₁ = e₂ ∧ taken₁ = taken₂ ∧ rest₁ = rest₂ := by
  have htokens := Option.some.inj (h₁.tokens.symm.trans h₂.tokens)
  have hread := h₁.read
  rw [htokens, h₂.read] at hread
  cases hread
  exact ⟨rfl, List.append_cancel_right htokens, rfl⟩

/-- An expression that is read has its tokens, and others may follow. -/
theorem IsLawful.exists_isAtFront_iff (h : L.IsLawful) :
    (∃ taken rest, IsAtFront L d text e taken rest) ↔ L.expression? d text = some e := by
  constructor
  · rintro ⟨taken, rest, htokens, hread⟩
    simp [expression?, htokens, hread]
  · intro hsome
    obtain ⟨ts, htokens, hsome⟩ := Option.bind_eq_some_iff.1 hsome
    obtain ⟨⟨e', rest⟩, hread, hsome⟩ := Option.bind_eq_some_iff.1 hsome
    obtain rfl : e' = e := Option.some.inj hsome
    obtain ⟨taken, rfl⟩ := h.reads d ts e' rest hread
    exact ⟨taken, rest, htokens, hread⟩

end Library

/-! ## Pieces -/

namespace Pieces

/-- Pieces are built up from the last one; of the expressions among them nothing is assumed. -/
@[elab_as_elim]
theorem inductionOn {motive : Pieces → Prop} (p : Pieces) (hnil : motive nil)
    (htext : ∀ s rest, motive rest → motive (text s rest))
    (hexpr : ∀ e rest, motive rest → motive (expr e rest)) : motive p := by
  cases p with
  | nil => exact hnil
  | text s rest => exact htext s rest (inductionOn rest hnil htext hexpr)
  | expr e rest => exact hexpr e rest (inductionOn rest hnil htext hexpr)

/-- The expressions in some pieces are changed. -/
theorem children_mapNodes (f : Expr → Expr) (p : Pieces) :
    (p.mapNodes f).children = p.children.map (·.mapNodes f) := by
  induction p using inductionOn with
  | hnil => rfl
  | htext s rest ih => exact ih
  | hexpr e rest ih => exact congrArg (e.mapNodes f :: ·) ih

/-- The words between them stay. -/
theorem outline_mapNodes (f : Expr → Expr) (p : Pieces) : (p.mapNodes f).outline = p.outline := by
  induction p using inductionOn with
  | hnil => rfl
  | htext s rest ih => exact congrArg (some s :: ·) ih
  | hexpr e rest ih => exact congrArg (none :: ·) ih

/-- There are as many children as gaps. -/
theorem length_children (p : Pieces) : p.children.length = p.outline.count none := by
  induction p using inductionOn with
  | hnil => rfl
  | htext s rest ih =>
    rw [children_text, outline_text, ih, List.count_cons_of_ne (by simp)]
  | hexpr e rest ih =>
    rw [children_expr, outline_expr, List.length_cons, ih, List.count_cons_self]

/-- The text of pieces follows from the outline and the texts of the children. -/
theorem print_congr {p q : Pieces} (ho : p.outline = q.outline)
    (hc : p.children.map (·.print) = q.children.map (·.print)) : p.print = q.print := by
  induction p using inductionOn generalizing q with
  | hnil =>
    cases q with
    | nil => rfl
    | text | expr => simp at ho
  | htext s rest ih =>
    cases q with
    | text s' rest' =>
      obtain ⟨hs, ho⟩ := List.cons_eq_cons.1 ho
      rw [print, print, Option.some.inj hs, ih ho hc]
    | nil | expr => simp at ho
  | hexpr e rest ih =>
    cases q with
    | expr e' rest' =>
      obtain ⟨he, hrest⟩ := List.cons_eq_cons.1 hc
      rw [print, print, show e.print = e'.print from he, ih (List.cons_eq_cons.1 ho).2 hrest]
    | nil | text => simp at ho

/-- The text of pieces has that of each expression in them. -/
theorem exists_print_of_mem {e : Expr} {p : Pieces} (h : e ∈ p.children) :
    ∃ before after, p.print = before ++ e.print ++ after := by
  induction p using inductionOn with
  | hnil => cases h
  | htext s rest ih =>
    obtain ⟨before, after, hp⟩ := ih h
    exact ⟨s ++ before, after, by simp only [print, hp, String.append_assoc]⟩
  | hexpr e' rest ih =>
    rcases List.mem_cons.1 h with rfl | h
    · exact ⟨"", rest.print, by rw [print, String.empty_append]⟩
    · obtain ⟨before, after, hp⟩ := ih h
      exact ⟨e'.print ++ before, after, by simp only [print, hp, String.append_assoc]⟩

/-- An expression is smaller than the pieces it is in. -/
theorem sizeOf_lt_of_mem {e : Expr} {p : Pieces} (h : e ∈ p.children) : sizeOf e < sizeOf p := by
  induction p using inductionOn with
  | hnil => cases h
  | htext s rest ih =>
    have hlt := ih h
    rw [text.sizeOf_spec]
    omega
  | hexpr e' rest ih =>
    rw [expr.sizeOf_spec]
    rcases List.mem_cons.1 h with rfl | h
    · omega
    · have hlt := ih h
      omega

end Pieces

/-! ## The trees here -/

namespace Expr

/-- Every expression inside one is smaller than it. -/
theorem sizeOf_lt_of_mem_children {c e : Expr} (h : c ∈ e.children) : sizeOf c < sizeOf e := by
  cases e with
  | name | literal => cases h
  | cast kind operand type format =>
    rw [List.mem_singleton.1 h, cast.sizeOf_spec]
    omega
  | call name arguments tail =>
    rw [call.sizeOf_spec]
    rcases List.mem_append.1 h with h | h
    · cases arguments with
      | none => cases h
      | some arguments =>
        have hlt := Pieces.sizeOf_lt_of_mem h
        rw [Option.getD_some] at hlt
        rw [Option.some.sizeOf_spec]
        omega
    · have hlt := Pieces.sizeOf_lt_of_mem h
      omega
  | subquery query | form query =>
    have hlt := Pieces.sizeOf_lt_of_mem h
    simp only [subquery.sizeOf_spec, form.sizeOf_spec]
    omega

/-- Apply a function to every expression inside one. -/
def mapInside (f : Expr → Expr) : Expr → Expr
  | .name parts => .name parts
  | .literal kind value => .literal kind value
  | .cast kind operand type format => .cast kind (operand.mapNodes f) type format
  | .call function arguments tail =>
    .call function (arguments.map (·.mapNodes f)) (tail.mapNodes f)
  | .subquery query => .subquery (query.mapNodes f)
  | .form pieces => .form (pieces.mapNodes f)

/-- An expression is changed after those inside it. -/
theorem mapNodes_eq (f : Expr → Expr) (e : Expr) : e.mapNodes f = f (e.mapInside f) := by
  cases e with
  | call name arguments tail => cases arguments <;> rfl
  | name | literal | cast | subquery | form => rfl

/-- A change inside an expression leaves its head. -/
theorem head_mapInside (f : Expr → Expr) (e : Expr) : (e.mapInside f).head = e.head := by
  cases e with
  | call name arguments tail => cases arguments <;> rfl
  | name | literal | cast | subquery | form => rfl

theorem frame_mapInside (f : Expr → Expr) (e : Expr) : (e.mapInside f).frame = e.frame := by
  cases e with
  | call name arguments tail =>
    cases arguments <;> simp [mapInside, frame, Pieces.outline_mapNodes]
  | name | literal | cast => rfl
  | subquery pieces | form pieces => simp [mapInside, frame, Pieces.outline_mapNodes]

theorem children_mapInside (f : Expr → Expr) (e : Expr) :
    (e.mapInside f).children = e.children.map (·.mapNodes f) := by
  cases e with
  | call name arguments tail =>
    cases arguments <;> simp [mapInside, children, Pieces.children_mapNodes]
  | name | literal | cast => rfl
  | subquery pieces | form pieces => exact pieces.children_mapNodes f

/-- The text of an expression follows from its head, its frame and the texts of those inside it. -/
theorem print_congr {e e' : Expr} (hhead : e.head = e'.head) (hframe : e.frame = e'.frame)
    (hchildren : e.children.map (·.print) = e'.children.map (·.print)) : e.print = e'.print := by
  cases e with
  | name | literal =>
    cases e' <;> cases hhead
    rfl
  | cast kind operand type format =>
    cases e' <;> cases hhead
    cases hframe
    simp only [print, (List.cons_eq_cons.1 hchildren).1]
  | call function arguments tail =>
    cases e' with
    | call function' arguments' tail' =>
      obtain ⟨rfl, hgiven⟩ := Head.call.inj hhead
      obtain ⟨harguments, htail⟩ := Frame.call.inj hframe
      -- there are as many expressions in the arguments, so those in the tail are the same ones
      have hlength : ((arguments.getD .nil).children.map (·.print)).length
          = ((arguments'.getD .nil).children.map (·.print)).length := by
        rw [List.length_map, List.length_map, Pieces.length_children, Pieces.length_children,
          harguments]
      rw [children, children, List.map_append, List.map_append] at hchildren
      obtain ⟨hfirst, hlast⟩ := List.append_inj hchildren hlength
      have hsame := Pieces.print_congr harguments hfirst
      have hafter := Pieces.print_congr htail hlast
      cases arguments <;> cases arguments' <;> cases hgiven
      · rw [print, print, hafter]
      · rw [Option.getD_some, Option.getD_some] at hsame
        rw [print, print, hsame, hafter]
    | name | literal | cast | subquery | form => cases hhead
  | subquery query =>
    cases e' with
    | subquery query' =>
      rw [print, print, Pieces.print_congr (Frame.subquery.inj hframe) hchildren]
    | name | literal | cast | call | form => cases hframe
  | form pieces =>
    cases e' with
    | form pieces' => exact Pieces.print_congr (Frame.form.inj hframe) hchildren
    | name | literal | cast | call | subquery => cases hframe

/-- A head is put in the place of another one of its kind. -/
theorem withHead_spec {e : Expr} {h : Head} (ha : e.head.Admits h) :
    (e.withHead h).head = h ∧ (e.withHead h).frame = e.frame
      ∧ (e.withHead h).children = e.children := by
  cases e with
  | name | literal | cast =>
    cases ha
    exact ⟨rfl, rfl, rfl⟩
  | call function arguments tail =>
    cases ha with
    | call _ function' keeps =>
      rename_i given'
      cases given' with
      | true => exact ⟨rfl, rfl, rfl⟩
      | false =>
        cases arguments with
        | none => exact ⟨rfl, rfl, rfl⟩
        | some arguments => cases keeps rfl
  | subquery | form =>
    cases ha
    exact ⟨rfl, rfl, rfl⟩

/-- A name is printed by its parts. -/
theorem print_of_head {e : Expr} {parts : List Ident} (h : e.head = .name parts) :
    e.print = printName parts := by
  cases e with
  | name parts' =>
    cases h
    rw [print]
  | literal | cast | call | subquery | form => cases h

/-- The text of an expression contains those of the expressions inside it. -/
theorem exists_print_of_mem {c e : Expr} (h : c ∈ e.children) :
    ∃ before after, e.print = before ++ c.print ++ after := by
  cases e with
  | name | literal => cases h
  | cast kind operand type format =>
    rw [List.mem_singleton.1 h]
    cases kind with
    | colons => exact ⟨"", "::" ++ type, by rw [print, String.empty_append, String.append_assoc]⟩
    | cast =>
      exact ⟨"CAST(", " AS " ++ type ++ format ++ ")", by simp only [print, String.append_assoc]⟩
    | tryCast =>
      refine ⟨"TRY_CAST(", " AS " ++ type ++ format ++ ")", ?_⟩
      simp only [print, String.append_assoc]
    | safeCast =>
      refine ⟨"SAFE_CAST(", " AS " ++ type ++ format ++ ")", ?_⟩
      simp only [print, String.append_assoc]
  | call name arguments tail =>
    rcases List.mem_append.1 h with h | h
    · cases arguments with
      | none => cases h
      | some arguments =>
        obtain ⟨before, after, hp⟩ := Pieces.exists_print_of_mem h
        rw [Option.getD_some] at hp
        exact ⟨Sql.printName name ++ "(" ++ before, after ++ ")" ++ tail.print, by
          simp only [print, hp, String.append_assoc]⟩
    · obtain ⟨before, after, hp⟩ := Pieces.exists_print_of_mem h
      cases arguments with
      | none =>
        exact ⟨Sql.printName name ++ before, after, by simp only [print, hp, String.append_assoc]⟩
      | some arguments =>
        exact ⟨Sql.printName name ++ "(" ++ arguments.print ++ ")" ++ before, after, by
          simp only [print, hp, String.append_assoc]⟩
  | subquery query =>
    obtain ⟨before, after, hp⟩ := Pieces.exists_print_of_mem h
    exact ⟨"(" ++ before, after ++ ")", by simp only [print, hp, String.append_assoc]⟩
  | form pieces => exact Pieces.exists_print_of_mem h

/-- An expression is read from the front of the tokens. -/
theorem exists_taken_of_front? {d : Dialect} {ts rest : List Token} {e : Expr}
    (h : front? d ts = some (e, rest)) : ∃ taken, ts = taken ++ rest := by
  unfold front? at h
  cases hread : (rulesAt d maxDepth).expr ts with
  | error failure =>
    rw [hread] at h
    cases h
  | ok result =>
    rw [hread] at h
    obtain rfl : result = (e, rest) := Option.some.inj h
    obtain ⟨taken, rfl⟩ := Parser.Takes.exists_eq_append hread
    exact ⟨taken, rfl⟩

end Expr

/-- **The promises are kept** by the grammar and the trees here. -/
theorem isLawful_library : library.IsLawful where
  finite := Subrelation.wf (fun h => Expr.sizeOf_lt_of_mem_children h)
    (measure (sizeOf : Expr → Nat)).wf
  head_withHead _ _ ha := (Expr.withHead_spec ha).1
  frame_withHead _ _ ha := (Expr.withHead_spec ha).2.1
  children_withHead _ _ ha := (Expr.withHead_spec ha).2.2
  visits f e := ⟨e.mapInside f, e.mapNodes_eq f, e.head_mapInside f, e.frame_mapInside f,
    e.children_mapInside f⟩
  reads _ _ _ _ := Expr.exists_taken_of_front?
  print_congr _ _ := Expr.print_congr
  print_name _ _ h := Expr.print_of_head h
  print_child _ _ := Expr.exists_print_of_mem
  printIdent_bare _ := rfl
  printIdent_quoted value q hq := by
    rcases List.mem_cons.1 hq with rfl | hq
    · rfl
    · obtain rfl := List.mem_singleton.1 hq
      rfl

end SchemaBridge.Sql
