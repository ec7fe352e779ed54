/-
# What translation rewrites

An expression is translated by changing the heads in its tree, at every depth.  `HeadBecomes` says what
becomes of a head.  `Rewrites` asks this at every place of two trees and keeps all else there, so that
the second tree has the shape of the first.  How trees are read, visited and printed is left to a
library, of which no more is used than it promises.

## Key statements

* `rewrites_visit`: the tree that is printed is a rewritten one.
* `Rewrites.print_eq`: two trees that one tree is rewritten to have the same text.
* `translate_rewrites`: the text for the target is that of the rewritten tree.
-/
import SchemaBridge.Proofs.Sql.Library
import SchemaBridge.Verification.Translate

namespace SchemaBridge

open Sql (CastKind Head Ident Library LiteralKind)

/-! ## Names in parts -/

/-- The parts of a text with the character between them are the text. -/
theorem Text.intercalate_splitAtChar (c : Char) (s : List Char) :
    [c].intercalate (splitAtChar c s) = s := by
  induction s with
  | nil => rfl
  | cons d r ih =>
    obtain ⟨p, ps, hp⟩ := List.exists_cons_of_ne_nil (splitAtChar_ne_nil c r)
    rw [hp] at ih
    rw [splitAtChar, hp]
    dsimp only
    split
    next h =>
      rw [List.intercalate_cons_cons, ih, eq_of_beq h]
      rfl
    next =>
      rw [← ih]
      cases ps with
      | nil => simp
      | cons q qs => simp [List.intercalate_cons_cons]

namespace Verification

variable {L : Library} {source : SourceDialect} {d : TargetDialect} {t : Table}

/-- A name that is split at its points is written as it was. -/
theorem printName_bareParts (h : L.IsLawful) (name : String) : L.printName (bareParts name) = name := by
  have hparts : (bareParts name).map L.printIdent
      = (Text.splitAtChar '.' name.toList).map String.ofList := by
    rw [bareParts, List.map_map]
    exact List.map_congr_left fun p _ => h.printIdent_bare (String.ofList p)
  apply String.toList_injective
  rw [Library.printName, hparts, String.toList_intercalate, List.map_map,
    show String.toList ∘ String.ofList = id from funext fun _ => String.toList_ofList, List.map_id]
  exact Text.intercalate_splitAtChar '.' name.toList

/-! ## One expression -/

/-- What becomes of a name: that of a column has the model's spelling and the target's quotes, any
other stays. -/
structure IsRespelled (d : TargetDialect) (t : Table) (i i' : Ident) : Prop where
  column : ∀ c, t.columnByName? i.value = some c → i'.value = c.name ∧ i'.quote = some (nameQuote d)
  other : t.columnByName? i.value = none → i' = i

/-- What becomes of the head of an expression. -/
inductive HeadBecomes (L : Library) (source : SourceDialect) (d : TargetDialect) (t : Table) :
    Head → Head → Prop
  /-- Of a name, qualified or not, only the last part may be a column. -/
  | name {parts parts' : List Ident} (qualifier : parts'.dropLast = parts.dropLast)
      (last : Option.Rel (IsRespelled d t) parts.getLast? parts'.getLast?) :
      HeadBecomes L source d t (.name parts) (.name parts')
  /-- A string between double quotes is one between single quotes in the PostgreSQL interface. -/
  | doubleQuoted {value : String} (target : d = .postgres) :
      HeadBecomes L source d t (.literal .double value) (.literal .single value)
  | literal {kind : LiteralKind} {value : String} (other : kind = .double → d ≠ .postgres) :
      HeadBecomes L source d t (.literal kind value) (.literal kind value)
  /-- A cast is spelled out and goes to what the target has for the type. -/
  | cast {kind : CastKind} {type : String} :
      HeadBecomes L source d t (.cast kind type)
        (.cast (if kind = .colons then .cast else kind)
          ((TypeMap.map source (SourceType.parse type)).target.render d))
  /-- A function with another name in the target is called by it, and has arguments. -/
  | renamed {function : List Ident} {counterpart : String} {given : Bool}
      (listed : functionName? d (Text.lowerText (L.printName function)) = some counterpart) :
      HeadBecomes L source d t (.call function given) (.call (bareParts counterpart) true)
  | call {function : List Ident} {given : Bool}
      (unlisted : functionName? d (Text.lowerText (L.printName function)) = none) :
      HeadBecomes L source d t (.call function given) (.call function given)
  | other : HeadBecomes L source d t .other .other

/-- What becomes of an expression, whatever becomes of those inside it: nothing but its head may be
another one. -/
structure IsRewritten (L : Library) (source : SourceDialect) (d : TargetDialect) (t : Table)
    (e e' : L.Tree) : Prop where
  head : HeadBecomes L source d t (L.head e) (L.head e')
  frame : L.frame e' = L.frame e

/-- What becomes of a tree: what becomes of the expression at each place, and no other places. -/
def Rewrites (L : Library) (source : SourceDialect) (d : TargetDialect) (t : Table)
    (e e' : L.Tree) : Prop :=
  ∀ place, Option.Rel (IsRewritten L source d t) (L.at? place e) (L.at? place e')

/-! ## Names and heads -/

section

variable {i i₁ i₂ : Ident} {head head₁ head₂ : Head}

/-- A part of a name is respelled. -/
theorem isRespelled_requote (d : TargetDialect) (t : Table) (i : Ident) :
    IsRespelled d t i (requote d t i) := by
  cases h : t.columnByName? i.value with
  | none => exact ⟨fun c hc => by simp [h] at hc, fun _ => by rw [requote, h]⟩
  | some c =>
    have hi : requote d t i = ⟨c.name, some (nameQuote d)⟩ := by rw [requote, h]
    refine ⟨fun c' hc' => ?_, fun hnone => by simp [h] at hnone⟩
    rw [hi, Option.some.inj (h.symm.trans hc')]
    exact ⟨rfl, rfl⟩

theorem IsRespelled.unique (h₁ : IsRespelled d t i i₁) (h₂ : IsRespelled d t i i₂) : i₁ = i₂ := by
  cases h : t.columnByName? i.value with
  | none => rw [h₁.other h, h₂.other h]
  | some c =>
    obtain ⟨hv₁, hq₁⟩ := h₁.column c h
    obtain ⟨hv₂, hq₂⟩ := h₂.column c h
    cases i₁
    cases i₂
    simp_all

/-- In the target a name has as many parts, and a call still has its arguments. -/
theorem admits_translateHead (L : Library) (source : SourceDialect) (d : TargetDialect) (t : Table)
    (head : Head) : head.Admits (translateHead L source d t head) := by
  fun_cases translateHead L source d t head with
  | case1 parts => exact .name _ _ (length_mapLast _ parts)
  | case2 kind type => exact .cast _ _ _ _
  | case3 function given renamed _ => exact .call _ _ fun _ => rfl
  | case4 function given _ => exact .call _ _ id
  | case5 value => exact .literal _ _ _ _
  | case6 =>
    cases head with
    | literal kind value => exact .literal _ _ _ _
    | other => exact .other
    | name | cast | call => simp_all

/-- Of a name the last part is respelled. -/
theorem headBecomes_mapLast (parts : List Ident) :
    HeadBecomes L source d t (.name parts) (.name (mapLast (requote d t) parts)) := by
  rcases List.eq_nil_or_concat parts with rfl | ⟨qualifier, i, rfl⟩
  · exact .name rfl .none
  · rw [List.concat_eq_append, mapLast_append_singleton]
    refine .name (by simp) ?_
    simpa using Option.Rel.some (isRespelled_requote d t i)

/-- Every head becomes what it should. -/
theorem headBecomes_translateHead (L : Library) (source : SourceDialect) (d : TargetDialect) (t : Table)
    (head : Head) : HeadBecomes L source d t head (translateHead L source d t head) := by
  cases head with
  | name parts => exact headBecomes_mapLast parts
  | literal kind value =>
    by_cases hkind : kind = .double
    · subst hkind
      by_cases hd : d = .postgres
      · simp only [translateHead, if_pos hd]
        exact .doubleQuoted hd
      · simp only [translateHead, if_neg hd]
        exact .literal fun _ => hd
    · have hkept : translateHead L source d t (.literal kind value) = .literal kind value := by
        cases kind <;> first | rfl | exact absurd rfl hkind
      rw [hkept]
      exact .literal fun h => absurd h hkind
  | cast kind type => exact .cast
  | call function given =>
    simp only [translateHead]
    cases h : functionName? d (Text.lowerText (L.printName function)) with
    | none => exact .call h
    | some counterpart => exact .renamed h
  | other => exact .other

/-- A list is determined by its last element and those before. -/
theorem eq_of_dropLast_of_getLast? {α : Type} {l l' : List α} (h : l.dropLast = l'.dropLast)
    (hlast : l.getLast? = l'.getLast?) : l = l' := by
  cases hl : l'.getLast? with
  | none =>
    rw [hl] at hlast
    rw [List.getLast?_eq_none_iff.1 hlast, List.getLast?_eq_none_iff.1 hl]
  | some a =>
    rw [← List.dropLast_append_getLast? a (hlast.trans hl), h, List.dropLast_append_getLast? a hl]

/-- What two relatives of one value have in common. -/
theorem map_eq_of_rel {α β γ : Type} {r : α → β → Prop} {g : β → γ} {o : Option α}
    {o₁ o₂ : Option β} (hr : ∀ a ∈ o, ∀ b₁ b₂, r a b₁ → r a b₂ → g b₁ = g b₂)
    (h₁ : Option.Rel r o o₁) (h₂ : Option.Rel r o o₂) : o₁.map g = o₂.map g := by
  cases h₁ with
  | none =>
    cases h₂
    rfl
  | some h =>
    cases h₂ with
    | some h' => exact congrArg some (hr _ rfl _ _ h h')

/-- A head becomes one head only. -/
theorem HeadBecomes.unique (h₁ : HeadBecomes L source d t head head₁)
    (h₂ : HeadBecomes L source d t head head₂) : head₁ = head₂ := by
  cases h₁ with
  | name hqualifier hlast =>
    cases h₂ with
    | name hqualifier₂ hlast₂ =>
      -- parts of names become what they do one by one
      have hsame := map_eq_of_rel (r := IsRespelled d t) (g := id)
        (fun _ _ _ _ h h' => h.unique h') hlast hlast₂
      rw [Option.map_id, id, id] at hsame
      rw [eq_of_dropLast_of_getLast? (hqualifier.trans hqualifier₂.symm) hsame]
  | doubleQuoted hd =>
    cases h₂ with
    | doubleQuoted => rfl
    | literal hother => exact absurd hd (hother rfl)
  | literal hother =>
    cases h₂ with
    | doubleQuoted hd => exact absurd hd (hother rfl)
    | literal => rfl
  | cast =>
    cases h₂
    rfl
  | renamed hlisted =>
    cases h₂ with
    | renamed hlisted₂ => rw [Option.some.inj (hlisted.symm.trans hlisted₂)]
    | call hunlisted => exact absurd (hlisted.symm.trans hunlisted) (by simp)
  | call hunlisted =>
    cases h₂ with
    | renamed hlisted => exact absurd (hlisted.symm.trans hunlisted) (by simp)
    | call => rfl
  | other =>
    cases h₂
    rfl

end

/-! ## The tree that is printed -/

section

variable {e e₁ e₂ : L.Tree}

/-- One expression is translated without those inside it. -/
theorem children_translateNode (h : L.IsLawful) (source : SourceDialect) (d : TargetDialect) (t : Table)
    (e : L.Tree) : L.children (translateNode L source d t e) = L.children e :=
  h.children_withHead e _ (admits_translateHead L source d t (L.head e))

/-- One expression of the tree that is printed. -/
theorem isRewritten_visit (h : L.IsLawful) (e : L.Tree) :
    IsRewritten L source d t e (L.visit (translateNode L source d t) e) := by
  obtain ⟨e', hvisit, hhead, hframe, -⟩ := h.visits (translateNode L source d t) e
  have hadmits := admits_translateHead L source d t (L.head e')
  rw [hvisit, translateNode]
  refine ⟨?_, ?_⟩
  · rw [h.head_withHead _ _ hadmits, hhead]
    exact headBecomes_translateHead L source d t (L.head e)
  · rw [h.frame_withHead _ _ hadmits, hframe]

/-- The tree that is printed is a rewritten one. -/
theorem rewrites_visit (h : L.IsLawful) (source : SourceDialect) (d : TargetDialect) (t : Table)
    (e : L.Tree) : Rewrites L source d t e (L.visit (translateNode L source d t) e) := by
  intro place
  rw [h.at?_visit (children_translateNode h source d t)]
  cases L.at? place e with
  | none => exact .none
  | some n => exact .some (isRewritten_visit h n)

/-! ## The text of a rewritten tree -/

/-- What is inside an expression is rewritten too, child by child. -/
theorem Rewrites.child (h : Rewrites L source d t e e₁) (k : Nat) :
    Option.Rel (Rewrites L source d t) (L.children e)[k]? (L.children e₁)[k]? := by
  have hplace := fun place => h (k :: place)
  simp only [Library.at?_cons] at hplace
  cases hc : (L.children e)[k]? with
  | none =>
    cases hc₁ : (L.children e₁)[k]? with
    | none => exact .none
    | some c₁ =>
      have hnone := hplace []
      rw [hc, hc₁] at hnone
      cases hnone
  | some c =>
    cases hc₁ : (L.children e₁)[k]? with
    | none =>
      have hnone := hplace []
      rw [hc, hc₁] at hnone
      cases hnone
    | some c₁ =>
      refine .some fun place => ?_
      have hrel := hplace place
      rw [hc, hc₁] at hrel
      exact hrel

/-- A tree is rewritten at its top. -/
theorem Rewrites.top (h : Rewrites L source d t e e₁) : IsRewritten L source d t e e₁ := by
  have hrel := h []
  rw [Library.at?_nil, Library.at?_nil] at hrel
  cases hrel
  assumption

/-- Two trees that one tree is rewritten to have the same text. -/
theorem Rewrites.print_eq (h : L.IsLawful) (h₁ : Rewrites L source d t e e₁)
    (h₂ : Rewrites L source d t e e₂) : L.print e₁ = L.print e₂ := by
  induction e using h.finite.induction generalizing e₁ e₂ with
  | h e ih =>
    refine h.print_congr e₁ e₂ (h₁.top.head.unique h₂.top.head)
      (h₁.top.frame.trans h₂.top.frame.symm) (List.ext_getElem? fun k => ?_)
    rw [List.getElem?_map, List.getElem?_map]
    exact map_eq_of_rel (fun c hc c₁ c₂ hc₁ hc₂ => ih c (List.mem_of_getElem? hc) hc₁ hc₂)
      (h₁.child k) (h₂.child k)

end

/-- The text for the target is that of the rewritten tree, whatever library reads, visits and prints;
and a function that is renamed has its new name in it. -/
theorem translate_rewrites {L : Library} (lawful : L.IsLawful) {source : SourceDialect}
    {d : TargetDialect} {t : Table} {text : String} {e : L.Tree}
    (parsed : L.expression? (.ofSource source) text = some e) :
    Rewrites L source d t e (L.visit (translateNode L source d t) e)
    ∧ (∀ e', Rewrites L source d t e e' → translateWith L source d t text = L.print e')
    ∧ ∀ counterpart, L.printName (bareParts counterpart) = counterpart := by
  have hprinted := rewrites_visit lawful source d t e
  refine ⟨hprinted, fun e' h => ?_, printName_bareParts lawful⟩
  rw [translateWith, parsed]
  exact hprinted.print_eq lawful h

/-- A table with columns of these names. -/
def tableWith (names : List String) : Table :=
  { Table.empty ⟨1⟩ "orders" with
    columns := names.zipIdx.map fun (name, k) =>
      Column.plain ⟨k + 2⟩ name ⟨"numeric", [], [], 0, "numeric"⟩ }

/-- Casts, functions and columns in the branches of a choice, in arguments and in a subquery. -/
def nestedText : String :=
  "CASE WHEN price::int4 > 0 THEN coalesce(o.QTY, (SELECT \"Price\" FROM o)) "
    ++ "ELSE length(gen_random_uuid()::text) END"

/-- The text with the target's casts, functions and names. -/
def nestedTranslation : String :=
  "CASE WHEN CAST(`Price` AS INT64) > 0 THEN coalesce(o.`qty`, (SELECT `Price` FROM o)) "
    ++ "ELSE length(CAST(GENERATE_UUID() AS STRING(MAX))) END"

theorem translate_rewrites_nestedText :
    ∃ e e' : Sql.Expr, Sql.library.expression? (.ofSource .postgres) nestedText = some e
      ∧ Rewrites Sql.library .postgres .google (tableWith ["Price", "qty"]) e e'
      ∧ ∀ e', Rewrites Sql.library .postgres .google (tableWith ["Price", "qty"]) e e' →
        e'.print = nestedTranslation := by
  have hprinted : (Sql.library.expression? (.ofSource .postgres) nestedText).isSome = true
      ∧ translate .postgres .google (tableWith ["Price", "qty"]) nestedText = nestedTranslation := by
    decide +kernel
  obtain ⟨e, he⟩ := Option.isSome_iff_exists.1 hprinted.1
  obtain ⟨hrewrites, htext, -⟩ := translate_rewrites Sql.isLawful_library (d := .google)
    (t := tableWith ["Price", "qty"]) he
  exact ⟨e, _, he, hrewrites, fun e' h => (htext e' h).symm.trans hprinted.2⟩

end Verification

end SchemaBridge
