/-
# Reading expressions

Every rule of the grammar takes its tokens from the front, provided that the rules for what may
stand inside do; since the knot is tied at a depth, all of them do.  So the tokens of a text are
those the expression at its front is made of, followed by those that are not read.

## Key statements

* `Rules.Takes`: the rules that read from the front; those at every depth do.
-/
import SchemaBridge.Proofs.Sql.Front
import SchemaBridge.Sql.Grammar

namespace SchemaBridge.Sql

open Sql.Parser

-- a form with many branches is a large composition
set_option synthInstance.maxSize 2000

/-- Rules that take what may stand inside from the front. -/
class Rules.Takes (r : Rules) : Prop where
  tighter : ∀ n, Parser.Takes (r.tighter n)
  query : Parser.Takes r.query

attribute [instance] Rules.Takes.tighter Rules.Takes.query

section

variable {r : Rules} [r.Takes]

instance : Takes r.expr := by unfold Rules.expr; infer_instance

instance (b : Binding) : Takes (r.above b) := by unfold Rules.above; infer_instance

instance : Takes r.exprs := by unfold Rules.exprs; infer_instance

instance : Takes Rules.queryFollows := by unfold Rules.queryFollows; infer_instance

/-! ## Calls -/

instance : Takes (dateField r) := by
  unfold dateField
  refine .bind fun _ => ?_
  split <;> infer_instance

instance {value : Parser Expr} [Takes value] : Takes (intervalForm r value) := by
  unfold intervalForm
  refine .bind fun _ => ?_
  split <;> infer_instance

instance : Takes literalValue := by
  unfold literalValue
  refine .bind fun t => ?_
  split
  case h_4 =>
    refine .ite inferInstance (.ite inferInstance (.ite inferInstance ?_))
    split <;> infer_instance
  all_goals infer_instance

instance (e : Expr) : Takes (collated e) := by unfold collated; infer_instance

instance : Takes (orderItem r) := by unfold orderItem; infer_instance

instance : Takes (orderItems r) := by unfold orderItems; infer_instance

instance : Takes nullTreatment := by
  unfold nullTreatment
  refine .bind fun _ => ?_
  split <;> infer_instance

instance (fuel : Nat) : Takes (starredParts fuel) := by
  induction fuel with
  | zero => exact inferInstanceAs (Takes (pure ([], false)))
  | succ fuel ih =>
    unfold starredParts
    refine .bind fun _ => .ite (.bind fun t => ?_) inferInstance
    split <;> infer_instance

instance : Takes (starOrExpr r) := by
  refine ⟨fun {ts rest a} h => ?_⟩
  unfold starOrExpr at h
  extract_lets qualified plain at h
  have hplain (h : plain = .ok (a, rest)) : rest <:+ ts :=
    Takes.suffix (p := do return (← r.expr, false)) h
  have hqualified {first after} (hafter : after <:+ ts)
      (h : qualified first after = .ok (a, rest)) : rest <:+ ts := by
    obtain ⟨⟨is, star⟩, mid, hparts, h⟩ := bind_eq_ok.1 h
    cases star with
    | true =>
      cases h
      exact (Takes.suffix hparts).trans hafter
    | false =>
      -- without a star the expression is read again from where the name began
      obtain ⟨e, mid, he, h⟩ := bind_eq_ok.1 h
      cases h
      exact Takes.suffix (p := r.expr) he
  split at h
  · cases h
    exact List.suffix_cons _ _
  · split at h
    · exact hqualified (List.suffix_cons _ _) h
    · exact hplain h
  · split at h
    · exact hqualified (List.suffix_cons _ _) h
    · exact hplain h
  · exact hplain h

instance : Takes (argument r) := by unfold argument; infer_instance

instance (begins : Bool) {p : Parser Pieces} [Takes p] : Takes (optionalClause begins p) := by
  unfold optionalClause
  infer_instance

/-- A clause that may be left out. -/
theorem takes_optionalClause {begins : Bool} {p : Parser Pieces} (hp : Takes p) :
    Takes (optionalClause begins p) :=
  inferInstance

instance : Takes (overflowForm r) := by
  unfold overflowForm
  refine .bind fun _ => .ite inferInstance (.bind fun _ => ?_)
  refine .bind fun t => ?_
  -- the branches of a choice go on with one function, which stands before them
  extract_lets counted
  have hcounted (filler) : Takes (counted filler) := by
    unfold counted
    refine .bind fun k => ?_
    split <;> infer_instance
  split <;> infer_instance

instance : Takes (argumentList r) := by
  unfold argumentList
  repeat' first
    | infer_instance
    | refine @Takes.bind _ _ _ _ (takes_optionalClause ?_) fun _ => ?_
    | refine .bind fun _ => ?_
    | refine .ite ?_ ?_
    | split

instance : Takes (frameBound r) := by
  unfold frameBound
  refine .bind fun _ => .ite inferInstance (.bind fun _ => ?_)
  extract_lets directed
  have hdirected (rows) : Takes (directed rows) := by
    unfold directed
    refine .bind fun k => ?_
    split <;> infer_instance
  refine .ite inferInstance (.bind fun t => ?_)
  split <;> infer_instance

instance : Takes (windowFrame r) := by
  unfold windowFrame
  refine .bind fun _ => ?_
  split <;> infer_instance

instance : Takes (windowBody r) := by
  unfold windowBody
  refine .bind fun _ => ?_
  split <;> infer_instance

instance : Takes (groupFilter r) := by unfold groupFilter; infer_instance

instance (name : List Ident) : Takes (call r name) := by
  unfold call
  refine .bind fun _ => .bind fun first => ?_
  obtain ⟨first, nulls⟩ := first
  repeat' first | infer_instance | refine .bind fun _ => ?_ | refine .ite ?_ ?_

/-! ## Queries -/

instance (reserved : List String) : Takes (alias? reserved) := by
  unfold alias?
  refine .bind fun _ => .bind fun _ => ?_
  split <;> infer_instance

instance : Takes tableAlias := by
  unfold tableAlias
  refine .bind fun _ => ?_
  split <;> infer_instance

instance : Takes (selectItem r) := by
  unfold selectItem
  refine .bind fun (e, star) => .ite inferInstance ?_
  extract_lets named
  have hnamed (u) : Takes (named u) := by
    unfold named
    refine .bind fun i => ?_
    split <;> infer_instance
  clear_value named
  split <;> infer_instance

instance (natural : Bool) : Takes (joinCondition r natural) := by
  unfold joinCondition
  infer_instance

instance : Takes joinKind? := by
  unfold joinKind?
  repeat' first | infer_instance | refine .bind fun _ => ?_ | refine .ite ?_ ?_

instance {factor : TableParser} [Takes factor] : Takes (join? r factor) := by
  unfold join?
  refine .bind fun _ => .ite inferInstance (.bind fun _ => ?_)
  refine .ite inferInstance (.bind fun _ => .ite inferInstance ?_)
  refine .bind fun _ => .ite ?_ (.bind fun natural => ?_)
  · infer_instance
  · refine .bind fun kind => ?_
    split <;> infer_instance

instance {factor : TableParser} [Takes factor] : Takes (joined r factor) := by
  unfold joined
  infer_instance

instance (lead : String) : Takes (derivedTable r lead) := by unfold derivedTable; infer_instance

instance : Takes (tableArguments r) := by unfold tableArguments; infer_instance

instance : Takes (unnested r) := by unfold unnested; infer_instance

instance : Takes jsonFallback? := by
  unfold jsonFallback?
  refine .bind fun _ => ?_
  extract_lets fallback
  have hfallback (action) : Takes (fallback action) := by
    unfold fallback
    split
    · infer_instance
    · refine .bind fun _ => .bind fun _ => ?_
      split <;> infer_instance
  infer_instance

instance (fuel : Nat) : Takes (jsonColumn r fuel) := by
  induction fuel with
  | zero => exact inferInstanceAs (Takes fail)
  | succ fuel ih =>
    unfold jsonColumn
    infer_instance

instance : Takes (jsonTable r) := by unfold jsonTable; infer_instance

instance : Takes (namedTable r) := by unfold namedTable; infer_instance

instance (fuel : Nat) : Takes (tableFactor r fuel) := by
  induction fuel with
  | zero => exact inferInstanceAs (Takes fail)
  | succ fuel ih =>
    unfold tableFactor
    refine .bind fun _ => .ite inferInstance (.bind fun _ => ?_)
    refine .ite inferInstance (.bind fun _ => .ite ?_ inferInstance)
    refine .bind fun p => ?_
    split <;> infer_instance

instance : Takes (tables r) := by unfold tables; infer_instance

instance (ks : List String) {p : Parser Pieces} [Takes p] : Takes (clause ks p) := by
  unfold clause
  infer_instance

instance : Takes (distinctness r) := by unfold distinctness; infer_instance

instance : Takes (topRows r) := by unfold topRows; infer_instance

instance : Takes (exprTuple r) := by unfold exprTuple; infer_instance

instance : Takes (groupItem r) := by
  unfold groupItem
  extract_lets row single corner groups
  have hsingle (es) : Takes (single es) := by
    unfold single
    split <;> infer_instance
  have hcorner : Takes corner := by
    unfold corner
    infer_instance
  have hgroups (lead) (one) [Takes one] : Takes (groups lead one) := by
    unfold groups
    infer_instance
  infer_instance

instance : Takes (windowClauses r) := by unfold windowClauses; infer_instance

instance : Takes (selection r) := by unfold selection; infer_instance

instance : Takes (valueRows r) := by unfold valueRows; infer_instance

instance : Takes wholeTable := by
  unfold wholeTable
  refine .bind fun t => ?_
  split
  · refine .bind fun _ => .bind fun _ => ?_
    refine .bind fun _ => .bind fun _ => ?_
    split <;> infer_instance
  · infer_instance

instance : Takes (queryTerm r) := by unfold queryTerm; infer_instance

instance : Takes setOperation? := by
  unfold setOperation?
  refine .bind fun _ => ?_
  split <;> infer_instance

instance (fuel strength : Nat) (left : Pieces) : Takes (setChain r fuel strength left) := by
  induction fuel generalizing strength left with
  | zero => exact inferInstanceAs (Takes (pure left))
  | succ fuel ih =>
    unfold setChain
    refine .bind fun op => ?_
    split
    · infer_instance
    · refine .ite inferInstance (.bind fun _ => .bind fun _ => ?_)
      extract_lets joined
      have hjoined (quantifier) : Takes (joined quantifier) := by
        unfold joined
        infer_instance
      infer_instance

instance : Takes (queryBody r) := by unfold queryBody; infer_instance

instance : Takes (commonTable r) := by unfold commonTable; infer_instance

instance : Takes (commonTables r) := by unfold commonTables; infer_instance

instance : Takes (offsetRows r) := by unfold offsetRows; infer_instance

instance : Takes (limits r) := by unfold limits; infer_instance

instance : Takes fetchClause := by
  unfold fetchClause
  refine .bind fun _ => .ite inferInstance (.bind fun t => ?_)
  split <;> infer_instance

instance : Takes rowLock? := by
  unfold rowLock?
  refine .bind fun _ => .ite (.bind fun t => ?_) inferInstance
  split <;> infer_instance

instance : Takes (wholeQuery r) := by unfold wholeQuery; infer_instance

/-! ## Terms -/

instance (fuel : Nat) : Takes (caseBranches r fuel) := by
  induction fuel with
  | zero => exact inferInstanceAs (Takes fail)
  | succ fuel ih =>
    unfold caseBranches
    infer_instance

instance : Takes (caseForm r) := by unfold caseForm; infer_instance

instance : Takes castFormat := by unfold castFormat; infer_instance

instance (kind : CastKind) : Takes (castForm r kind) := by unfold castForm; infer_instance

instance (lead : String) : Takes (convertForm r lead) := by unfold convertForm; infer_instance

instance (lead : String) : Takes (existsForm r lead) := by unfold existsForm; infer_instance

instance : Takes (extractForm r) := by unfold extractForm; infer_instance

instance (lead : String) : Takes (roundForm r lead) := by
  unfold roundForm
  refine .parenthesized (.bind fun e => .bind fun _ => .ite ?_ ?_)
  · infer_instance
  · refine .bind fun _ => .ite (.bind fun t => ?_) inferInstance
    split <;> infer_instance

instance : Takes (positionForm r) := by unfold positionForm; infer_instance

instance : Takes (substringForm r) := by unfold substringForm; infer_instance

instance : Takes (overlayForm r) := by unfold overlayForm; infer_instance

instance : Takes (trimForm r) := by unfold trimForm; infer_instance

instance : Takes matchForm := by unfold matchForm; infer_instance

instance (lead : String) : Takes (arrayItems r lead) := by unfold arrayItems; infer_instance

instance (sign : String) (b : Binding) : Takes (signed r sign b) := by unfold signed; infer_instance

instance : Takes (notForm r) := by unfold notForm; infer_instance

instance : Takes (nested r) := by
  unfold nested
  refine .bind fun _ => ?_
  extract_lets closed
  have hclosed (e) : Takes (closed e) := by
    unfold closed
    refine .bind fun _ => .bind fun _ => ?_
    refine .ite (.bind fun t => ?_) inferInstance
    split <;> infer_instance
  infer_instance

instance (d : Dialect) (fuel : Nat) : Takes (pathParts d fuel) := by
  induction fuel with
  | zero => exact inferInstanceAs (Takes (pure ([], false)))
  | succ fuel ih =>
    unfold pathParts
    refine .bind fun _ => .ite (.bind fun t => ?_) inferInstance
    split <;> infer_instance

instance (first : Ident) : Takes (nameForm r first) := by
  unfold nameForm
  refine .bind fun _ => ?_
  split <;> infer_instance

instance (name : Ident) : Takes (timeCall r name) := by unfold timeCall; infer_instance

instance (i : Ident) (key : String) : Takes (wordForm r i key) := by
  unfold wordForm
  split
  all_goals try infer_instance
  refine .bind fun _ => .ite (.bind fun e => ?_) inferInstance
  split <;> infer_instance

instance {interval : Parser Expr} [Takes interval] : Takes (typedLiteral r interval) := by
  unfold typedLiteral
  refine .bind fun _ => ?_
  split <;> infer_instance

instance {interval : Parser Expr} [Takes interval] (t : Token) :
    Takes (tokenForm r interval t) := by
  unfold tokenForm
  split
  case h_7 => split <;> infer_instance
  all_goals infer_instance

instance (fuel : Nat) : Takes (term r fuel) := by
  induction fuel with
  | zero => exact inferInstanceAs (Takes fail)
  | succ fuel ih =>
    unfold term
    refine .bind fun _ => ?_
    split <;> infer_instance

/-! ## Operators -/

instance (d : Dialect) : Takes (nextStrength d) := by
  unfold nextStrength
  refine .bind fun _ => ?_
  split <;> infer_instance

instance (fuel : Nat) : Takes (operatorParts fuel) := by
  induction fuel with
  | zero => exact inferInstanceAs (Takes fail)
  | succ fuel ih =>
    unfold operatorParts
    infer_instance

instance : Takes (joiningOperator? r) := by
  unfold joiningOperator?
  refine .bind fun t => ?_
  split
  · split <;> infer_instance
  all_goals infer_instance

instance (strength : Nat) (left : Expr) (op : String) : Takes (joinedForm r strength left op) := by
  unfold joinedForm
  refine .bind fun _ => ?_
  split <;> infer_instance

instance (left : Expr) : Takes (isForm r left) := by
  unfold isForm
  extract_lets fixed
  refine ⟨fun {ts rest a} h => ?_⟩
  obtain ⟨_, _, hget, h⟩ := bind_eq_ok.1 h
  cases hget
  cases hfind : fixed.find? fun ks => (ts.take ks.length).map (fun t => keyOf (some t)) == ks with
  | some ks =>
    -- the words are dropped all at once
    rw [hfind] at h
    obtain ⟨_, _, hset, h⟩ := bind_eq_ok.1 h
    cases hset
    cases h
    exact List.drop_suffix _ _
  | none =>
    rw [hfind] at h
    exact Takes.suffix h

instance (left : Expr) (negation : String) : Takes (inForm r left negation) := by
  unfold inForm
  infer_instance

instance (left : Expr) (negation : String) : Takes (betweenForm r left negation) := by
  unfold betweenForm
  infer_instance

instance (d : Dialect) : Takes (escapeClause d) := by unfold escapeClause; infer_instance

instance (left : Expr) (lead : String) (escapes : Bool) :
    Takes (patternForm r left lead escapes) := by
  unfold patternForm
  infer_instance

instance (left : Expr) : Takes (testForm r left) := by
  unfold testForm
  infer_instance

instance : Takes (subscript r) := by
  unfold subscript
  refine .bind fun _ => ?_
  extract_lets slice
  have hslice (low) : Takes (slice low) := by
    unfold slice
    extract_lets tail
    split <;> infer_instance
  infer_instance

instance (strength : Nat) (left : Expr) : Takes (operatorForm r strength left) := by
  unfold operatorForm
  extract_lets operator
  have hoperator (u) : Takes (operator u) := by
    unfold operator
    refine .bind fun op => ?_
    split
    · infer_instance
    · refine .bind fun t => ?_
      split <;> infer_instance
  clear_value operator
  infer_instance

instance (strength fuel : Nat) (left : Expr) : Takes (chain r strength fuel left) := by
  induction fuel generalizing left with
  | zero => exact inferInstanceAs (Takes fail)
  | succ fuel ih =>
    unfold chain
    infer_instance

instance (strength : Nat) : Takes (chained r strength) := by unfold chained; infer_instance

end

/-! ## The whole grammar -/

instance (d : Dialect) (depth : Nat) : (rulesAt d depth).Takes := by
  induction depth with
  | zero => exact ⟨fun _ => inferInstanceAs (Takes (throw _)), inferInstanceAs (Takes (throw _))⟩
  | succ depth ih =>
    exact ⟨fun n => inferInstanceAs (Takes (chained (rulesAt d depth) n)),
      inferInstanceAs (Takes (wholeQuery (rulesAt d depth)))⟩

end SchemaBridge.Sql
