/-
# Accepted models and new identifiers

What `Model.validate` accepts is well formed, and what it refuses it calls a corrupt session, whatever
is wrong.  The counter of an accepted model is above the identifiers of all its objects.  So whatever
is given out from then on is new, also when the model goes on to use it.

## Key statements

* `failsAsCorrupt_validate`: the one kind of error.
* `Model.Allocates`: identifiers given out one after another, with changes of the model in between.
* `validate_accepts`: accepted are exactly the well formed models, and they give out new identifiers.
-/
import SchemaBridge.Proofs.Schema.Validity

namespace SchemaBridge

/-! ## The one kind of error -/

/-- What goes wrong is that the model is corrupt. -/
structure FailsAsCorrupt {α : Type} (x : Outcome α) : Prop where
  cause : ∀ e, x = .error e → ∃ text, e = .corruptSession text

/-- What succeeds does not fail otherwise. -/
theorem failsAsCorrupt_ok {α : Type} (a : α) : FailsAsCorrupt (.ok a : Outcome α) := by
  constructor
  intro e h
  cases h

/-- A corrupt session is one. -/
theorem failsAsCorrupt_corrupt {α : Type} (text : String) :
    FailsAsCorrupt (Model.corrupt text : Outcome α) := by
  constructor
  intro e h
  cases h
  exact ⟨text, rfl⟩

/-- Two steps that can fail in this way alone. -/
theorem FailsAsCorrupt.bind {α β : Type} {x : Outcome α} {f : α → Outcome β} (hx : FailsAsCorrupt x)
    (hf : ∀ a, FailsAsCorrupt (f a)) : FailsAsCorrupt (x >>= f) := by
  cases x with
  | error e =>
    constructor
    intro e' h
    cases h
    exact hx.cause e rfl
  | ok a => exact hf a

/-- A choice between ways that may go wrong. -/
theorem FailsAsCorrupt.ite {α : Type} {p : Prop} [Decidable p] {x y : Outcome α}
    (hx : FailsAsCorrupt x) (hy : FailsAsCorrupt y) : FailsAsCorrupt (if p then x else y) := by
  split
  · exact hx
  · exact hy

namespace Model

variable (m : Model) (nextId : Nat)

/-- An identifier can be refused in this way alone. -/
theorem failsAsCorrupt_reserve (seen : List Nat) (raw : Nat) (what : String) :
    FailsAsCorrupt (reserve nextId seen raw what) :=
  (failsAsCorrupt_corrupt _).ite ((failsAsCorrupt_corrupt _).ite (failsAsCorrupt_ok _))

theorem failsAsCorrupt_validateColumns (table : String) (seen : List Nat) (names : List String)
    (cs : List Column) : FailsAsCorrupt (validateColumns nextId table seen names cs) := by
  induction cs generalizing seen names with
  | nil => exact failsAsCorrupt_ok _
  | cons c cs ih =>
    apply (failsAsCorrupt_reserve ..).bind
    intro seen
    exact (failsAsCorrupt_corrupt _).ite (ih _ _)

theorem failsAsCorrupt_validateIndexes (t : Table) (seen : List Nat) (is : List Index) :
    FailsAsCorrupt (validateIndexes nextId t seen is) := by
  induction is generalizing seen with
  | nil => exact failsAsCorrupt_ok _
  | cons i is ih =>
    apply (failsAsCorrupt_reserve ..).bind
    intro seen
    apply (failsAsCorrupt_corrupt _).ite
    split
    · exact failsAsCorrupt_corrupt _
    · exact ih _

theorem failsAsCorrupt_validateChecks (seen : List Nat) (cs : List CheckConstraint) :
    FailsAsCorrupt (validateChecks nextId seen cs) := by
  induction cs generalizing seen with
  | nil => exact failsAsCorrupt_ok _
  | cons c cs ih => exact (failsAsCorrupt_reserve ..).bind ih

theorem failsAsCorrupt_validateReference (t : Table) (f : ForeignKey) :
    FailsAsCorrupt (validateReference m t f) := by
  unfold validateReference
  apply (failsAsCorrupt_corrupt _).ite
  split
  · exact failsAsCorrupt_corrupt _
  split
  · exact failsAsCorrupt_corrupt _
  split
  · exact failsAsCorrupt_corrupt _
  · exact failsAsCorrupt_ok _

theorem failsAsCorrupt_validateForeignKeys (t : Table) (seen : List Nat) (fs : List ForeignKey) :
    FailsAsCorrupt (validateForeignKeys m t seen fs) := by
  induction fs generalizing seen with
  | nil => exact failsAsCorrupt_ok _
  | cons f fs ih =>
    apply (failsAsCorrupt_reserve ..).bind
    intro seen
    exact (failsAsCorrupt_validateReference m t f).bind fun _ => ih seen

theorem failsAsCorrupt_validateTable (seen : List Nat) (names : List String) (key : TableId)
    (t : Table) : FailsAsCorrupt (validateTable m seen names key t) := by
  by_cases hkey : t.id = key
  · subst hkey
    rw [validateTable_of_key]
    apply (failsAsCorrupt_reserve ..).bind
    intro seen
    apply (failsAsCorrupt_corrupt _).ite
    apply (failsAsCorrupt_validateColumns ..).bind
    intro seen
    split
    · exact failsAsCorrupt_corrupt _
    apply (failsAsCorrupt_validateIndexes ..).bind
    intro seen
    apply (failsAsCorrupt_validateChecks ..).bind
    intro seen
    exact (failsAsCorrupt_validateForeignKeys ..).bind fun _ => failsAsCorrupt_ok _
  · unfold validateTable
    rw [if_pos (Ne.symm hkey)]
    exact failsAsCorrupt_corrupt _

theorem failsAsCorrupt_validateTables (seen : List Nat) (names : List String) (l : KeyedTables) :
    FailsAsCorrupt (validateTables m seen names l) := by
  induction l generalizing seen names with
  | nil => exact failsAsCorrupt_ok _
  | cons e l ih => exact (failsAsCorrupt_validateTable ..).bind fun r => ih r.1 r.2

theorem failsAsCorrupt_validateIssues (is : List Issue) :
    FailsAsCorrupt (validateIssues m is) := by
  induction is with
  | nil => exact failsAsCorrupt_ok _
  | cons i is ih =>
    unfold validateIssues
    split
    · exact ih
    · exact ih.ite (failsAsCorrupt_corrupt _)

/-- Whatever is wrong with a model, it is refused as a corrupt session. -/
theorem failsAsCorrupt_validate : FailsAsCorrupt m.validate :=
  (failsAsCorrupt_validateTables ..).bind fun _ => failsAsCorrupt_validateIssues m m.issues

/-! ## Identifiers given out -/

/-- Identifiers given out from a model one after another, the last one first, and what the model has
become.  In between it may be changed in any way that uses no identifiers but those it has and those
that were given out, and leaves the counter alone. -/
inductive Allocates (m : Model) : List Nat → Model → Prop
  | start : Allocates m [] m
  | allocate {given : List Nat} {m' : Model} (h : Allocates m given m') :
    Allocates m (m'.allocate.1 :: given) m'.allocate.2
  | change {given : List Nat} {m' m'' : Model} (h : Allocates m given m')
    (hcounter : m''.nextId = m'.nextId) (hids : ∀ i ∈ m''.ids, i ∈ m'.ids ∨ i ∈ given) :
    Allocates m given m''

variable {m}

/-- What is given out lies between the counter of the model at first and now, each number once, and
nothing in the model has reached the counter. -/
structure GivenFrom (m : Model) (given : List Nat) (m' : Model) : Prop where
  distinct : given.Nodup
  between : ∀ i ∈ given, m.nextId ≤ i ∧ i < m'.nextId
  below : ∀ i ∈ m'.ids, i < m'.nextId
  grows : m.nextId ≤ m'.nextId

/-- One more identifier. -/
theorem GivenFrom.allocate {given : List Nat} {m' : Model} (h : GivenFrom m given m') :
    GivenFrom m (m'.allocate.1 :: given) m'.allocate.2 where
  distinct := by
    apply List.nodup_cons.2
    refine ⟨fun hmem => ?_, h.distinct⟩
    have hlt : m'.nextId < m'.nextId := (h.between _ hmem).2
    omega
  between := by
    intro i hi
    show m.nextId ≤ i ∧ i < m'.nextId + 1
    rcases List.mem_cons.1 hi with rfl | hi
    · exact ⟨h.grows, Nat.lt_succ_self _⟩
    · have hbetween := h.between i hi
      omega
  below := by
    intro i hi
    exact Nat.lt_succ_of_lt (h.below i hi)
  grows := Nat.le_succ_of_le h.grows

/-- A change that uses what was given out. -/
theorem GivenFrom.change {given : List Nat} {m' m'' : Model} (h : GivenFrom m given m')
    (hcounter : m''.nextId = m'.nextId) (hids : ∀ i ∈ m''.ids, i ∈ m'.ids ∨ i ∈ given) :
    GivenFrom m given m'' where
  distinct := h.distinct
  between := by
    rw [hcounter]
    exact h.between
  below := by
    intro i hi
    rw [hcounter]
    rcases hids i hi with hold | hgiven
    · exact h.below i hold
    · exact (h.between i hgiven).2
  grows := by
    rw [hcounter]
    exact h.grows

/-- Identifiers are given from the counter upwards. -/
theorem Allocates.givenFrom {given : List Nat} {m' : Model} (h : m.Allocates given m')
    (hm : ∀ i ∈ m.ids, i < m.nextId) : GivenFrom m given m' := by
  induction h with
  | start => exact ⟨List.nodup_nil, List.forall_mem_nil _, hm, Nat.le_refl _⟩
  | allocate _ ih => exact ih.allocate
  | change _ hcounter hids ih => exact ih.change hcounter hids

/-- What was given out is new, and so is what is given out next.  It is below the counter, and as small
a number as this one. -/
structure GivesNew (m : Model) (given : List Nat) (m' : Model) : Prop where
  distinct : given.Nodup
  new : ∀ i ∈ given, i ∉ m.ids
  below : ∀ i ∈ given, i < m'.nextId
  next : m'.allocate.1 ∉ m'.ids

/-- So none of them is in use. -/
theorem GivenFrom.givesNew {given : List Nat} {m' : Model} (h : GivenFrom m given m')
    (hm : ∀ i ∈ m.ids, i < m.nextId) : GivesNew m given m' where
  distinct := h.distinct
  new := by
    intro i hi hold
    have hbetween := h.between i hi
    have hbelow := hm i hold
    omega
  below := fun i hi => (h.between i hi).2
  next := by
    intro hmem
    exact Nat.lt_irrefl _ (h.below m'.nextId hmem)

/-- **Validity accepts exactly the well formed models**, and refuses every other one as a corrupt
session.  From an accepted model only new identifiers are given out. -/
theorem validate_accepts (m : Model) :
    (m.validate = .ok () ↔ m.WellFormed)
      ∧ (¬ m.WellFormed → ∃ text, m.validate = .error (.corruptSession text))
      ∧ (m.validate = .ok () → ∀ given m', m.Allocates given m' → GivesNew m given m') := by
  refine ⟨validate_eq_ok_iff m, ?_, ?_⟩
  · intro hbad
    cases hv : m.validate with
    | ok u => exact absurd ((validate_eq_ok_iff m).1 hv) hbad
    | error e =>
      obtain ⟨text, rfl⟩ := (failsAsCorrupt_validate m).cause e hv
      exact ⟨text, rfl⟩
  · intro hv given m' h
    have hbelow : ∀ i ∈ m.ids, i < m.nextId :=
      fun i hi => (((validate_eq_ok_iff m).1 hv).inRange i hi).2
    exact (h.givenFrom hbelow).givesNew hbelow

/-- A model of one table with one column. -/
def numberedModel : Model :=
  { empty .postgres .google default with
    tables := [(⟨1⟩, { Table.empty ⟨1⟩ "t" with
      columns := [.plain ⟨2⟩ "a" ⟨"integer", [], [], 0, "integer"⟩]
      primaryKey := [⟨⟨2⟩, false⟩] })]
    nextId := 3 }

/-- The same with another column, for which an identifier was given out. -/
def widenedModel : Model :=
  numberedModel.allocate.2.modifyTable ⟨1⟩ fun t =>
    { t with columns := t.columns ++ [.plain ⟨3⟩ "b" ⟨"text", [], [], 0, "text"⟩] }

theorem validate_accepts_numberedModel : numberedModel.validate = .ok () ∧ numberedModel.WellFormed
    ∧ numberedModel.Allocates [4, 3] widenedModel.allocate.2
    ∧ GivesNew numberedModel [4, 3] widenedModel.allocate.2 := by
  have hvalid : numberedModel.validate = .ok () := by decide +kernel
  have hwidened : numberedModel.Allocates [3] widenedModel := by
    refine .change (.allocate .start) rfl ?_
    decide
  obtain ⟨hiff, -, hgives⟩ := validate_accepts numberedModel
  exact ⟨hvalid, hiff.1 hvalid, hwidened.allocate, hgives hvalid _ _ hwidened.allocate⟩

end Model

end SchemaBridge
