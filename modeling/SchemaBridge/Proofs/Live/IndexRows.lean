/-
# Rows about indexes

A catalogue tells of its indexes in rows, one for each key, in the order of the names.  An index is
made of rows that follow each other, once those about indexes of some rows are left out.  As rows of
one name stand together, no key of an index goes to another one, and none is lost.

## Key statements

* `indexDrafts_append`: what one more row does.
* `GivesDrafts.addRow`: one more row leaves every index with the keys that its rows have.
* `plainName_spelledName`: the name of a column is read as it was meant.
* `table_regroups`: the indexes of a table.
-/
import Mathlib.Data.List.SplitBy
import SchemaBridge.Live.Reader
import SchemaBridge.Proofs.Live.CheckBodies
import SchemaBridge.Proofs.Schema.Keys
import SchemaBridge.Proofs.Sql.Quoting

namespace SchemaBridge.Live

/-! ## Rows in order -/

/-- Rows about the indexes of a table, as the server returns them: in some order of the names, in which
no two names are at one place, and with the same said of an index in all of its rows. -/
structure InNameOrder (le : String → String → Prop) (rows : List IndexRow) : Prop where
  antisymm : ∀ a b, le a b → le b a → a = b
  ordered : rows.Pairwise fun r s => le r.name s.name
  unique : ∀ r ∈ rows, ∀ s ∈ rows, r.name = s.name → r.unique = s.unique
  isPartial : ∀ r ∈ rows, ∀ s ∈ rows, r.name = s.name → r.isPartial = s.isPartial

/-- The names in rows, each once, in the order of the rows. -/
def rowNames (rows : List IndexRow) : List String := (rows.map (·.name)).eraseDups

/-- The rows of one name. -/
def rowsOf (name : String) (rows : List IndexRow) : List IndexRow := rows.filter (·.name == name)

/-- The rows about indexes without a predicate. -/
def wholeRows (rows : List IndexRow) : List IndexRow := rows.filter (!·.isPartial)

/-- The drafts of the indexes that rows tell of: one for each name without a predicate, in order, with
the keys of the rows of this name. -/
structure GivesDrafts (rows : List IndexRow) (drafts : List IndexDraft) : Prop where
  names : drafts.map (·.name) = (rowNames (wholeRows rows)).map some
  columns : ∀ d ∈ drafts, ∀ name, d.name = some name →
    d.columns = (rowsOf name rows).map (·.keyDraft)
  unique : ∀ d ∈ drafts, ∀ r ∈ rows, d.name = some r.name → d.unique = r.unique

/-- What rows tell is regrouped: an index without a predicate has its draft, and the name of one with a
predicate is skipped once and stands nowhere else. -/
structure Regroups (rows : List IndexRow) (drafts : List IndexDraft) (skipped : List String) : Prop
    extends GivesDrafts rows drafts where
  once : skipped.Nodup
  mem_skipped : ∀ name, name ∈ skipped ↔ ∃ r ∈ rows, r.name = name ∧ r.isPartial = true
  apart : ∀ name ∈ skipped, ∀ d ∈ drafts, d.name ≠ some name

section Rows

variable {le : String → String → Prop} {rows : List IndexRow} {r s : IndexRow} {name : String}

/-- The first rows are in order if all are. -/
theorem InNameOrder.of_append {more : List IndexRow} (h : InNameOrder le (rows ++ more)) :
    InNameOrder le rows where
  antisymm := h.antisymm
  ordered := (List.pairwise_append.1 h.ordered).1
  unique r hr s hs := h.unique r (List.mem_append_left _ hr) s (List.mem_append_left _ hs)
  isPartial r hr s hs := h.isPartial r (List.mem_append_left _ hr) s (List.mem_append_left _ hs)

/-- A row comes after all before it. -/
theorem InNameOrder.le_last (h : InNameOrder le (rows ++ [r])) (hs : s ∈ rows) :
    le s.name r.name :=
  (List.pairwise_append.1 h.ordered).2.2 s hs r (List.mem_singleton.2 rfl)

/-- The names are those of the rows. -/
theorem mem_rowNames : name ∈ rowNames rows ↔ ∃ r ∈ rows, r.name = name :=
  List.mem_eraseDups.trans List.mem_map

/-- Rows about indexes without a predicate. -/
theorem mem_wholeRows : r ∈ wholeRows rows ↔ r ∈ rows ∧ r.isPartial = false := by
  unfold wholeRows
  rw [List.mem_filter, Bool.not_eq_true']

theorem wholeRows_append_partial (hr : r.isPartial = true) :
    wholeRows (rows ++ [r]) = wholeRows rows := by
  simp [wholeRows, hr]

theorem wholeRows_append_whole (hr : r.isPartial = false) :
    wholeRows (rows ++ [r]) = wholeRows rows ++ [r] := by
  simp [wholeRows, hr]

/-- A row more about an index. -/
theorem rowsOf_append_self (rows : List IndexRow) (r : IndexRow) :
    rowsOf r.name (rows ++ [r]) = rowsOf r.name rows ++ [r] := by
  simp [rowsOf]

/-- A row about another index. -/
theorem rowsOf_append_of_ne (h : r.name ≠ name) : rowsOf name (rows ++ [r]) = rowsOf name rows := by
  simp [rowsOf, h]

/-- Of an index that no row is about there is none. -/
theorem rowsOf_eq_nil (h : ∀ r ∈ rows, r.name ≠ name) : rowsOf name rows = [] := by
  unfold rowsOf
  rw [List.filter_eq_nil_iff]
  exact fun r hr heq => h r hr (eq_of_beq heq)

/-- A row more may bring a name. -/
theorem rowNames_append (rows : List IndexRow) (r : IndexRow) : rowNames (rows ++ [r])
    = if r.name ∈ rowNames rows then rowNames rows else rowNames rows ++ [r.name] := by
  unfold rowNames
  rw [List.map_append, List.map_singleton, List.eraseDups_append]
  unfold List.removeAll
  by_cases hmem : r.name ∈ rows.map (·.name)
  · rw [if_pos (List.mem_eraseDups.2 hmem), List.filter_singleton, List.elem_eq_mem, decide_eq_true hmem]
    exact List.append_nil _
  · rw [if_neg fun h => hmem (List.mem_eraseDups.1 h), List.filter_singleton, List.elem_eq_mem,
      decide_eq_false hmem]
    rfl

/-- The names of rows stand in the order of the rows. -/
theorem InNameOrder.ordered_rowNames (h : InNameOrder le rows) :
    (rowNames (wholeRows rows)).Pairwise le := by
  have hsub : (rowNames (wholeRows rows)).Sublist (rows.map (·.name)) :=
    (eraseDups_sublist _).trans (List.filter_sublist.map _)
  exact (List.pairwise_map.2 h.ordered).sublist hsub

end Rows

/-! ## One row after another -/

/-- The draft of an index of one key. -/
def IndexRow.draft (r : IndexRow) : IndexDraft :=
  { name := some r.name, columns := [r.keyDraft], unique := r.unique }

/-- What the next row does to the drafts found: it adds its key to the last one if this has its name,
and begins another one otherwise. -/
def addRow (drafts : List IndexDraft) (r : IndexRow) : List IndexDraft :=
  if r.isPartial then drafts
  else
    match drafts.getLast? with
    | none => [r.draft]
    | some d =>
      if d.name = some r.name then
        drafts.dropLast ++ [{ d with columns := d.columns ++ [r.keyDraft] }]
      else drafts ++ [r.draft]

section Adding

variable {drafts : List IndexDraft} {d : IndexDraft} {r : IndexRow}

/-- A row about an index with a predicate changes no draft. -/
theorem addRow_partial (hr : r.isPartial = true) : addRow drafts r = drafts := by
  unfold addRow
  rw [if_pos hr]

/-- A row about the last index adds its key. -/
theorem addRow_join (hr : r.isPartial = false) (hname : d.name = some r.name) :
    addRow (drafts ++ [d]) r
      = drafts ++ [{ d with columns := d.columns ++ [r.keyDraft] }] := by
  unfold addRow
  rw [if_neg (ne_true_of_eq_false hr), List.getLast?_concat]
  dsimp only
  rw [if_pos hname, List.dropLast_concat]

/-- A row about another one begins a draft. -/
theorem addRow_begin (hr : r.isPartial = false)
    (hname : ∀ d ∈ drafts.getLast?, d.name ≠ some r.name) : addRow drafts r = drafts ++ [r.draft] := by
  unfold addRow
  rw [if_neg (ne_true_of_eq_false hr)]
  split
  · rename_i hnone
    rw [List.getLast?_eq_none_iff.1 hnone]
    rfl
  · rename_i d hd
    rw [if_neg (hname d hd)]

end Adding

section Groups

variable {α : Type} {rel : α → α → Bool} {l g : List α} {gs : List (List α)} {a b : α}

/-- A list ends with the end of its last group. -/
theorem exists_splitBy_append (rel : α → α → Bool) (l : List α) (a : α) :
    ∃ gs g, (l ++ [a]).splitBy rel = gs ++ [g ++ [a]] := by
  obtain ⟨hflatten, hne, -⟩ := List.splitBy_eq_iff.1 (rfl : (l ++ [a]).splitBy rel = _)
  rcases List.eq_nil_or_concat ((l ++ [a]).splitBy rel) with hnil | ⟨gs, g, hg⟩
  · exact absurd (List.splitBy_eq_nil.1 hnil) (by simp)
  rw [List.concat_eq_append] at hg
  rw [hg] at hflatten hne
  rcases List.eq_nil_or_concat g with rfl | ⟨g, a', rfl⟩
  · exact absurd (List.mem_append_right _ (List.mem_singleton.2 rfl)) hne
  rw [List.concat_eq_append] at hg hflatten
  rw [List.flatten_append, List.flatten_singleton, ← List.append_assoc] at hflatten
  obtain ⟨-, hlast⟩ := List.append_inj' hflatten rfl
  obtain rfl : a = a' := List.singleton_inj.1 hlast
  exact ⟨gs, g, hg⟩

/-- A list that goes on as it ended goes on with its last group. -/
theorem splitBy_append_of_rel (hg : (l ++ [a]).splitBy rel = gs ++ [g ++ [a]])
    (hab : rel a b = true) : (l ++ [a] ++ [b]).splitBy rel = gs ++ [g ++ [a] ++ [b]] := by
  obtain ⟨hflatten, hne, hchain, hends⟩ := List.splitBy_eq_iff.1 hg
  refine List.splitBy_eq_iff.2 ⟨?_, ?_, fun m hm => ?_, ?_⟩
  · rw [hflatten]
    simp
  · simp only [List.mem_append, List.mem_singleton, not_or] at hne ⊢
    exact ⟨hne.1, by simp⟩
  · rcases List.mem_append.1 hm with hm | hm
    · exact hchain m (List.mem_append_left _ hm)
    · rw [List.mem_singleton.1 hm]
      have hlast := hchain _ (List.mem_append_right _ (List.mem_singleton.2 rfl))
      refine List.isChain_append.2 ⟨hlast, List.isChain_singleton b, fun x hx y hy => ?_⟩
      obtain rfl : a = x := by simpa using hx
      obtain rfl : b = y := by simpa using hy
      exact hab
  · rw [List.isChain_append] at hends ⊢
    refine ⟨hends.1, List.isChain_singleton _, fun x hx y hy => ?_⟩
    obtain rfl : g ++ [a] ++ [b] = y := by simpa using hy
    obtain ⟨hx', hg', hrel⟩ := hends.2.2 x hx (g ++ [a]) (by simp)
    refine ⟨hx', by simp, ?_⟩
    rwa [List.head_append_of_ne_nil hg']

end Groups

section Steps

variable {le : String → String → Prop} {rows run : List IndexRow} {drafts : List IndexDraft}
  {d : IndexDraft} {r s : IndexRow}

/-- Rows each of which has the name of the one before it. -/
theorem name_of_isChain {rest : List IndexRow}
    (h : (r :: rest).IsChain fun x y => (x.name == y.name) = true) :
    ∀ x ∈ r :: rest, x.name = r.name := by
  induction rest generalizing r with
  | nil =>
    intro x hx
    rw [List.mem_singleton.1 hx]
  | cons s rest ih =>
    obtain ⟨hfirst, hrest⟩ := List.isChain_cons_cons.1 h
    exact List.forall_mem_cons.2
      ⟨rfl, fun x hx => (ih hrest x hx).trans (eq_of_beq hfirst).symm⟩

/-- The draft of an index with one row more. -/
theorem indexDraft?_append (h : indexDraft? run = some d) (r : IndexRow) :
    indexDraft? (run ++ [r]) = some { d with columns := d.columns ++ [r.keyDraft] } := by
  cases run with
  | nil => cases h
  | cons x run =>
    cases h
    simp [indexDraft?]

/-- A draft has the name of the last of its rows. -/
theorem exists_indexDraft? (h : (run ++ [s]).IsChain fun x y => (x.name == y.name) = true) :
    ∃ d, indexDraft? (run ++ [s]) = some d ∧ d.name = some s.name := by
  cases run with
  | nil => exact ⟨_, rfl, rfl⟩
  | cons x run =>
    refine ⟨_, rfl, congrArg some ?_⟩
    exact (name_of_isChain h s (by simp)).symm

/-- **One more row.**  The name of the last draft decides where its key goes. -/
theorem indexDrafts_append (rows : List IndexRow) (r : IndexRow) :
    indexDrafts (rows ++ [r]) = addRow (indexDrafts rows) r := by
  have hdrafts : ∀ rows : List IndexRow, indexDrafts rows
      = ((wholeRows rows).splitBy fun r s => r.name == s.name).filterMap indexDraft? := fun _ => rfl
  cases hr : r.isPartial with
  | true => rw [addRow_partial hr, hdrafts, hdrafts, wholeRows_append_partial hr]
  | false =>
    rw [hdrafts, hdrafts, wholeRows_append_whole hr]
    rcases List.eq_nil_or_concat (wholeRows rows) with hnil | ⟨before, s, hs⟩
    · rw [hnil, addRow_begin hr (by simp)]
      rfl
    rw [List.concat_eq_append] at hs
    rw [hs]
    -- the last draft is that of the last run of rows, which ends with the row before
    obtain ⟨gs, g, hg⟩ := exists_splitBy_append (fun r s : IndexRow => r.name == s.name) before s
    have hchain := (List.splitBy_eq_iff.1 hg).2.2.1 (g ++ [s]) (by simp)
    obtain ⟨d, hd, hdname⟩ := exists_indexDraft? hchain
    have hfound : ∀ {run d}, indexDraft? run = some d →
        (gs ++ [run]).filterMap indexDraft? = gs.filterMap indexDraft? ++ [d] := by
      intro run d hd
      rw [List.filterMap_append, List.filterMap_cons_some hd, List.filterMap_nil]
    by_cases hname : s.name = r.name
    · rw [splitBy_append_of_rel hg (beq_iff_eq.2 hname), hg, hfound hd,
        hfound (indexDraft?_append hd r), addRow_join hr (hname ▸ hdname)]
    · have hne : ∀ x ∈ (before ++ [s]).getLast?, (x.name == r.name) = false := by
        simp [hname]
      rw [List.splitBy_append_cons [] hne, hg, List.filterMap_append, hfound hd,
        addRow_begin hr (by simp [hdname, hname])]
      rfl

theorem givesDrafts_nil : GivesDrafts [] [] :=
  ⟨rfl, nofun, nofun⟩

/-- A draft is made of rows without a predicate. -/
theorem GivesDrafts.exists_row (h : GivesDrafts rows drafts) (hd : d ∈ drafts) :
    ∃ s ∈ rows, s.isPartial = false ∧ d.name = some s.name := by
  have hname : d.name ∈ (rowNames (wholeRows rows)).map some := h.names ▸ List.mem_map_of_mem hd
  obtain ⟨name, hmem, hname⟩ := List.mem_map.1 hname
  obtain ⟨s, hs, rfl⟩ := mem_rowNames.1 hmem
  obtain ⟨hs, hpartial⟩ := mem_wholeRows.1 hs
  exact ⟨s, hs, hpartial, hname.symm⟩

/-- A name with a predicate is that of no draft. -/
theorem GivesDrafts.name_ne (h : GivesDrafts rows drafts)
    (halike : ∀ s ∈ rows, s.name = r.name → s.isPartial = r.isPartial) (hr : r.isPartial = true) :
    ∀ d ∈ drafts, d.name ≠ some r.name := by
  intro d hd hname
  obtain ⟨s, hs, hpartial, hsname⟩ := h.exists_row hd
  have hboth := halike s hs (Option.some.inj (hsname.symm.trans hname))
  rw [hpartial, hr] at hboth
  exact Bool.false_ne_true hboth

/-- A row of another name changes nothing about a draft. -/
theorem GivesDrafts.of_ne (h : GivesDrafts rows drafts) (hd : d ∈ drafts)
    (hne : d.name ≠ some r.name) :
    (∀ name, d.name = some name → d.columns = (rowsOf name (rows ++ [r])).map (·.keyDraft))
      ∧ ∀ s ∈ rows ++ [r], d.name = some s.name → d.unique = s.unique := by
  constructor
  · intro name hname
    have hrname : r.name ≠ name := fun heq => hne (hname.trans (congrArg some heq.symm))
    rw [rowsOf_append_of_ne hrname, h.columns d hd name hname]
  · intro s hs hname
    rcases List.mem_append.1 hs with hs | hs
    · exact h.unique d hd s hs hname
    · rw [List.mem_singleton.1 hs] at hname
      exact absurd hname hne

/-- One more row of the last name. -/
theorem GivesDrafts.join (h : GivesDrafts rows (drafts ++ [d])) (horder : InNameOrder le (rows ++ [r]))
    (hr : r.isPartial = false) (hname : d.name = some r.name) :
    GivesDrafts (rows ++ [r]) (drafts ++ [{ d with columns := d.columns ++ [r.keyDraft] }]) := by
  have hlast : d ∈ drafts ++ [d] := by simp
  have hmem : r.name ∈ rowNames (wholeRows rows) := by
    have hdname : d.name ∈ (rowNames (wholeRows rows)).map some := h.names ▸ List.mem_map_of_mem hlast
    rw [hname] at hdname
    simpa using hdname
  -- no other draft has the name of the last one
  have hothers : ∀ d' ∈ drafts, d'.name ≠ some r.name := by
    intro d' hd' heq
    have hnodup : ((drafts ++ [d]).map (·.name)).Nodup := by
      rw [h.names]
      exact (nodup_eraseDups _).map (fun _ _ => Option.some.inj)
    rw [List.map_append, List.nodup_append] at hnodup
    exact hnodup.2.2 _ (List.mem_map_of_mem hd') _ (by simp) (heq.trans hname.symm)
  refine ⟨?_, ?_, ?_⟩
  · have hnames := h.names
    rw [List.map_append] at hnames ⊢
    rw [wholeRows_append_whole hr, rowNames_append, if_pos hmem, ← hnames]
    rfl
  · intro d' hd' name hname'
    rcases List.mem_append.1 hd' with hd' | hd'
    · exact (h.of_ne (List.mem_append_left _ hd') (hothers d' hd')).1 name hname'
    · obtain rfl := List.mem_singleton.1 hd'
      obtain rfl : r.name = name := Option.some.inj (hname.symm.trans hname')
      rw [rowsOf_append_self, List.map_append, ← h.columns d hlast r.name hname]
      rfl
  · intro d' hd' s hs hname'
    rcases List.mem_append.1 hd' with hd' | hd'
    · exact (h.of_ne (List.mem_append_left _ hd') (hothers d' hd')).2 s hs hname'
    · obtain rfl := List.mem_singleton.1 hd'
      rcases List.mem_append.1 hs with hs | hs
      · exact h.unique d hlast s hs hname'
      · -- the row says the same of the index as those before it
        rw [List.mem_singleton.1 hs]
        obtain ⟨t, ht, -, htname⟩ := h.exists_row hlast
        have hsame : t.name = r.name := Option.some.inj (htname.symm.trans hname)
        rw [← horder.unique t (List.mem_append_left _ ht) r (by simp) hsame]
        exact h.unique d hlast t ht htname

/-- A name that the last draft has not is new. -/
theorem GivesDrafts.not_mem_rowNames (h : GivesDrafts rows drafts)
    (horder : InNameOrder le (rows ++ [r])) (hlast : ∀ d ∈ drafts.getLast?, d.name ≠ some r.name) :
    r.name ∉ rowNames (wholeRows rows) := by
  intro hmem
  rcases List.eq_nil_or_concat (rowNames (wholeRows rows)) with hnil | ⟨names, name, hnames⟩
  · rw [hnil] at hmem
    cases hmem
  rw [List.concat_eq_append] at hnames
  have hne : name ≠ r.name := by
    rintro rfl
    have hlastname : (drafts.map (·.name)).getLast? = some (some r.name) := by
      rw [h.names, hnames]
      simp
    rw [List.getLast?_map] at hlastname
    obtain ⟨d, hd, hdname⟩ := Option.map_eq_some_iff.1 hlastname
    exact hlast d hd hdname
  have hsorted := horder.of_append.ordered_rowNames
  rw [hnames] at hmem hsorted
  have hmem' : r.name ∈ names := by
    rcases List.mem_append.1 hmem with hmem | hmem
    · exact hmem
    · exact absurd (List.mem_singleton.1 hmem).symm hne
  -- the name stands before the last one, and the row after it
  have hle : le r.name name := (List.pairwise_append.1 hsorted).2.2 _ hmem' _ (by simp)
  obtain ⟨s, hs, rfl⟩ := mem_rowNames.1 (hnames ▸ List.mem_append_right names (List.mem_singleton_self name))
  exact hne (horder.antisymm _ _ (horder.le_last (mem_wholeRows.1 hs).1) hle)

/-- The first row of a name. -/
theorem GivesDrafts.begin (h : GivesDrafts rows drafts) (horder : InNameOrder le (rows ++ [r]))
    (hr : r.isPartial = false) (hnew : r.name ∉ rowNames (wholeRows rows)) :
    GivesDrafts (rows ++ [r]) (drafts ++ [r.draft]) := by
  have hothers : ∀ d ∈ drafts, d.name ≠ some r.name := by
    intro d hd hname
    obtain ⟨s, hs, hpartial, hsname⟩ := h.exists_row hd
    refine hnew (mem_rowNames.2 ⟨s, mem_wholeRows.2 ⟨hs, hpartial⟩, ?_⟩)
    exact Option.some.inj (hsname.symm.trans hname)
  -- a row of this name before would have no predicate either
  have hfirst : ∀ s ∈ rows, s.name ≠ r.name := by
    intro s hs hsname
    have hwhole := (horder.isPartial s (List.mem_append_left _ hs) r (by simp) hsname).trans hr
    exact hnew (mem_rowNames.2 ⟨s, mem_wholeRows.2 ⟨hs, hwhole⟩, hsname⟩)
  refine ⟨?_, ?_, ?_⟩
  · rw [wholeRows_append_whole hr, rowNames_append, if_neg hnew, List.map_append, List.map_append,
      h.names]
    rfl
  · intro d hd name hname
    rcases List.mem_append.1 hd with hd | hd
    · exact (h.of_ne hd (hothers d hd)).1 name hname
    · obtain rfl := List.mem_singleton.1 hd
      obtain rfl : r.name = name := Option.some.inj hname
      rw [rowsOf_append_self, rowsOf_eq_nil hfirst]
      rfl
  · intro d hd s hs hname
    rcases List.mem_append.1 hd with hd | hd
    · exact (h.of_ne hd (hothers d hd)).2 s hs hname
    · obtain rfl := List.mem_singleton.1 hd
      rcases List.mem_append.1 hs with hs | hs
      · exact absurd (Option.some.inj hname).symm (hfirst s hs)
      · rw [List.mem_singleton.1 hs]
        rfl

/-- **One more row** leaves every index with the keys that its rows have. -/
theorem GivesDrafts.addRow (h : GivesDrafts rows drafts) (horder : InNameOrder le (rows ++ [r])) :
    GivesDrafts (rows ++ [r]) (addRow drafts r) := by
  cases hr : r.isPartial with
  | true =>
    have halike : ∀ s ∈ rows, s.name = r.name → s.isPartial = r.isPartial := fun s hs =>
      horder.isPartial s (List.mem_append_left _ hs) r (by simp)
    have hothers := h.name_ne halike hr
    rw [addRow_partial hr]
    refine ⟨?_, fun d hd => (h.of_ne hd (hothers d hd)).1, fun d hd => (h.of_ne hd (hothers d hd)).2⟩
    rw [wholeRows_append_partial hr, h.names]
  | false =>
    by_cases hlast : ∀ d ∈ drafts.getLast?, d.name ≠ some r.name
    · rw [addRow_begin hr hlast]
      exact h.begin horder hr (h.not_mem_rowNames horder hlast)
    · push Not at hlast
      obtain ⟨d, hd, hname⟩ := hlast
      obtain ⟨ds, rfl⟩ := List.getLast?_eq_some_iff.1 hd
      rw [addRow_join hr hname]
      exact h.join horder hr hname

/-- The drafts of all rows. -/
theorem givesDrafts_indexDrafts (horder : InNameOrder le rows) :
    GivesDrafts rows (indexDrafts rows) := by
  induction rows using List.reverseRecOn with
  | nil => exact givesDrafts_nil
  | append_singleton rows r ih =>
    rw [indexDrafts_append]
    exact (ih horder.of_append).addRow horder

/-- The indexes with predicates are those that a row says it of. -/
theorem mem_partialIndexes_iff {name : String} :
    name ∈ partialIndexes rows ↔ ∃ r ∈ rows, r.name = name ∧ r.isPartial = true := by
  unfold partialIndexes
  rw [List.mem_eraseDups, List.mem_map]
  constructor
  · rintro ⟨r, hr, rfl⟩
    obtain ⟨hr, hpartial⟩ := List.mem_filter.1 hr
    exact ⟨r, hr, rfl, hpartial⟩
  · rintro ⟨r, hr, rfl, hpartial⟩
    exact ⟨r, List.mem_filter.2 ⟨hr, hpartial⟩, rfl⟩

/-- So rows in order of the names are regrouped. -/
theorem regroups_rows (horder : InNameOrder le rows) :
    Regroups rows (indexDrafts rows) (partialIndexes rows) where
  toGivesDrafts := givesDrafts_indexDrafts horder
  once := nodup_eraseDups _
  mem_skipped _ := mem_partialIndexes_iff
  apart name hname := by
    obtain ⟨r, hr, rfl, hpartial⟩ := mem_partialIndexes_iff.1 hname
    refine (givesDrafts_indexDrafts horder).name_ne (fun s hs => ?_) hpartial
    exact horder.isPartial s hs r hr

end Steps

/-! ## Names of columns -/

/-- A name that may stand without quotes: lower case letters, digits and underscores, and no digit
first. -/
def isSimpleName : List Char → Bool
  | [] => false
  | c :: r => (c.isLower || c == '_') && r.all fun c => c.isLower || c.isDigit || c == '_'

/-- A name as the server writes it: without quotes if it is simple and not one of the reserved words,
and otherwise between quotes, with those in it doubled. -/
def spelledName (reserved : List Char → Bool) (name : List Char) : List Char :=
  if isSimpleName name && !reserved name then name
  else '"' :: (Identifier.doubled '"' name ++ ['"'])

/-- A character that is no quote stays. -/
theorem singleQuotes_cons {c : Char} (hc : c ≠ '"') (s : List Char) :
    singleQuotes (c :: s) = c :: singleQuotes s := by
  rw [singleQuotes]
  rintro r rfl -
  exact hc rfl

/-- Doubled quotes become single ones. -/
theorem singleQuotes_doubled (name : List Char) :
    singleQuotes (Identifier.doubled '"' name) = name := by
  induction name with
  | nil => rfl
  | cons c name ih =>
    rw [Identifier.doubled_cons]
    by_cases hc : c = '"'
    · subst hc
      exact congrArg _ ih
    · rw [if_neg fun heq => hc (eq_of_beq heq), List.singleton_append, singleQuotes_cons hc, ih]

/-- A simple name begins with no quote. -/
theorem between?_of_isSimpleName {name : List Char} (h : isSimpleName name = true) :
    between? '"' '"' name = none := by
  cases name with
  | nil => rfl
  | cons c r =>
    rw [isSimpleName, Bool.and_eq_true] at h
    unfold between?
    refine if_neg ?_
    rintro ⟨rfl, -⟩
    exact absurd h.1 (by decide)

/-- **Names of columns** are read as they were meant. -/
theorem plainName_spelledName (reserved : List Char → Bool) (name : List Char) :
    plainName (spelledName reserved name) = name := by
  unfold spelledName
  split
  · rename_i hbare
    rw [Bool.and_eq_true] at hbare
    unfold plainName
    rw [between?_of_isSimpleName hbare.1]
  · unfold plainName
    rw [between?_eq_some_iff.2 rfl]
    exact singleQuotes_doubled name

/-! ## Tables -/

/-- A catalogue answers what it is asked about a table, and about its indexes with these rows. -/
structure Catalogue.Answers (c : Catalogue) (nspace name : String) (rows : List IndexRow) : Prop where
  columns : ∃ columns, c.columns nspace name = .ok columns
  primaryKey : ∃ key, c.primaryKey nspace name = .ok key
  indexes : c.indexes nspace name = .ok rows
  foreignKeys : ∃ keys, c.foreignKeys nspace name = .ok keys
  checks : ∃ checks, c.checks nspace name = .ok checks

/-- A table that the catalogue answers for is read. -/
theorem exists_table {c : Catalogue} {nspace name : String} {rows : List IndexRow}
    (h : c.Answers nspace name rows) : ∃ draft, draft.indexes = indexDrafts rows
      ∧ c.table nspace name = .ok (draft, partialIndexes rows) := by
  obtain ⟨columns, hcolumns⟩ := h.columns
  obtain ⟨key, hkey⟩ := h.primaryKey
  obtain ⟨keys, hkeys⟩ := h.foreignKeys
  obtain ⟨checks, hchecks⟩ := h.checks
  unfold Catalogue.table
  rw [hcolumns, hkey, h.indexes, hkeys, hchecks]
  exact ⟨_, rfl, rfl⟩

/-- **The indexes of a table.**  A table that the catalogue answers for is read, and what its rows tell
of indexes is regrouped: each index without a predicate has one draft with the keys of its rows, and
each other one is skipped once.  A key that spells a column, whatever its name and the words that are
reserved, is a key of this column. -/
theorem table_regroups {le : String → String → Prop} {c : Catalogue} {nspace name : String}
    {rows : List IndexRow} (hanswers : c.Answers nspace name rows) (horder : InNameOrder le rows) :
    (∃ draft skipped, c.table nspace name = .ok (draft, skipped)
      ∧ Regroups rows draft.indexes skipped)
    ∧ ∀ (reserved : List Char → Bool) (column : String),
      plainName (spelledName reserved column.toList) = column.toList
      ∧ ∀ r ∈ rows, r.key.toList = spelledName reserved column.toList →
        r.keyDraft = (column, r.descending) := by
  obtain ⟨draft, hindexes, htable⟩ := exists_table hanswers
  refine ⟨⟨draft, _, htable, hindexes ▸ regroups_rows horder⟩, fun reserved column => ?_⟩
  have hplain := plainName_spelledName reserved column.toList
  refine ⟨hplain, fun r _ hkey => ?_⟩
  unfold IndexRow.keyDraft
  rw [hkey, hplain, String.ofList_toList]

/-- Rows about an index of two keys, one of some rows that has two as well, and one that is unique. -/
def mixedRows : List IndexRow :=
  [⟨"a_b", false, false, "\"Order \"\"Id\"\"\"", true⟩, ⟨"a_b", false, false, "total", false⟩,
    ⟨"open", true, true, "a", false⟩, ⟨"open", true, true, "b", false⟩,
    ⟨"z_key", true, false, "total", false⟩]

/-- A database with one table and the rows about its indexes. -/
def mixedCatalogue : Catalogue where
  probe := .ok ()
  tables := .ok [("public", "t")]
  views := .ok []
  columns _ _ := .ok [⟨"total", "integer", true, none, "", "", none⟩]
  primaryKey _ _ := .ok []
  indexes _ _ := .ok mixedRows
  foreignKeys _ _ := .ok []
  checks _ _ := .ok []

theorem table_regroups_mixedCatalogue :
    InNameOrder (· ≤ ·) mixedRows
    ∧ (∃ draft skipped, mixedCatalogue.table "public" "t" = .ok (draft, skipped)
      ∧ Regroups mixedRows draft.indexes skipped)
    ∧ (mixedCatalogue.table "public" "t").map (fun p => (p.1.indexes, p.2))
      = .ok ([⟨some "a_b", [("Order \"Id\"", true), ("total", false)], false⟩,
        ⟨some "z_key", [("total", false)], true⟩], ["open"]) := by
  have hanswers : mixedCatalogue.Answers "public" "t" mixedRows :=
    ⟨⟨_, rfl⟩, ⟨_, rfl⟩, rfl, ⟨_, rfl⟩, ⟨_, rfl⟩⟩
  have horder : InNameOrder (· ≤ ·) mixedRows :=
    ⟨fun _ _ => String.le_antisymm, by decide, by decide, by decide⟩
  exact ⟨horder, (table_regroups hanswers horder).1, by decide +kernel⟩

end SchemaBridge.Live
