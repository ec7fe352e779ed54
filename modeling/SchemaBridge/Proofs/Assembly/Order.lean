/-
# The order of tables

Foreign keys are resolved once every table is known, so that the tables may come in any order.  The
identifiers differ then, but under every name there is the same table, with the same foreign keys.

## Key statements

* `Filled.parentOf_eq_some_iff`: the table a foreign key refers to.
* `Filled.finish`: what a finished model says of foreign keys.
* `addDrafts_perm`: tables in two orders.
-/
import SchemaBridge.Proofs.Assembly.Additions
import SchemaBridge.Proofs.Assembly.ReadBack

namespace SchemaBridge

/-- Lists that are permutations of one another under some functions are so under others that depend on
these alone. -/
theorem perm_map_of_perm_map {α β γ δ : Type} {f : α → γ} {f' : β → γ} {g : α → δ} {g' : β → δ}
    {l : List α} {l' : List β} (h : (l.map f).Perm (l'.map f'))
    (hg : ∀ a ∈ l, ∀ b ∈ l', f a = f' b → g a = g' b) : (l.map g).Perm (l'.map g') := by
  have hcomp : Relation.Comp (· = List.map f' ·) List.Perm (l.map f) l' := by
    rw [List.eq_map_comp_perm]
    exact h
  obtain ⟨l₁, hmap, hperm⟩ := hcomp
  have hpairs : List.Forall₂ (fun a b => f a = f' b) l l₁ := by
    rw [← List.forall₂_eq_eq_eq, List.forall₂_map_left_iff, List.forall₂_map_right_iff] at hmap
    exact hmap
  have hsame : l.map g = l₁.map g' := by
    rw [← List.forall₂_eq_eq_eq, List.forall₂_map_left_iff, List.forall₂_map_right_iff]
    have hleft := (List.forall₂_and_left (p := (· ∈ l)) l l₁).2 ⟨fun _ ha => ha, hpairs⟩
    have hboth := (List.forall₂_and_left (p := (· ∈ l')) l₁ l).2
      ⟨fun _ hb => hperm.subset hb, hleft.flip⟩
    exact hboth.flip.imp fun a b hab => hg a hab.2.1 b hab.1 hab.2.2
  rw [hsame]
  exact hperm.map g'

/-- The only element of a list that satisfies a test on whose elements keys agree. -/
theorem filter_eq_singleton {α κ : Type} {key : α → κ} {p : α → Bool} {l : List α}
    (hl : (l.map key).Nodup) {a : α} (ha : a ∈ l) (hp : p a = true)
    (hkey : ∀ x ∈ l, p x = true → key x = key a) : l.filter p = [a] := by
  refine List.perm_singleton.1 ((List.perm_ext_iff_of_nodup ((List.Nodup.of_map _ hl).filter p)
    (List.nodup_singleton a)).2 fun x => ?_)
  rw [List.mem_filter, List.mem_singleton]
  constructor
  · rintro ⟨hx, hpx⟩
    exact List.inj_on_of_nodup_map hl hx ha (hkey x hx hpx)
  · rintro rfl
    exact ⟨ha, hp⟩

/-- A draft is found under a name in a schema, if one is given. -/
structure TableDraft.AnswersTo (d : TableDraft) (nspace : Option String) (name : String) : Prop where
  name : Text.lowerText d.name = Text.lowerText name
  nspace : nspace = none ∨ d.nspace = none
    ∨ d.nspace.map Text.lowerText = nspace.map Text.lowerText

namespace Builder

variable {b b' : Builder} {es es' : List Added}

/-! ## Tables under their declared names -/

/-- One addition alone has a name. -/
theorem Filled.unique (h : b.Filled es) {e e' : Added} (he : e ∈ es) (he' : e' ∈ es)
    (hname : Text.lowerText e.draft.name = Text.lowerText e'.draft.name) : e = e' :=
  List.inj_on_of_nodup_map h.names he he' hname

/-- What is remembered is the name of an addition. -/
theorem Filled.exists_of_mem_bySource (h : b.Filled es) {x : SourceKey × TableId}
    (hx : x ∈ b.bySource) : ∃ e ∈ es, x = (sourceKey e.draft.nspace e.draft.name, e.id) := by
  rw [h.bySource] at hx
  obtain ⟨e, he, rfl⟩ := List.mem_map.1 hx
  exact ⟨e, he, rfl⟩

/-- What is found under a name is the table of a draft that goes by it. -/
theorem Filled.exists_of_lookup (h : b.Filled es) {nspace : Option String} {name : String}
    {id : TableId} (hl : b.lookup nspace name = some id) :
    ∃ e ∈ es, e.id = id ∧ e.draft.AnswersTo nspace name := by
  unfold lookup at hl
  cases hfirst : b.bySource.lookup (sourceKey nspace name) with
  | some k =>
    rw [hfirst] at hl
    obtain ⟨e, he, heq⟩ := h.exists_of_mem_bySource (mem_of_lookup hfirst)
    obtain ⟨hkey, rfl⟩ := Prod.mk.inj heq
    obtain ⟨hnspace, hname⟩ := Prod.mk.inj hkey
    exact ⟨e, he, Option.some.inj hl, hname.symm, Or.inr (Or.inr hnspace.symm)⟩
  | none =>
    rw [hfirst] at hl
    dsimp only at hl
    split at hl
    · rename_i x hx
      have hx : x ∈ b.bySource.filter _ := hx ▸ List.mem_singleton_self x
      obtain ⟨hx, hp⟩ := List.mem_filter.1 hx
      obtain ⟨e, he, rfl⟩ := h.exists_of_mem_bySource hx
      rw [Bool.and_eq_true, beq_iff_eq, Bool.or_eq_true, Option.isNone_iff_eq_none] at hp
      refine ⟨e, he, Option.some.inj hl, hp.1, hp.2.imp_right fun hnone => Or.inl ?_⟩
      exact Option.map_eq_none_iff.1 (Option.isNone_iff_eq_none.1 hnone)
    · cases hl

/-- A draft that goes by a name is found under it, for no other one does. -/
theorem Filled.lookup_of_answersTo (h : b.Filled es) {nspace : Option String} {name : String}
    {e : Added} (he : e ∈ es) (hanswers : e.draft.AnswersTo nspace name) :
    b.lookup nspace name = some e.id := by
  unfold lookup
  cases hfirst : b.bySource.lookup (sourceKey nspace name) with
  | some k =>
    obtain ⟨e', he', heq⟩ := h.exists_of_mem_bySource (mem_of_lookup hfirst)
    obtain ⟨hkey, rfl⟩ := Prod.mk.inj heq
    obtain ⟨-, hname⟩ := Prod.mk.inj hkey
    rw [h.unique he' he (hname.symm.trans hanswers.name.symm)]
  | none =>
    dsimp only
    have hkeys : (b.bySource.map fun x => x.1.2).Nodup := by
      rw [h.bySource, List.map_map]
      exact h.names
    have hin : (sourceKey e.draft.nspace e.draft.name, e.id) ∈ b.bySource := by
      rw [h.bySource]
      exact List.mem_map_of_mem he
    -- a schema that is given is not that of the table, or the table were found at once
    have hopen : (nspace.isNone || (e.draft.nspace.map Text.lowerText).isNone) = true := by
      rcases hanswers.nspace with rfl | hnone | hsame
      · rfl
      · rw [hnone, Bool.or_eq_true]
        exact Or.inr rfl
      · have hkey : sourceKey e.draft.nspace e.draft.name = sourceKey nspace name :=
          Prod.ext hsame hanswers.name
        have hne := List.lookup_eq_none_iff.1 hfirst _ hin
        rw [hkey, bne_self_eq_false] at hne
        cases hne
    rw [filter_eq_singleton hkeys hin (Bool.and_eq_true_iff.2 ⟨beq_iff_eq.2 hanswers.name, hopen⟩)
      fun x _ hp => ?_]
    have hname := eq_of_beq (Bool.and_eq_true_iff.1 hp).1
    exact hname.trans hanswers.name.symm

/-- The table of a name in a schema, if one is given. -/
theorem Filled.lookup_eq_some_iff (h : b.Filled es) {nspace : Option String} {name : String}
    {id : TableId} : b.lookup nspace name = some id
      ↔ ∃ e ∈ es, e.id = id ∧ e.draft.AnswersTo nspace name := by
  refine ⟨h.exists_of_lookup, ?_⟩
  rintro ⟨e, he, rfl, hanswers⟩
  exact h.lookup_of_answersTo he hanswers

/-- The table a foreign key refers to.  Where it stands among the others, and in which schema the
referring table is, makes no difference. -/
theorem Filled.parentOf_eq_some_iff (h : b.Filled es) {p : PendingForeignKey} {id : TableId} :
    b.parentOf p = some id ↔ ∃ e ∈ es, e.id = id
      ∧ e.draft.AnswersTo p.draft.referencedNamespace p.draft.referencedTable := by
  unfold parentOf
  cases p.draft.referencedNamespace with
  | some ns => exact h.lookup_eq_some_iff
  | none =>
    cases hl : b.lookup p.nspace p.draft.referencedTable with
    | none => exact h.lookup_eq_some_iff
    | some k =>
      obtain ⟨e, he, rfl, hanswers⟩ := h.lookup_eq_some_iff.1 hl
      constructor
      · intro hid
        exact ⟨e, he, Option.some.inj hid, hanswers.name, Or.inl rfl⟩
      · rintro ⟨e', he', rfl, hanswers'⟩
        rw [h.unique he' he (hanswers'.name.trans hanswers.name.symm)]
        rfl

/-! ## Tables of one draft -/

/-- The columns of resolved key parts are what their names are resolved to. -/
theorem resolveColumns_of_resolveKeys {t : Table} {keys : List KeyDraft} {parts : List KeyPart}
    (h : resolveKeys t keys = .ok parts) :
    resolveColumns t (keys.map (·.1)) = .ok (parts.map (·.column)) := by
  rw [resolveColumns_eq_ok_iff, List.forall₂_map_left_iff, List.forall₂_map_right_iff]
  exact (resolveKeys_eq_ok_iff.1 h).imp fun _ _ hpart => hpart.1

/-- Tables of one draft, wherever they have been added, differ in their identifiers alone. -/
theorem Filled.alike (h : b.Filled es) (h' : b'.Filled es') {e e' : Added} (he : e ∈ es)
    (he' : e' ∈ es') (hdraft : e.draft = e'.draft) : e.table.Alike e'.table := by
  have ht := h.drafts e he
  have ht' := h'.drafts e' he'
  rw [← hdraft] at ht'
  have hids := h.nodup_columns he
  have hids' := h'.nodup_columns he'
  have hcolumns : e'.table.columns.map (·.name) = e.table.columns.map (·.name) :=
    ht'.columns.trans ht.columns.symm
  have hkey := resolveColumns_congr_names hcolumns hids hids' (e.draft.primaryKey.map (·.1))
  rw [resolveColumns_of_resolveKeys ht.key, resolveColumns_of_resolveKeys ht'.key] at hkey
  refine ⟨?_, hcolumns, ?_, hids, hids'⟩
  · unfold Table.label
    rw [ht.name, ht.nspace, ht'.name, ht'.nspace]
  · have hnames : (e'.table.primaryKey.map (·.column)).map e'.table.columnName
        = (e.table.primaryKey.map (·.column)).map e.table.columnName := Except.ok.inj hkey
    rwa [List.map_map, List.map_map] at hnames

/-- The tables two foreign keys refer to that are the same but for the order of tables. -/
theorem Filled.alike_parents (h : b.Filled es) (h' : b'.Filled es')
    (hperm : (es.map Added.draft).Perm (es'.map Added.draft)) {p p' : PendingForeignKey}
    (hdraft : p'.draft = p.draft) :
    Option.Rel (fun e e' : TableId × Table => e.2.Alike e'.2) (b.parent? p) (b'.parent? p') := by
  have hfound : ∀ {b : Builder} {es : List Added} (_ : b.Filled es) (p : PendingForeignKey)
      {e : Added}, e ∈ es → b.parentOf p = some e.id → b.parent? p = some (e.id, e.table) := by
    intro b es h p e he hp
    unfold parent?
    rw [hp, Option.bind_some, h.table? he]
    rfl
  -- every draft of one list is one of the other
  have hother : ∀ {es es' : List Added} (_ : (es.map Added.draft).Perm (es'.map Added.draft))
      {e : Added}, e ∈ es → ∃ e' ∈ es', e'.draft = e.draft := by
    intro es es' hperm e he
    exact List.mem_map.1 (hperm.subset (List.mem_map_of_mem he))
  cases hp : b.parentOf p with
  | some k =>
    obtain ⟨e, he, rfl, hanswers⟩ := h.parentOf_eq_some_iff.1 hp
    obtain ⟨e', he', hsame⟩ := hother hperm he
    have hp' : b'.parentOf p' = some e'.id :=
      h'.parentOf_eq_some_iff.2 ⟨e', he', rfl, by rw [hdraft, hsame]; exact hanswers⟩
    rw [hfound h p he hp, hfound h' p' he' hp']
    exact .some (h.alike h' he he' hsame.symm)
  | none =>
    have hp' : b'.parentOf p' = none := by
      refine Option.eq_none_iff_forall_ne_some.2 fun k hk => ?_
      obtain ⟨e', he', rfl, hanswers⟩ := h'.parentOf_eq_some_iff.1 hk
      obtain ⟨e, he, hsame⟩ := hother hperm.symm he'
      have hfoundHere := h.parentOf_eq_some_iff.2
        ⟨e, he, rfl, by rw [hsame, ← hdraft]; exact hanswers⟩
      rw [hp] at hfoundHere
      cases hfoundHere
    unfold parent?
    rw [hp, hp']
    exact .none

/-! ## What becomes of the foreign keys of a table -/

/-- What becomes of the foreign keys of a table, read back. -/
def outcomes (b : Builder) (e : Added) : List (Except (Option TableLabel × Issue) NamedKey) :=
  e.draft.foreignKeys.map fun d =>
    b.model.readSettled e.table (b.settle 0 e.table (waiting e.table e.id d))

/-- What is read of a foreign key does not depend on its identifier. -/
theorem readSettled_settle (raw raw' : Nat) (m : Model) (child : Table) (p : PendingForeignKey) :
    m.readSettled child (b.settle raw child p) = m.readSettled child (b.settle raw' child p) := by
  unfold settle
  cases b.resolution child p <;> rfl

/-- Foreign keys of one draft come to the same, in whatever order the drafts were added. -/
theorem Filled.outcomes_eq (h : b.Filled es) (h' : b'.Filled es')
    (hperm : (es.map Added.draft).Perm (es'.map Added.draft)) {e e' : Added} (he : e ∈ es)
    (he' : e' ∈ es') (hdraft : e.draft = e'.draft) : b.outcomes e = b'.outcomes e' := by
  unfold outcomes
  rw [← hdraft]
  refine List.map_congr_left fun d _ => ?_
  set p := waiting e.table e.id d with hp
  set p' := waiting e'.table e'.id d with hp'
  have hsame : p'.draft = p.draft := rfl
  have hparents := h.alike_parents h' hperm hsame
  have hread := readSettled_alike (h.alike h' he he' hdraft) (h.table? he) (h'.table? he') hsame
    hparents 0 0
  exact hread.symm

/-- The part of a list that stands under one key. -/
theorem filter_flatMap_of_nodup {α β κ : Type} [DecidableEq κ] {key : α → κ} {l : List α}
    (hl : (l.map key).Nodup) {a : α} (ha : a ∈ l) (f : α → List β) :
    (l.flatMap fun x => (f x).map fun y => (key x, y)).filter (·.1 = key a)
      = (f a).map fun y => (key a, y) := by
  obtain ⟨pre, post, rfl⟩ := List.append_of_mem ha
  rw [List.map_append, List.map_cons, List.nodup_append, List.nodup_cons] at hl
  have hothers : ∀ l' : List α, key a ∉ l'.map key →
      (l'.flatMap fun x => (f x).map fun y => (key x, y)).filter (·.1 = key a) = [] := by
    intro l' hnone
    refine List.filter_eq_nil_iff.2 fun e he hkey => hnone ?_
    obtain ⟨x, hx, hy⟩ := List.mem_flatMap.1 he
    obtain ⟨y, -, rfl⟩ := List.mem_map.1 hy
    exact of_decide_eq_true hkey ▸ List.mem_map_of_mem hx
  have hown : ((f a).map fun y => (key a, y)).filter (·.1 = key a) = (f a).map fun y => (key a, y) := by
    refine List.filter_eq_self.2 fun e he => ?_
    obtain ⟨y, -, rfl⟩ := List.mem_map.1 he
    exact decide_eq_true rfl
  rw [List.flatMap_append, List.flatMap_cons, List.filter_append, List.filter_append, hown,
    hothers post hl.2.1.1, hothers pre fun hmem => hl.2.2 _ hmem _ List.mem_cons_self rfl,
    List.nil_append, List.append_nil]

/-- The table under an identifier that has one. -/
def tableOf (b : Builder) (id : TableId) : Table := (b.model.table? id).getD default

/-- The table under an identifier that has one. -/
theorem tableOf_eq {id : TableId} {t : Table} (h : b.model.table? id = some t) :
    b.tableOf id = t := by
  unfold tableOf
  rw [h]
  rfl

/-- What becomes of all foreign keys, read back table by table. -/
theorem Filled.readSettled_eq (h : b.Filled es) {l : List Settled}
    (hl : List.Forall₂ b.Settles b.pending l) :
    l.map (fun s => (s.1, b.model.readSettled (b.tableOf s.1) s.2))
      = es.flatMap fun e => (b.outcomes e).map fun a => (e.id, a) := by
  have hsettled : l.map (fun s => (s.1, b.model.readSettled (b.tableOf s.1) s.2))
      = b.pending.map fun p =>
        (p.table, b.model.readSettled (b.tableOf p.table) (b.settle 0 (b.tableOf p.table) p)) := by
    rw [← List.forall₂_eq_eq_eq, List.forall₂_map_left_iff, List.forall₂_map_right_iff]
    refine hl.flip.imp fun s p hs => ?_
    obtain ⟨hid, raw, child, hchild, hs⟩ := hs
    rw [hid, hs, tableOf_eq hchild, readSettled_settle raw 0]
  rw [hsettled, h.pending, List.map_flatMap]
  refine List.flatMap_congr fun e he => ?_
  unfold outcomes
  rw [List.map_map, List.map_map]
  refine List.map_congr_left fun d _ => ?_
  have htable := tableOf_eq (h.table? he)
  show (e.id, b.model.readSettled (b.tableOf e.id) (b.settle 0 (b.tableOf e.id) _)) = _
  rw [htable]
  rfl

/-- The foreign keys of a table that are kept, read back. -/
theorem Filled.readKey_keysOf (h : b.Filled es) {l : List Settled}
    (hl : List.Forall₂ b.Settles b.pending l) {e : Added} (he : e ∈ es) :
    (keysOf e.id l).map (b.model.readKey e.table) = kept (b.outcomes e) := by
  have hids : (es.map Added.id).Nodup := by
    have hkeys := h.sound.model.nodup_keys
    rwa [h.tables, List.map_map] at hkeys
  have hpart := congrArg (List.filter fun x => x.1 = e.id) (h.readSettled_eq hl)
  rw [filter_flatMap_of_nodup hids he, List.filter_map] at hpart
  have hread : (l.filter (·.1 = e.id)).map (fun s => b.model.readSettled e.table s.2)
      = b.outcomes e := by
    have hvalues := congrArg (List.map Prod.snd) hpart
    rw [List.map_map, List.map_map] at hvalues
    refine Eq.trans (List.map_congr_left fun s hs => ?_) (hvalues.trans (List.map_id _))
    have hid : s.1 = e.id := of_decide_eq_true (List.mem_filter.1 hs).2
    show _ = b.model.readSettled (b.tableOf s.1) s.2
    rw [hid, tableOf_eq (h.table? he)]
  rw [← hread, kept_readSettled]
  rfl

/-- What is said of those that are not, read back. -/
theorem Filled.readIssue_issuesOf (h : b.Filled es) {l : List Settled}
    (hl : List.Forall₂ b.Settles b.pending l) :
    (issuesOf l).map b.model.readIssue = es.flatMap fun e => lost (b.outcomes e) := by
  have hread := congrArg (List.map Prod.snd) (h.readSettled_eq hl)
  rw [List.map_map, List.map_flatMap] at hread
  have hvalues : l.map (fun s => b.model.readSettled (b.tableOf s.1) s.2) = es.flatMap b.outcomes := by
    refine Eq.trans hread (List.flatMap_congr fun e _ => ?_)
    rw [List.map_map]
    exact List.map_id _
  rw [← lost_readSettled b.model (fun s => b.tableOf s.1) l, hvalues, lost_flatMap]

/-! ## The finished model -/

/-- Each table has the foreign keys that are kept for it after its own. -/
theorem table?_withSettled (m : Model) (l : List Settled) (id : TableId) :
    (withSettled m l).table? id
      = (m.table? id).map fun t => { t with foreignKeys := t.foreignKeys ++ keysOf id l } :=
  tableIn_map m.tables (fun id t => { t with foreignKeys := t.foreignKeys ++ keysOf id l }) id

/-- Names are read back as they were before. -/
theorem readKey_withSettled (m : Model) (l : List Settled) (t : Table) (fs : List ForeignKey) :
    (withSettled m l).readKey { t with foreignKeys := fs } = m.readKey t := by
  funext f
  unfold Model.readKey
  rw [table?_withSettled]
  cases m.table? f.referencedTable <;> rfl

/-- Foreign keys change nothing that is read of an issue. -/
theorem readIssue_withSettled (m : Model) (l : List Settled) :
    (withSettled m l).readIssue = m.readIssue := by
  funext i
  unfold Model.readIssue
  cases i.target.table? with
  | none => rfl
  | some id =>
    rw [Option.bind_some, Option.bind_some, table?_withSettled]
    cases m.table? id <;> rfl

/-- Issues about foreign keys are about references that lead nowhere. -/
theorem category_of_settles {ps : List PendingForeignKey} {l : List Settled}
    (hl : List.Forall₂ b.Settles ps l) : ∀ i ∈ issuesOf l, i.category = .missingReference := by
  intro i hi
  obtain ⟨s, hs, hissue⟩ := List.mem_map.1 (mem_lost hi)
  have hall := forall_right_of_forall₂ (P := fun s : Settled => s.2 = .error i →
    i.category = .missingReference) (fun p s hsettles hs => ?_) hl
  · exact hall s hs hissue
  obtain ⟨-, raw, child, -, hsettle⟩ := hsettles
  rw [hsettle] at hs
  unfold settle at hs
  split at hs
  · cases hs
  · rw [← Except.error.inj hs]
    rfl

/-- What a finished model says of foreign keys, under the names of tables. -/
theorem Filled.finish (h : b.Filled es) :
    b.finish.readKeys = es.map (fun e => (e.table.label, kept (b.outcomes e)))
      ∧ b.finish.readMissing = es.flatMap fun e => lost (b.outcomes e) := by
  obtain ⟨l, hl, hfinish⟩ := exists_settled_finish h.sound fun p hp => by
    rw [h.pending] at hp
    obtain ⟨e, he, hp⟩ := List.mem_flatMap.1 hp
    obtain ⟨d, -, rfl⟩ := List.mem_map.1 hp
    exact Option.isSome_iff_exists.2 ⟨e.table, h.table? he⟩
  rw [hfinish]
  constructor
  · have htables : (withSettled b.model l).tables
        = es.map fun e => (e.id, { e.table with foreignKeys := keysOf e.id l }) := by
      show b.model.tables.map _ = _
      rw [h.tables, List.map_map]
      refine List.map_congr_left fun e he => ?_
      show (e.id, { e.table with foreignKeys := e.table.foreignKeys ++ keysOf e.id l }) = _
      rw [(h.drafts e he).noForeignKeys]
      rfl
    unfold Model.readKeys
    rw [htables, List.map_map]
    refine List.map_congr_left fun e he => ?_
    rw [← h.readKey_keysOf hl he, ← readKey_withSettled b.model l e.table (keysOf e.id l)]
    rfl
  · -- nothing was missing before foreign keys were resolved
    have hearlier : b.model.issues.filter (·.category = .missingReference) = [] :=
      List.filter_eq_nil_iff.2 fun i hi hmissing =>
        h.nothingMissing i hi (of_decide_eq_true hmissing)
    have hlater : (issuesOf l).filter (·.category = .missingReference) = issuesOf l :=
      List.filter_eq_self.2 fun i hi => decide_eq_true (category_of_settles hl i hi)
    unfold Model.readMissing
    rw [readIssue_withSettled, ← h.readIssue_issuesOf hl]
    show ((b.model.issues ++ issuesOf l).filter _).map _ = _
    rw [List.filter_append, hearlier, hlater, List.nil_append]

/-! ## Two orders -/

/-- **The order of tables makes no difference to foreign keys.**  Tables that are well formed and have
names of their own can be added in any order, and whatever foreign keys they have, under every name
there is the same table, with the same foreign keys, and the same is said of those that lead
nowhere. -/
theorem addDrafts_perm (source : SourceDialect) (target : TargetDialect) (policy : CollisionPolicy)
    (audit : Audit) {ds ds' : List TableDraft} (hperm : ds.Perm ds')
    (hds : ∀ d ∈ ds, d.IsWellFormed) (hnames : (ds.map fun d => Text.lowerText d.name).Nodup) :
    ∃ b b', (start source target policy audit).addDrafts ds = .ok b
      ∧ (start source target policy audit).addDrafts ds' = .ok b'
      ∧ b.finish.readKeys.map (·.1) = ds.map (fun d => (d.nspace, d.name))
      ∧ b.finish.readKeys.Perm b'.finish.readKeys
      ∧ b.finish.readMissing.Perm b'.finish.readMissing := by
  have hstart := Filled.start source target policy audit
  obtain ⟨es, b, rfl, hr, h⟩ := hstart.addDrafts hds hnames
  have hds' : ∀ d ∈ ds', d.IsWellFormed := fun d hd => hds d (hperm.symm.subset hd)
  obtain ⟨es', b', rfl, hr', h'⟩ := hstart.addDrafts hds' ((hperm.map _).nodup_iff.1 hnames)
  rw [List.nil_append] at h h'
  obtain ⟨hkeys, hmissing⟩ := h.finish
  obtain ⟨hkeys', hmissing'⟩ := h'.finish
  refine ⟨b, b', hr, hr', ?_, ?_, ?_⟩
  · rw [hkeys, List.map_map, List.map_map]
    refine List.map_congr_left fun e he => ?_
    show (e.table.nspace, e.table.name) = _
    rw [(h.drafts e he).nspace, (h.drafts e he).name]
    rfl
  · rw [hkeys, hkeys']
    -- tables of one draft are alike in both builders, so they read alike
    refine perm_map_of_perm_map hperm fun e he e' he' hdraft => ?_
    rw [(h.alike h' he he' hdraft).label, h.outcomes_eq h' hperm he he' hdraft]
  · rw [hmissing, hmissing', List.flatMap_def, List.flatMap_def]
    refine List.Perm.flatten (perm_map_of_perm_map hperm fun e he e' he' hdraft => ?_)
    rw [h.outcomes_eq h' hperm he he' hdraft]

/-- A column of numbers. -/
def numberDraft (name : String) : ColumnDraft := .plain name ⟨"integer", [], [], 0, "integer"⟩

/-- A foreign key of one column. -/
def keyTo (column : String) (nspace : Option String) (table : String) (referenced : List String) :
    ForeignKeyDraft :=
  ⟨none, [column], nspace, table, referenced, .cascade, .noAction⟩

/-- Customers and orders that refer to each other, an order to another one, and notes of which one
refers to a table that is nowhere and one to a schema in which there is no such table. -/
def mutualDrafts : List TableDraft :=
  [{ TableDraft.empty (some "sales") "Orders" with
      columns := [numberDraft "id", numberDraft "customer", numberDraft "previous"]
      primaryKey := [("ID", false)]
      foreignKeys := [keyTo "customer" (some "CRM") "customers" [], keyTo "previous" none "orders" []] },
    { TableDraft.empty (some "crm") "customers" with
      columns := [numberDraft "id", numberDraft "favourite"]
      primaryKey := [("id", true)]
      foreignKeys := [keyTo "favourite" none "ORDERS" ["Id"]] },
    { TableDraft.empty none "notes" with
      columns := [numberDraft "id"]
      foreignKeys := [keyTo "id" none "nowhere" [], keyTo "id" (some "crm") "orders" []] }]

theorem addDrafts_perm_mutualDrafts : mutualDrafts.Perm mutualDrafts.reverse
    ∧ (∀ d ∈ mutualDrafts, d.IsWellFormed)
    ∧ (mutualDrafts.map fun d => Text.lowerText d.name).Nodup
    ∧ ∃ b b', (start .postgres .google .error default).addDrafts mutualDrafts = .ok b
      ∧ (start .postgres .google .error default).addDrafts mutualDrafts.reverse = .ok b'
      ∧ b.finish.readKeys.map (·.1) = mutualDrafts.map (fun d => (d.nspace, d.name))
      ∧ b.finish.readKeys.Perm b'.finish.readKeys
      ∧ b.finish.readMissing.Perm b'.finish.readMissing := by
  have hperm : mutualDrafts.Perm mutualDrafts.reverse := (List.reverse_perm _).symm
  have hds : ∀ d ∈ mutualDrafts, d.IsWellFormed := by
    refine List.forall_mem_cons.2 ⟨⟨?_, ?_⟩, List.forall_mem_cons.2 ⟨⟨?_, ?_⟩,
      List.forall_mem_singleton.2 ⟨?_, ?_⟩⟩⟩
    all_goals decide +kernel
  have hnames : (mutualDrafts.map fun d => Text.lowerText d.name).Nodup := by decide +kernel
  exact ⟨hperm, hds, hnames, addDrafts_perm .postgres .google .error default hperm hds hnames⟩

/-- Three foreign keys are kept, and two are spoken of. -/
example : ((start .postgres .google .error default).addDrafts mutualDrafts).toOption.map (fun b =>
    (b.finish.readKeys.map fun e => e.2.map (·.columns), b.finish.readMissing.map (·.2.detail)))
    = some ([[["customer"], ["previous"]], [["favourite"]], []],
      ["Foreign key fk_notes_id on notes dropped: referenced table 'nowhere' not found.",
        "Foreign key fk_notes_id on notes dropped: referenced table 'orders' not found."]) := by
  decide +kernel

end Builder

end SchemaBridge
