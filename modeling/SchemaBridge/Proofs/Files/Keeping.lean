/-
# Files that are kept

A session is written beside its place and then moved there.  A world keeps it when what was saved is
what is read afterwards.  A folder does so: both paths lead through the same folders, and none of them
is lost when the file is moved.

## Key statements

* `Session.save_load`: who loads a session that was saved goes on with its text.
* `Path.parts_split`: a path leads through its folder to its last part.
* `Folder.read_of_move`: a file that was moved to a place beside it is read there.
* `Surroundings.keeps_folder`: a folder keeps every session that is saved under the name of a file.
-/
import SchemaBridge.Conversion.Run
import SchemaBridge.Proofs.Schema.Validity
import SchemaBridge.Proofs.Text.Utf8

namespace SchemaBridge

/-! ## Saving and loading -/

/-- Where a session is written before it is moved to its place. -/
def Session.draft (path : String) : String :=
  Path.sibling path ((Path.stem? path).getD path ++ ".tmp")

section

variable {μ : Type → Type} [Monad μ]

/-- What is written to a place and moved to another one is what is read there. -/
def Surroundings.Keeps (w : Surroundings μ) (draft path : String) : Prop :=
  ∀ text : String, (do w.write draft text; w.move draft path; w.read path)
    = (do w.write draft text; w.move draft path; return text.toUTF8.toList)

variable [LawfulMonad μ] {w : Surroundings μ} {path : String}

/-- Whoever reads the file goes on with what was written. -/
theorem Surroundings.Keeps.bind {draft : String} (h : w.Keeps draft path) {α : Type}
    (text : String) (next : List UInt8 → ExceptT ConvertError μ α) :
    (do w.write draft text; w.move draft path; let bytes ← w.read path; next bytes)
      = (do w.write draft text; w.move draft path; next text.toUTF8.toList) := by
  have hread := congrArg (· >>= next) (h text)
  simpa only [bind_assoc, pure_bind] using hread

/-- Whoever loads a session goes on with what its text is read as. -/
theorem Session.save_load (h : w.Keeps (Session.draft path) path) (m : Model) (now : Instant)
    {α : Type} (next : Session.Header × Model → ExceptT ConvertError μ α) :
    (do Session.save w path m now; let x ← Session.load w path; next x)
      = (do
        Session.save w path m now
        let x ← ExceptT.mk (pure (Session.decode (Session.encode m now)))
        next x) := by
  unfold Session.save Session.load Surroundings.readText
  simp only [bind_assoc]
  refine (h.bind (Session.encode m now) _).trans ?_
  rw [Text.utf8?_toUTF8]
  simp only [pure_bind]
  rfl

end

/-! ## Paths -/

namespace Text

theorem splitAtChar_cons {c : Char} {s p : List Char} {ps : List (List Char)}
    (h : splitAtChar c s = p :: ps) (d : Char) :
    splitAtChar c (d :: s) = if d == c then [] :: p :: ps else (d :: p) :: ps := by
  rw [splitAtChar, h]

theorem splitAtChar_append (c : Char) (a b : List Char) :
    splitAtChar c (a ++ c :: b) = splitAtChar c a ++ splitAtChar c b := by
  induction a with
  | nil =>
    obtain ⟨p, ps, hb⟩ := List.exists_cons_of_ne_nil (splitAtChar_ne_nil c b)
    show splitAtChar c (c :: b) = [] :: splitAtChar c b
    rw [splitAtChar_cons hb, hb, if_pos (by simp)]
  | cons d r ih =>
    obtain ⟨p, ps, hr⟩ := List.exists_cons_of_ne_nil (splitAtChar_ne_nil c r)
    rw [hr, List.cons_append] at ih
    rw [List.cons_append, splitAtChar_cons ih, splitAtChar_cons hr]
    split <;> rfl

theorem splitAtChar_of_not_mem {c : Char} {s : List Char} (h : c ∉ s) : splitAtChar c s = [s] := by
  induction s with
  | nil => rfl
  | cons d r ih =>
    obtain ⟨hd, hr⟩ := not_or.1 (mt List.mem_cons.2 h)
    rw [splitAtChar_cons (ih hr), if_neg (by simpa using Ne.symm hd)]

theorem mem_of_breakAtLast? {c : Char} {s front tail : List Char}
    (h : breakAtLast? c s = some (front, tail)) {d : Char} (hd : d ∈ front) : d ∈ s := by
  unfold breakAtLast? at h
  dsimp only at h
  split at h
  · cases h
  · rename_i e rest hdrop
    cases h
    have hmem : d ∈ s.reverse.dropWhile (· != c) := by
      rw [hdrop]
      exact List.mem_cons_of_mem e (List.mem_reverse.1 hd)
    exact List.mem_reverse.1 ((List.dropWhile_sublist _).subset hmem)

end Text

namespace Path

/-- A slash stands between the parts of a path. -/
theorem parts_slash (a b : List Char) : parts (String.ofList (a ++ '/' :: b))
    = parts (String.ofList a) ++ parts (String.ofList b) := by
  unfold parts
  rw [String.toList_ofList, String.toList_ofList, String.toList_ofList, Text.splitAtChar_append,
    List.map_append, List.filter_append]

theorem parts_of_not_mem {name : String} (h : '/' ∉ name.toList) (hempty : name ≠ "")
    (hdot : name ≠ ".") : parts name = [name] := by
  unfold parts
  rw [Text.splitAtChar_of_not_mem h, List.map_singleton, String.ofList_toList]
  simp [hempty, hdot]

theorem parts_slash_end (a : List Char) :
    parts (String.ofList (a ++ ['/'])) = parts (String.ofList a) := by
  rw [parts_slash, show parts (String.ofList []) = [] by decide, List.append_nil]

/-- What is dropped from the end of a path leads nowhere. -/
theorem parts_dropTail (s : List Char) :
    parts (String.ofList (dropTail s).reverse) = parts (String.ofList s.reverse) := by
  fun_induction dropTail s with
  | case1 r ih =>
    have hdot : ('.' :: '/' :: r).reverse = r.reverse ++ '/' :: ['.'] := by simp
    rw [ih, List.reverse_cons, parts_slash_end, hdot, parts_slash,
      show parts (String.ofList ['.']) = [] by decide, List.append_nil]
  | case2 c r ih =>
    have hslash : ('/' :: c :: r).reverse = (c :: r).reverse ++ ['/'] := List.reverse_cons
    rw [ih, hslash, parts_slash_end]
  | case3 s h h' => rfl

/-- A path leads through its folder to its last part. -/
theorem parts_split (path : String) :
    parts path = parts (split path).2 ++ parts (split path).1 := by
  have hwhole := parts_dropTail path.toList.reverse
  rw [List.reverse_reverse, String.ofList_toList] at hwhole
  unfold split
  dsimp only
  generalize dropTail path.toList.reverse = s at hwhole ⊢
  -- the name ends at the beginning of the path, or at a slash
  have hslash := List.head?_dropWhile_not (· ≠ '/') s
  rw [parts_dropTail, ← hwhole,
    ← congrArg List.reverse (List.takeWhile_append_dropWhile (p := (· ≠ '/'))), List.reverse_append]
  generalize s.takeWhile (· ≠ '/') = name
  cases hfolder : s.dropWhile (· ≠ '/') with
  | nil => rfl
  | cons d r =>
    rw [hfolder] at hslash
    obtain rfl : d = '/' := by simpa using hslash
    rw [List.reverse_cons, parts_slash_end, List.append_assoc, List.singleton_append, parts_slash]

theorem parts_slash_text (folder name : String) :
    parts (folder ++ "/" ++ name) = parts folder ++ parts name := by
  have hslash := parts_slash folder.toList name.toList
  rw [String.ofList_toList, String.ofList_toList] at hslash
  rw [← hslash, ← String.ofList_toList (s := folder ++ "/" ++ name)]
  simp

theorem parts_inFolder (folder name : String) :
    parts (inFolder folder name) = parts folder ++ parts name := by
  unfold inFolder
  split
  · rename_i hempty
    rw [hempty]
    rfl
  split
  · rename_i hend
    obtain ⟨front, hfront⟩ := List.getLast?_eq_some_iff.1 hend
    have hfolder : folder = String.ofList front ++ "/" ++ "" := by
      rw [← String.ofList_toList (s := folder), hfront, String.ofList_append]
      simp
    have hparts := parts_slash_text (String.ofList front) ""
    rw [← hfolder, show parts "" = [] by decide, List.append_nil] at hparts
    rw [hparts, hfolder, String.append_empty, parts_slash_text]
  · exact parts_slash_text folder name

theorem getLast?_inFolder (folder : String) {name : String} {c : Char}
    (h : name.toList.getLast? = some c) : (inFolder folder name).toList.getLast? = some c := by
  unfold inFolder
  split
  · exact h
  · split <;> rw [String.toList_append, List.getLast?_append, h] <;> rfl

theorem slash_not_mem_name (path : String) : '/' ∉ (split path).1.toList := by
  unfold split
  dsimp only
  rw [String.toList_ofList, List.mem_reverse]
  intro hmem
  have hall := List.all_eq_true.1 (List.all_takeWhile (p := (· ≠ '/'))) '/' hmem
  simp at hall

theorem fileName?_eq_some {path name : String} (h : fileName? path = some name) :
    name = (split path).1 ∧ name ≠ "" ∧ name ≠ "." ∧ name ≠ ".." := by
  unfold fileName? at h
  dsimp only at h
  split at h
  · cases h
  · rename_i hproper
    cases h
    simpa using hproper

theorem parts_of_fileName? {path name : String} (h : fileName? path = some name) :
    parts path = parts (split path).2 ++ [name] ∧ name ≠ ".." := by
  obtain ⟨rfl, hempty, hdot, hup⟩ := fileName?_eq_some h
  refine ⟨?_, hup⟩
  rw [parts_split, parts_of_not_mem (slash_not_mem_name path) hempty hdot]

/-- A name without its ending has no slash either. -/
theorem slash_not_mem_stem {path stem : String} (h : stem? path = some stem) :
    '/' ∉ stem.toList := by
  obtain ⟨name, hname, hstem⟩ := Option.map_eq_some_iff.1 h
  have hslash : '/' ∉ name.toList := (fileName?_eq_some hname).1 ▸ slash_not_mem_name path
  split at hstem
  · rename_i c r tail hbreak
    rw [← hstem, String.toList_ofList]
    exact fun hmem => hslash (Text.mem_of_breakAtLast? hbreak hmem)
  · rw [← hstem]
    exact hslash

end Path

/-- A session is written beside its place. -/
theorem Session.parts_draft {path name : String} (h : Path.fileName? path = some name) :
    ∃ draft, Path.parts (Session.draft path) = Path.parts (Path.split path).2 ++ [draft]
      ∧ (Session.draft path).toList.getLast? ≠ some '/' ∧ draft ≠ ".." := by
  obtain ⟨stem, hstem⟩ : ∃ stem, Path.stem? path = some stem := by
    unfold Path.stem?
    rw [h]
    exact ⟨_, rfl⟩
  have hlast : (stem ++ ".tmp").toList.getLast? = some 'p' := by simp
  have hslash : '/' ∉ (stem ++ ".tmp").toList := by simpa using Path.slash_not_mem_stem hstem
  have hproper : ∀ text : String, text.toList.getLast? ≠ some 'p' → stem ++ ".tmp" ≠ text := by
    rintro text htext rfl
    exact htext hlast
  have hdraft : Session.draft path = Path.inFolder (Path.split path).2 (stem ++ ".tmp") := by
    unfold Session.draft Path.sibling
    rw [hstem, if_pos (by rw [h]; rfl)]
    rfl
  refine ⟨stem ++ ".tmp", ?_, ?_, hproper ".." (by decide)⟩
  · rw [hdraft, Path.parts_inFolder, Path.parts_of_not_mem hslash (hproper "" (by decide))
      (hproper "." (by decide))]
  · rw [hdraft, Path.getLast?_inFolder _ hlast]
    decide

/-! ## Folders -/

namespace Folder

variable {f g : Folder} {place goal : List String} {bytes : List UInt8}

theorem isFolder_iff : f.isFolder place = true
    ↔ place = [] ∨ ∃ e ∈ f.files, place.length < e.1.length ∧ place <+: e.1 := by
  simp [isFolder]

theorem mem_put {e : List String × List UInt8} :
    e ∈ (f.put place bytes).files ↔ e ∈ f.files ∧ e.1 ≠ place ∨ e = (place, bytes) := by
  simp [put]

theorem file?_put : (f.put place bytes).file? place = some bytes := by
  have hnone : (f.files.filter fun e => e.1 ≠ place).lookup place = none := by
    refine List.lookup_eq_none_iff.2 fun e he => ?_
    simpa using Ne.symm (of_decide_eq_true (List.mem_filter.1 he).2)
  unfold file? put
  rw [List.lookup_append, hnone, List.lookup_cons_self]
  rfl

/-- The place that one part of a path leads to from a folder. -/
def next? (place : List String) (part : String) : Option (List String) :=
  if part = ".." then (if place.isEmpty then none else some place.dropLast)
  else if 255 < part.utf8ByteSize then none
  else some (place ++ [part])

theorem follow_cons_iff {part : String} {rest : List String} :
    f.follow place (part :: rest) = .ok goal ↔ f.isFolder place = true
      ∧ ∃ next, next? place part = some next ∧ f.follow next rest = .ok goal := by
  rw [follow, next?]
  by_cases hfolder : f.isFolder place = true
  · simp only [hfolder, if_true, true_and]
    split
    · split <;> simp
    · split <;> simp
  · simp only [hfolder, Bool.false_eq_true, if_false, false_and, iff_false]
    split <;> simp

/-- Where everything that was a folder still is one, paths lead to where they led. -/
theorem follow_of_isFolder (h : ∀ p, f.isFolder p = true → g.isFolder p = true)
    {parts : List String} (hfollow : f.follow place parts = .ok goal) :
    g.follow place parts = .ok goal := by
  induction parts generalizing place with
  | nil => exact hfollow
  | cons part rest ih =>
    obtain ⟨hfolder, next, hnext, hrest⟩ := follow_cons_iff.1 hfollow
    exact follow_cons_iff.2 ⟨h place hfolder, next, hnext, ih hrest⟩

/-- The last part of a path leads into the folder that the others lead to. -/
theorem exists_follow {parts : List String} {name : String} (hname : name ≠ "..")
    (h : f.follow place (parts ++ [name]) = .ok goal) :
    ∃ folder, f.follow place parts = .ok folder ∧ goal = folder ++ [name] := by
  induction parts generalizing place with
  | nil =>
    obtain ⟨-, next, hnext, hrest⟩ := follow_cons_iff.1 h
    unfold next? at hnext
    rw [if_neg hname] at hnext
    split at hnext
    · cases hnext
    · cases hnext
      cases hrest
      exact ⟨place, rfl, rfl⟩
  | cons part rest ih =>
    obtain ⟨hfolder, next, hnext, hrest⟩ := follow_cons_iff.1 h
    obtain ⟨folder, hfollow, hgoal⟩ := ih hrest
    exact ⟨folder, follow_cons_iff.2 ⟨hfolder, next, hnext, hfollow⟩, hgoal⟩

/-- Nothing stops being a folder when a file is put somewhere. -/
theorem isFolder_put {p : List String} (h : f.isFolder p = true) :
    (f.put place bytes).isFolder p = true := by
  rw [isFolder_iff] at h ⊢
  refine h.imp_right ?_
  rintro ⟨e, he, hbelow⟩
  by_cases hplace : e.1 = place
  · exact ⟨(place, bytes), mem_put.2 (.inr rfl), hplace ▸ hbelow⟩
  · exact ⟨e, mem_put.2 (.inl ⟨he, hplace⟩), hbelow⟩

/-- Nor when one is moved to a place beside it. -/
theorem isFolder_move {folder p : List String} {draft name : String}
    (h : f.isFolder p = true) :
    (Folder.put ⟨f.files.filter fun e => e.1 ≠ folder ++ [draft]⟩ (folder ++ [name]) bytes).isFolder p
      = true := by
  rw [isFolder_iff] at h ⊢
  refine h.imp_right ?_
  rintro ⟨e, he, hlength, hprefix⟩
  by_cases hmoved : e.1 = folder ++ [draft]
  · -- a folder that holds the file that is moved also holds its new place
    rw [hmoved] at hlength hprefix
    refine ⟨(folder ++ [name], bytes), mem_put.2 (.inr rfl), by simpa using hlength, ?_⟩
    rcases List.prefix_concat_iff.1 hprefix with heq | hfolder
    · rw [heq] at hlength
      exact absurd hlength (Nat.lt_irrefl _)
    · exact hfolder.trans (List.prefix_append _ _)
  · by_cases hgoal : e.1 = folder ++ [name]
    · exact ⟨(folder ++ [name], bytes), mem_put.2 (.inr rfl), hgoal ▸ hlength, hgoal ▸ hprefix⟩
    · refine ⟨e, mem_put.2 (.inl ⟨?_, hgoal⟩), hlength, hprefix⟩
      exact List.mem_filter.2 ⟨he, by simpa using hmoved⟩

/-- A file is put nowhere but in its place. -/
theorem isFolder_put_self (hfree : f.isFolder place = false) (p : List String × List UInt8 → Bool) :
    (Folder.put ⟨f.files.filter p⟩ place bytes).isFolder place = false := by
  rw [← Bool.not_eq_true, isFolder_iff] at hfree ⊢
  refine mt ?_ hfree
  rintro (hroot | ⟨e, he, hlength, hprefix⟩)
  · exact .inl hroot
  · rcases mem_put.1 he with ⟨he, -⟩ | rfl
    · exact .inr ⟨e, List.mem_of_mem_filter he, hlength, hprefix⟩
    · exact absurd hlength (Nat.lt_irrefl _)

theorem locate_eq {path : String} (hend : path.toList.getLast? ≠ some '/') :
    f.locate path = if path = "" || Path.isAbsolute path then .error .missing
      else f.follow [] (Path.parts path) := by
  unfold locate
  simp only [hend, decide_false, Bool.false_and]
  split
  · rfl
  · cases f.follow [] (Path.parts path) <;> rfl

/-- A step that is guarded by a check succeeds when the check finds nothing. -/
theorem guarded_eq_ok_iff {α : Type} {p : Bool} {fault : FileFault} {x : Except FileFault α} {a : α} :
    (if p then (throw fault >>= fun _ : Unit => x) else x) = .ok a ↔ p = false ∧ x = .ok a := by
  cases p with
  | true => exact ⟨fun h => (nomatch h), fun h => (nomatch h.1)⟩
  | false => exact ⟨fun h => ⟨rfl, h⟩, fun h => h.2⟩

theorem read_eq_ok_iff {path : String} : f.read path = .ok bytes
    ↔ ∃ place, f.locate path = .ok place ∧ f.isFolder place = false
      ∧ f.file? place = some bytes := by
  unfold read
  rw [bind_eq_ok_iff]
  refine exists_congr fun place => and_congr_right fun _ => guarded_eq_ok_iff.trans ?_
  refine and_congr_right fun _ => ?_
  cases f.file? place with
  | none => exact ⟨fun h => (nomatch h), fun h => (nomatch h)⟩
  | some found =>
    exact ⟨fun h => congrArg some (Except.ok.inj h), fun h => congrArg Except.ok (Option.some.inj h)⟩

theorem write_eq_ok_iff {path : String} : f.write path bytes = .ok g
    ↔ ∃ place, f.locate path = .ok place ∧ f.isFolder place = false ∧ f.put place bytes = g := by
  unfold write
  rw [bind_eq_ok_iff]
  refine exists_congr fun place => and_congr_right fun _ => guarded_eq_ok_iff.trans ?_
  exact and_congr_right fun _ => ⟨Except.ok.inj, congrArg Except.ok⟩

theorem move_eq_ok_iff {draft path : String} : f.move draft path = .ok g
    ↔ ∃ bytes, f.read draft = .ok bytes ∧ ∃ place, f.locate draft = .ok place
      ∧ ∃ goal, f.locate path = .ok goal ∧ f.isFolder goal = false
        ∧ Folder.put ⟨f.files.filter fun e => e.1 ≠ place⟩ goal bytes = g := by
  unfold move
  rw [bind_eq_ok_iff]
  refine exists_congr fun bytes => and_congr_right fun _ => ?_
  rw [bind_eq_ok_iff]
  refine exists_congr fun place => and_congr_right fun _ => ?_
  rw [bind_eq_ok_iff]
  refine exists_congr fun goal => and_congr_right fun _ => guarded_eq_ok_iff.trans ?_
  exact and_congr_right fun _ => ⟨Except.ok.inj, congrArg Except.ok⟩

theorem follow_of_locate {path : String} (hend : path.toList.getLast? ≠ some '/')
    (h : f.locate path = .ok place) : f.follow [] (Path.parts path) = .ok place := by
  rw [locate_eq hend] at h
  split at h
  · cases h
  · exact h

theorem locate_of_isFolder {path : String} (hend : path.toList.getLast? ≠ some '/')
    (h : ∀ p, f.isFolder p = true → g.isFolder p = true) (hlocate : f.locate path = .ok place) :
    g.locate path = .ok place := by
  rw [locate_eq hend] at hlocate ⊢
  split at hlocate
  · cases hlocate
  · rename_i hpath
    rw [if_neg hpath]
    exact follow_of_isFolder h hlocate

/-- The name of a file leads to a place in the outermost folder. -/
theorem locate_name (f : Folder) {name : String} (hslash : '/' ∉ name.toList)
    (hproper : name ∉ ["", ".", ".."]) (hlength : name.utf8ByteSize ≤ 255) :
    f.locate name = .ok [name] := by
  simp only [List.mem_cons, List.not_mem_nil, or_false, not_or] at hproper
  obtain ⟨hempty, hdot, hup⟩ := hproper
  have hend : name.toList.getLast? ≠ some '/' := fun h => hslash (List.mem_of_getLast? h)
  have habsolute : Path.isAbsolute name = false := by
    unfold Path.isAbsolute
    simpa using fun h => hslash (List.mem_of_head? h)
  rw [locate_eq hend, Path.parts_of_not_mem hslash hempty hdot]
  simp only [hempty, habsolute, decide_false, Bool.or_self, Bool.false_eq_true, if_false]
  refine follow_cons_iff.2 ⟨rfl, [name], ?_, rfl⟩
  rw [next?, if_neg hup, if_neg (Nat.not_lt.2 hlength)]
  rfl

/-- A file that was written and moved to a place beside it is read there. -/
theorem read_of_move {h : Folder} {draft path : String} {folder : List String}
    {first last : String} (hdraft : Path.parts draft = folder ++ [first])
    (hpath : Path.parts path = folder ++ [last]) (hfirst : first ≠ "..") (hlast : last ≠ "..")
    (hdraftEnd : draft.toList.getLast? ≠ some '/') (hpathEnd : path.toList.getLast? ≠ some '/')
    (hwrite : f.write draft bytes = .ok g) (hmove : g.move draft path = .ok h) :
    h.read path = .ok bytes := by
  obtain ⟨place, hplace, -, rfl⟩ := write_eq_ok_iff.1 hwrite
  -- the draft is found where it was written
  have hwritten : (f.put place bytes).locate draft = .ok place :=
    locate_of_isFolder hdraftEnd (fun _ => isFolder_put) hplace
  obtain ⟨found, hfound, moved, hmoved, goal, hgoal, hfree, rfl⟩ := move_eq_ok_iff.1 hmove
  obtain rfl : place = moved := Except.ok.inj (hwritten.symm.trans hmoved)
  obtain rfl : bytes = found := by
    obtain ⟨moved, hmoved, -, hfile⟩ := read_eq_ok_iff.1 hfound
    obtain rfl : place = moved := Except.ok.inj (hwritten.symm.trans hmoved)
    exact Option.some.inj (file?_put.symm.trans hfile)
  -- both paths lead into one folder, which is still there when the draft is gone
  have hleads := follow_of_locate hdraftEnd hwritten
  have hgoalLeads := follow_of_locate hpathEnd hgoal
  rw [hdraft] at hleads
  rw [hpath] at hgoalLeads
  obtain ⟨within, hwithin, rfl⟩ := exists_follow hfirst hleads
  obtain ⟨within', hwithin', rfl⟩ := exists_follow hlast hgoalLeads
  obtain rfl : within = within' := Except.ok.inj (hwithin.symm.trans hwithin')
  refine read_eq_ok_iff.2 ⟨within ++ [last], ?_, isFolder_put_self hfree _, file?_put⟩
  exact locate_of_isFolder hpathEnd (fun _ => isFolder_move) hgoal

end Folder

/-! ## Worlds that keep files -/

namespace Surroundings

/-- A step that fails leaves the folder as it was then, and nothing follows. -/
theorem run_bind {α β : Type} (x : ExceptT ConvertError (StateM Folder) α)
    (next : α → ExceptT ConvertError (StateM Folder) β) (f : Folder) :
    (x >>= next).run f = (match x.run f with
      | (.ok a, g) => (next a).run g
      | (.error e, g) => (.error e, g) : Except ConvertError β × Folder) := by
  show (ExceptT.bindCont next (x.run f).1).run (x.run f).2 = _
  rcases x.run f with ⟨_ | _, g⟩ <;> rfl

theorem run_change (step : Folder → Except FileFault Folder) (f : Folder) :
    (change step).run f = (match step f with
      | .ok g => (.ok (), g)
      | .error fault => (.error fault.error, f) : Except ConvertError Unit × Folder) := by
  unfold change
  rw [run_bind]
  show (match step f with
    | .ok g => set g
    | .error fault => throw fault.error : ExceptT ConvertError (StateM Folder) Unit).run f = _
  cases step f <;> rfl

theorem run_write (path text : String) (f : Folder) :
    (folder.write path text).run f = (match f.write path text.toUTF8.toList with
      | .ok g => (.ok (), g)
      | .error fault => (.error fault.error, f) : Except ConvertError Unit × Folder) :=
  run_change (fun f => f.write path text.toUTF8.toList) f

theorem run_move (path goal : String) (f : Folder) :
    (folder.move path goal).run f = (match f.move path goal with
      | .ok g => (.ok (), g)
      | .error fault => (.error fault.error, f) : Except ConvertError Unit × Folder) :=
  run_change (fun f => f.move path goal) f

theorem run_read {path : String} {f : Folder} {bytes : List UInt8} (h : f.read path = .ok bytes) :
    (folder.read path).run f = (.ok bytes, f) := by
  have hget : (get : ExceptT ConvertError (StateM Folder) Folder).run f = (.ok f, f) := rfl
  unfold folder
  rw [run_bind]
  simp only [hget, h]
  rfl

theorem run_save {path : String} {m : Model} {now : Instant} {f g h : Folder}
    (hwrite : f.write (Session.draft path) (Session.encode m now).toUTF8.toList = .ok g)
    (hmove : g.move (Session.draft path) path = .ok h) :
    (Session.save folder path m now).run f = (.ok (), h) := by
  show (folder.write (Session.draft path) (Session.encode m now)
    >>= fun _ => folder.move (Session.draft path) path).run f = _
  rw [run_bind, run_write, hwrite]
  dsimp only
  rw [run_move, hmove]

/-- A folder keeps every session that is saved under the name of a file. -/
theorem keeps_folder {path : String} (hname : (Path.fileName? path).isSome = true)
    (hend : path.toList.getLast? ≠ some '/') :
    folder.Keeps (Session.draft path) path := by
  obtain ⟨name, hname⟩ := Option.isSome_iff_exists.1 hname
  obtain ⟨draft, hdraft, hdraftEnd, hdraftName⟩ := Session.parts_draft hname
  obtain ⟨hpath, hpathName⟩ := Path.parts_of_fileName? hname
  intro text
  apply ExceptT.ext
  funext f
  -- where writing or moving fails, both sides fail alike
  rw [run_bind, run_bind, run_write]
  cases hwrite : f.write (Session.draft path) text.toUTF8.toList with
  | error fault => rfl
  | ok g =>
    dsimp only
    rw [run_bind, run_bind, run_move]
    cases hmove : g.move (Session.draft path) path with
    | error fault => rfl
    | ok h =>
      exact run_read (Folder.read_of_move hdraft hpath hdraftName hpathName hdraftEnd hend hwrite
        hmove)

end Surroundings

end SchemaBridge
