import Kanban.Proofs.Storage.Tree
import Mathlib.Logic.Relation

/-!
# Saves that do not come to their end

A save of a file makes folders, writes a spare file and puts it in the place of the file.  It may
stop behind any of these steps, also with a part of the spare file written, since the program stops
there or since the next step is refused.  `FileStore.Saving` says how far it has come and what the
tree is like then.  From its last step on the file holds the bytes; before that what is read is as
it was, unless folders that were made lead the path elsewhere (`FileStore.save_atomic`).
-/

namespace Kanban

open FileTree (Grows GrowsAt)

namespace FileStore

variable {t u v w : FileTree} {p : Path} {bytes : ByteArray} {folder l : Location} {name : String}

/-- The location of the file of a path. -/
def place (t : FileTree) (p : Path) : Location := p.parts.foldl FileTree.go (t.start p)

/-- The location of the spare file that is written before the file of a path. -/
def sparePlace (t : FileTree) (p : Path) : Location :=
  p.parent.parts.foldl FileTree.go (t.start p) ++ [spareName (p.name?.getD "")]

/-! ### The steps of a save -/

/-- How far a save has come. -/
inductive Stage where
  /-- Nothing has been done. -/
  | called
  /-- The folders down to a location are there; these parts have yet to be made. -/
  | folders (reached : Location) (rest : List String)
  /-- In the folder the spare file has so many of the bytes. -/
  | spare (folder : Location) (written : Nat)
  /-- The spare file has taken the place of the file. -/
  | renamed
  deriving DecidableEq

/-- One step of a save of bytes at a path. -/
inductive Step (p : Path) (bytes : ByteArray) : Stage × FileTree → Stage × FileTree → Prop
  | start {t : FileTree} (hbad : p.parent.isBad = false) (hlong : p.parent.isLong 0 = false) :
    Step p bytes (.called, t) (.folders (t.start p) p.parent.parts, t)
  | folder {t u : FileTree} {l l' : Location} {part : String} {rest : List String}
      (h : t.makeFolders l [part] = (.ok l', u)) :
    Step p bytes (.folders l (part :: rest), t) (.folders l' rest, u)
  /-- The spare file is made, or emptied, and some of the bytes are written to it. -/
  | write {t u : FileTree} {folder : Location} {name : String} (n : Nat)
      (hname : p.name? = some name) (hbad : p.isBad = false)
      (hlong : p.isLong spareEnding.utf8ByteSize = false)
      (h : write t folder (spareName name) (bytes.extract 0 n) = .ok u) :
    Step p bytes (.folders folder [], t) (.spare folder n, u)
  /-- More of the bytes are written to the spare file. -/
  | more {t u : FileTree} {folder : Location} {name : String} {n k : Nat}
      (hname : p.name? = some name) (hle : n ≤ k)
      (h : FileStore.write t folder (spareName name) (bytes.extract 0 k) = .ok u) :
    Step p bytes (.spare folder n, t) (.spare folder k, u)
  | rename {t u : FileTree} {folder : Location} {name : String} (hname : p.name? = some name)
      (h : rename t (folder ++ [spareName name]) (FileTree.go folder name) = .ok u) :
    Step p bytes (.spare folder bytes.size, t) (.renamed, u)

/-- A save of bytes at a path in a tree may have come so far, with this tree. -/
def Saving (p : Path) (bytes : ByteArray) (t : FileTree) (x : Stage × FileTree) : Prop :=
  Relation.ReflTransGen (Step p bytes) (.called, t) x

/-- What is known of a save in a tree that has come so far. -/
def Reached (p : Path) (bytes : ByteArray) (t : FileTree) : Stage × FileTree → Prop
  | (.called, u) => u = t
  | (.folders l rest, u) => p.parent.isBad = false ∧ p.parent.isLong 0 = false
    ∧ ∃ made, p.parent.parts = made ++ rest ∧ t.makeFolders (t.start p) made = (.ok l, u)
  | (.spare folder n, u) => p.isBad = false ∧ p.isLong spareEnding.utf8ByteSize = false
    ∧ ∃ v name, t.makeParent p = (.ok folder, v) ∧ p.name? = some name
      ∧ write v folder (spareName name) (bytes.extract 0 n) = .ok u
  | (.renamed, u) => save t p bytes = (.ok (), u)

/-- Writing to a file that has been written leaves nothing of what it had. -/
theorem write_write {bytes' : ByteArray} (h : write t folder name bytes = .ok v) :
  write v folder name bytes' = .ok u ↔ write t folder name bytes' = .ok u
  := by
  obtain ⟨hfolder, hadmits, rfl⟩ := write_eq_ok_iff.mp h
  have hne : folder ++ [name] ≠ [] := by simp
  have hput : (t.put (folder ++ [name]) (.file bytes)).isFolder (folder ++ [name]) = false := by
    rw [FileTree.isFolder, FileTree.node?_put_self hne]
  simp [write_eq_ok_iff, hfolder, hadmits, hput, FileTree.put_put]

theorem makeParent_eq (hbad : p.parent.isBad = false) (hlong : p.parent.isLong 0 = false) :
  t.makeParent p = t.makeFolders (t.start p) p.parent.parts
  := by
  simp [FileTree.makeParent, hbad, hlong]

/-- A step keeps to what is known. -/
theorem Reached.step {x y : Stage × FileTree} (hx : Reached p bytes t x)
    (h : Step p bytes x y) :
  Reached p bytes t y
  := by
  cases h with
  | start hbad hlong =>
      obtain rfl := hx
      exact ⟨hbad, hlong, [], rfl, rfl⟩
  | @folder _ _ _ _ part _ h =>
      obtain ⟨hbad, hlong, made, hparts, hmade⟩ := hx
      refine ⟨hbad, hlong, made ++ [part], ?_, ?_⟩
      · rw [hparts, List.append_cons]
      · rw [FileTree.makeFolders_append hmade, h]
  | write n hname hbad hlong h =>
      obtain ⟨hbad', hlong', made, hparts, hmade⟩ := hx
      rw [List.append_nil] at hparts
      rw [← hparts] at hmade
      exact ⟨hbad, hlong, _, _, (makeParent_eq hbad' hlong').trans hmade, hname, h⟩
  | more hname _ h =>
      obtain ⟨hbad, hlong, v, name, hparent, hname', hwrite⟩ := hx
      obtain rfl := Option.some.inj (hname.symm.trans hname')
      exact ⟨hbad, hlong, v, _, hparent, hname, (write_write hwrite).mp h⟩
  | rename hname h =>
      obtain ⟨hbad, hlong, v, name, hparent, hname', hwrite⟩ := hx
      obtain rfl := Option.some.inj (hname.symm.trans hname')
      rw [ByteArray.extract_zero_size] at hwrite
      simp [Reached, save, replace, hparent, hname, hbad, hlong, hwrite, h, pure, Except.pure]

theorem Saving.reached {x : Stage × FileTree} (h : Saving p bytes t x) :
  Reached p bytes t x
  := by
  induction h with
  | refl => exact rfl
  | tail _ hstep ih => exact ih.step hstep

/-! ### A save as its steps -/

/-- Making folders is making one after the other, as far as possible. -/
theorem steps_of_makeFolders (p : Path) (bytes : ByteArray) {parts : List String}
    {r : Except StorageError Location} (h : t.makeFolders l parts = (r, u)) :
  ∃ l' rest, Relation.ReflTransGen (Step p bytes) (.folders l parts, t) (.folders l' rest, u)
    ∧ ∀ l'', r = .ok l'' → l'' = l' ∧ rest = []
  := by
  induction parts generalizing t l with
  | nil =>
      obtain ⟨rfl, rfl⟩ := Prod.mk.inj h
      refine ⟨l, [], .refl, ?_⟩
      rintro l'' ⟨⟩
      exact ⟨rfl, rfl⟩
  | cons part parts ih =>
      rcases FileTree.makeFolders_cons h with ⟨rfl, rfl⟩ | ⟨hadmits, v, hv, hmade⟩
      · refine ⟨l, part :: parts, .refl, ?_⟩
        rintro l'' ⟨⟩
      · obtain ⟨l', rest, hsteps, hok⟩ := ih hv
        refine ⟨l', rest, .head (.folder ?_) hsteps, hok⟩
        rcases hmade with ⟨hfolder, rfl⟩ | ⟨hnone, rfl⟩
        · simp [FileTree.makeFolders, hadmits, FileTree.isFolder_iff.mp hfolder, pure, Except.pure]
        · simp [FileTree.makeFolders, hadmits, hnone, pure, Except.pure]

theorem saving_of_makeParent (bytes : ByteArray) {r : Except StorageError Location}
    (h : t.makeParent p = (r, u)) :
  ∃ stage, Saving p bytes t (stage, u) ∧ stage ≠ .renamed
    ∧ ∀ l, r = .ok l → stage = .folders l []
  := by
  rw [FileTree.makeParent] at h
  split_ifs at h with hbad hlong
  · obtain ⟨rfl, rfl⟩ := Prod.mk.inj h
    refine ⟨.called, .refl, by simp, ?_⟩
    rintro l ⟨⟩
  · obtain ⟨rfl, rfl⟩ := Prod.mk.inj h
    refine ⟨.called, .refl, by simp, ?_⟩
    rintro l ⟨⟩
  · obtain ⟨l', rest, hsteps, hok⟩ := steps_of_makeFolders p bytes h
    refine ⟨.folders l' rest, .head (.start (by simpa using hbad) (by simpa using hlong)) hsteps,
      by simp, ?_⟩
    intro l hl
    obtain ⟨rfl, rfl⟩ := hok l hl
    rfl

/-- When the folders are there, writing the file is writing the spare file and renaming it. -/
theorem saving_of_replace {r : Except StorageError Unit}
    (hsaving : Saving p bytes t (.folders folder [], v)) (hname : p.name? = some name)
    (hbad : p.isBad = false) (hlong : p.isLong spareEnding.utf8ByteSize = false)
    (h : replace v folder name bytes = (r, u)) :
  ∃ stage, Saving p bytes t (stage, u) ∧ (r = .ok () ↔ stage = .renamed)
  := by
  rw [replace] at h
  split at h
  · obtain ⟨rfl, rfl⟩ := Prod.mk.inj h
    exact ⟨_, hsaving, by simp [throw, throwThe, MonadExceptOf.throw]⟩
  · next w hwrite =>
      rw [← ByteArray.extract_zero_size (b := bytes)] at hwrite
      have hwritten := hsaving.tail (.write bytes.size hname hbad hlong hwrite)
      split at h
      · obtain ⟨rfl, rfl⟩ := Prod.mk.inj h
        exact ⟨_, hwritten, by simp [throw, throwThe, MonadExceptOf.throw]⟩
      · next w' hrename =>
          obtain ⟨rfl, rfl⟩ := Prod.mk.inj h
          refine ⟨.renamed, hwritten.tail (.rename hname hrename), ?_⟩
          simp [pure, Except.pure]

/-- Every outcome of a save is reached in steps, and the last one is reached when the save
succeeds. -/
theorem saving_of_save {r : Except StorageError Unit} (h : save t p bytes = (r, u)) :
  ∃ stage, Saving p bytes t (stage, u) ∧ (r = .ok () ↔ stage = .renamed)
  := by
  rw [save] at h
  split at h
  · next e v hparent =>
      obtain ⟨rfl, rfl⟩ := Prod.mk.inj h
      obtain ⟨stage, hsaving, hne, -⟩ := saving_of_makeParent bytes hparent
      exact ⟨stage, hsaving, by simp [hne, throw, throwThe, MonadExceptOf.throw]⟩
  · next folder v hparent =>
      obtain ⟨stage, hsaving, hne, hstage⟩ := saving_of_makeParent bytes hparent
      obtain rfl := hstage folder rfl
      have hfailed {e : StorageError} (h : (throw e, v) = (r, u)) :
          ∃ stage, Saving p bytes t (stage, u) ∧ (r = .ok () ↔ stage = .renamed) := by
        obtain ⟨rfl, rfl⟩ := Prod.mk.inj h
        exact ⟨_, hsaving, by simp [throw, throwThe, MonadExceptOf.throw]⟩
      split at h
      · exact hfailed h
      · next name hname =>
          split_ifs at h with hbad hlong
          · exact hfailed h
          · exact hfailed h
          · apply saving_of_replace hsaving hname _ _ h
            · simpa using hbad
            · simpa using hlong

/-! ### What is read on the way -/

/-- The tree in which the first `k` of the folders of a path have been made, as far as possible. -/
def withFolders (t : FileTree) (p : Path) (k : ℕ) : FileTree :=
  (t.makeFolders (t.start p) (p.parent.parts.take k)).2

theorem exists_makeFolders_withFolders (t : FileTree) (p : Path) (k : ℕ) :
  ∃ r, t.makeFolders (t.start p) (p.parent.parts.take k) = (r, withFolders t p k)
  := ⟨_, rfl⟩

/-- `u` is `v`, save for a file at a location where no folder is. -/
structure Aside (v u : FileTree) (l : Location) : Prop where
  folders : ∀ l', u.isFolder l' = v.isFolder l'
  here : u.here = v.here
  nodes : ∀ l', l' ≠ l → u.node? l' = v.node? l'

theorem Aside.refl (v : FileTree) (l : Location) :
  Aside v v l
  := ⟨fun _ => rfl, rfl, fun _ _ => rfl⟩

theorem aside_put (hl : l ≠ []) (h : v.isFolder l = false) :
  Aside v (v.put l (.file bytes)) l
  := by
  constructor
  · intro l'
    by_cases hl' : l' = l
    · rw [hl', h, FileTree.isFolder, FileTree.node?_put_self hl]
    · apply FileTree.isFolder_congr (FileTree.node?_put_of_ne hl')
  · rfl
  · intro l' hl'
    apply FileTree.node?_put_of_ne hl'

theorem Aside.remove (h : Aside v u l) (hl : l ≠ []) (hfolder : v.isFolder l = false) :
  Aside v (u.remove l) l
  := by
  constructor
  · intro l'
    by_cases hl' : l' = l
    · rw [hl', hfolder, FileTree.isFolder, FileTree.node?_remove_self hl]
    · rw [FileTree.isFolder_congr (FileTree.node?_remove_of_ne hl'), h.folders]
  · exact h.here
  · intro l' hl'
    rw [FileTree.node?_remove_of_ne hl', h.nodes l' hl']

theorem folder_of_makeParent (h : t.makeParent p = (.ok folder, v)) :
  v = withFolders t p p.parent.parts.length
    ∧ folder = p.parent.parts.foldl FileTree.go (t.start p)
  := by
  refine ⟨?_, (FileTree.eq_of_makeParent h).1⟩
  rw [withFolders, List.take_length, FileTree.makeFolders_of_makeParent h]

theorem sparePlace_eq (hname : p.name? = some name) :
  sparePlace t p = p.parent.parts.foldl FileTree.go (t.start p) ++ [spareName name]
  := by
  rw [sparePlace, hname, Option.getD_some]

theorem place_eq (hname : p.name? = some name) :
  place t p = FileTree.go (p.parent.parts.foldl FileTree.go (t.start p)) name
  := by
  rw [place, Path.parts_eq hname, List.foldl_append]
  rfl

theorem place_ne_sparePlace :
  place t p ≠ sparePlace t p
  := by
  cases hname : p.name? with
  | none =>
      have hparts : p.parts = [] := List.getLast?_eq_none_iff.mp hname
      rw [place, sparePlace, Path.parent, hparts]
      simp
  | some name =>
      rw [place_eq hname, sparePlace_eq hname, FileTree.go]
      split_ifs
      · intro h
        have hlength := congrArg List.length h
        simp at hlength
      · intro h
        have hsame : name = spareName name := by simpa using h
        have hsize := congrArg String.utf8ByteSize hsame
        rw [spareName, String.utf8ByteSize_append] at hsize
        have hending : 0 < spareEnding.utf8ByteSize := by decide
        omega

/-- Before its last step a save has made folders and perhaps a spare file. -/
theorem Reached.exists_aside {stage : Stage} (h : Reached p bytes t (stage, u))
    (hstage : stage ≠ .renamed) :
  ∃ k, Aside (withFolders t p k) u (sparePlace t p)
  := by
  cases stage with
  | called =>
      obtain rfl := h
      exact ⟨0, .refl u _⟩
  | folders l rest =>
      obtain ⟨-, -, made, hparts, hmade⟩ := h
      refine ⟨made.length, ?_⟩
      rw [withFolders, hparts, List.take_left' rfl, hmade]
      apply Aside.refl
  | spare folder n =>
      obtain ⟨-, -, v, name, hparent, hname, hwrite⟩ := h
      obtain ⟨hfolder, -, rfl⟩ := write_eq_ok_iff.mp hwrite
      obtain ⟨rfl, rfl⟩ := folder_of_makeParent hparent
      refine ⟨p.parent.parts.length, ?_⟩
      rw [sparePlace_eq hname]
      apply aside_put _ hfolder
      simp
  | renamed => exact absurd rfl hstage

theorem find_of_read_ne (h : read t p ≠ .ok none) :
  t.find p ≠ .ok none
  := by
  intro hfind
  rw [read, hfind] at h
  exact h rfl

theorem read_congr (h : u.find p = t.find p) :
  read u p = read t p
  := by
  rw [read, h, read]

theorem withFolders_spec (ht : t.IsTree) (k : ℕ) :
  (withFolders t p k).IsTree ∧ Grows t (withFolders t p k) ∧ (withFolders t p k).here = t.here
  := by
  obtain ⟨_, hmade⟩ := exists_makeFolders_withFolders t p k
  obtain ⟨htree, hgrows, hhere, -⟩ := FileTree.makeFolders_spec ht (ht.start p) hmade
  exact ⟨htree, hgrows, hhere⟩

/-- A spare file is not read. -/
theorem Aside.read (h : Aside v u (sparePlace t p)) (hhere : v.here = t.here) :
  read u p = FileStore.read v p
  := by
  apply read_congr
  apply FileTree.find_congr h.folders h.here
  apply h.nodes
  rw [FileTree.start_congr hhere]
  apply place_ne_sparePlace

/-- If the folder of the path is there, no folders are made. -/
theorem withFolders_of_find (h : t.find p.parent = .ok (some .folder)) (k : ℕ) :
  withFolders t p k = t
  := by
  obtain ⟨hwalk, hnode⟩ := FileTree.exists_of_find h
  rw [← List.take_append_drop k p.parent.parts] at hwalk
  rw [← FileTree.isFolder_iff, ← List.take_append_drop k p.parent.parts] at hnode
  obtain ⟨m, hm⟩ := FileTree.makeFolders_of_walk hwalk hnode
  exact congrArg Prod.snd hm

/-- Folders that are made for a plain path do not change what is found there. -/
theorem find_withFolders_of_plain (ht : t.IsTree) (hp : p.IsPlain) (k : ℕ) :
  (withFolders t p k).find p = t.find p
  := by
  obtain ⟨htree, hgrows, hhere⟩ := withFolders_spec (p := p) ht k
  apply FileTree.find_of_plain ht htree hp hhere
  by_cases hnil : p.parts = []
  · -- The path leads to a folder that is there.
    rw [hnil, List.append_nil, FileTree.isFolder_iff.mp (ht.start p)]
    apply FileTree.isFolder_iff.mp (hgrows.isFolder (ht.start p))
  · obtain ⟨_, hmade⟩ := exists_makeFolders_withFolders t p k
    apply FileTree.node?_of_makeFolders hmade
    · intro part hpart
      apply (hp part (List.mem_of_mem_dropLast (List.mem_of_mem_take hpart))).1
    · have hpos := List.length_pos_iff.mpr hnil
      simp only [Path.parent, List.length_take, List.length_dropLast, List.length_append]
      omega

/-! ### What is read at the end -/

/-- When a save has succeeded, the spare file is in the place of the file, in the tree in which all
folders have been made. -/
theorem renamed_spec (hparent : t.makeParent p = (.ok folder, v)) (hname : p.name? = some name)
    (hwrite : write v folder (spareName name) bytes = .ok w)
    (hrename : rename w (folder ++ [spareName name]) (FileTree.go folder name) = .ok u) :
  u.node? (place t p) = some (.file bytes) ∧ (∀ l, u.isFolder l = v.isFolder l) ∧ u.here = v.here
    ∧ ∀ l, l ≠ sparePlace t p → l ≠ place t p → u.node? l = v.node? l
  := by
  obtain ⟨-, rfl⟩ := folder_of_makeParent hparent
  rw [← sparePlace_eq hname, ← place_eq hname] at hrename
  obtain ⟨hspare, -, rfl⟩ := write_eq_ok_iff.mp hwrite
  rw [← sparePlace_eq hname] at hspare hrename
  have hne : sparePlace t p ≠ [] := by simp [sparePlace]
  obtain ⟨bytes', hnode, htarget, rfl⟩ := rename_eq_ok_iff.mp hrename
  rw [FileTree.node?_put_self hne] at hnode
  obtain ⟨⟩ := hnode
  have htop : place t p ≠ [] := by
    intro htop
    rw [htop, FileTree.isFolder_nil] at htarget
    cases htarget
  have hput : Aside v (v.put (sparePlace t p) (.file bytes)) (sparePlace t p) :=
    aside_put hne hspare
  have hremoved := hput.remove hne hspare
  have hplaced : Aside ((v.put (sparePlace t p) (.file bytes)).remove (sparePlace t p))
      (((v.put (sparePlace t p) (.file bytes)).remove (sparePlace t p)).put (place t p)
        (.file bytes)) (place t p) := by
    apply aside_put htop
    rw [hremoved.folders, ← hput.folders, htarget]
  refine ⟨FileTree.node?_put_self htop, ?_, ?_, ?_⟩
  · intro l
    rw [hplaced.folders, hremoved.folders]
  · rw [hplaced.here, hremoved.here]
  · intro l hl hl'
    rw [hplaced.nodes l hl', hremoved.nodes l hl]

/-- What was saved is read. -/
theorem read_of_save (ht : t.IsTree) (h : save t p bytes = (.ok (), u)) :
  read u p = .ok (some bytes)
  := by
  obtain ⟨folder, v, name, w, hparent, hname, hbad, hlong, hwrite, hrename⟩ := exists_of_save h
  obtain ⟨hnode, hfolders, hhere, -⟩ := renamed_spec hparent hname hwrite hrename
  have hshort : p.isLong 0 = false := by
    simp only [Path.isLong, decide_eq_false_iff_not] at hlong ⊢
    omega
  have hadmits : FileTree.admits name = true := by
    have hspare := (write_eq_ok_iff.mp hwrite).2.1
    simp only [FileTree.admits, spareName, String.utf8ByteSize_append, decide_eq_true_eq]
      at hspare ⊢
    omega
  obtain ⟨-, hfolder⟩ := folder_of_makeParent hparent
  obtain ⟨-, -, hhere', hok⟩ :=
    FileTree.makeFolders_spec ht (ht.start p) (FileTree.makeFolders_of_makeParent hparent)
  obtain ⟨hopen, hwalk⟩ := hok folder rfl
  have hway : u.walk (u.start p) p.parts = .ok (some (place t p)) := by
    rw [FileTree.walk_congr hfolders, FileTree.start_congr (hhere.trans hhere'),
      Path.parts_eq hname, FileTree.walk_append hwalk, FileTree.walk, hopen, Bool.not_true,
      if_neg (by decide), if_pos hadmits, place_eq hname, hfolder]
    rfl
  have hfind : u.find p = .ok (some (.file bytes)) := by
    rw [FileTree.find, hway, hbad, hshort]
    simp [hnode, pure, Except.pure, bind, Except.bind]
  rw [read, hfind]
  rfl

/-! ### Saves are atomic -/

/-- Wherever a save stops, only the file of the path and its spare file have changed, and there may
be more folders. -/
theorem Reached.growsAt {stage : Stage} (ht : t.IsTree) (h : Reached p bytes t (stage, u))
    (hspare : l ≠ sparePlace t p) (hplace : stage = .renamed → l ≠ place t p) :
  GrowsAt t u l
  := by
  by_cases hstage : stage = .renamed
  · subst hstage
    obtain ⟨folder, v, name, w, hparent, hname, -, -, hwrite, hrename⟩ := exists_of_save h
    obtain ⟨-, -, -, hnodes⟩ := renamed_spec hparent hname hwrite hrename
    obtain ⟨rfl, -⟩ := folder_of_makeParent hparent
    obtain ⟨-, hgrows, -⟩ := withFolders_spec (p := p) ht p.parent.parts.length
    rw [GrowsAt, hnodes l hspare (hplace rfl)]
    apply hgrows l
  · obtain ⟨k, haside⟩ := h.exists_aside hstage
    obtain ⟨-, hgrows, -⟩ := withFolders_spec (p := p) ht k
    rw [GrowsAt, haside.nodes l hspare]
    apply hgrows l

/-- A tree with one file. -/
def shelf : FileTree := ⟨[(["b"], .file "old".toUTF8)], []⟩

theorem isTree_shelf :
  shelf.IsTree
  := by
  refine ⟨?_, rfl⟩
  intro l n h
  rw [FileTree.node?] at h
  split_ifs at h with hl
  · rw [hl]
    rfl
  · rw [shelf, List.lookup_cons] at h
    split at h
    · next heq =>
        obtain rfl := eq_of_beq heq
        rfl
    · cases h

/-- A path into a folder that is not there. -/
def below : Path := .ofText "/a/b"

theorem save_below :
  (save shelf below "new".toUTF8).1 = .ok ()
  := by
  have hbad : below.parent.isBad = false ∧ below.isBad = false := by
    rw [show below = ⟨"/", ["a", "b"]⟩ from rfl]
    simp [Path.isBad, Path.parent]
  have hname : below.name? = some "b" := rfl
  rw [save, makeParent_eq hbad.1 rfl]
  simp only [hname, hbad.2]
  rfl

/-- A path to the file, through a folder that is not there and has the name of the spare file. -/
def detour : Path := .ofText "/b.tmp/../b"

theorem isBad_detour :
  detour.parent.isBad = false ∧ detour.isBad = false
  := by
  rw [show detour = ⟨"/", ["b.tmp", "..", "b"]⟩ from rfl]
  simp [Path.isBad, Path.parent]

/-- The spare file cannot be written, since the folder of its name has been made. -/
theorem save_detour :
  save shelf detour "new".toUTF8 = (.error .refused, shelf.put ["b.tmp"] .folder)
  := by
  have hname : detour.name? = some "b" := rfl
  rw [save, makeParent_eq isBad_detour.1 rfl]
  simp only [hname, isBad_detour.2]
  rfl

/-- Every outcome of a save is one of the points at which it may stop, the last one if the save
succeeds.  If it stops at the last point, what was saved is read.  If it stops before, what is read
is what would have been read before among the folders made so far; that is the same as before,
unless nothing was read, the folder of the path was not there and the path is not plain.  At no
point is any other file changed, made or removed. -/
theorem save_atomic (ht : t.IsTree) (p : Path) (bytes : ByteArray) :
  (∀ r u, save t p bytes = (r, u) →
    ∃ stage, Saving p bytes t (stage, u) ∧ (r = .ok () ↔ stage = .renamed))
  ∧ ∀ stage u, Saving p bytes t (stage, u) →
    (stage = .renamed → read u p = .ok (some bytes))
    ∧ (stage ≠ .renamed →
      (∃ k, read u p = read (withFolders t p k) p)
      ∧ (read t p ≠ .ok none ∨ t.find p.parent = .ok (some .folder) ∨ p.IsPlain →
        read u p = read t p))
    ∧ ∀ l, l ≠ sparePlace t p → (stage = .renamed → l ≠ place t p) → GrowsAt t u l
  := by
  refine ⟨fun r u h => saving_of_save h, ?_⟩
  intro stage u h
  have hreached := h.reached
  refine ⟨?_, ?_, fun l hspare hplace => hreached.growsAt ht hspare hplace⟩
  · rintro rfl
    apply read_of_save ht hreached
  · intro hstage
    obtain ⟨k, haside⟩ := hreached.exists_aside hstage
    obtain ⟨-, hgrows, hhere⟩ := withFolders_spec (p := p) ht k
    have hread := haside.read hhere
    refine ⟨⟨k, hread⟩, ?_⟩
    rintro (hsome | hfind | hplain)
    · rw [hread, read_congr (hgrows.find hhere (find_of_read_ne hsome))]
    · rw [hread, withFolders_of_find hfind]
    · rw [hread, read_congr (find_withFolders_of_plain ht hplain k)]

/-- What is saved in a new folder is read, and the file that was there is as it was. -/
theorem save_atomic_below :
  shelf.IsTree ∧ ∃ u, save shelf below "new".toUTF8 = (.ok (), u)
    ∧ read u below = .ok (some "new".toUTF8) ∧ GrowsAt shelf u ["b"]
  := by
  obtain ⟨hsave, hstages⟩ := save_atomic isTree_shelf below "new".toUTF8
  refine ⟨isTree_shelf, _, Prod.ext save_below rfl, ?_⟩
  obtain ⟨stage, hsaving, hok⟩ := hsave _ _ rfl
  obtain ⟨hrenamed, -, hgrows⟩ := hstages stage _ hsaving
  refine ⟨hrenamed (hok.mp save_below), hgrows ["b"] ?_ ?_⟩
  · decide
  · intro _
    decide

/-- A save that fails may have made the folder through which the path leads to a file. -/
theorem not_read_detour :
  ¬ ∀ (t : FileTree) (p : Path) (bytes : ByteArray) (e : StorageError) (u : FileTree),
    t.IsTree → save t p bytes = (.error e, u) → read u p = read t p
  := by
  intro h
  have hread := h shelf detour "new".toUTF8 _ _ isTree_shelf save_detour
  have hbefore : read shelf detour = .ok none := by
    rw [read, FileTree.find, isBad_detour.2]
    rfl
  have hafter : read (shelf.put ["b.tmp"] .folder) detour = .ok (some "old".toUTF8) := by
    rw [read, FileTree.find, isBad_detour.2]
    rfl
  rw [hbefore, hafter] at hread
  cases hread

end FileStore

end Kanban
