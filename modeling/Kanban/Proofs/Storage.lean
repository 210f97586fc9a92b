import Kanban.Storage.Place
import Mathlib

/-!
# Laws of storage

What the places where snapshots are kept promise.  In a faithful place nothing else is loaded
than what was saved last; files, tables and the place in memory are faithful.  In an atomic
place, moreover, everything that was saved is loaded, and a save that fails leaves what is
loaded as it was; `Unsteady` is such a place in which saves fail in any pattern.
-/

namespace Kanban

namespace Backend

/-- After a save nothing else is loaded than what was saved. -/
class Faithful (β : Type) [Backend β] : Prop where
  eq_of_load : ∀ {bytes loaded : ByteArray} {w w' : β}, save bytes w = (.ok (), w') →
    load w' = .ok (some loaded) → loaded = bytes

/-- What was saved is loaded, and a save that fails changes nothing that is loaded. -/
class Atomic (β : Type) [Backend β] : Prop where
  load_save : ∀ {bytes : ByteArray} {w w' : β}, save bytes w = (.ok (), w') →
    load w' = .ok (some bytes)
  load_failed : ∀ {bytes : ByteArray} {w w' : β} {e : StorageError},
    save bytes w = (.error e, w') → load w' = load w

instance {β : Type} [Backend β] [Atomic β] : Faithful β where
  eq_of_load hsave hload := by
    rw [Atomic.load_save hsave] at hload
    exact (Option.some.inj (Except.ok.inj hload)).symm

theorem save_memory (bytes : ByteArray) (m : Memory) :
  save bytes m = if m.failing then (.error .refused, m)
    else (.ok (), { m with content := some bytes, saves := m.saves + 1 })
  := rfl

/-- Whatever bytes are saved in a place, saving them succeeds. -/
def Writable {β : Type} [Backend β] (w : β) : Prop :=
  ∀ bytes, ∃ w', save bytes w = (.ok (), w')

/-- A number that grows by one with each save that succeeds. -/
def IsCount {β : Type} [Backend β] (count : β → Nat) : Prop :=
  ∀ {bytes : ByteArray} {w w' : β}, save bytes w = (.ok (), w') → count w' = count w + 1

theorem isCount_saves :
  IsCount Memory.saves
  := by
  intro bytes m m' h
  rw [save_memory] at h
  split_ifs at h
  · cases h
  · obtain rfl := (Prod.mk.inj h).2
    rfl

instance : Atomic Memory where
  load_save {bytes m m'} h := by
    rw [save_memory] at h
    split_ifs at h
    · cases h
    · obtain rfl := (Prod.mk.inj h).2
      rfl
  load_failed {bytes m m' e} h := by
    rw [save_memory] at h
    split_ifs at h
    · obtain rfl := (Prod.mk.inj h).2
      rfl
    · cases h

end Backend

/-- A place in memory with a list of which of its next saves fail; after these every save
succeeds. -/
structure Unsteady where
  content : Option ByteArray
  failures : List Bool

namespace Unsteady

instance : Backend Unsteady where
  load u := pure u.content
  save bytes u :=
    match u.failures with
    | true :: rest => (throw .refused, { u with failures := rest })
    | failures => (pure (), ⟨some bytes, failures.tail⟩)

instance : Backend.Atomic Unsteady where
  load_save {bytes u u'} h := by
    obtain ⟨content, _ | ⟨_ | _, rest⟩⟩ := u <;> cases h <;> rfl
  load_failed {bytes u u' e} h := by
    obtain ⟨content, _ | ⟨_ | _, rest⟩⟩ := u <;> cases h
    rfl

end Unsteady

/-! ### File trees -/

theorem Path.parts_eq {p : Path} {name : String} (h : p.name? = some name) :
  p.parts = p.parent.parts ++ [name]
  := (List.dropLast_append_getLast? name h).symm

namespace FileTree

variable {t t' : FileTree} {l l' : Location}

theorem start_congr {p : Path} (h : t'.here = t.here) :
  t'.start p = t.start p
  := by
  rw [start, start, h]

/-- Where parts lead does not depend on what stands there. -/
theorem eq_of_walk {parts : List String} (h : t.walk l parts = .ok (some l')) :
  l' = parts.foldl go l
  := by
  induction parts generalizing l with
  | nil => cases h; rfl
  | cons part parts ih =>
      rw [walk] at h
      split_ifs at h
      · cases h
      · apply ih h

theorem eq_of_makeFolders {parts : List String} (h : t.makeFolders l parts = (.ok l', t')) :
  l' = parts.foldl go l ∧ t'.here = t.here
  := by
  induction parts generalizing t l with
  | nil =>
      cases h
      apply And.intro rfl rfl
  | cons part parts ih =>
      rw [makeFolders] at h
      split_ifs at h
      · dsimp only at h
        split at h
        · apply ih h
        · apply ih h
        · cases h
      · cases h

theorem makeFolders_of_makeParent {p : Path} (h : t.makeParent p = (.ok l', t')) :
  t.makeFolders (t.start p) p.parent.parts = (.ok l', t')
  := by
  rw [makeParent] at h
  split_ifs at h
  · cases h
  · cases h
  · exact h

theorem eq_of_makeParent {p : Path} (h : t.makeParent p = (.ok l', t')) :
  l' = p.parent.parts.foldl go (t.start p) ∧ t'.here = t.here
  := eq_of_makeFolders (makeFolders_of_makeParent h)

/-- What is found at a location is what was put there, unless it is the root. -/
theorem eq_of_node?_put {n n' : Node} (h : (t.put l n).node? l = some n') (hn : n' ≠ .folder) :
  n' = n
  := by
  rw [node?] at h
  split_ifs at h with hl
  · exact absurd (Option.some.inj h).symm hn
  · simpa [put, eq_comm] using h

theorem exists_of_find {p : Path} {n : Node} (h : t.find p = .ok (some n)) :
  t.walk (t.start p) p.parts = .ok (some (p.parts.foldl go (t.start p)))
    ∧ t.node? (p.parts.foldl go (t.start p)) = some n
  := by
  rw [find] at h
  split_ifs at h
  · cases h
  · cases hwalk : t.walk (t.start p) p.parts with
    | error e => simp [hwalk, bind, Except.bind] at h
    | ok l =>
        simp only [hwalk, bind, Except.bind, pure, Except.pure] at h
        obtain ⟨l, rfl, hl⟩ := Option.bind_eq_some_iff.mp (Except.ok.inj h)
        rw [← eq_of_walk hwalk]
        apply And.intro rfl hl

end FileTree

/-! ### Files -/

namespace FileStore

variable {t t' : FileTree} {folder : Location} {name : String} {bytes : ByteArray}

theorem write_eq_ok_iff :
  write t folder name bytes = .ok t'
    ↔ t.isFolder (folder ++ [name]) = false ∧ FileTree.admits name = true
      ∧ t' = t.put (folder ++ [name]) (.file bytes)
  := by
  rw [write]
  split_ifs with h
  · simp only [Bool.or_eq_true, Bool.not_eq_true'] at h
    apply iff_of_false (by rintro ⟨⟩)
    rintro ⟨hfolder, hadmits, -⟩
    simp [hfolder, hadmits] at h
  · simp only [Bool.or_eq_true, Bool.not_eq_true', not_or, Bool.not_eq_true, Bool.not_eq_false] at h
    simp [pure, Except.pure, h, eq_comm]

theorem rename_eq_ok_iff {source target : Location} :
  rename t source target = .ok t'
    ↔ ∃ bytes, t.node? source = some (.file bytes) ∧ t.isFolder target = false
      ∧ t' = (t.remove source).put target (.file bytes)
  := by
  rw [rename]
  split
  · next bytes hnode =>
      split_ifs with hfolder
      · apply iff_of_false (by rintro ⟨⟩)
        rintro ⟨_, -, hnot, -⟩
        rw [hfolder] at hnot
        cases hnot
      · simp [pure, Except.pure, hnode, hfolder, eq_comm]
  · next hnode =>
      apply iff_of_false (by rintro ⟨⟩)
      rintro ⟨bytes, hbytes, -⟩
      exact hnode bytes hbytes

/-- A save that succeeds has found its folder and its name, has written the spare file and has put
it in the place of the file. -/
theorem exists_of_save {p : Path} (h : save t p bytes = (.ok (), t')) :
  ∃ folder v name w, t.makeParent p = (.ok folder, v) ∧ p.name? = some name
    ∧ p.isBad = false ∧ p.isLong spareEnding.utf8ByteSize = false
    ∧ write v folder (spareName name) bytes = .ok w
    ∧ rename w (folder ++ [spareName name]) (FileTree.go folder name) = .ok t'
  := by
  rw [save] at h
  split at h
  · cases h
  · next folder v hparent =>
      split at h
      · cases h
      · next name hname =>
          split_ifs at h with hbad hlong
          · cases h
          · cases h
          · rw [replace] at h
            split at h
            · cases h
            · next w hwrite =>
                split at h
                · cases h
                · next w' hrename =>
                    obtain rfl := (Prod.mk.inj h).2
                    exact ⟨folder, v, name, w, hparent, hname, by simpa using hbad,
                      by simpa using hlong, hwrite, hrename⟩

theorem find_of_read {p : Path} (h : read t p = .ok (some bytes)) :
  t.find p = .ok (some (.file bytes))
  := by
  rw [read] at h
  cases hfind : t.find p with
  | error e => simp [hfind, bind, Except.bind] at h
  | ok n =>
      simp only [hfind, bind, Except.bind] at h
      split at h
      · cases h
      · cases h
        rfl
      · cases h

/-- After a file was saved nothing else is read from its path. -/
theorem eq_of_read {p : Path} {loaded : ByteArray} (h : save t p bytes = (.ok (), t'))
    (hread : read t' p = .ok (some loaded)) :
  loaded = bytes
  := by
  obtain ⟨folder, v, name, w, hparent, hname, -, -, hwrite, hrename⟩ := exists_of_save h
  obtain ⟨-, -, rfl⟩ := write_eq_ok_iff.mp hwrite
  obtain ⟨written, hspare, -, ht'⟩ := rename_eq_ok_iff.mp hrename
  obtain ⟨⟩ := FileTree.eq_of_node?_put hspare (by simp)
  obtain ⟨rfl, hhere⟩ := FileTree.eq_of_makeParent hparent
  have hstart : t'.start p = t.start p := by
    apply FileTree.start_congr
    rw [ht', ← hhere]
    rfl
  have hnode := (FileTree.exists_of_find (find_of_read hread)).2
  rw [hstart, Path.parts_eq hname, List.foldl_append, ht'] at hnode
  obtain ⟨⟩ := FileTree.eq_of_node?_put hnode (by simp)
  rfl

instance : Backend.Faithful FileStore where
  eq_of_load {bytes loaded w w'} hsave hload := by
    have hres : (save w.tree w.path bytes).1 = .ok () := congrArg Prod.fst hsave
    obtain rfl := congrArg Prod.snd hsave
    apply eq_of_read (Prod.ext hres rfl) hload

end FileStore

/-! ### Tables -/

namespace TableStore

variable {s : TableStore} {bytes : ByteArray}

theorem find_of_rows {rows : List (String × ByteArray)} (h : s.rows = .ok rows) :
  s.tree.find s.path = .ok (some (.table rows))
  := by
  rw [TableStore.rows] at h
  split at h
  · next hfind =>
      obtain rfl := Except.ok.inj h
      apply hfind
  · split_ifs at h
  · cases h

theorem lookup_of_read {loaded : ByteArray} (h : s.read = .ok (some loaded)) :
  ∃ rows key, s.rows = .ok rows ∧ s.key = .text key ∧ rows.lookup key = some loaded
  := by
  rw [read] at h
  cases hrows : s.rows with
  | error e => simp [hrows, bind, Except.bind] at h
  | ok rows =>
      simp only [hrows, bind, Except.bind] at h
      split at h
      · next key hkey => exact ⟨rows, key, rfl, hkey, Except.ok.inj h⟩
      all_goals cases h

/-- After a snapshot was put into a table nothing else is read under its key. -/
theorem eq_of_read {s' : TableStore} {loaded : ByteArray}
    (h : s.write (some bytes) = (.ok (), s')) (hread : s'.read = .ok (some loaded)) :
  loaded = bytes
  := by
  obtain ⟨rows', key', hrows', hkey', hlookup⟩ := lookup_of_read hread
  unfold write at h
  split at h
  · cases h
  · cases h
  · cases h
  · next hvalue _ _ => cases hvalue
  · next rows key b hrows hkey hvalue =>
      obtain rfl := Option.some.inj hvalue
      obtain rfl := (Prod.mk.inj h).2
      obtain rfl := RowKey.text.inj (hkey.symm.trans hkey')
      obtain ⟨hwalk, -⟩ := FileTree.exists_of_find (find_of_rows hrows)
      have hput : s.setRows (putRow key bytes rows)
          = s.tree.put (s.path.parts.foldl FileTree.go (s.tree.start s.path))
            (.table (putRow key bytes rows)) := by
        rw [setRows]
        rw [hwalk]
      obtain ⟨-, hnode⟩ := FileTree.exists_of_find (find_of_rows hrows')
      simp only [hput] at hnode
      obtain ⟨⟩ := FileTree.eq_of_node?_put hnode (by simp)
      simpa [putRow, eq_comm] using hlookup
  · next hkey _ =>
      obtain rfl := (Prod.mk.inj h).2
      rw [hkey] at hkey'
      cases hkey'

instance : Backend.Faithful TableStore where
  eq_of_load hsave hload := eq_of_read hsave hload

end TableStore

/-! ### Places -/

instance : Backend.Faithful Place where
  eq_of_load {bytes loaded w w'} hsave hload := by
    cases w with
    | file s =>
        have hres : (Backend.save bytes s).1 = .ok () := congrArg Prod.fst hsave
        obtain rfl := congrArg Prod.snd hsave
        apply Backend.Faithful.eq_of_load (β := FileStore) (Prod.ext hres rfl) hload
    | table s =>
        have hres : (Backend.save bytes s).1 = .ok () := congrArg Prod.fst hsave
        obtain rfl := congrArg Prod.snd hsave
        apply Backend.Faithful.eq_of_load (β := TableStore) (Prod.ext hres rfl) hload
    | memory m =>
        have hres : (Backend.save bytes m).1 = .ok () := congrArg Prod.fst hsave
        obtain rfl := congrArg Prod.snd hsave
        apply Backend.Faithful.eq_of_load (β := Memory) (Prod.ext hres rfl) hload

end Kanban
