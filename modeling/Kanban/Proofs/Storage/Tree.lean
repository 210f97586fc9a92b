import Kanban.Proofs.Storage

/-!
# Trees that grow

In a file tree everything stands in a folder (`FileTree.IsTree`).  Making the folders of a path
keeps it so, and changes nothing but that there are folders where nothing was (`FileTree.Grows`).
Where all the folders of a path are there, making them changes nothing.  What a plain path leads to
depends only on what stands at its own location (`FileTree.find_of_plain`).
-/

namespace Kanban

namespace FileTree

variable {t u v : FileTree} {l l' : Location} {n : Node} {part : String} {parts : List String}
  {p : Path}

/-! ### Nodes -/

theorem isFolder_iff :
  t.isFolder l = true ↔ t.node? l = some .folder
  := by
  rw [isFolder]
  split
  · next h => simp [h]
  · next h => simpa using h

theorem isFolder_nil :
  t.isFolder [] = true
  := rfl

theorem isFolder_congr (h : u.node? l = t.node? l) :
  u.isFolder l = t.isFolder l
  := by
  rw [isFolder, h, isFolder]

theorem lookup_filter_ne (nodes : List (Location × Node)) (h : l' ≠ l) :
  (nodes.filter fun x => decide (x.1 ≠ l)).lookup l' = nodes.lookup l'
  := by
  induction nodes with
  | nil => rfl
  | cons x nodes ih =>
      rw [List.filter_cons]
      split_ifs with hx
      · rw [List.lookup_cons, List.lookup_cons, ih]
      · have hx : x.1 = l := by simpa using hx
        rw [ih, List.lookup_cons, hx, beq_false_of_ne h]

theorem lookup_filter_self (nodes : List (Location × Node)) :
  (nodes.filter fun x => decide (x.1 ≠ l)).lookup l = none
  := by
  rw [List.lookup_eq_none_iff]
  intro x hx
  have hne : x.1 ≠ l := by simpa using (List.mem_filter.mp hx).2
  simpa using hne.symm

theorem node?_remove_of_ne (h : l' ≠ l) :
  (t.remove l).node? l' = t.node? l'
  := by
  rw [node?, node?, remove, lookup_filter_ne _ h]

theorem node?_remove_self (h : l ≠ []) :
  (t.remove l).node? l = none
  := by
  rw [node?, if_neg h, remove, lookup_filter_self]

theorem node?_put_of_ne (h : l' ≠ l) :
  (t.put l n).node? l' = t.node? l'
  := by
  rw [node?, node?, put, List.lookup_cons, beq_false_of_ne h]
  dsimp only
  rw [remove, lookup_filter_ne _ h]

theorem node?_put_self (h : l ≠ []) :
  (t.put l n).node? l = some n
  := by
  rw [node?, if_neg h, put, List.lookup_cons_self]

/-- Of two nodes put at a location the second one stays. -/
theorem put_put (n' : Node) :
  (t.put l n).put l n' = t.put l n'
  := by
  simp [put, remove, List.filter_filter]

/-! ### Trees -/

/-- Everything stands in a folder, and one works in a folder. -/
structure IsTree (t : FileTree) : Prop where
  parent : ∀ l n, t.node? l = some n → t.isFolder l.dropLast = true
  here : t.isFolder t.here = true

theorem IsTree.start (ht : t.IsTree) (p : Path) :
  t.isFolder (t.start p) = true
  := by
  rw [FileTree.start]
  split_ifs
  · apply ht.here
  · rfl

/-- What stands further down stands in a folder. -/
theorem IsTree.isFolder_of_append (ht : t.IsTree) (h : t.node? (l ++ parts) = some n)
    (hparts : parts ≠ []) :
  t.isFolder l = true
  := by
  induction parts using List.reverseRecOn generalizing n with
  | nil => exact absurd rfl hparts
  | append_singleton parts part ih =>
      rw [← List.append_assoc] at h
      have hfolder := ht.parent _ _ h
      rw [List.dropLast_concat] at hfolder
      by_cases hnil : parts = []
      · rwa [hnil, List.append_nil] at hfolder
      · apply ih (isFolder_iff.mp hfolder) hnil

/-! ### Growth -/

/-- At a location nothing has changed, or there is a folder where nothing was. -/
def GrowsAt (t u : FileTree) (l : Location) : Prop :=
  u.node? l = t.node? l ∨ t.node? l = none ∧ u.node? l = some .folder

/-- Nothing has changed, except that there may be more folders. -/
def Grows (t u : FileTree) : Prop := ∀ l, GrowsAt t u l

theorem Grows.refl (t : FileTree) :
  Grows t t
  := fun _ => .inl rfl

theorem Grows.trans (h : Grows t u) (h' : Grows u v) :
  Grows t v
  := by
  intro l
  rcases h' l with hsame | ⟨hnone, hfolder⟩
  · rw [GrowsAt, hsame]
    apply h l
  · right
    refine ⟨?_, hfolder⟩
    rcases h l with hl | ⟨hl, -⟩
    · rwa [hl] at hnone
    · apply hl

theorem Grows.isFolder (h : Grows t u) (hl : t.isFolder l = true) :
  u.isFolder l = true
  := by
  rw [isFolder_iff] at hl ⊢
  rcases h l with hsame | ⟨hnone, -⟩
  · rwa [hsame]
  · rw [hl] at hnone
    cases hnone

theorem grows_put (h : t.node? l = none) :
  Grows t (t.put l .folder)
  := by
  intro l'
  by_cases hl : l' = l
  · have hne : l ≠ [] := by
      rintro rfl
      cases h
    rw [hl]
    apply Or.inr ⟨h, node?_put_self hne⟩
  · apply Or.inl (node?_put_of_ne hl)

/-- Where nothing is yet, the part leads down. -/
theorem go_of_node?_none (ht : t.IsTree) (hl : t.isFolder l = true)
    (h : t.node? (go l part) = none) :
  go l part = l ++ [part]
  := by
  rw [go] at h ⊢
  split_ifs at h ⊢
  · rw [isFolder_iff.mp (ht.parent _ _ (isFolder_iff.mp hl))] at h
    cases h
  · rfl

theorem IsTree.make (ht : t.IsTree) (hl : t.isFolder l = true) (h : t.node? (go l part) = none) :
  (t.put (go l part) .folder).IsTree
  := by
  have hgrows := grows_put h
  constructor
  · intro l' n hn
    by_cases hl' : l' = go l part
    · rw [hl', go_of_node?_none ht hl h, List.dropLast_concat]
      rw [go_of_node?_none ht hl h] at hgrows
      apply hgrows.isFolder hl
    · rw [node?_put_of_ne hl'] at hn
      apply hgrows.isFolder (ht.parent _ _ hn)
  · apply hgrows.isFolder ht.here

/-! ### Ways -/

/-- Where a way leads depends only on where folders are. -/
theorem walk_congr (h : ∀ l, u.isFolder l = t.isFolder l) :
  u.walk l parts = t.walk l parts
  := by
  induction parts generalizing l with
  | nil => rfl
  | cons part parts ih => rw [walk, walk, h, ih]

/-- With more folders a way leads where it did, unless it led nowhere. -/
theorem Grows.walk (h : Grows t u) (hwalk : t.walk l parts ≠ .ok none) :
  u.walk l parts = t.walk l parts
  := by
  induction parts generalizing l with
  | nil => rfl
  | cons part parts ih =>
      rw [FileTree.walk] at hwalk
      rw [FileTree.walk, FileTree.walk]
      by_cases hl : t.isFolder l = true
      · simp only [hl, h.isFolder hl, Bool.not_true, Bool.false_eq_true, if_false] at hwalk ⊢
        split_ifs at hwalk with hadmits
        · rw [if_pos hadmits, if_pos hadmits, ih hwalk]
        · rw [if_neg hadmits, if_neg hadmits]
      · rw [Bool.not_eq_true] at hl
        rw [hl] at hwalk
        exact absurd rfl hwalk

theorem walk_append {more : List String} (h : t.walk l parts = .ok (some l')) :
  t.walk l (parts ++ more) = t.walk l' more
  := by
  induction parts generalizing l with
  | nil =>
      obtain rfl := Option.some.inj (Except.ok.inj h)
      rfl
  | cons part parts ih =>
      rw [List.cons_append, walk]
      rw [walk] at h
      split_ifs at h ⊢
      · cases h
      · apply ih h

/-! ### Making folders -/

/-- A folder of which there is nothing yet is put where the part leads; all else is refused, unless
a folder is there. -/
theorem makeFolders_cons {r : Except StorageError Location}
    (h : t.makeFolders l (part :: parts) = (r, u)) :
  r = .error .refused ∧ u = t
    ∨ admits part = true ∧ ∃ v, v.makeFolders (go l part) parts = (r, u)
      ∧ (t.isFolder (go l part) = true ∧ v = t
        ∨ t.node? (go l part) = none ∧ v = t.put (go l part) .folder)
  := by
  rw [makeFolders] at h
  split_ifs at h with hadmits
  · dsimp only at h
    split at h
    · next hnode => exact .inr ⟨hadmits, t, h, .inl ⟨isFolder_iff.mpr hnode, rfl⟩⟩
    · next hnode => exact .inr ⟨hadmits, _, h, .inr ⟨hnode, rfl⟩⟩
    · obtain ⟨hr, hu⟩ := Prod.mk.inj h
      exact .inl ⟨hr.symm, hu.symm⟩
  · obtain ⟨hr, hu⟩ := Prod.mk.inj h
    exact .inl ⟨hr.symm, hu.symm⟩

theorem makeFolders_append {more : List String} (h : t.makeFolders l parts = (.ok l', u)) :
  t.makeFolders l (parts ++ more) = u.makeFolders l' more
  := by
  induction parts generalizing t l with
  | nil =>
      cases h
      rfl
  | cons part parts ih =>
      rw [List.cons_append, makeFolders]
      rw [makeFolders] at h
      split_ifs at h ⊢
      · dsimp only at h ⊢
        split at h
        · apply ih h
        · apply ih h
        · cases h
      · cases h

/-- The tree grows, and the way through the folders that were made is open. -/
theorem makeFolders_spec (ht : t.IsTree) (hl : t.isFolder l = true)
    {r : Except StorageError Location} (h : t.makeFolders l parts = (r, u)) :
  u.IsTree ∧ Grows t u ∧ u.here = t.here
    ∧ ∀ l', r = .ok l' → u.isFolder l' = true ∧ u.walk l parts = .ok (some l')
  := by
  induction parts generalizing t l with
  | nil =>
      obtain ⟨rfl, rfl⟩ := Prod.mk.inj h
      refine ⟨ht, .refl t, rfl, ?_⟩
      intro l' hl'
      obtain rfl := Except.ok.inj hl'
      exact ⟨hl, rfl⟩
  | cons part parts ih =>
      rcases makeFolders_cons h with ⟨rfl, rfl⟩ | ⟨hadmits, v, hv, hmade⟩
      · refine ⟨ht, .refl u, rfl, ?_⟩
        rintro l' ⟨⟩
      · have hstep : v.IsTree ∧ Grows t v ∧ v.here = t.here ∧ v.isFolder (go l part) = true := by
          rcases hmade with ⟨hfolder, rfl⟩ | ⟨hnone, rfl⟩
          · exact ⟨ht, .refl v, rfl, hfolder⟩
          · have hne : go l part ≠ [] := by
              rintro hnil
              rw [hnil] at hnone
              cases hnone
            exact ⟨ht.make hl hnone, grows_put hnone, rfl,
              isFolder_iff.mpr (node?_put_self hne)⟩
        obtain ⟨hvt, hgrows, hhere, hfolder⟩ := hstep
        obtain ⟨hut, hgrows', hhere', hok⟩ := ih hvt hfolder hv
        refine ⟨hut, hgrows.trans hgrows', hhere'.trans hhere, ?_⟩
        intro l' hr
        obtain ⟨hfolder', hwalk⟩ := hok l' hr
        refine ⟨hfolder', ?_⟩
        rw [walk, (hgrows.trans hgrows').isFolder hl, Bool.not_true, if_neg (by decide),
          if_pos hadmits, hwalk]

/-- A way that leads to a folder starts at a folder. -/
theorem isFolder_of_walk (h : t.walk l parts = .ok (some l')) (hl' : t.isFolder l' = true) :
  t.isFolder l = true
  := by
  cases parts with
  | nil =>
      obtain rfl := Option.some.inj (Except.ok.inj h)
      exact hl'
  | cons part parts =>
      rw [walk] at h
      split_ifs at h with hl
      · cases h
      · simpa using hl

/-- Folders that are there need not be made. -/
theorem makeFolders_of_walk {more : List String} (h : t.walk l (parts ++ more) = .ok (some l'))
    (hl' : t.isFolder l' = true) :
  ∃ m, t.makeFolders l parts = (.ok m, t)
  := by
  induction parts generalizing l with
  | nil => exact ⟨l, rfl⟩
  | cons part parts ih =>
      rw [List.cons_append, walk] at h
      split_ifs at h with hl hadmits
      · cases h
      · rw [makeFolders, if_pos hadmits]
        dsimp only
        rw [isFolder_iff.mp (isFolder_of_walk h hl')]
        apply ih h

/-- Folders that are made without leading up are no further down than their names. -/
theorem node?_of_makeFolders {r : Except StorageError Location}
    (h : t.makeFolders l parts = (r, u)) (hup : ∀ part ∈ parts, part ≠ Path.up)
    (hlong : l.length + parts.length < l'.length) :
  u.node? l' = t.node? l'
  := by
  induction parts generalizing t l with
  | nil =>
      obtain ⟨-, rfl⟩ := Prod.mk.inj h
      rfl
  | cons part parts ih =>
      obtain ⟨hpart, hparts⟩ := List.forall_mem_cons.mp hup
      have hlength : (go l part).length = l.length + 1 := by
        rw [go, if_neg hpart, List.length_append, List.length_singleton]
      rw [List.length_cons] at hlong
      rcases makeFolders_cons h with ⟨-, rfl⟩ | ⟨-, v, hv, hmade⟩
      · rfl
      · rw [ih hv hparts (by omega)]
        rcases hmade with ⟨-, rfl⟩ | ⟨-, rfl⟩
        · rfl
        · apply node?_put_of_ne
          rintro rfl
          omega

/-! ### What a path leads to -/

/-- What is found depends on where folders are and on what stands at the place itself. -/
theorem find_congr (hfolders : ∀ l, u.isFolder l = t.isFolder l) (hhere : u.here = t.here)
    (hnode : u.node? (p.parts.foldl go (t.start p)) = t.node? (p.parts.foldl go (t.start p))) :
  u.find p = t.find p
  := by
  rw [find, find, start_congr hhere, walk_congr hfolders]
  split_ifs
  · rfl
  · rfl
  · cases hwalk : t.walk (t.start p) p.parts with
    | error e => rfl
    | ok o =>
        cases o with
        | none => rfl
        | some l =>
            obtain rfl := eq_of_walk hwalk
            simp only [bind, Except.bind, Option.bind, hnode]

/-- With more folders the same is found, unless nothing was. -/
theorem Grows.find (h : Grows t u) (hhere : u.here = t.here) (hfind : t.find p ≠ .ok none) :
  u.find p = t.find p
  := by
  rw [FileTree.find] at hfind
  rw [FileTree.find, FileTree.find, start_congr hhere]
  split_ifs at hfind ⊢
  · rfl
  · rfl
  · have hwalk : t.walk (t.start p) p.parts ≠ .ok none := by
      intro hnone
      rw [hnone] at hfind
      exact hfind rfl
    rw [h.walk hwalk]
    cases hway : t.walk (t.start p) p.parts with
    | error e => rfl
    | ok o =>
        cases o with
        | none => exact absurd hway hwalk
        | some l =>
            rw [hway] at hfind
            rcases h l with hsame | ⟨hnone, -⟩
            · simp only [bind, Except.bind, Option.bind, hsame]
            · simp [bind, Except.bind, pure, Except.pure, hnone] at hfind

theorem walk_of_plain (ht : t.IsTree) (h : ∀ part ∈ parts, part ≠ Path.up ∧ admits part = true) :
  ∃ o, t.walk l parts = .ok o ∧ o.bind t.node? = t.node? (l ++ parts)
  := by
  induction parts generalizing l with
  | nil => exact ⟨some l, rfl, by rw [List.append_nil, Option.bind_some]⟩
  | cons part parts ih =>
      obtain ⟨⟨hup, hadmits⟩, hparts⟩ := List.forall_mem_cons.mp h
      rw [walk]
      by_cases hl : t.isFolder l = true
      · obtain ⟨o, ho, hnode⟩ := ih (l := go l part) hparts
        refine ⟨o, ?_, ?_⟩
        · rw [hl, Bool.not_true, if_neg (by decide), if_pos hadmits, ho]
        · rw [hnode, go, if_neg hup, List.append_assoc, List.singleton_append]
      · refine ⟨none, ?_, ?_⟩
        · rw [Bool.not_eq_true] at hl
          rw [hl, Bool.not_false, if_pos rfl]
          rfl
        · symm
          rw [Option.bind_none, Option.eq_none_iff_forall_ne_some]
          intro n hn
          apply hl
          apply ht.isFolder_of_append hn (List.cons_ne_nil _ _)

end FileTree

/-- No part leads up, and every name is short enough. -/
def Path.IsPlain (p : Path) : Prop :=
  ∀ part ∈ p.parts, part ≠ Path.up ∧ FileTree.admits part = true

namespace FileTree

variable {t u : FileTree} {p : Path}

/-- What a plain path leads to depends only on what stands at its own location. -/
theorem find_of_plain (ht : t.IsTree) (hu : u.IsTree) (hp : p.IsPlain) (hhere : u.here = t.here)
    (hnode : u.node? (t.start p ++ p.parts) = t.node? (t.start p ++ p.parts)) :
  u.find p = t.find p
  := by
  obtain ⟨o, ho, hot⟩ := walk_of_plain (l := t.start p) ht hp
  obtain ⟨o', ho', hou⟩ := walk_of_plain (l := t.start p) hu hp
  rw [find, find, start_congr hhere, ho, ho']
  simp only [bind, Except.bind]
  rw [hot, hou, hnode]

end FileTree

end Kanban
