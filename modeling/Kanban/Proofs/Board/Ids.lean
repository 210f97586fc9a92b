import Kanban.Proofs.Board.Intake

/-!
# Ids of tasks

As long as no two tasks of a board have the same id, an id means one task only, and what is
done under it is done to this task alone: `Board.Exchanges` says that one task was given up for
another one, or for none, and that the others stayed as they were, in order.  Commands keep ids
distinct when new ids are new, and a board that is taken over has distinct ids whatever the
snapshot has (`Board.nodup_of_adopt`).
-/

namespace Kanban

/-- An edited task is the one before in its id, in its column and in the time of its creation,
and differs from it in some field. -/
structure Task.Edited (t u : Task) : Prop where
  id : u.id = t.id
  createdAt : u.createdAt = t.createdAt
  column : u.column = t.column
  differs : ∃ f, (t.record f).same (u.record f) = false

namespace Board

variable {b b' : Board} {s : Stamp} {id : Text} {x : Entry} {t u : Task}

/-! ### One task in the place of another -/

/-- The one task with the id was given up for another one, or for none, in a way that `R`
allows; all other tasks are what they were, in order. -/
inductive Exchanges (b b' : Board) (id : Text) (R : Task → Option Task → Prop) : Prop
  | intro (front : List Task) (old : Task) (back : List Task) (new : Option Task)
      (before : b.tasks = front ++ old :: back) (hasId : old.id = id)
      (only : ∀ t ∈ front ++ back, t.id ≠ id) (allowed : R old new)
      (after : b'.tasks = front ++ new.toList ++ back)

/-- The first task with an id stands between tasks with other ids. -/
theorem split_of_task? (hnodup : b.taskIds.Nodup) (ht : b.task? id = some t) :
  ∃ front back, b.tasks = front ++ t :: back ∧ ∀ u ∈ front ++ back, u.id ≠ id
  := by
  obtain ⟨hmem, rfl⟩ := mem_of_task? ht
  obtain ⟨front, back, hsplit⟩ := List.append_of_mem hmem
  refine ⟨front, back, hsplit, ?_⟩
  intro u hu hid
  rw [taskIds, hsplit, List.map_append, List.map_cons, List.nodup_middle] at hnodup
  apply (List.nodup_cons.mp hnodup).1
  rw [← hid, ← List.map_append]
  apply List.mem_map_of_mem hu

/-- Among tasks with distinct ids the one that is found is the only one with its id. -/
theorem eq_of_task? (hnodup : b.taskIds.Nodup) (ht : b.task? id = some t) (hu : u ∈ b.tasks)
    (hid : u.id = id) :
  u = t
  := by
  obtain ⟨hmem, hid'⟩ := mem_of_task? ht
  apply List.inj_on_of_nodup_map hnodup hu hmem
  rw [hid, hid']

theorem exchanges_replaceTask {R : Task → Option Task → Prop} (hnodup : b.taskIds.Nodup)
    (ht : b.task? id = some t) (hR : R t (some u)) (audit : List Entry) :
  b.Exchanges { b with tasks := b.replaceTask id u, audit } id R
  := by
  obtain ⟨front, back, hsplit, hother⟩ := split_of_task? hnodup ht
  have hid : t.id = id := (mem_of_task? ht).2
  have hkept {l : List Task} (hl : ∀ v ∈ l, v.id ≠ id) :
      l.map (fun v => if v.id = id then u else v) = l := by
    rw [List.map_congr_left fun v hv => if_neg (hl v hv)]
    apply List.map_id'
  obtain ⟨hfront, hback⟩ := List.forall_mem_append.mp hother
  apply Exchanges.intro front t back (some u) hsplit hid hother hR
  dsimp only [replaceTask]
  rw [hsplit, List.map_append, List.map_cons, hkept hfront, hkept hback, if_pos hid]
  simp

theorem exchanges_filter {R : Task → Option Task → Prop} (hnodup : b.taskIds.Nodup)
    (ht : b.task? id = some t) (hR : R t none) (audit : List Entry) :
  b.Exchanges { b with tasks := b.tasks.filter (·.id ≠ id), audit } id R
  := by
  obtain ⟨front, back, hsplit, hother⟩ := split_of_task? hnodup ht
  have hid : t.id = id := (mem_of_task? ht).2
  have hkept {l : List Task} (hl : ∀ v ∈ l, v.id ≠ id) : l.filter (·.id ≠ id) = l := by
    rw [List.filter_eq_self]
    intro v hv
    apply decide_eq_true (hl v hv)
  obtain ⟨hfront, hback⟩ := List.forall_mem_append.mp hother
  apply Exchanges.intro front t back none hsplit hid hother hR
  dsimp only
  rw [hsplit, List.filter_append, List.filter_cons, hkept hfront, hkept hback]
  simp [hid]

/-! ### Commands -/

/-- A task put in the place of another one with the same id leaves the ids as they are. -/
theorem taskIds_replaceTask (hu : u.id = id) :
  (b.replaceTask id u).map (·.id) = b.taskIds
  := by
  rw [replaceTask, taskIds]
  rw [List.map_map]
  apply List.map_congr_left
  intro v _
  dsimp only [Function.comp_apply]
  split_ifs with hv
  · rw [hu, hv]
  · rfl

theorem nodup_create {d : NewTask} (hnodup : b.taskIds.Nodup) (hfresh : s.fresh 0 ∉ b.taskIds)
    (h : b.create s d = .ok (b', x)) :
  b'.taskIds.Nodup ∧ ∃ t, b'.tasks = b.tasks ++ [t]
  := by
  obtain ⟨t, ht, -, rfl⟩ := create_eq_ok_iff.mp h
  obtain ⟨-, hid, -⟩ := d.toTask_spec ht
  refine ⟨?_, t, rfl⟩
  change ((b.tasks ++ [t]).map (·.id)).Nodup
  rw [List.map_append]
  change (b.taskIds ++ [t.id]).Nodup
  rw [← List.concat_eq_append]
  apply hnodup.concat
  rwa [hid]

theorem nodup_update {e : TaskEdit} (hnodup : b.taskIds.Nodup)
    (h : b.update s id e = .ok (some (b', x))) :
  b'.taskIds.Nodup ∧ b.Exchanges b' id fun t u => ∃ v, u = some v ∧ t.Edited v
  := by
  obtain ⟨t, u, ht, hu, hchanges, -, rfl⟩ := update_eq_ok_some_iff.mp h
  obtain ⟨-, hid, hcreated, hcolumn, -⟩ := e.apply_spec hu
  constructor
  · change ((b.replaceTask id u).map (·.id)).Nodup
    rwa [taskIds_replaceTask (hid.trans (mem_of_task? ht).2)]
  · apply exchanges_replaceTask hnodup ht
    refine ⟨u, rfl, hid, hcreated, hcolumn, ?_⟩
    obtain ⟨c, hc⟩ := List.exists_mem_of_ne_nil _ hchanges
    obtain ⟨f, hf, -⟩ := List.mem_map.mp hc
    exact ⟨f, by simpa using (List.mem_filter.mp hf).2⟩

theorem nodup_delete (hnodup : b.taskIds.Nodup) (h : b.delete s id = .ok (some (b', x))) :
  b'.taskIds.Nodup ∧ b.Exchanges b' id fun _ u => u = none
  := by
  obtain ⟨t, ht, -, rfl⟩ := delete_eq_ok_some_iff.mp h
  constructor
  · apply hnodup.sublist ((List.filter_sublist ..).map _)
  · apply exchanges_filter hnodup ht rfl

theorem nodup_move {v : Json} (hnodup : b.taskIds.Nodup)
    (h : b.move s id v = .ok (some (b', x))) :
  b'.taskIds.Nodup
    ∧ b.Exchanges b' id fun t u => ∃ c ≠ t.column, u = some { t with column := c }
  := by
  obtain ⟨t, c, -, ht, hc, -, rfl⟩ := move_eq_ok_some_iff.mp h
  constructor
  · change ((b.replaceTask id { t with column := c }).map (·.id)).Nodup
    rwa [taskIds_replaceTask (u := { t with column := c }) (mem_of_task? ht).2]
  · apply exchanges_replaceTask hnodup ht ⟨c, hc.symm, rfl⟩

/-! ### Boards that are taken over -/

variable {fresh : Nat → Text} {seen : List Text} {i : Nat} {ts : List Task}

/-- Every id that a task has in the end is its own, if it was not seen before, or fresh. -/
theorem mem_distinguish (hu : u ∈ (distinguish fresh seen i ts).1) :
  (u.id ∈ ts.map (·.id) ∧ u.id ∉ seen)
    ∨ ∃ j, i ≤ j ∧ j < i + (distinguish fresh seen i ts).2.length ∧ u.id = fresh j
  := by
  obtain ⟨n, hn⟩ := List.mem_iff_getElem?.mp hu
  obtain ⟨t, ht, ⟨-, j, hij, hj, rfl⟩ | ⟨hnot, rfl⟩⟩ := exists_getElem?_distinguish hn
  · exact .inr ⟨j, hij, hj, rfl⟩
  · left
    constructor
    · apply List.mem_map_of_mem (List.mem_of_getElem? ht)
    · apply fun hseen => hnot (List.mem_append_left _ hseen)

/-- The ids of the tasks are distinct in the end, if the fresh ids are distinct and new. -/
theorem nodup_distinguish
    (hinj : Set.InjOn fresh (Set.Ico i (i + (distinguish fresh seen i ts).2.length)))
    (hnew : ∀ j ∈ Set.Ico i (i + (distinguish fresh seen i ts).2.length),
      fresh j ∉ ts.map (·.id)) :
  ((distinguish fresh seen i ts).1.map (·.id)).Nodup
  := by
  induction ts generalizing seen i with
  | nil => constructor
  | cons t ts ih =>
      rw [distinguish] at hinj hnew ⊢
      split_ifs at hinj hnew ⊢
      -- The first task has a fresh id here, or its own that was not seen before; by
      -- `mem_distinguish` no later task has it in either case.
      · dsimp only at hinj hnew ⊢
        rw [List.length_cons] at hinj hnew
        have hsubset : Set.Ico (i + 1) (i + 1 + (distinguish fresh seen (i + 1) ts).2.length)
            ⊆ Set.Ico i (i + ((distinguish fresh seen (i + 1) ts).2.length + 1)) := by
          apply Set.Ico_subset_Ico <;> omega
        have hfirst : i ∈ Set.Ico i (i + ((distinguish fresh seen (i + 1) ts).2.length + 1)) := by
          constructor <;> omega
        rw [List.map_cons, List.nodup_cons]
        constructor
        · intro hmem
          obtain ⟨u, hu, hid⟩ := List.mem_map.mp hmem
          change u.id = fresh i at hid
          rcases mem_distinguish hu with ⟨hold, -⟩ | ⟨j, hij, hj, hsame⟩
          · apply hnew i hfirst
            rw [← hid]
            apply List.mem_cons_of_mem _ hold
          · have := hinj hfirst (hsubset ⟨hij, hj⟩) (hid.symm.trans hsame)
            omega
        · apply ih (hinj.mono hsubset)
          intro j hj hmem
          apply hnew j (hsubset hj) (List.mem_cons_of_mem _ hmem)
      · dsimp only at hinj hnew ⊢
        rw [List.map_cons, List.nodup_cons]
        constructor
        · intro hmem
          obtain ⟨u, hu, hid⟩ := List.mem_map.mp hmem
          rcases mem_distinguish hu with ⟨-, hnot⟩ | ⟨j, hij, hj, hsame⟩
          · apply hnot
            rw [hid]
            apply List.mem_cons_self
          · apply hnew j ⟨hij, hj⟩
            rw [← hsame, hid]
            apply List.mem_cons_self
        · apply ih hinj
          intro j hj hmem
          apply hnew j hj (List.mem_cons_of_mem _ hmem)

/-- A board that is taken over has distinct ids, if the ids that were drawn for it are distinct
and are not those of tasks in the snapshot. -/
theorem nodup_of_adopt {v : Json} {rs : List Replacement}
    (hinj : Set.InjOn s.fresh (Set.Iio rs.length))
    (hnew : ∀ c, read v = .ok c → ∀ j < rs.length, s.fresh j ∉ c.taskIds)
    (h : adopt s v = .ok (.ok (b, rs))) :
  b.taskIds.Nodup
  := by
  obtain ⟨c, entries, hread, rfl, -, rfl⟩ := adopt_eq_ok_ok_iff.mp h
  have hrange {n : ℕ} : Set.Ico 0 (0 + n) = Set.Iio n := by
    rw [Nat.zero_add]
    apply Set.Ico_bot
  apply nodup_distinguish
  · rwa [hrange]
  · rw [hrange]
    apply hnew c hread

end Board

end Kanban
