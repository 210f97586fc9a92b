import Kanban.Proofs.Board.Command
import Kanban.Proofs.Board.Likeness
import Kanban.Proofs.Board.Sample
import Kanban.Proofs.Moment.Order

/-!
# Boards in the order of time

A board is in order when its audit log is, the latest entry first, and when nothing on it is
dated later than what a watch will show (`Board.InOrder`).  A board proceeds to another one when
at most one entry, dated by the watch, comes in front of the log, and when every task is either
an old one or new, with a new id and dated by the first reading of the watch (`Board.Proceeds`).
All commands and the ways of opening a board are such proceedings, and a board in order
proceeds to boards in order.
-/

namespace Kanban

open Moment (NotLater)

/-! ### Watches -/

namespace Watch

/-- The moments that a watch shows. -/
def readings (w : Watch) : Set Moment := {m | ∃ i, w.shows i = some m}

theorem mem_readings_still {now : Option Moment} {m : Moment} :
  m ∈ (still now).readings ↔ now = some m
  := by
  simp [readings, still]

/-- A watch that never goes back. -/
def Forward (w : Watch) : Prop :=
  ∀ i j, i ≤ j → ∀ m ∈ w.shows i, ∀ n ∈ w.shows j, m.instant ≤ n.instant

theorem forward_still (now : Option Moment) :
  (still now).Forward
  := by
  intro i j _ m hm n hn
  obtain rfl := Option.mem_unique hm hn
  apply le_refl

end Watch

/-- An entry is about its task, and is dated by its watch. -/
theorem Stamp.entry_spec {s : Stamp} {i : Nat} {action : Action} {id : Text}
    {changes : List Change} {x : Entry} (h : s.entry i action id changes = .ok x) :
  x.taskId = id ∧ ∃ m ∈ s.now.readings, x.timestamp = m.stamp
  := by
  obtain ⟨m, hm, rfl⟩ := entry_eq_ok_iff.mp h
  exact ⟨rfl, m, ⟨i, hm⟩, rfl⟩

namespace Board

variable {b b' c c' : Board} {s : Stamp} {n : Nat} {known : Set Text} {future : Set Moment}

/-! ### Proceeding -/

/-- What comes of a board in one step with the watch and the first `n` ids of a stamp. -/
structure Proceeds (s : Stamp) (n : Nat) (b b' : Board) : Prop where
  audit : b'.audit <:+ b.audit
    ∨ ∃ x, ∃ m ∈ s.now.readings, x.timestamp = m.stamp
      ∧ (x.taskId ∈ b.taskIds ∨ x.taskId ∈ b'.taskIds) ∧ b'.audit = x :: b.audit
  tasks : ∀ t ∈ b'.tasks, (∃ u ∈ b.tasks, t.id = u.id ∧ t.createdAt = u.createdAt)
    ∨ ∃ i < n, ∃ m, t.id = s.fresh i ∧ s.now.shows 0 = some m ∧ t.createdAt = m.stamp

namespace Proceeds

/-- A board with the same log, whose tasks have kept their ids and times. -/
theorem of_tasks (haudit : b'.audit = b.audit)
    (htasks : ∀ t ∈ b'.tasks, ∃ u ∈ b.tasks, t.id = u.id ∧ t.createdAt = u.createdAt) :
  b.Proceeds s n b'
  := ⟨.inl (by rw [haudit]), fun t ht => .inl (htasks t ht)⟩

theorem refl (b : Board) :
  b.Proceeds s n b
  := of_tasks rfl fun t ht => ⟨t, ht, rfl, rfl⟩

/-- A board to which an entry about a task is added, whose tasks have kept their ids and times. -/
theorem of_entry {x : Entry} {i : Nat} {action : Action} {id : Text} {changes : List Change}
    (hx : s.entry i action id changes = .ok x) (hid : id ∈ b.taskIds)
    (haudit : b'.audit = x :: b.audit)
    (htasks : ∀ t ∈ b'.tasks, ∃ u ∈ b.tasks, t.id = u.id ∧ t.createdAt = u.createdAt) :
  b.Proceeds s n b'
  := by
  obtain ⟨rfl, m, hm, htime⟩ := Stamp.entry_spec hx
  constructor
  · exact .inr ⟨x, m, hm, htime, .inl hid, haudit⟩
  · intro t ht
    exact .inl (htasks t ht)

theorem replaceTask {id : Text} {t u : Task} (ht : b.task? id = some t) (hid : u.id = t.id)
    (htime : u.createdAt = t.createdAt) :
  ∀ v ∈ b.replaceTask id u, ∃ w ∈ b.tasks, v.id = w.id ∧ v.createdAt = w.createdAt
  := by
  intro v hv
  obtain ⟨w, hw, rfl⟩ := List.mem_map.mp hv
  split_ifs
  · exact ⟨t, (mem_of_task? ht).1, hid, htime⟩
  · exact ⟨w, hw, rfl, rfl⟩

theorem create {d : NewTask} {x : Entry} (hn : 0 < n) (h : b.create s d = .ok (b', x)) :
  b.Proceeds s n b'
  := by
  obtain ⟨t, ht, hx, rfl⟩ := create_eq_ok_iff.mp h
  obtain ⟨htaskId, m, hm, htime⟩ := Stamp.entry_spec hx
  obtain ⟨-, hid, -⟩ := d.toTask_spec ht
  obtain ⟨m', hm', hcreated⟩ := d.createdAt_toTask ht
  constructor
  · right
    refine ⟨x, m, hm, htime, .inr ?_, rfl⟩
    rw [htaskId]
    simp [taskIds]
  · intro u hu
    rcases List.mem_append.mp hu with hu | hu
    · exact .inl ⟨u, hu, rfl, rfl⟩
    · obtain rfl := List.mem_singleton.mp hu
      exact .inr ⟨0, hn, m', hid, hm', hcreated⟩

theorem update {id : Text} {e : TaskEdit} {x : Entry}
    (h : b.update s id e = .ok (some (b', x))) :
  b.Proceeds s n b'
  := by
  obtain ⟨t, u, ht, hu, -, hx, rfl⟩ := update_eq_ok_some_iff.mp h
  obtain ⟨-, hid, htime, -, -⟩ := TaskEdit.apply_spec hu
  apply of_entry hx (exists_task?_iff.mp ⟨t, ht⟩) rfl
  apply replaceTask ht hid htime

theorem delete {id : Text} {x : Entry} (h : b.delete s id = .ok (some (b', x))) :
  b.Proceeds s n b'
  := by
  obtain ⟨t, ht, hx, rfl⟩ := delete_eq_ok_some_iff.mp h
  apply of_entry hx (exists_task?_iff.mp ⟨t, ht⟩) rfl
  intro u hu
  exact ⟨u, List.mem_of_mem_filter hu, rfl, rfl⟩

theorem move {id : Text} {v : Json} {x : Entry} (h : b.move s id v = .ok (some (b', x))) :
  b.Proceeds s n b'
  := by
  obtain ⟨t, c, -, ht, -, hx, rfl⟩ := move_eq_ok_some_iff.mp h
  apply of_entry hx (exists_task?_iff.mp ⟨t, ht⟩) rfl
  apply replaceTask (u := { t with column := c }) ht rfl rfl

theorem setReviewMode (value : Bool) :
  b.Proceeds s n (b.setReviewMode value)
  := by
  constructor
  · exact .inl (List.suffix_refl b.audit)
  · intro t ht
    exact .inl ⟨t, ht, rfl, rfl⟩

/-- A board that is read again has its log, and tasks with their ids and times. -/
theorem of_alike (h : c.Alike b) :
  b.Proceeds s n c
  := by
  apply of_tasks h.audit
  intro t ht
  obtain ⟨u, hu, htu⟩ := exists_mem_left h.tasks.flip ht
  refine ⟨u, hu, ?_⟩
  rw [← htu.rest]
  exact ⟨rfl, rfl⟩

/-- Restoring the accents of a board that is read again changes none of these. -/
theorem of_restores {changed : Bool} (h : c.Alike b)
    (hrestore : c.restoreAccents = .ok (b', changed)) :
  b.Proceeds s n b'
  := by
  apply of_tasks ((audit_restoreAccents hrestore).trans h.audit)
  intro t ht
  obtain ⟨u, hu, hut⟩ := exists_restores_of_mem hrestore ht
  obtain ⟨v, hv, huv⟩ := exists_mem_left h.tasks.flip hu
  refine ⟨v, hv, ?_⟩
  rw [hut.retains.id, hut.retains.createdAt, ← huv.rest]
  exact ⟨rfl, rfl⟩

/-- A sample board that takes the place of another one has no log, and new tasks. -/
theorem of_sample (h : sample s = .ok b') :
  b.Proceeds s samples.length b'
  := by
  obtain ⟨now, hnow, htasks, hboard⟩ := sample_eq_ok_iff.mp h
  constructor
  · left
    rw [hboard]
    apply List.nil_suffix
  · intro t ht
    obtain ⟨⟨x, i⟩, hx, hxt⟩ := exists_mem_left htasks ht
    obtain ⟨due, -, rfl⟩ := Sample.toTask_eq_ok_iff.mp hxt
    have hi : i < samples.length := List.snd_lt_of_mem_zipIdx hx
    exact .inr ⟨i, hi, now, rfl, hnow, rfl⟩

end Proceeds

/-! ### Order -/

/-- A board with the latest entry in front of the log, and with nothing that is later than what
a watch will show.  Its tasks, and those that its entries are about, have known ids. -/
structure InOrder (known : Set Text) (future : Set Moment) (b : Board) : Prop where
  sorted : b.audit.Pairwise fun x y => NotLater y.timestamp x.timestamp
  audit : ∀ x ∈ b.audit, x.taskId ∈ known ∧ ∀ m ∈ future, NotLater x.timestamp m.stamp
  tasks : ∀ t ∈ b.tasks, t.id ∈ known ∧ ∀ m ∈ future, NotLater t.createdAt m.stamp

/-- No entry about the task with an id is earlier than a given time. -/
def Respects (b : Board) (id time : Text) : Prop :=
  ∀ x ∈ b.audit, x.taskId = id → NotLater time x.timestamp

/-- No entry of the second board is earlier than the task of the first that it is about. -/
def Dates (b c : Board) : Prop := ∀ t ∈ b.tasks, c.Respects t.id t.createdAt

/-- New tasks have new ids, and none is dated later than what is shown afterwards. -/
theorem InOrder.tasks_of_proceeds {later : Set Moment} (hb : b.InOrder known future)
    (h : b.Proceeds s n b') (hlater : later ⊆ future)
    (hforward : ∀ m ∈ s.now.readings, ∀ m' ∈ later, NotLater m.stamp m'.stamp) :
  ∀ t ∈ b'.tasks, t.id ∈ known ∪ s.fresh '' Set.Iio n
    ∧ ∀ m ∈ later, NotLater t.createdAt m.stamp
  := by
  intro t ht
  rcases h.tasks t ht with ⟨u, hu, hid, htime⟩ | ⟨i, hi, m, hid, hm, htime⟩
  · rw [hid, htime]
    obtain ⟨hknown, hfuture⟩ := hb.tasks u hu
    exact ⟨.inl hknown, fun m hm => hfuture m (hlater hm)⟩
  · rw [hid, htime]
    exact ⟨.inr ⟨i, hi, rfl⟩, hforward m ⟨0, hm⟩⟩

/-- A board in order proceeds to boards in order. -/
theorem InOrder.proceeds {later : Set Moment} (hb : b.InOrder known future)
    (h : b.Proceeds s n b') (hshown : s.now.readings ⊆ future) (hlater : later ⊆ future)
    (hforward : ∀ m ∈ s.now.readings, ∀ m' ∈ later, NotLater m.stamp m'.stamp) :
  b'.InOrder (known ∪ s.fresh '' Set.Iio n) later
  := by
  have htasks := hb.tasks_of_proceeds h hlater hforward
  have hold : ∀ x ∈ b.audit, x.taskId ∈ known ∪ s.fresh '' Set.Iio n
      ∧ ∀ m ∈ later, NotLater x.timestamp m.stamp := by
    intro x hx
    obtain ⟨hknown, hfuture⟩ := hb.audit x hx
    exact ⟨.inl hknown, fun m hm => hfuture m (hlater hm)⟩
  rcases h.audit with hsuffix | ⟨x, m, hm, htime, hid, haudit⟩
  · exact ⟨hb.sorted.sublist hsuffix.sublist, fun x hx => hold x (hsuffix.mem hx), htasks⟩
  · have hknown : x.taskId ∈ known ∪ s.fresh '' Set.Iio n := by
      rcases hid with hid | hid
      · obtain ⟨t, ht, hid⟩ := List.mem_map.mp hid
        rw [← hid]
        exact .inl (hb.tasks t ht).1
      · obtain ⟨t, ht, hid⟩ := List.mem_map.mp hid
        rw [← hid]
        apply (htasks t ht).1
    refine ⟨?_, ?_, htasks⟩
    · rw [haudit, List.pairwise_cons]
      refine ⟨?_, hb.sorted⟩
      intro y hy
      rw [htime]
      apply (hb.audit y hy).2 m (hshown hm)
    · rw [haudit]
      apply List.forall_mem_cons.mpr ⟨⟨hknown, ?_⟩, hold⟩
      rw [htime]
      apply hforward m hm

/-- A time that was respected still is, where the watch shows none before it. -/
theorem Respects.proceeds {id time : Text} (hb : b.Respects id time) (h : b.Proceeds s n b')
    (hshown : ∀ m ∈ s.now.readings, NotLater time m.stamp) :
  b'.Respects id time
  := by
  intro x hx hid
  rcases h.audit with hsuffix | ⟨y, m, hm, htime, -, haudit⟩
  · apply hb x (hsuffix.mem hx) hid
  · rw [haudit] at hx
    rcases List.mem_cons.mp hx with rfl | hx
    · rw [htime]
      apply hshown m hm
    · apply hb x hx hid

/-- A new task has an id that no entry so far is about, and the entry about its creation is
dated after it. -/
theorem Dates.proceeds (hbc : b.Dates c) (hb : b.InOrder known future)
    (hc : c.InOrder known future) (h : b.Proceeds s n b') (h' : c.Proceeds s n c')
    (hshown : s.now.readings ⊆ future)
    (hforward : ∀ m ∈ s.now.shows 0, ∀ m' ∈ s.now.readings, NotLater m.stamp m'.stamp)
    (hnew : ∀ i < n, s.fresh i ∉ known) :
  b'.Dates c'
  := by
  intro t ht
  rcases h.tasks t ht with ⟨u, hu, hid, htime⟩ | ⟨i, hi, m, hid, hm, htime⟩
  · rw [hid, htime]
    apply (hbc u hu).proceeds h'
    intro m hm
    apply (hb.tasks u hu).2 m (hshown hm)
  · rw [hid, htime]
    have hrespects : c.Respects (s.fresh i) m.stamp := by
      intro x hx hx'
      have hknown := (hc.audit x hx).1
      rw [hx'] at hknown
      exact absurd hknown (hnew i hi)
    apply hrespects.proceeds h' (hforward m hm)

end Board

end Kanban
