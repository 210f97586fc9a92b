import Kanban.Proofs.Board.Snapshot
import Kanban.Proofs.Except
import Kanban.Proofs.Moment.Stamp

/-!
# What commands do

For each command a lemma says everything that it can do when it is not refused
(`Board.create_eq_ok_iff` and its siblings).  From these follows that commands keep boards
sound: the tasks that they accept are valid, and the entries that they make carry an id and a
time that are read back, where the stamp is proper.
-/

namespace Kanban

/-! ### Stamps -/

theorem Moment.Utc.readable {m : Moment} (hm : m.Utc) :
  Check.Readable m.stamp
  := by
  rw [Check.Readable]
  rw [Moment.ofText?_stamp hm]
  rfl

namespace Stamp

variable {s : Stamp}

theorem time_eq_ok_iff {i : Nat} {time : Text} :
  s.time i = .ok time ↔ ∃ m, s.now.shows i = some m ∧ m.stamp = time
  := by
  rw [Stamp.time]
  cases s.now.shows i <;> simp

theorem entry_eq_ok_iff
    {i : Nat} {action : Action} {taskId : Text} {changes : List Change} {e : Entry} :
  s.entry i action taskId changes = .ok e
    ↔ ∃ m, s.now.shows i = some m ∧ e = ⟨s.fresh i, m.stamp, action, taskId, changes⟩
  := by
  simp only [entry, bind_eq_ok_iff, time_eq_ok_iff, pure_eq_ok_iff]
  grind

/-- A stamp of a watch in UTC, with ids that are uuids. -/
structure Proper (s : Stamp) : Prop where
  utc : ∀ i, ∀ m ∈ s.now.shows i, m.Utc
  fresh : ∀ i, Check.isUuid (s.fresh i) = true

theorem Proper.readable (hs : s.Proper) {i : Nat} {m : Moment} (hm : s.now.shows i = some m) :
  Check.Readable m.stamp
  := (hs.utc i m hm).readable

/-- The entries made with a proper stamp are sound. -/
theorem Proper.entry_sound
    (hs : s.Proper) {i : Nat} {action : Action} {taskId : Text} {changes : List Change}
    {e : Entry} (he : s.entry i action taskId changes = .ok e)
    (hnames : (changes.map Change.field).Nodup)
    (hvalues : ∀ c ∈ changes, c.before.Legible ∧ c.after.Legible) :
  e.Sound
  := by
  obtain ⟨m, hm, rfl⟩ := entry_eq_ok_iff.mp he
  constructor
  · constructor
    · apply hs.fresh
    · apply hs.readable hm
  · apply Entry.legible_toJson_iff.mpr ⟨hnames, hvalues⟩

end Stamp

/-! ### Drafts -/

/-- A new task is valid, and its parts are what the draft says. -/
theorem NewTask.toTask_spec {d : NewTask} {s : Stamp} {t : Task} (h : d.toTask s = .ok t) :
  t.Valid ∧ t.id = s.fresh 0 ∧ t.record .estimate = d.estimate
  := by
  simp only [toTask, bind_eq_ok_iff, Draft.accept_eq_ok_iff] at h
  obtain ⟨_, -, _, -, _, -, _, -, hrecord, hvalid⟩ := h
  refine ⟨hvalid, ?_, ?_⟩
  · apply Json.str.inj (congrFun hrecord .id)
  · apply congrFun hrecord .estimate

/-- A new task is dated by the first reading of the watch. -/
theorem NewTask.createdAt_toTask {d : NewTask} {s : Stamp} {t : Task} (h : d.toTask s = .ok t) :
  ∃ m, s.now.shows 0 = some m ∧ t.createdAt = m.stamp
  := by
  simp only [toTask, bind_eq_ok_iff, Draft.accept_eq_ok_iff, Stamp.time_eq_ok_iff] at h
  obtain ⟨_, -, _, -, time, ⟨m, hm, rfl⟩, _, -, hrecord, -⟩ := h
  refine ⟨m, hm, ?_⟩
  apply Json.str.inj (congrFun hrecord .createdAt)

/-- An edited task is valid, keeps its id, its column and the time of its creation, and has the
estimate of the edit. -/
theorem TaskEdit.apply_spec {e : TaskEdit} {t u : Task} (h : e.apply t = .ok u) :
  u.Valid ∧ u.id = t.id ∧ u.createdAt = t.createdAt ∧ u.column = t.column
    ∧ u.record .estimate = e.estimate
  := by
  simp only [apply, bind_eq_ok_iff, Draft.accept_eq_ok_iff] at h
  obtain ⟨_, -, _, -, hrecord, hvalid⟩ := h
  refine ⟨hvalid, ?_, ?_, ?_, ?_⟩
  · apply Json.str.inj (congrFun hrecord .id)
  · apply Json.str.inj (congrFun hrecord .createdAt)
  · apply Column.name_injective (Json.str.inj (congrFun hrecord .column))
  · apply congrFun hrecord .estimate

theorem Task.sound_of_estimate {t : Task} (h : t.Valid) {v : Json}
    (hv : t.record .estimate = v) (hlegible : v.Legible) :
  t.Sound
  := ⟨h, (Task.legible_toJson_iff h).mpr (hv ▸ hlegible :)⟩

theorem Task.Sound.moved {t : Task} (h : t.Sound) (c : Column) :
  Task.Sound { t with column := c }
  := by
  apply sound_of_estimate (h.valid.moved c) rfl
  apply (legible_toJson_iff h.valid).mp h.legible

/-! ### The commands -/

namespace Board

variable {b b' : Board} {s : Stamp} {id : Text} {x : Entry}

theorem mem_of_task? {t : Task} (h : b.task? id = some t) :
  t ∈ b.tasks ∧ t.id = id
  := ⟨List.mem_of_find?_eq_some h, by simpa using List.find?_some h⟩

/-- A task is found under an id exactly when a task has it. -/
theorem exists_task?_iff :
  (∃ t, b.task? id = some t) ↔ id ∈ b.taskIds
  := by
  rw [← Option.isSome_iff_exists, task?, List.find?_isSome]
  simp [taskIds]

theorem create_eq_ok_iff {d : NewTask} :
  b.create s d = .ok (b', x)
    ↔ ∃ t, d.toTask s = .ok t ∧ s.entry 1 .create t.id [⟨"task", .null, t.toJson⟩] = .ok x
      ∧ b' = { b with tasks := b.tasks ++ [t], audit := x :: b.audit }
  := by
  simp only [create, record, bind_eq_ok_iff, pure_eq_ok_iff, Prod.mk.injEq]
  grind

theorem update_eq_ok_some_iff {e : TaskEdit} :
  b.update s id e = .ok (some (b', x))
    ↔ ∃ t u, b.task? id = some t ∧ e.apply t = .ok u ∧ Change.between t.record u.record ≠ []
      ∧ s.entry 0 .update id (Change.between t.record u.record) = .ok x
      ∧ b' = { b with tasks := b.replaceTask id u, audit := x :: b.audit }
  := by
  rw [update]
  cases ht : b.task? id with
  | none => simp
  | some t =>
      simp only [bind_eq_ok_iff, Option.some.injEq, exists_and_left, exists_eq_left']
      apply exists_congr
      intro u
      apply and_congr_right
      intro _
      cases Change.between t.record u.record with
      | nil => simp
      | cons c cs =>
          simp only [bind_eq_ok_iff, pure_eq_ok_iff, record, Option.some.injEq, Prod.mk.injEq]
          grind

theorem delete_eq_ok_some_iff :
  b.delete s id = .ok (some (b', x))
    ↔ ∃ t, b.task? id = some t ∧ s.entry 0 .delete id [⟨"task", t.toJson, .null⟩] = .ok x
      ∧ b' = { b with tasks := b.tasks.filter (·.id ≠ id), audit := x :: b.audit }
  := by
  rw [delete]
  cases ht : b.task? id with
  | none => simp
  | some t =>
      simp only [bind_eq_ok_iff, pure_eq_ok_iff, record, Option.some.injEq, Prod.mk.injEq,
        exists_eq_left']
      grind

theorem move_eq_ok_some_iff {v : Json} :
  b.move s id v = .ok (some (b', x))
    ↔ ∃ t c, Draft.column v = .ok c ∧ b.task? id = some t ∧ t.column ≠ c
      ∧ s.entry 0 .move id [⟨Field.column.key, .str t.column.name, .str c.name⟩] = .ok x
      ∧ b' = { b with tasks := b.replaceTask id { t with column := c }, audit := x :: b.audit }
  := by
  simp only [move, bind_eq_ok_iff]
  rw [exists_comm]
  apply exists_congr
  intro c
  cases ht : b.task? id with
  | none => simp
  | some t =>
      simp only [Option.some.injEq, exists_and_left, exists_eq_left']
      apply and_congr_right
      intro _
      split_ifs with hc
      · simp [hc]
      · simp only [bind_eq_ok_iff, pure_eq_ok_iff, record, Option.some.injEq, Prod.mk.injEq]
        grind

/-! ### The entry of a command is in front of the audit log -/

theorem audit_create {d : NewTask} (h : b.create s d = .ok (b', x)) :
  b'.audit = x :: b.audit
  := by
  obtain ⟨t, -, -, rfl⟩ := create_eq_ok_iff.mp h
  rfl

theorem audit_update {e : TaskEdit} (h : b.update s id e = .ok (some (b', x))) :
  b'.audit = x :: b.audit
  := by
  obtain ⟨t, u, -, -, -, -, rfl⟩ := update_eq_ok_some_iff.mp h
  rfl

theorem audit_delete (h : b.delete s id = .ok (some (b', x))) :
  b'.audit = x :: b.audit
  := by
  obtain ⟨t, -, -, rfl⟩ := delete_eq_ok_some_iff.mp h
  rfl

theorem audit_move {v : Json} (h : b.move s id v = .ok (some (b', x))) :
  b'.audit = x :: b.audit
  := by
  obtain ⟨t, c, -, -, -, -, rfl⟩ := move_eq_ok_some_iff.mp h
  rfl

/-! ### Commands keep boards sound -/

theorem Sound.addEntry (hb : b.Sound) {tasks : List Task} (ht : ∀ t ∈ tasks, t.Sound)
    (hx : x.Sound) :
  Sound { b with tasks, audit := x :: b.audit }
  := ⟨ht, List.forall_mem_cons.mpr ⟨hx, hb.audit⟩⟩

theorem sound_replaceTask (hb : b.Sound) {t : Task} (ht : t.Sound) :
  ∀ u ∈ b.replaceTask id t, u.Sound
  := by
  intro u hu
  obtain ⟨v, hv, rfl⟩ := List.mem_map.mp hu
  split_ifs
  · apply ht
  · apply hb.tasks v hv

theorem Sound.create {d : NewTask} (hb : b.Sound) (hs : s.Proper) (hd : d.estimate.Legible)
    (h : b.create s d = .ok (b', x)) :
  b'.Sound
  := by
  obtain ⟨t, ht, hx, rfl⟩ := create_eq_ok_iff.mp h
  obtain ⟨hvalid, -, hestimate⟩ := d.toTask_spec ht
  have htask := Task.sound_of_estimate hvalid hestimate hd
  apply hb.addEntry
  · intro u hu
    rcases List.mem_append.mp hu with hu | hu
    · apply hb.tasks u hu
    · rwa [List.mem_singleton.mp hu]
  · apply hs.entry_sound hx (by simp)
    simpa [Json.Legible] using htask.legible

theorem legible_between {t u : Task} (ht : t.toJson.Legible) (hu : u.toJson.Legible) :
  ∀ c ∈ Change.between t.record u.record, c.before.Legible ∧ c.after.Legible
  := by
  intro c hc
  obtain ⟨f, -, rfl⟩ := List.mem_map.mp hc
  exact ⟨Record.legible_toJson_iff.mp ht f, Record.legible_toJson_iff.mp hu f⟩

theorem nodup_names_between (r r' : Record) :
  ((Change.between r r').map Change.field).Nodup
  := by
  have hmutable : Field.mutable.Nodup := by decide
  rw [Change.between]
  rw [List.map_map]
  apply (hmutable.filter _).map_on
  intro f _ g _ hkey
  apply Field.key_injective hkey

theorem Sound.update {e : TaskEdit} (hb : b.Sound) (hs : s.Proper) (he : e.estimate.Legible)
    (h : b.update s id e = .ok (some (b', x))) :
  b'.Sound
  := by
  obtain ⟨t, u, ht, hu, -, hx, rfl⟩ := update_eq_ok_some_iff.mp h
  obtain ⟨hvalid, -, -, -, hestimate⟩ := e.apply_spec hu
  have hold := hb.tasks t (mem_of_task? ht).1
  have hnew := Task.sound_of_estimate hvalid hestimate he
  apply hb.addEntry (sound_replaceTask hb hnew)
  apply hs.entry_sound hx (nodup_names_between _ _)
  apply legible_between hold.legible hnew.legible

theorem Sound.delete (hb : b.Sound) (hs : s.Proper) (h : b.delete s id = .ok (some (b', x))) :
  b'.Sound
  := by
  obtain ⟨t, ht, hx, rfl⟩ := delete_eq_ok_some_iff.mp h
  have hold := hb.tasks t (mem_of_task? ht).1
  apply hb.addEntry
  · intro u hu
    apply hb.tasks u (List.mem_of_mem_filter hu)
  · apply hs.entry_sound hx (by simp)
    simpa [Json.Legible] using hold.legible

theorem Sound.move {v : Json} (hb : b.Sound) (hs : s.Proper)
    (h : b.move s id v = .ok (some (b', x))) :
  b'.Sound
  := by
  obtain ⟨t, c, -, ht, -, hx, rfl⟩ := move_eq_ok_some_iff.mp h
  have hold := hb.tasks t (mem_of_task? ht).1
  apply hb.addEntry (sound_replaceTask hb (hold.moved c))
  apply hs.entry_sound hx (by simp)
  simp [Json.Legible]

theorem Sound.setReviewMode (hb : b.Sound) (value : Bool) :
  (b.setReviewMode value).Sound
  := ⟨hb.tasks, hb.audit⟩

end Board

end Kanban
