import Kanban.Proofs.Board.Revision

/-!
# Commands in either order

Commands about tasks with different ids do not see each other, and an edit and a move of one task
change different parts of it.  So it does not matter in which order two such commands are carried
out: the tasks are the same afterwards, each command is refused in both orders or in none, and the
entries say the same (`TaskCommand.commute`).
-/

namespace Kanban

/-- What an entry says, apart from its id and its time. -/
def Entry.note (x : Entry) : Action × Text × List Change := (x.action, x.taskId, x.changes)

/-- An edit of a task in another column makes the same of it, in that column. -/
theorem TaskEdit.apply_moved (e : TaskEdit) (t : Task) (k : Column) :
  (e.apply { t with column := k }).toOption
    = (e.apply t).toOption.map fun u => { u with column := k }
  := by
  apply Option.ext
  intro u
  rw [toOption_eq_some_iff, Option.map_eq_some_iff]
  simp only [toOption_eq_some_iff]
  constructor
  · intro h
    have hcolumn : u.column = k := (e.apply_spec h).2.2.2.1
    refine ⟨_, apply_of_same h rfl rfl, ?_⟩
    rw [← hcolumn]
  · rintro ⟨u, hu, rfl⟩
    exact apply_of_same hu rfl rfl

namespace Revision

/-- What is made of a task, in a column. -/
def brought (k : Column) (rv : Revision) : Revision :=
  { rv with task := rv.task.map fun u => { u with column := k } }

theorem edit_moved {t u : Task} (h : u.column = t.column) (k : Column) :
  edit { t with column := k } { u with column := k } = (edit t u).map (brought k)
  := by
  rw [edit, edit, Change.between_moved h]
  split_ifs <;> rfl

end Revision

namespace TaskCommand

variable {c d : TaskCommand} {found : Option Task} {t u : Task} {tasks : List Task} {id : Text}
  {e : TaskEdit} {v : Json} {k : Column}

/-- The commands are about tasks with different ids, or one edits a task and the other one moves
it. -/
inductive Independent : TaskCommand → TaskCommand → Prop
  | apart {c d : TaskCommand} (differ : c.id ≠ d.id) : Independent c d
  | updateMove {id : Text} {e : TaskEdit} {v : Json} : Independent (update id e) (move id v)
  | moveUpdate {id : Text} {e : TaskEdit} {v : Json} : Independent (move id v) (update id e)

theorem Independent.symm (h : Independent c d) :
  Independent d c
  := by
  cases h with
  | apart differ => exact .apart differ.symm
  | updateMove => exact .moveUpdate
  | moveUpdate => exact .updateMove

/-- What a command notes about the first task with its id, unless it is refused. -/
def notes? (c : TaskCommand) (found : Option Task) :
    Option (List (Action × Text × List Change)) :=
  (c.revise found).toOption.map fun rv => rv.toList.map fun rv => (rv.action, c.id, rv.changes)

/-! ### An edit and a move of one task -/

theorem revise_update_moved :
  ((update id e).revise (some { t with column := k })).toOption
    = ((update id e).revise (some t)).toOption.map (Option.map (Revision.brought k))
  := by
  have hrevise (t : Task) :
      ((update id e).revise (some t)).toOption = (e.apply t).toOption.map (Revision.edit t) := by
    rw [revise]
    cases e.apply t <;> rfl
  rw [hrevise, hrevise, TaskEdit.apply_moved]
  cases hu : e.apply t with
  | error r => rfl
  | ok u =>
      obtain ⟨-, -, -, hcolumn, -⟩ := e.apply_spec hu
      exact congrArg some (Revision.edit_moved hcolumn k)

theorem notes?_update_moved :
  (update id e).notes? (some { t with column := k }) = (update id e).notes? (some t)
  := by
  rw [notes?, notes?, revise_update_moved]
  rw [Option.map_map]
  apply congrArg (Option.map · _)
  funext rv
  cases rv <;> rfl

theorem fate_update_moved :
  (update id e).fate (some { t with column := k })
    = ((update id e).fate (some t)).map fun u => { u with column := k }
  := by
  rw [fate, fate, revision?, revision?, revise_update_moved]
  rcases (update id e).revise (some t) with r | _ | rv <;> rfl

/-- An edit leaves the task in its column. -/
theorem exists_fate_update (id : Text) (e : TaskEdit) (t : Task) :
  ∃ u, (update id e).fate (some t) = some u ∧ u.column = t.column
  := by
  rw [fate]
  cases hrv : (update id e).revision? (some t) with
  | none => exact ⟨t, rfl, rfl⟩
  | some rv =>
      obtain ⟨t, ⟨⟩, hrv⟩ := revises_of_revise (revision?_eq_some_iff.mp hrv)
      cases hrv with
      | update applied => exact ⟨_, rfl, (e.apply_spec applied).2.2.2.1⟩

theorem notes?_move (h : u.column = t.column) :
  (move id v).notes? (some u) = (move id v).notes? (some t)
  := by
  rw [notes?, notes?, revise, revise]
  cases Draft.column v with
  | error r => rfl
  | ok k =>
      dsimp only [bind, Except.bind, Option.bind, Revision.move]
      rw [h]
      split_ifs <;> rfl

/-- A move that names a column brings the task there. -/
theorem fate_move (hv : Draft.column v = .ok k) :
  (move id v).fate (some t) = some { t with column := k }
  := by
  rw [fate, revision?, revise, hv]
  dsimp only [bind, Except.bind, Option.bind, Revision.move]
  split_ifs with ht
  · rw [← ht]
    rfl
  · rfl

/-- A move that does not name a column does nothing. -/
theorem fate_move_of_error {r : Refusal} (hv : Draft.column v = .error r) :
  (move id v).fate found = found
  := by
  rw [fate, revision?, revise, hv]
  rfl

theorem fate_none :
  c.fate none = none
  := by
  rw [fate]
  cases hrv : c.revision? none with
  | none => rfl
  | some rv =>
      obtain ⟨t, ht, -⟩ := revises_of_revise (revision?_eq_some_iff.mp hrv)
      cases ht

theorem notes?_update_fate :
  (update id e).notes? ((move id v).fate found) = (update id e).notes? found
  := by
  cases found with
  | none => rw [fate_none]
  | some t =>
      cases hv : Draft.column v with
      | error r => rw [fate_move_of_error hv]
      | ok k => rw [fate_move hv, notes?_update_moved]

theorem notes?_move_fate :
  (move id v).notes? ((update id e).fate found) = (move id v).notes? found
  := by
  cases found with
  | none => rw [fate_none]
  | some t =>
      obtain ⟨u, hu, hcolumn⟩ := exists_fate_update id e t
      rw [hu, notes?_move hcolumn]

theorem fate_update_move :
  (update id e).fate ((move id v).fate found) = (move id v).fate ((update id e).fate found)
  := by
  cases found with
  | none => rw [fate_none, fate_none, fate_none]
  | some t =>
      cases hv : Draft.column v with
      | error r => rw [fate_move_of_error hv, fate_move_of_error hv]
      | ok k =>
          obtain ⟨u, hu, -⟩ := exists_fate_update id e t
          rw [fate_move hv, fate_update_moved, hu, fate_move hv]
          rfl

/-- Two commands about one task that stays on the board, of which each does the same whether or not
the other one has been carried out. -/
structure Compatible (c d : TaskCommand) : Prop where
  id : c.id = d.id
  notes : ∀ found, c.notes? (d.fate found) = c.notes? found
  notes' : ∀ found, d.notes? (c.fate found) = d.notes? found
  fate : ∀ found, c.fate (d.fate found) = d.fate (c.fate found)
  stays : ∀ t rv, Revises t c rv → rv.task.isSome = true
  stays' : ∀ t rv, Revises t d rv → rv.task.isSome = true

theorem Compatible.symm (h : Compatible c d) :
  Compatible d c
  := ⟨h.id.symm, h.notes', h.notes, fun found => (h.fate found).symm, h.stays', h.stays⟩

theorem compatible_update_move :
  Compatible (update id e) (move id v)
  := by
  constructor
  · rfl
  · intro found
    apply notes?_update_fate
  · intro found
    apply notes?_move_fate
  · intro found
    apply fate_update_move
  · rintro t rv ⟨⟩
    rfl
  · rintro t rv ⟨⟩
    rfl

theorem Independent.apart_or_compatible (h : Independent c d) :
  c.id ≠ d.id ∨ Compatible c d
  := by
  cases h with
  | apart differ => exact .inl differ
  | updateMove => exact .inr compatible_update_move
  | moveUpdate => exact .inr compatible_update_move.symm

/-! ### Commands one after the other -/

/-- What one of two independent commands notes does not depend on the other one. -/
theorem Independent.notes?_tasksAfter (h : Independent c d) (tasks : List Task) :
  c.notes? ((d.tasksAfter tasks).find? (·.id == c.id)) = c.notes? (tasks.find? (·.id == c.id))
  := by
  rcases h.apart_or_compatible with hne | hcd
  · rw [find?_tasksAfter_of_ne hne]
  · rw [hcd.id, find?_tasksAfter, hcd.notes]

/-- A command does something exactly when it notes something. -/
theorem isSome_revision? :
  (c.revision? found).isSome = (c.notes? found).any (!·.isEmpty)
  := by
  rw [revision?, notes?]
  rcases c.revise found with r | _ | rv <;> rfl

theorem tasksAfter_of_isSome (hfound : tasks.find? (·.id == c.id) = found)
    (h : (c.revision? found).isSome = true) :
  c.tasksAfter tasks = Task.substitute c.id (c.fate found) tasks
  := by
  obtain ⟨rv, hrv⟩ := Option.isSome_iff_exists.mp h
  rw [tasksAfter, fate, hfound, hrv]
  rfl

theorem tasksAfter_of_not_isSome (hfound : tasks.find? (·.id == c.id) = found)
    (h : ¬ (c.revision? found).isSome = true) :
  c.tasksAfter tasks = tasks
  := by
  rw [Option.not_isSome_iff_eq_none] at h
  rw [tasksAfter, hfound, h]
  rfl

/-- Where a task is put that a command has put something into the place of before, it does not
matter what that was. -/
theorem Compatible.substitute_tasksAfter (h : Compatible c d) (new : Option Task)
    (tasks : List Task) :
  Task.substitute d.id new (d.tasksAfter tasks) = Task.substitute d.id new tasks
  := by
  rw [tasksAfter]
  cases hrv : d.revision? (tasks.find? (·.id == d.id)) with
  | none => rfl
  | some rv =>
      obtain ⟨t, -, hrevises⟩ := revises_of_revise (revision?_eq_some_iff.mp hrv)
      obtain ⟨u, hu⟩ := Option.isSome_iff_exists.mp (h.stays' t rv hrevises)
      rw [Option.elim_some, hu]
      apply Task.substitute_substitute
      apply (id_of_revision? hrv).2 u hu

theorem Compatible.tasksAfter_comm (h : Compatible c d) (tasks : List Task) :
  c.tasksAfter (d.tasksAfter tasks) = d.tasksAfter (c.tasksAfter tasks)
  := by
  obtain ⟨found, hfound⟩ : ∃ found, tasks.find? (·.id == c.id) = found := ⟨_, rfl⟩
  have hfound' : tasks.find? (·.id == d.id) = found := by rw [← h.id, hfound]
  have hafter : (d.tasksAfter tasks).find? (·.id == c.id) = d.fate found := by
    rw [h.id, find?_tasksAfter, hfound']
  have hafter' : (c.tasksAfter tasks).find? (·.id == d.id) = c.fate found := by
    rw [← h.id, find?_tasksAfter, hfound]
  have hacts : (c.revision? (d.fate found)).isSome = (c.revision? found).isSome := by
    rw [isSome_revision?, isSome_revision?, h.notes]
  have hacts' : (d.revision? (c.fate found)).isSome = (d.revision? found).isSome := by
    rw [isSome_revision?, isSome_revision?, h.notes']
  by_cases hc : (c.revision? found).isSome = true
  · by_cases hd : (d.revision? found).isSome = true
    · rw [tasksAfter_of_isSome hafter (hacts ▸ hc), tasksAfter_of_isSome hafter' (hacts' ▸ hd)]
      rw [h.id, h.substitute_tasksAfter, ← h.id, h.symm.substitute_tasksAfter, h.fate]
    · rw [tasksAfter_of_not_isSome hafter' (hacts' ▸ hd), tasksAfter_of_not_isSome hfound' hd]
  · rw [tasksAfter_of_not_isSome hafter (hacts ▸ hc), tasksAfter_of_not_isSome hfound hc]

theorem tasksAfter_comm_of_ne (h : c.id ≠ d.id) (tasks : List Task) :
  c.tasksAfter (d.tasksAfter tasks) = d.tasksAfter (c.tasksAfter tasks)
  := by
  rw [tasksAfter, find?_tasksAfter_of_ne h]
  rw [tasksAfter.eq_def d (c.tasksAfter tasks), find?_tasksAfter_of_ne h.symm]
  rw [tasksAfter, tasksAfter]
  cases hc : c.revision? (tasks.find? (·.id == c.id)) with
  | none => rfl
  | some rv =>
      cases hd : d.revision? (tasks.find? (·.id == d.id)) with
      | none => rfl
      | some rv' =>
          apply Task.substitute_comm h (id_of_revision? hd).2 (id_of_revision? hc).2

theorem Independent.tasksAfter_comm (h : Independent c d) (tasks : List Task) :
  c.tasksAfter (d.tasksAfter tasks) = d.tasksAfter (c.tasksAfter tasks)
  := by
  rcases h.apart_or_compatible with hne | hcd
  · apply tasksAfter_comm_of_ne hne
  · apply hcd.tasksAfter_comm

/-! ### Boards -/

variable {b : Board} {s s₁ s₂ s₁' s₂' : Stamp}

/-- The command was refused. -/
def Refused (r : Except Refusal (Option (Board × Entry))) : Prop := ∃ reason, r = .error reason

/-- The board after a command, which is the one before it if the command is refused. -/
def onto (c : TaskCommand) (b : Board) (s : Stamp) : Board := b.after (c.run b s)

/-- Where there is a time to be noted, a command is not refused because of its entry. -/
theorem run_of_shows {m : Moment} (hm : s.now.shows 0 = some m) :
  c.run b s = (c.revise (b.task? c.id)).map (Option.map fun rv =>
    b.record (Task.substitute c.id rv.task b.tasks)
      ⟨s.fresh 0, m.stamp, rv.action, c.id, rv.changes⟩)
  := by
  have hentry (rv : Revision) : s.entry 0 rv.action c.id rv.changes
      = .ok ⟨s.fresh 0, m.stamp, rv.action, c.id, rv.changes⟩ :=
    Stamp.entry_eq_ok_iff.mpr ⟨m, hm, rfl⟩
  rw [run_eq]
  rcases c.revise (b.task? c.id) with r | _ | rv
  · rfl
  · rfl
  · change (s.entry 0 rv.action c.id rv.changes >>= _) = _
    rw [hentry]
    rfl

theorem refused_iff (hs : (s.now.shows 0).isSome = true) :
  Refused (c.run b s) ↔ c.notes? (b.task? c.id) = none
  := by
  obtain ⟨m, hm⟩ := Option.isSome_iff_exists.mp hs
  rw [run_of_shows hm, notes?, Refused]
  rcases c.revise (b.task? c.id) with r | rv <;> simp [Except.map, Except.toOption]

theorem onto_spec (c : TaskCommand) (b : Board) (hs : (s.now.shows 0).isSome = true) :
  ∃ es, c.onto b s = { b with tasks := c.tasksAfter b.tasks, audit := es ++ b.audit }
    ∧ es.map Entry.note = (c.notes? (b.task? c.id)).getD []
  := by
  obtain ⟨m, hm⟩ := Option.isSome_iff_exists.mp hs
  rw [onto, run_of_shows hm, tasksAfter, revision?, notes?, ← Board.task?]
  rcases c.revise (b.task? c.id) with r | _ | rv
  · exact ⟨[], rfl, rfl⟩
  · exact ⟨[], rfl, rfl⟩
  · exact ⟨[_], rfl, rfl⟩

theorem tasks_onto (hs : (s.now.shows 0).isSome = true) :
  (c.onto b s).tasks = c.tasksAfter b.tasks
  := by
  obtain ⟨es, honto, -⟩ := onto_spec c b hs
  rw [honto]

theorem Independent.notes?_onto (h : Independent c d) (hs : (s.now.shows 0).isSome = true) :
  c.notes? ((d.onto b s).task? c.id) = c.notes? (b.task? c.id)
  := by
  rw [Board.task?, tasks_onto hs, h.notes?_tasksAfter, Board.task?]

/-- Two independent commands come to the same in either order, whatever the ids and the times are
with which they are marked: the tasks are the same, each of them is refused in both orders or in
none, and the entries that are made say the same. -/
theorem commute (h : Independent c d) (b : Board)
    (hshows : ∀ s ∈ [s₁, s₂, s₁', s₂'], (s.now.shows 0).isSome = true) :
  (d.onto (c.onto b s₁) s₂).tasks = (c.onto (d.onto b s₁') s₂').tasks
    ∧ (d.onto (c.onto b s₁) s₂).reviewMode = (c.onto (d.onto b s₁') s₂').reviewMode
    ∧ (Refused (c.run b s₁) ↔ Refused (c.run (d.onto b s₁') s₂'))
    ∧ (Refused (d.run b s₁') ↔ Refused (d.run (c.onto b s₁) s₂))
    ∧ ∃ es es', (d.onto (c.onto b s₁) s₂).audit = es ++ b.audit
      ∧ (c.onto (d.onto b s₁') s₂').audit = es' ++ b.audit
      ∧ (es.map Entry.note).Perm (es'.map Entry.note)
  := by
  simp only [List.forall_mem_cons, List.not_mem_nil, false_implies, implies_true, and_true]
    at hshows
  obtain ⟨hs₁, hs₂, hs₁', hs₂'⟩ := hshows
  obtain ⟨es₁, hc, hes₁⟩ := onto_spec c b hs₁
  obtain ⟨es₁', hd, hes₁'⟩ := onto_spec d b hs₁'
  obtain ⟨es₂, hcd, hes₂⟩ := onto_spec d (c.onto b s₁) hs₂
  obtain ⟨es₂', hdc, hes₂'⟩ := onto_spec c (d.onto b s₁') hs₂'
  rw [h.symm.notes?_onto hs₁] at hes₂
  rw [h.notes?_onto hs₁'] at hes₂'
  refine ⟨?_, ?_, ?_, ?_, es₂ ++ es₁, es₂' ++ es₁', ?_, ?_, ?_⟩
  · rw [tasks_onto hs₂, tasks_onto hs₁, tasks_onto hs₂', tasks_onto hs₁', h.tasksAfter_comm]
  · rw [hcd, hdc, hc, hd]
  · rw [refused_iff hs₁, refused_iff hs₂', h.notes?_onto hs₁']
  · rw [refused_iff hs₁', refused_iff hs₂, h.symm.notes?_onto hs₁]
  · rw [hcd, hc, List.append_assoc]
  · rw [hdc, hd, List.append_assoc]
  · rw [List.map_append, List.map_append, hes₂, hes₁, hes₂', hes₁']
    apply List.perm_append_comm

/-- A task that is still to be done. -/
def sowing : Task :=
  ⟨"00000000-0000-4000-8000-000000000001", "Sowing", none, .low, [], .int 5,
    "2020-01-01T00:00:00Z", none, .todo, none, none, none⟩

/-- An edit of that task that gives it another title. -/
def retitling : TaskCommand :=
  .update sowing.id { TaskEdit.ofTask sowing with title := .str "Oats" }

/-- A move of that task to the second column. -/
def starting : TaskCommand := .move sowing.id (.str "doing")

/-- The stamp of an hour. -/
def hourly (n : Nat) : Stamp where
  now := Watch.still (some ⟨n * 3600 * Moment.second, some 0⟩)
  fresh := fun _ => "a"

theorem commute_sowing :
  Independent retitling starting
    ∧ (∀ s ∈ [hourly 1, hourly 2, hourly 3, hourly 4], (s.now.shows 0).isSome = true)
    ∧ (starting.onto (retitling.onto ⟨[sowing], [], false⟩ (hourly 1)) (hourly 2)).tasks
      = [{ sowing with title := "Oats", column := .doing }]
    ∧ (retitling.onto (starting.onto ⟨[sowing], [], false⟩ (hourly 3)) (hourly 4)).tasks
      = [{ sowing with title := "Oats", column := .doing }]
  := by
  have hindependent : Independent retitling starting := .updateMove
  have hshows : ∀ s ∈ [hourly 1, hourly 2, hourly 3, hourly 4], (s.now.shows 0).isSome = true := by
    simp [hourly, Watch.still]
  have htasks : (starting.onto (retitling.onto ⟨[sowing], [], false⟩ (hourly 1)) (hourly 2)).tasks
      = [{ sowing with title := "Oats", column := .doing }] := by
    decide +kernel
  obtain ⟨hsame, -⟩ := commute hindependent ⟨[sowing], [], false⟩ hshows
  exact ⟨hindependent, hshows, htasks, hsame ▸ htasks⟩

end TaskCommand

end Kanban
