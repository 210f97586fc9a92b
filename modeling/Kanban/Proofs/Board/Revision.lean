import Kanban.Proofs.Board.Command
import Kanban.Proofs.Task.Mirror

/-!
# What a command makes of a task

A command about a task that may be on the board looks at nothing but the first task with its id,
and puts what it makes of it in the place of all tasks with that id; `TaskCommand.revise` is what
it makes of it, and `TaskCommand.run_eq` says that this is all.  An edit sees the id of the task and
when it was created, and keeps the column (`TaskEdit.apply_of_same`), so it makes the same of the
task in another column, and nothing new of what it has made.
-/

namespace Kanban

/-! ### Edits -/

/-- An edit of two tasks with the same id that were created at the same time gives the same, but
for the column. -/
theorem TaskEdit.apply_of_same {e : TaskEdit} {t t' u : Task} (h : e.apply t = .ok u)
    (hid : t'.id = t.id) (hcreated : t'.createdAt = t.createdAt) :
  e.apply t' = .ok { u with column := t'.column }
  := by
  simp only [apply, bind_eq_ok_iff, Draft.accept_eq_ok_iff] at h ⊢
  obtain ⟨p, hp, tags, htags, hrecord, hvalid⟩ := h
  refine ⟨p, hp, tags, htags, ?_, hvalid.moved _⟩
  funext f
  have hf := congrFun hrecord f
  cases f with
  | id => exact hf.trans (congrArg Json.str hid.symm)
  | createdAt => exact hf.trans (congrArg Json.str hcreated.symm)
  | column => rfl
  | _ => exact hf

namespace Change

theorem between_self {t : Task} (h : t.Valid) :
  between t.record t.record = []
  := by
  rw [between, List.map_eq_nil_iff, List.filter_eq_nil_iff]
  intro f _
  have hsame := (Number.compares_same.reflexive h).agree_record f
  rw [Json.agree_same] at hsame
  simp [hsame]

/-- The changes between two tasks in one column do not depend on the column. -/
theorem between_moved {t u : Task} (h : u.column = t.column) (c : Column) :
  between (Task.record { t with column := c }) (Task.record { u with column := c })
    = between t.record u.record
  := by
  have hcolumn (d : Column) : (Json.str d.name).same (.str d.name) = true := by
    rw [← Json.agree_same, Json.agree_str_iff]
  have hsame (f : Field) :
      (!(Task.record { t with column := c } f).same (Task.record { u with column := c } f))
        = !(t.record f).same (u.record f) := by
    cases f with
    | column => simp only [Task.record, h, hcolumn]
    | _ => rfl
  rw [between, between, List.filter_congr fun f _ => hsame f]
  apply List.map_congr_left
  intro f hf
  cases f with
  | column =>
      have hdiffers := (List.mem_filter.mp hf).2
      simp only [Task.record, h, hcolumn] at hdiffers
      cases hdiffers
  | _ => rfl

end Change

/-! ### Commands -/

/-- A command about a task that may be on the board. -/
inductive TaskCommand where
  | update (id : Text) (e : TaskEdit)
  | delete (id : Text)
  | move (id : Text) (column : Json)

/-- What is made of a task: what was done, with the changes that are noted, and the task that takes
its place, unless it is removed. -/
structure Revision where
  action : Action
  changes : List Change
  task : Option Task

namespace Revision

/-- A task is edited, if that changes it. -/
def edit (t u : Task) : Option Revision :=
  if (Change.between t.record u.record).isEmpty then none
  else some ⟨.update, Change.between t.record u.record, some u⟩

/-- A task is removed. -/
def removal (t : Task) : Revision := ⟨.delete, [⟨"task", t.toJson, .null⟩], none⟩

/-- A task is brought to a column, if it is in another one. -/
def move (c : Column) (t : Task) : Option Revision :=
  if t.column = c then none
  else some ⟨.move, [⟨Field.column.key, .str t.column.name, .str c.name⟩],
    some { t with column := c }⟩

end Revision

namespace TaskCommand

/-- The id of the task. -/
def id : TaskCommand → Text
  | update id _ => id
  | delete id => id
  | move id _ => id

/-- Carries out a command. -/
def run (b : Board) (s : Stamp) : TaskCommand → Except Refusal (Option (Board × Entry))
  | update id e => b.update s id e
  | delete id => b.delete s id
  | move id column => b.move s id column

/-- What a command makes of the first task with its id, if there is something to do. -/
def revise (found : Option Task) : TaskCommand → Except Refusal (Option Revision)
  | update _ e =>
    match found with
    | none => pure none
    | some t => do pure (Revision.edit t (← e.apply t))
  | delete _ => pure (found.map Revision.removal)
  | move _ v => do pure (found.bind (Revision.move (← Draft.column v)))

variable {c : TaskCommand} {found : Option Task} {rv : Revision} {t : Task}

/-- How a command makes something of a task. -/
inductive Revises (t : Task) : TaskCommand → Revision → Prop
  | update {id : Text} {e : TaskEdit} {u : Task} (applied : e.apply t = .ok u)
      (differs : Change.between t.record u.record ≠ []) :
      Revises t (.update id e) ⟨.update, Change.between t.record u.record, some u⟩
  | delete {id : Text} : Revises t (.delete id) (.removal t)
  | move {id : Text} {v : Json} {c : Column} (read : Draft.column v = .ok c)
      (differs : t.column ≠ c) :
      Revises t (.move id v) ⟨.move, [⟨Field.column.key, .str t.column.name, .str c.name⟩],
        some { t with column := c }⟩

theorem revises_of_revise (h : c.revise found = .ok (some rv)) :
  ∃ t, found = some t ∧ Revises t c rv
  := by
  cases c with
  | update id e =>
      cases found with
      | none => cases h
      | some t =>
          obtain ⟨u, hu, hedit⟩ := bind_eq_ok_iff.mp h
          have hrv := Except.ok.inj hedit
          rw [Revision.edit] at hrv
          split_ifs at hrv with hchanges
          obtain rfl := Option.some.inj hrv
          rw [List.isEmpty_iff] at hchanges
          exact ⟨t, rfl, .update hu hchanges⟩
  | delete id =>
      obtain ⟨t, rfl, rfl⟩ := Option.map_eq_some_iff.mp (Except.ok.inj h)
      exact ⟨t, rfl, .delete⟩
  | move id v =>
      obtain ⟨k, hk, hmove⟩ := bind_eq_ok_iff.mp h
      obtain ⟨t, rfl, hrv⟩ := Option.bind_eq_some_iff.mp (Except.ok.inj hmove)
      rw [Revision.move] at hrv
      split_ifs at hrv with hcolumn
      obtain rfl := Option.some.inj hrv
      exact ⟨t, rfl, .move hk hcolumn⟩

/-- What takes the place of a task has its id. -/
theorem Revises.id_eq (h : Revises t c rv) :
  ∀ u ∈ rv.task, u.id = t.id
  := by
  intro u hu
  cases h with
  | update applied =>
      obtain rfl := Option.some.inj hu
      apply (TaskEdit.apply_spec applied).2.1
  | delete => cases hu
  | move => rw [← Option.some.inj hu]

/-- There is nothing left to do with what takes the place of a task. -/
theorem Revises.again (h : Revises t c rv) :
  c.revise rv.task = .ok none
  := by
  cases h with
  | @update id e u applied =>
      obtain ⟨hvalid, hid, hcreated, -⟩ := e.apply_spec applied
      have hagain : e.apply u = .ok u := TaskEdit.apply_of_same applied hid hcreated
      apply bind_eq_ok_iff.mpr ⟨u, hagain, ?_⟩
      rw [Revision.edit, Change.between_self hvalid]
      rfl
  | delete => rfl
  | move read =>
      apply bind_eq_ok_iff.mpr ⟨_, read, ?_⟩
      rw [Option.bind_some, Revision.move, if_pos rfl]
      rfl

/-! ### The task afterwards -/

/-- What a command makes of the first task with its id, if it is not refused and there is something
to do. -/
def revision? (c : TaskCommand) (found : Option Task) : Option Revision :=
  (c.revise found).toOption.join

theorem revision?_eq_some_iff :
  c.revision? found = some rv ↔ c.revise found = .ok (some rv)
  := by
  rw [revision?, Option.join_eq_some_iff, toOption_eq_some_iff]

/-- The first task with the id after a command. -/
def fate (c : TaskCommand) (found : Option Task) : Option Task :=
  (c.revision? found).elim found Revision.task

/-- After a command that was not refused there is nothing left to do. -/
theorem revise_fate {r : Option Revision} (h : c.revise found = .ok r) :
  c.revise (c.fate found) = .ok none
  := by
  rw [fate, revision?, h]
  cases r with
  | none => exact h
  | some rv =>
      obtain ⟨t, -, hrv⟩ := revises_of_revise h
      apply hrv.again

end TaskCommand

/-! ### Replacing tasks -/

namespace Task

variable {id id' : Text} {new new' : Option Task} {tasks : List Task} {t u : Task}

/-- The tasks with another one in the place of those with an id, or without those. -/
def substitute (id : Text) (new : Option Task) (tasks : List Task) : List Task :=
  tasks.filterMap fun t => if t.id = id then new else some t

theorem substitute_cons_of_eq (ht : t.id = id) :
  substitute id new (t :: tasks) = new.toList ++ substitute id new tasks
  := by
  rw [substitute, List.filterMap_cons, if_pos ht]
  cases new <;> rfl

theorem substitute_cons_of_ne (ht : t.id ≠ id) :
  substitute id new (t :: tasks) = t :: substitute id new tasks
  := by
  rw [substitute, List.filterMap_cons, if_neg ht]
  rfl

theorem find?_substitute_none :
  (substitute id none tasks).find? (·.id == id) = none
  := by
  rw [List.find?_eq_none]
  intro u hu
  obtain ⟨t, -, ht⟩ := List.mem_filterMap.mp hu
  split_ifs at ht with hid
  obtain rfl := Option.some.inj ht
  simpa using hid

theorem find?_substitute (hfound : (tasks.find? (·.id == id)).isSome = true)
    (hnew : ∀ u ∈ new, u.id = id) :
  (substitute id new tasks).find? (·.id == id) = new
  := by
  cases new with
  | none => apply find?_substitute_none
  | some u =>
      have hu : u.id = id := hnew u rfl
      induction tasks with
      | nil => cases hfound
      | cons t ts ih =>
          by_cases ht : t.id = id
          · rw [substitute_cons_of_eq ht]
            apply List.find?_cons_of_pos
            simpa using hu
          · rw [List.find?_cons_of_neg (by simpa using ht)] at hfound
            rw [substitute_cons_of_ne ht, List.find?_cons_of_neg (by simpa using ht)]
            apply ih hfound

theorem find?_substitute_of_ne (hne : id' ≠ id) (hnew : ∀ u ∈ new, u.id = id) :
  (substitute id new tasks).find? (·.id == id') = tasks.find? (·.id == id')
  := by
  induction tasks with
  | nil => rfl
  | cons t ts ih =>
      by_cases ht : t.id = id
      · have hskip {us : List Task} {u : Task} (hu : u.id = id) :
            (u :: us).find? (·.id == id') = us.find? (·.id == id') := by
          apply List.find?_cons_of_neg
          simpa [hu] using hne.symm
        rw [substitute_cons_of_eq ht, hskip ht, ← ih]
        cases new with
        | none => rfl
        | some u => apply hskip (hnew u rfl)
      · rw [substitute_cons_of_ne ht, List.find?_cons, List.find?_cons, ih]

/-- Of two tasks put in the same place, one after the other, the second one stays. -/
theorem substitute_substitute (hu : u.id = id) :
  substitute id new (substitute id (some u) tasks) = substitute id new tasks
  := by
  rw [substitute, substitute, substitute, List.filterMap_filterMap]
  apply List.filterMap_congr
  intro t _
  split_ifs with ht
  · rw [Option.bind_some, if_pos hu]
  · rw [Option.bind_some, if_neg ht]

/-- What takes the place of a task with one id stays where another id is asked for. -/
theorem bind_substitute_of_ne (hne : id' ≠ id) (hnew : ∀ u ∈ new, u.id = id) :
  (new.bind fun u => if u.id = id' then new' else some u) = new
  := by
  cases new with
  | none => rfl
  | some u =>
      have hu : u.id ≠ id' := (hnew u rfl).trans_ne hne.symm
      rw [Option.bind_some, if_neg hu]

theorem substitute_comm (hne : id' ≠ id) (hnew : ∀ u ∈ new, u.id = id)
    (hnew' : ∀ u ∈ new', u.id = id') :
  substitute id' new' (substitute id new tasks) = substitute id new (substitute id' new' tasks)
  := by
  rw [substitute, substitute, substitute, substitute, List.filterMap_filterMap,
    List.filterMap_filterMap]
  apply List.filterMap_congr
  intro t _
  by_cases ht : t.id = id
  · have ht' : t.id ≠ id' := ht.trans_ne hne.symm
    rw [if_pos ht, bind_substitute_of_ne hne hnew, if_neg ht', Option.bind_some, if_pos ht]
  · rw [if_neg ht, Option.bind_some]
    by_cases ht' : t.id = id'
    · rw [if_pos ht', bind_substitute_of_ne hne.symm hnew']
    · rw [if_neg ht', Option.bind_some, if_neg ht]

end Task

/-! ### The board afterwards -/

/-- The board after a command; it is the same when there was nothing to do or the command was
refused. -/
def Board.after (b : Board) : Except Refusal (Option (Board × Entry)) → Board
  | .ok (some (b', _)) => b'
  | _ => b

namespace TaskCommand

variable {c : TaskCommand} {rv : Revision} {tasks : List Task} {b : Board} {s : Stamp}

/-- The tasks after a command. -/
def tasksAfter (c : TaskCommand) (tasks : List Task) : List Task :=
  (c.revision? (tasks.find? (·.id == c.id))).elim tasks fun rv =>
    Task.substitute c.id rv.task tasks

/-- What is made of a task that was found takes its place under its id. -/
theorem id_of_revision? (h : c.revision? (tasks.find? (·.id == c.id)) = some rv) :
  (tasks.find? (·.id == c.id)).isSome = true ∧ ∀ u ∈ rv.task, u.id = c.id
  := by
  obtain ⟨t, ht, hrv⟩ := revises_of_revise (revision?_eq_some_iff.mp h)
  have hid : t.id = c.id := by simpa using List.find?_some ht
  rw [ht, ← hid]
  exact ⟨rfl, hrv.id_eq⟩

theorem find?_tasksAfter :
  (c.tasksAfter tasks).find? (·.id == c.id) = c.fate (tasks.find? (·.id == c.id))
  := by
  rw [tasksAfter, fate]
  cases hrv : c.revision? (tasks.find? (·.id == c.id)) with
  | none => rfl
  | some rv =>
      obtain ⟨hsome, hid⟩ := id_of_revision? hrv
      apply Task.find?_substitute hsome hid

theorem find?_tasksAfter_of_ne {id : Text} (hne : id ≠ c.id) :
  (c.tasksAfter tasks).find? (·.id == id) = tasks.find? (·.id == id)
  := by
  rw [tasksAfter]
  cases hrv : c.revision? (tasks.find? (·.id == c.id)) with
  | none => rfl
  | some rv => apply Task.find?_substitute_of_ne hne (id_of_revision? hrv).2

/-- Puts what is made of a task on a board and makes the entry about it. -/
def enact (b : Board) (s : Stamp) (id : Text) :
    Option Revision → Except Refusal (Option (Board × Entry))
  | none => pure none
  | some rv => do
    let x ← s.entry 0 rv.action id rv.changes
    pure (some (b.record (Task.substitute id rv.task b.tasks) x))

theorem replaceTask_eq (id : Text) (u : Task) :
  b.replaceTask id u = Task.substitute id (some u) b.tasks
  := by
  rw [Board.replaceTask, Task.substitute, ← List.filterMap_eq_map]
  apply List.filterMap_congr
  intro t _
  rw [Function.comp_apply]
  split_ifs <;> rfl

theorem filter_eq_substitute (id : Text) :
  tasks.filter (·.id ≠ id) = Task.substitute id none tasks
  := by
  rw [Task.substitute, ← List.filterMap_eq_filter]
  apply List.filterMap_congr
  intro t _
  by_cases ht : t.id = id <;> simp [ht]

/-- A command enacts what it makes of the first task with its id. -/
theorem run_eq (c : TaskCommand) (b : Board) (s : Stamp) :
  c.run b s = c.revise (b.task? c.id) >>= enact b s c.id
  := by
  cases c with
  | update id e =>
      simp only [run, Board.update, revise, TaskCommand.id]
      cases b.task? id with
      | none => rfl
      | some t =>
          dsimp only
          cases e.apply t with
          | error r => rfl
          | ok u =>
              dsimp only [bind, Except.bind, Revision.edit]
              cases Change.between t.record u.record with
              | nil => rfl
              | cons change changes =>
                  rw [replaceTask_eq]
                  rfl
  | delete id =>
      rw [run, Board.delete, revise, TaskCommand.id]
      cases b.task? id with
      | none => rfl
      | some t =>
          dsimp only
          rw [filter_eq_substitute]
          rfl
  | move id v =>
      rw [run, Board.move, revise, TaskCommand.id]
      cases Draft.column v with
      | error r => rfl
      | ok k =>
          cases b.task? id with
          | none => rfl
          | some t =>
              dsimp only [bind, Except.bind, Option.bind, Revision.move]
              split_ifs
              · rfl
              · rw [replaceTask_eq]
                rfl

theorem tasks_after {r : Option (Board × Entry)} (h : c.run b s = .ok r) :
  (b.after (.ok r)).tasks = c.tasksAfter b.tasks
  := by
  rw [run_eq, bind_eq_ok_iff, Board.task?] at h
  obtain ⟨rv, hrevise, henact⟩ := h
  rw [tasksAfter, revision?, hrevise]
  cases rv with
  | none =>
      obtain rfl := Except.ok.inj henact
      rfl
  | some rv =>
      obtain ⟨x, -, hr⟩ := bind_eq_ok_iff.mp henact
      obtain rfl := Except.ok.inj hr
      rfl

/-- The same command once more has nothing to do. -/
theorem run_again {r : Option (Board × Entry)} (h : c.run b s = .ok r) (s' : Stamp) :
  c.run (b.after (.ok r)) s' = .ok none
  := by
  obtain ⟨rv, hrevise, -⟩ := bind_eq_ok_iff.mp ((run_eq c b s).symm.trans h)
  rw [run_eq, Board.task?, tasks_after h, find?_tasksAfter]
  rw [← Board.task?, revise_fate hrevise]
  rfl

end TaskCommand

end Kanban
