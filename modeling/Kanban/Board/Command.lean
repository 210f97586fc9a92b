import Kanban.Board.Snapshot
import Kanban.Task.Draft

/-!
# Commands

What can be done to a board.  `Board.create`, `Board.update`, `Board.delete` and `Board.move`
give the new board and the entry that is now in front of its audit log; they give nothing
when there is nothing to do, and a refusal when the outcome would not be a valid task.  What
they create is marked with a `Stamp`: ids that are not yet in use, and the times at which they
are drawn.  There may be no time that can be noted; then nothing can be created and no entry
made.
-/

namespace Kanban

/-- A watch: what it shows at each reading, if the calendar has that time. -/
structure Watch where
  shows : Nat → Option Moment

namespace Watch

/-- A watch that stands still. -/
def still (now : Option Moment) : Watch := ⟨fun _ => now⟩

instance : Coe (Option Moment) Watch := ⟨still⟩

end Watch

/-- The unused ids with which an operation marks what it creates, and a watch that is read
when each of them is drawn. -/
structure Stamp where
  now : Watch
  fresh : Nat → Text

namespace Stamp

/-- The text of the time at which the `i`-th id is drawn. -/
def time (s : Stamp) (i : Nat) : Except Refusal Text :=
  match s.now.shows i with
  | some m => pure m.stamp
  | none => throw .noTime

/-- An entry with the `i`-th of the unused ids, made when it is drawn. -/
def entry (s : Stamp) (i : Nat) (action : Action) (taskId : Text) (changes : List Change) :
    Except Refusal Entry := do
  pure ⟨s.fresh i, ← s.time i, action, taskId, changes⟩

end Stamp

namespace Draft

/-- A text without the blanks around it, absent when nothing is left; any other value is kept
as it is. -/
def clean : Json → Json
  | .str s =>
    let cs := Text.trim s.toList
    if cs.isEmpty then .null else .str (Text.ofList cs)
  | v => v

/-- A value that counts for something; any other is absent. -/
def present (v : Json) : Json := if v.truthy then v else .null

/-- The members of a collection: the items of a list, the characters of a text or the names
in an object. -/
def collection : Json → Except Refusal (List Json)
  | .arr items => pure items
  | .str s => pure (s.toList.map fun c => .str (Text.ofList [c]))
  | .obj members => pure (members.map fun (k, _) => .str k)
  | _ => throw .tagsNotCollection

/-- The column of a new task, the first one if it was left open. -/
def startColumn (v : Json) : Except Refusal Column :=
  if v.truthy then column v else pure .todo

/-- The task of a record, if it is a valid one. -/
def accept (r : Record) : Except Refusal Task :=
  match Task.check r.toJson with
  | .ok t => pure t
  | .bad first more => throw (.invalid first more)

end Draft

/-- The task that a draft makes, with the first of the unused ids. -/
def NewTask.toTask (d : NewTask) (s : Stamp) : Except Refusal Task := do
  let priority ← Draft.priority d.priority
  let tags ← Draft.collection d.tags
  let time ← s.time 0
  let column ← Draft.startColumn d.column
  Draft.accept fun
    | .id => .str (s.fresh 0)
    | .title => d.title
    | .description => Draft.clean d.description
    | .priority => .str priority.name
    | .tags => .arr tags
    | .estimate => d.estimate
    | .createdAt => .str time
    | .dueAt => Draft.present d.dueAt
    | .column => .str column.name
    | .reviewerNote => .null
    | .score => .null
    | .scoreComment => .null

/-- The task that an edit makes of another one. -/
def TaskEdit.apply (e : TaskEdit) (t : Task) : Except Refusal Task := do
  let priority ← Draft.priority e.priority
  let tags ← Draft.collection e.tags
  Draft.accept fun
    | .id => t.record .id
    | .title => e.title
    | .description => Draft.clean e.description
    | .priority => .str priority.name
    | .tags => .arr tags
    | .estimate => e.estimate
    | .createdAt => t.record .createdAt
    | .dueAt => Draft.present e.dueAt
    | .column => t.record .column
    | .reviewerNote => Draft.clean e.reviewerNote
    | .score => e.score
    | .scoreComment => Draft.clean e.scoreComment

namespace Board

/-- A board in which the tasks have changed, with the entry about it. -/
def record (b : Board) (tasks : List Task) (e : Entry) : Board × Entry :=
  ({ b with tasks, audit := e :: b.audit }, e)

/-- A task put in the place of those with the same id. -/
def replaceTask (b : Board) (id : Text) (t : Task) : List Task :=
  b.tasks.map fun u => if u.id = id then t else u

/-- A new task at the end of the board. -/
def create (b : Board) (s : Stamp) (d : NewTask) : Except Refusal (Board × Entry) := do
  let t ← d.toTask s
  let e ← s.entry 1 .create t.id [⟨"task", .null, t.toJson⟩]
  pure (b.record (b.tasks ++ [t]) e)

/-- An edited task in its place. -/
def update (b : Board) (s : Stamp) (id : Text) (e : TaskEdit) :
    Except Refusal (Option (Board × Entry)) :=
  match b.task? id with
  | none => pure none
  | some t => do
    let u ← e.apply t
    match Change.between t.record u.record with
    | [] => pure none
    | changes => do
      let e ← s.entry 0 .update id changes
      pure (some (b.record (b.replaceTask id u) e))

/-- A board without a task. -/
def delete (b : Board) (s : Stamp) (id : Text) : Except Refusal (Option (Board × Entry)) :=
  match b.task? id with
  | none => pure none
  | some t => do
    let e ← s.entry 0 .delete id [⟨"task", t.toJson, .null⟩]
    pure (some (b.record (b.tasks.filter (·.id ≠ id)) e))

/-- A task in another column, which is named by a value. -/
def move (b : Board) (s : Stamp) (id : Text) (column : Json) :
    Except Refusal (Option (Board × Entry)) := do
  let column ← Draft.column column
  match b.task? id with
  | none => pure none
  | some t =>
    if t.column = column then pure none
    else do
      let change := ⟨Field.column.key, .str t.column.name, .str column.name⟩
      let e ← s.entry 0 .move id [change]
      pure (some (b.record (b.replaceTask id { t with column }) e))

/-- The board with the review flag set. -/
def setReviewMode (b : Board) (value : Bool) : Board := { b with reviewMode := value }

end Board

end Kanban
