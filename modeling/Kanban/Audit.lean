import Kanban.Task

/-!
# The audit log

Every accepted change of the board leaves an `Entry`: what was done to which task, when, and
the old and new value of each thing that changed.  The log has a single actor, whose label
every entry carries when it is written.
-/

namespace Kanban

/-- What was done to a task. -/
inductive Action where
  | create
  | update
  | delete
  | move
  deriving DecidableEq

namespace Action

/-- All actions. -/
def all : List Action := [.create, .update, .delete, .move]

/-- The name of an action. -/
def name : Action → Text
  | .create => "CREATE"
  | .update => "UPDATE"
  | .delete => "DELETE"
  | .move => "MOVE"

/-- The action of a name. -/
def ofName? (s : Text) : Option Action := all.find? (·.name == s)

theorem ofName?_name (a : Action) :
  ofName? a.name = some a
  := by
  cases a <;> decide

end Action

/-- The value of something before and after a change. -/
structure Change where
  field : Text
  before : Json
  after : Json

namespace Change

/-- The two values, under the name of what changed. -/
def toMember (c : Change) : Text × Json :=
  (c.field, .obj [("before", c.before), ("after", c.after)])

/-- The changes that lead from one record to another: the mutable fields with different
values, in their order. -/
def between (before after : Record) : List Change :=
  (Field.mutable.filter fun f => !(before f).same (after f)).map fun f =>
    ⟨f.key, before f, after f⟩

end Change

/-- An entry of the audit log. -/
structure Entry where
  id : Text
  /-- The time of the change, as it was written. -/
  timestamp : Text
  action : Action
  taskId : Text
  changes : List Change

namespace Entry

/-- The label of the actor of every entry. -/
def actorLabel : Text := "Alumno/a"

/-- An entry in its written form. -/
def toJson (e : Entry) : Json :=
  .obj [("id", .str e.id), ("timestamp", .str e.timestamp), ("action", .str e.action.name),
    ("taskId", .str e.taskId), ("diff", .obj (e.changes.map Change.toMember)),
    ("actorLabel", .str actorLabel)]

end Entry

end Kanban
