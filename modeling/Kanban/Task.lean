import Kanban.Json

/-!
# Tasks

A `Task` is a unit of work on the board: what is to be done, how urgent it is, how long it
should take, in which column it stands, and what a reviewer has said about it.  `Field` names
the parts of a task in the order in which they are written, and a `Record` gives each of them
a value, `null` for what is absent; `Task.record` is the record of a task, and `Task.toJson`
writes those of its fields that are present.
-/

namespace Kanban

/-- How urgent a task is. -/
inductive Priority where
  | low
  | medium
  | high
  deriving DecidableEq

namespace Priority

/-- All priorities, in ascending order. -/
def all : List Priority := [.low, .medium, .high]

/-- The name of a priority. -/
def name : Priority → Text
  | .low => "low"
  | .medium => "medium"
  | .high => "high"

/-- The priority of a name. -/
def ofName? (s : Text) : Option Priority := all.find? (·.name == s)

theorem ofName?_name (p : Priority) :
  ofName? p.name = some p
  := by
  cases p <;> decide

end Priority

/-- The columns of the board. -/
inductive Column where
  | todo
  | doing
  | done
  deriving DecidableEq

namespace Column

/-- All columns, from left to right. -/
def all : List Column := [.todo, .doing, .done]

/-- The name of a column. -/
def name : Column → Text
  | .todo => "todo"
  | .doing => "doing"
  | .done => "done"

/-- The column of a name. -/
def ofName? (s : Text) : Option Column := all.find? (·.name == s)

theorem ofName?_name (c : Column) :
  ofName? c.name = some c
  := by
  cases c <;> decide

end Column

/-- A unit of work. -/
structure Task where
  id : Text
  title : Text
  description : Option Text
  priority : Priority
  tags : List Text
  /-- The estimated effort in minutes. -/
  estimate : Number
  /-- The time of creation, as it was written. -/
  createdAt : Text
  /-- The time by which the task is due, as it was written. -/
  dueAt : Option Text
  column : Column
  reviewerNote : Option Text
  score : Option Number
  scoreComment : Option Text
  deriving DecidableEq

/-- The parts of a task. -/
inductive Field where
  | id
  | title
  | description
  | priority
  | tags
  | estimate
  | createdAt
  | dueAt
  | column
  | reviewerNote
  | score
  | scoreComment
  deriving DecidableEq

namespace Field

/-- All fields, in the order in which they are written. -/
def all : List Field :=
  [.id, .title, .description, .priority, .tags, .estimate, .createdAt, .dueAt, .column,
    .reviewerNote, .score, .scoreComment]

/-- The fields that may change after a task has been created. -/
def mutable : List Field :=
  [.title, .description, .priority, .tags, .estimate, .dueAt, .column, .reviewerNote, .score,
    .scoreComment]

/-- The name under which a field is written. -/
def key : Field → Text
  | .id => "id"
  | .title => "title"
  | .description => "description"
  | .priority => "priority"
  | .tags => "tags"
  | .estimate => "estimateMinutes"
  | .createdAt => "createdAt"
  | .dueAt => "dueAt"
  | .column => "state"
  | .reviewerNote => "reviewerNote"
  | .score => "score"
  | .scoreComment => "scoreComment"

end Field

/-- A value for each field of a task, `null` for an absent one. -/
abbrev Record := Field → Json

/-- The fields that are present, as an object. -/
def Record.toJson (r : Record) : Json :=
  .obj ((Field.all.filter fun f => !(r f).isNull).map fun f => (f.key, r f))

namespace Task

/-- The record of a task. -/
def record (t : Task) : Record
  | .id => .str t.id
  | .title => .str t.title
  | .description => .ofText? t.description
  | .priority => .str t.priority.name
  | .tags => .strs t.tags
  | .estimate => .num t.estimate
  | .createdAt => .str t.createdAt
  | .dueAt => .ofText? t.dueAt
  | .column => .str t.column.name
  | .reviewerNote => .ofText? t.reviewerNote
  | .score => (t.score.map .num).getD .null
  | .scoreComment => .ofText? t.scoreComment

/-- A task in its written form. -/
def toJson (t : Task) : Json := t.record.toJson

end Task

end Kanban
