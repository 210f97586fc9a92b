import Kanban.Audit
import Kanban.Json.Writer
import Kanban.Text.Encoding

/-!
# Boards

A `Board` holds the tasks in order, the audit log with the newest entry first, and whether the
board is being reviewed.  Its written form is the snapshot that is saved, exported and
imported.  A board need not have a snapshot: an integer may be too long to be written, and a
lone half of a surrogate pair has no bytes.
-/

namespace Kanban

/-- The tasks, the audit log and the review flag. -/
structure Board where
  tasks : List Task
  /-- The audit log, newest entry first. -/
  audit : List Entry
  reviewMode : Bool

namespace Board

/-- The board without tasks and entries. -/
def empty : Board := ⟨[], [], false⟩

/-- The first task with an id. -/
def task? (b : Board) (id : Text) : Option Task := b.tasks.find? (·.id == id)

/-- The ids of the tasks, in order. -/
def taskIds (b : Board) : List Text := b.tasks.map (·.id)

/-- A board in its written form. -/
def toJson (b : Board) : Json :=
  .obj [("tasks", .arr (b.tasks.map Task.toJson)), ("audit", .arr (b.audit.map Entry.toJson)),
    ("reviewMode", .bool b.reviewMode)]

/-- The text of a board, on one line or indented, if it has any. -/
def text? (b : Board) (indent : Option Nat) : Option Text := b.toJson.write? indent

/-- Why a board has no snapshot. -/
inductive Unwritten where
  /-- An integer is too long. -/
  | longInteger
  /-- No bytes encode the text. -/
  | notEncoded (t : Text)

/-- What is said about a board without a snapshot. -/
def Unwritten.message : Unwritten → Text
  | .longInteger => Json.longMessage
  | .notEncoded t => t.loneMessage

/-- The bytes in which a board is saved. -/
def snapshot (b : Board) : Except Unwritten ByteArray :=
  match b.text? none with
  | none => throw .longInteger
  | some t =>
    match t.encode? with
    | some bytes => pure bytes
    | none => throw (.notEncoded t)

end Board

end Kanban
