import Kanban.Board.Issue
import Kanban.Task

/-!
# Drafts

What a caller asks for when a task is created or edited.  The values of a `NewTask` or a
`TaskEdit` are whatever the caller supplied; they become a task only when the board accepts
them.  `NewTask.ofJson` and `TaskEdit.ofJson` take a draft from a request, where the
priority, the tags, the estimate and the column have to be of the right form already, and
`TaskEdit.ofTask` starts an edit from a task as it is.
-/

namespace Kanban

/-- Why a request is refused. -/
inductive Refusal where
  | badPriority (v : Json)
  | badColumn (v : Json)
  | tagsNotList (v : Json)
  | estimateNotWhole (v : Json)
  /-- The task would not be a valid one. -/
  | invalid (first : Issue) (more : List Issue)
  /-- The tags of a draft are no collection. -/
  | tagsNotCollection
  /-- The request is no object. -/
  | notObject
  /-- An issue cannot be shown, since an integer in it is too long. -/
  | longInteger
  /-- The clock shows a time outside of the calendar, so there is no time to be noted. -/
  | noTime

namespace Refusal

/-- What is said about a value; it cannot be shown when an integer in it is too long. -/
def about (v : Json) (start : Text) : Text :=
  match v.display? with
  | some shown => start ++ ": " ++ shown
  | none => Json.longMessage

/-- A refusal in words, where it has any. -/
def message? : Refusal → Option Text
  | .badPriority v => some (about v "Invalid priority")
  | .badColumn v => some (about v "Invalid state")
  | .tagsNotList v => some (about v "tags must be a list")
  | .estimateNotWhole v => some (about v "estimateMinutes must be a whole number")
  | .invalid first more => some (((first :: more).mapM Issue.text?).elim Json.longMessage
      (Text.intercalate "; "))
  | .longInteger => some Json.longMessage
  | .tagsNotCollection => none
  | .notObject => none
  | .noTime => none

end Refusal

/-- A task that is to be created. -/
structure NewTask where
  title : Json
  priority : Json
  tags : Json
  estimate : Json
  description : Json
  dueAt : Json
  column : Json

/-- New values for all fields of a task that can be edited. -/
structure TaskEdit where
  title : Json
  priority : Json
  tags : Json
  estimate : Json
  description : Json
  dueAt : Json
  reviewerNote : Json
  score : Json
  scoreComment : Json

namespace Draft

/-- The priority that a value names. -/
def priority (v : Json) : Except Refusal Priority :=
  match v with
  | .str s =>
    match Priority.ofName? s with
    | some p => pure p
    | none => throw (.badPriority v)
  | _ => throw (.badPriority v)

/-- The column that a value names. -/
def column (v : Json) : Except Refusal Column :=
  match v with
  | .str s =>
    match Column.ofName? s with
    | some c => pure c
    | none => throw (.badColumn v)
  | _ => throw (.badColumn v)

/-- A list of tags, which may be missing. -/
def tags : Json → Except Refusal Json
  | .null => pure (.arr [])
  | .arr items => pure (.arr items)
  | v => throw (.tagsNotList v)

/-- A whole number of minutes, which may be missing. -/
def estimate (v : Json) : Except Refusal Json :=
  match v with
  | .null => pure (.int 0)
  | .num n =>
    match n.toInt? with
    | some i => pure (.int i)
    | none => throw (.estimateNotWhole v)
  | v => throw (.estimateNotWhole v)

/-- The column of a new task; a value that counts for nothing leaves it open. -/
def openColumn (v : Json) : Except Refusal Json :=
  if v.truthy then do pure (.str (← column v).name) else pure .null

/-- The title in a request. -/
def title (m : Members) : Json := (m.get? "title").getD (.str "")

/-- The priority in a request, medium if there is none. -/
def requestedPriority (m : Members) : Except Refusal Json := do
  pure (.str (← priority ((m.get? "priority").getD (.str Priority.medium.name))).name)

end Draft

namespace NewTask

/-- The new task that the members of a request describe. -/
def ofMembers (m : Members) : Except Refusal NewTask := do
  let priority ← Draft.requestedPriority m
  let tags ← Draft.tags (m.value "tags")
  let estimate ← Draft.estimate (m.value "estimateMinutes")
  let column ← Draft.openColumn (m.value "state")
  pure {
    title := Draft.title m
    priority, tags, estimate, column
    description := m.value "description"
    dueAt := m.value "dueAt" }

/-- The new task that a request describes. -/
def ofJson : Json → Except Refusal NewTask
  | .obj m => ofMembers m
  | _ => throw .notObject

end NewTask

namespace TaskEdit

/-- The edit that the members of a request describe. -/
def ofMembers (m : Members) : Except Refusal TaskEdit := do
  let priority ← Draft.requestedPriority m
  let tags ← Draft.tags (m.value "tags")
  let estimate ← Draft.estimate (m.value "estimateMinutes")
  pure {
    title := Draft.title m
    priority, tags, estimate
    description := m.value "description"
    dueAt := m.value "dueAt"
    reviewerNote := m.value "reviewerNote"
    score := m.value "score"
    scoreComment := m.value "scoreComment" }

/-- The edit that a request describes. -/
def ofJson : Json → Except Refusal TaskEdit
  | .obj m => ofMembers m
  | _ => throw .notObject

/-- The edit that leaves a task as it is. -/
def ofTask (t : Task) : TaskEdit where
  title := t.record .title
  priority := t.record .priority
  tags := t.record .tags
  estimate := t.record .estimate
  description := t.record .description
  dueAt := t.record .dueAt
  reviewerNote := t.record .reviewerNote
  score := t.record .score
  scoreComment := t.record .scoreComment

end TaskEdit

end Kanban
