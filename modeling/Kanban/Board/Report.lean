import Kanban.Board
import Kanban.Text.Blank
import Kanban.Text.Occurrence

/-!
# Reports

Views of a board: a part of the audit log, a summary of it as text, the number of tasks by
column and priority, and the mean of the scores that reviewers gave.
-/

namespace Kanban

/-! ### The audit log -/

namespace Entry

/-- The entry is about the action asked for; no name and the name `all` ask for any. -/
def hasAction (action : Option Text) (e : Entry) : Bool :=
  match action with
  | none => true
  | some a => a == "" || a == "all" || e.action.name == a

/-- The text asked for, without the blanks around it, occurs in the id of the entry's task. -/
def mentions (task : Option Text) (e : Entry) : Bool :=
  Text.occursIn (Text.trim (task.getD "").toList) e.taskId.toList

/-- The entries about an action and a task, in order. -/
def select (action task : Option Text) (entries : List Entry) : List Entry :=
  entries.filter fun e => e.hasAction action && e.mentions task

/-- The title of a task that is not on the board. -/
def untitled : Text := "Sin título"

/-- The title of the last task with an id. -/
def titleOf (tasks : List Task) (id : Text) : Text :=
  ((tasks.reverse.find? (·.id == id)).map (·.title)).getD untitled

/-- The line of the summary about an entry. -/
def line (tasks : List Task) (e : Entry) : Text :=
  e.timestamp ++ " - " ++ e.action.name ++ " - " ++ e.taskId ++ " - " ++ titleOf tasks e.taskId

/-- The number of entries about an action. -/
def count (a : Action) (entries : List Entry) : Nat := entries.countP (·.action == a)

/-- The line of the summary with the number of entries about each action. -/
def countLine (entries : List Entry) : Text :=
  Text.intercalate " | " (Action.all.map fun a => a.name ++ ": " ++ toString (count a entries))

/-- The first `n` entries, or all but the last `-n`. -/
def firsts (n : Int) (entries : List Entry) : List Entry :=
  if 0 ≤ n then entries.take n.toNat else entries.take (entries.length - n.natAbs)

/-- The lines of the summary of a log. -/
def summaryLines (tasks : List Task) (recent : Int) (entries : List Entry) : List Text :=
  (["Resumen de auditoría", "Total eventos: " ++ toString entries.length, countLine entries,
    "Últimos eventos:"] : List Text) ++ (firsts recent entries).map (line tasks)

/-- The number of entries that a summary shows. -/
def usualRecent : Int := 5

/-- The summary of a log. -/
def summary (tasks : List Task) (recent : Int) (entries : List Entry) : Text :=
  Text.intercalate "\n" (summaryLines tasks recent entries)

end Entry

/-! ### Statistics -/

/-- Why a mean cannot be given: an integer is too large for a double. -/
structure TooLarge where
  n : Int

namespace Number

/-- An integer as a double. -/
def widen (n : Int) : Except TooLarge Double :=
  match Double.ofInt? n with
  | some x => pure x
  | none => throw ⟨n⟩

/-- The sum of two numbers: an integer for integers, else a double. -/
def add : Number → Number → Except TooLarge Number
  | .int a, .int b => pure (.int (a + b))
  | .int a, .float y => do pure (.float ((← widen a).add y))
  | .float x, .int b => do pure (.float (x.add (← widen b)))
  | .float x, .float y => pure (.float (x.add y))

/-- The sum of a list, from left to right. -/
def sum (ns : List Number) : Except TooLarge Number := ns.foldlM add (.int 0)

/-- The quotient by a positive count. -/
def divCount (n : Nat) : Number → Except TooLarge Double
  | .float x => pure (x.divCount n)
  | .int a =>
    match Double.ofQuotient (a < 0) a.natAbs n with
    | .infinite _ => throw ⟨a⟩
    | x => pure x

end Number

/-- What reviewers have scored. -/
structure Review where
  /-- The mean score, to one place. -/
  average : Double
  scored : Nat
  pending : Nat

namespace Review

/-- The review of a list of scores, some of them missing. -/
def ofScores (scores : List (Option Number)) : Except TooLarge Review := do
  let given := scores.filterMap id
  let average ← match given with
    | [] => pure (Double.zero false)
    | ns => (← Number.sum ns).divCount ns.length
  pure ⟨average.roundTenth, given.length, scores.length - given.length⟩

/-- The review of the tasks of a board. -/
def ofTasks (tasks : List Task) : Except TooLarge Review := ofScores (tasks.map (·.score))

/-- A review in its written form. -/
def toJson (r : Review) : Json :=
  .obj [("average", .num (.float r.average)), ("scored", .int r.scored),
    ("pending", .int r.pending)]

end Review

namespace Board

/-- The number of tasks in each column. -/
def columnCounts (tasks : List Task) : Members :=
  Column.all.map fun c => (c.name, .int (tasks.countP (·.column == c)))

/-- The number of tasks of each priority that occurs. -/
def priorityCounts (tasks : List Task) : Members :=
  let counts := Priority.all.map fun p => (p.name, tasks.countP (·.priority == p))
  (counts.filter (0 < ·.2)).map fun (name, n) => (name, .int n)

/-- The numbers of tasks, as members of an object. -/
def counts (tasks : List Task) : Members :=
  [("total", .int tasks.length), ("by_state", .obj (columnCounts tasks)),
    ("by_priority", .obj (priorityCounts tasks))]

end Board

end Kanban
