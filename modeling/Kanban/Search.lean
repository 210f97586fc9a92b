import Kanban.Moment.Reader
import Kanban.Search.Clause
import Kanban.Text.Occurrence

/-!
# Searching tasks

A `Query` puts the clauses of a search together: of tags and text all have to match, of the
other kinds the last clause counts.  `Query.ofText` reads a query, `Query.filter` finds the
tasks that match it, in order, and `search` does both.  Text and tags are compared in lower
case.
-/

namespace Kanban

/-- What a task has to match. -/
structure Query where
  /-- The words looked for in the text of a task, as they were written. -/
  text : Text
  tags : List Text
  priority : Option Priority
  due : Option Due
  estimate : Option EstimateBound
  deriving DecidableEq

namespace Search.Clause

/-- The word of a text clause. -/
def free? : Clause → Option Text
  | .free word => some (Text.ofList word)
  | _ => none

/-- The tag of a tag clause. -/
def tag? : Clause → Option Text
  | .tag [] => none
  | .tag name => some (Text.ofList name)
  | _ => none

/-- The priority of a priority clause. -/
def priority? : Clause → Option Priority
  | .priority p => some p
  | _ => none

/-- What a due clause asks for. -/
def due? : Clause → Option Due
  | .due d => some d
  | _ => none

/-- The bound of an estimate clause. -/
def estimate? : Clause → Option EstimateBound
  | .estimate bound => some bound
  | _ => none

end Search.Clause

namespace Query

open Search

/-- The query that clauses make up. -/
def ofClauses (cs : List Clause) : Query where
  text := Text.intercalate " " (cs.filterMap Clause.free?)
  tags := cs.filterMap Clause.tag?
  priority := (cs.filterMap Clause.priority?).getLast?
  due := (cs.filterMap Clause.due?).getLast?
  estimate := (cs.filterMap Clause.estimate?).getLast?

/-- The query that a text is. -/
def ofText (s : Text) : Except LongNumber Query := do
  pure (ofClauses (← (Text.words s.toList).mapM Clause.ofWord))

/-- The query that is asked; where there is no text, nothing is asked for. -/
def read (text : Option Text) : Except LongNumber Query := ofText (text.getD "")

/-- The words looked for in the text of a task, in lower case. -/
def textWords (q : Query) : List (List Point) :=
  Text.words (Text.lower (Text.trim q.text.toList))

/-- The query asks for nothing. -/
def isEmpty (q : Query) : Bool :=
  q.textWords.isEmpty && q.tags.isEmpty && q.priority.isNone && q.due.isNone && q.estimate.isNone

/-! ### Matching -/

/-- Why a search cannot be carried out: now or a week from now the calendar has ended. -/
structure PastCalendar where
  now : Option Moment

/-- The text of a task that is searched: its title and its description. -/
def haystack (t : Task) : List Point :=
  Text.lower (t.title.toList ++ Point.char ' ' :: (t.description.getD "").toList)

/-- All words of the query occur in the text of the task. -/
def textMatches (q : Query) (t : Task) : Bool :=
  q.textWords.all fun w => Text.occursIn w (haystack t)

/-- The tags of a task as they are compared. -/
def comparedTags (t : Task) : List (List Point) :=
  t.tags.map fun tag => Text.lower (Text.trim tag.toList)

/-- The task has all tags of the query. -/
def tagsMatch (q : Query) (t : Task) : Bool :=
  q.tags.all fun tag => (comparedTags t).contains (Text.lower tag.toList)

/-- The task has the priority of the query. -/
def priorityMatches (q : Query) (t : Task) : Bool :=
  q.priority.all (· == t.priority)

/-- The estimate of the task is within the bound of the query. -/
def estimateMatches (q : Query) (t : Task) : Bool :=
  q.estimate.all fun bound => bound.comparison.holds t.estimate bound.threshold

/-- The due time of a task is as asked. -/
def dueHolds (d : Due) (now : Moment) (t : Task) : Except PastCalendar Bool :=
  match t.dueAt.bind Moment.ofText? with
  | none => pure false
  | some dueAt =>
    match d with
    | .overdue => pure (dueAt.instant < now.instant)
    | .week =>
      if dueAt.instant < now.instant then pure false
      else
        match now.addDays? 7 with
        | some last => pure (dueAt.instant ≤ last.instant)
        | none => throw ⟨some now⟩

/-- The due time of the task is as the query asks. -/
def dueMatches (q : Query) (now : Moment) (t : Task) : Except PastCalendar Bool :=
  match q.due with
  | some d => dueHolds d now t
  | none => pure true

/-- The task matches the query.  The due time is looked at only where text, tags and priority
match. -/
def holds (q : Query) (now : Moment) (t : Task) : Except PastCalendar Bool :=
  if q.textMatches t && q.tagsMatch t && q.priorityMatches t then do
    pure ((← q.dueMatches now t) && q.estimateMatches t)
  else pure false

/-- The tasks that match the query, in order. -/
def filter (q : Query) (now : Moment) (tasks : List Task) : Except PastCalendar (List Task) :=
  tasks.filterM (q.holds now)

/-- The tasks that match the query by a clock, which may show no time. -/
def filterBy (q : Query) (clock : Option Moment) (tasks : List Task) :
    Except PastCalendar (List Task) :=
  match clock with
  | some now => q.filter now tasks
  | none => throw ⟨none⟩

end Query

/-- Why a search finds nothing out. -/
inductive Search.Fault where
  /-- What is asked is no query. -/
  | unread (reason : Search.LongNumber)
  /-- The calendar ends too early. -/
  | unanswered (reason : Query.PastCalendar)

/-- The tasks that a text finds by a clock, in order. -/
def search (clock : Option Moment) (text : Option Text) (tasks : List Task) :
    Except Search.Fault (List Task) := do
  let q ← (Query.read text).mapError .unread
  (q.filterBy clock tasks).mapError .unanswered

end Kanban
