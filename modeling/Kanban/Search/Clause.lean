import Kanban.Task
import Kanban.Text.Blank
import Kanban.Text.Digit
import Kanban.Text.Lowercase

/-!
# Clauses of a search

A search is written as words.  A word may be a clause about the tag, the priority, the due
time or the estimate of a task; any other word is looked for in the text of the task.
`Clause.ofWord` tells which clause a word is.  It looks at the lower case of the word, and a
word whose clause has no sense, such as `p:urgent`, counts as text.
-/

namespace Kanban

/-- How two numbers are compared. -/
inductive Comparison where
  | less
  | atMost
  | greater
  | atLeast
  | equal
  deriving DecidableEq

namespace Comparison

/-- The sign of a comparison. -/
def sign : Comparison → Text
  | .less => "<"
  | .atMost => "<="
  | .greater => ">"
  | .atLeast => ">="
  | .equal => "="

/-- The comparison of a sign; what is no sign asks for equality. -/
def ofSign (s : Text) : Comparison :=
  ([.less, .atMost, .greater, .atLeast].find? (·.sign == s)).getD .equal

/-- The comparison of two numbers. -/
def holds (c : Comparison) (a b : Number) : Bool :=
  match c with
  | .less => a.lt b
  | .atMost => a.le b
  | .greater => b.lt a
  | .atLeast => b.le a
  | .equal => a.same b

end Comparison

/-- What is asked of the due time of a task. -/
inductive Due where
  /-- It has passed. -/
  | overdue
  /-- It comes within seven days. -/
  | week
  deriving DecidableEq

namespace Due

/-- The name of a due clause. -/
def name : Due → Text
  | .overdue => "overdue"
  | .week => "week"

/-- The due clause of a name. -/
def ofName? (s : Text) : Option Due := [overdue, week].find? (·.name == s)

end Due

/-- What is asked of the estimate of a task. -/
structure EstimateBound where
  comparison : Comparison
  threshold : Number
  deriving DecidableEq

namespace Search

/-- What a word of a search asks for. -/
inductive Clause where
  /-- The word occurs in the text of the task. -/
  | free (word : List Point)
  /-- The task has a tag; a clause with an empty tag asks for nothing. -/
  | tag (name : List Point)
  | priority (p : Priority)
  | due (d : Due)
  | estimate (bound : EstimateBound)

/-- Why a search cannot be read: a number in it has more digits than are allowed. -/
structure LongNumber where
  digits : List Point

/-- The greatest number of digits of a number in a search. -/
def maxDigits : Nat := 4300

/-- The part of a word after the given start. -/
def after? (start : Text) (cs : List Point) : Option (List Point) :=
  if start.toList.isPrefixOf cs then some (cs.drop start.length) else none

/-- The sign at the start of an estimate, which may be missing, and the rest. -/
def splitSign : List Point → Comparison × List Point
  | .char '<' :: .char '=' :: cs => (.atMost, cs)
  | .char '>' :: .char '=' :: cs => (.atLeast, cs)
  | .char '<' :: cs => (.less, cs)
  | .char '>' :: cs => (.greater, cs)
  | .char '=' :: cs => (.equal, cs)
  | cs => (.equal, cs)

/-- The bound that an estimate clause sets, if it is written as one. -/
def estimateBound? (cs : List Point) : Except LongNumber (Option EstimateBound) :=
  let (comparison, ds) := splitSign cs
  match ds, Text.digitsValue? ds with
  | [], _ => pure none
  | _, none => pure none
  | _, some n =>
    if maxDigits < ds.length then throw ⟨ds⟩ else pure (some ⟨comparison, .int n⟩)

/-- The clause that a word is. -/
def Clause.ofWord (word : List Point) : Except LongNumber Clause :=
  let cs := Text.lower word
  match after? "tag:" cs with
  | some name => pure (.tag name)
  | none =>
    match (after? "p:" cs).bind fun rest => Priority.ofName? (Text.ofList rest) with
    | some p => pure (.priority p)
    | none =>
      match (after? "due:" cs).bind fun rest => Due.ofName? (Text.ofList rest) with
      | some d => pure (.due d)
      | none =>
        match after? "est:" cs with
        | some rest => do
          match ← estimateBound? rest with
          | some bound => pure (.estimate bound)
          | none => pure (.free word)
        | none => pure (.free word)

end Search

end Kanban
