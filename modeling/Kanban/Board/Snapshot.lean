import Kanban.Board
import Kanban.Board.Issue
import Kanban.Moment.Reader
import Kanban.Text.Digit

/-!
# Reading snapshots

A snapshot from outside is checked in full before anything is taken from it.  `Task.read`,
`Entry.read` and `Board.read` turn a value into a task, an entry or a board, or give all its
issues, field by field in the order in which fields are written.  What is read is in normal
form: an estimate is an integer, and each change has its two values and nothing else.
-/

namespace Kanban

/-! ### Checks of single values -/

namespace Check

/-- A text made of hexadecimal digits in groups of 8, 4, 4, 4 and 12 with hyphens between
them; a line feed may follow. -/
def isUuid (s : Text) : Bool :=
  let cs := s.toList
  let cs := if cs.getLast? = some (.char '\n') then cs.dropLast else cs
  let groups := Text.pieces (· == .char '-') cs
  groups.map List.length == [8, 4, 4, 4, 12]
    && groups.all fun g => g.all Text.isHexDigit

/-- A text is expected. -/
def item : Json → Checked Text
  | .str s => .ok s
  | v => .fault (.kind "string" v.kind)

/-- A text. -/
def text : Option Json → Checked Text
  | none => .fault .required
  | some .null => .fault .required
  | some v => item v

/-- A text or nothing. -/
def optionalText : Option Json → Checked (Option Text)
  | none => .ok none
  | some .null => .ok none
  | some v => (item v).map some

/-- The id of a task or entry. -/
def uuid : Option Json → Checked Text
  | none => .fault .required
  | some v => (item v).andThen fun s => if isUuid s then .ok s else .fault .badUuid

/-- The least length of a title. -/
def leastTitle : Nat := 3

/-- The title of a task. -/
def title (v : Option Json) : Checked Text :=
  (text v).andThen fun s => if s.length < leastTitle then .fault (.tooShort leastTitle) else .ok s

/-- A text that denotes a moment, in the member `name`. -/
def moment (name : Text) (s : Text) : Checked Text :=
  if (Moment.ofText? s).isSome then .ok s else .fault (.badTime name)

/-- A time, in the member `name`. -/
def time (name : Text) (v : Option Json) : Checked Text :=
  (text v).andThen (moment name)

/-- A time or nothing, in the member `name`. -/
def optionalTime (name : Text) (v : Option Json) : Checked (Option Text) :=
  (optionalText v).andThen fun
    | none => .ok none
    | some s => (moment name s).map some

/-- One of a number of names. -/
def oneOf {α : Type} (names : List Text) (ofName? : Text → Option α) :
    Option Json → Checked α
  | none => .fault .required
  | some v =>
    match v with
    | .str s =>
      match ofName? s with
      | some a => .ok a
      | none => .fault (.notOneOf names v)
    | _ => .fault (.notOneOf names v)

/-- A priority. -/
def priority : Option Json → Checked Priority :=
  oneOf (Priority.all.map Priority.name) Priority.ofName?

/-- A column. -/
def column : Option Json → Checked Column :=
  oneOf (Column.all.map Column.name) Column.ofName?

/-- An action. -/
def action : Option Json → Checked Action :=
  oneOf (Action.all.map Action.name) Action.ofName?

/-- A number that is not below zero. -/
def notNegative (n : Number) : Checked Number :=
  if n.lt (.int 0) then .fault (.below 0) else .ok n

/-- A number that is finite. -/
def finite (n : Number) : Checked Number :=
  if n.isFinite then .ok n else .fault .notFinite

/-- A number is expected. -/
def number : Json → Checked Number
  | .num n => finite n
  | v => .fault (.kind "number" v.kind)

/-- The estimate of a task: a whole number from zero on. -/
def estimate : Option Json → Checked Number
  | none => .fault .required
  | some v =>
    (number v).andThen fun n => if n.isWhole then notNegative n else .fault .notWhole

/-- The greatest score. -/
def greatestScore : Nat := 10

/-- The score of a task: a number from zero to ten, or nothing. -/
def score : Option Json → Checked (Option Number)
  | none => .ok none
  | some .null => .ok none
  | some v =>
    (number v).andThen fun n =>
      (notNegative n).andThen fun n =>
        if Number.lt (.int greatestScore) n then .fault (.above greatestScore) else .ok (some n)

/-- A list of things, each found under its place in the list. -/
def list {α : Type} (read : Json → Checked α) : Option Json → Checked (List α)
  | none => .fault .required
  | some (.arr items) => Checked.all (items.zipIdx.map fun (v, i) => (read v).under (toString i))
  | some v => .fault (.kind "array" v.kind)

/-- A change of the thing called `name`. -/
def change (name : Text) : Json → Checked Change
  | .obj m => .ok ⟨name, Members.value m "before", Members.value m "after"⟩
  | v => .fault (.kind "object" v.kind)

/-- The changes of an entry, each found under its name. -/
def changes : Option Json → Checked (List Change)
  | none => .fault .required
  | some (.obj m) => Checked.all (m.map fun (name, v) => (change name v).under name)
  | some v => .fault (.kind "object" v.kind)

/-- The label of the actor. -/
def actorLabel : Option Json → Checked Unit
  | some (.str s) =>
    if s = Entry.actorLabel then .ok () else .fault (.notLiteral Entry.actorLabel)
  | _ => .fault (.notLiteral Entry.actorLabel)

/-- A Boolean. -/
def flag : Option Json → Checked Bool
  | none => .fault .required
  | some (.bool b) => .ok b
  | some v => .fault (.kind "boolean" v.kind)

end Check

/-- The member `name` of an object, checked. -/
def Members.check {α : Type} (m : Members) (name : Text) (check : Option Json → Checked α) :
    Checked α :=
  (check (m.get? name)).under name

/-! ### Tasks, entries and boards -/

/-- The task that the members of an object make up.  Numbers are left as they are. -/
def Task.ofMembers (m : Members) : Checked Task :=
  let field {α : Type} (f : Field) (check : Option Json → Checked α) : Checked α :=
    m.check f.key check
  Task.mk
    <$> field .id Check.uuid
    <*> field .title Check.title
    <*> field .description Check.optionalText
    <*> field .priority Check.priority
    <*> field .tags (Check.list Check.item)
    <*> field .estimate Check.estimate
    <*> field .createdAt (Check.time Field.createdAt.key)
    <*> field .dueAt (Check.optionalTime Field.dueAt.key)
    <*> field .column Check.column
    <*> field .reviewerNote Check.optionalText
    <*> field .score Check.score
    <*> field .scoreComment Check.optionalText

/-- The task that a value is.  Numbers are left as they are. -/
def Task.check : Json → Checked Task
  | .obj m => Task.ofMembers m
  | v => .fault (.kind "object" v.kind)

/-- The task with its estimate as an integer. -/
def Task.settled (t : Task) : Task := { t with estimate := t.estimate.settled }

/-- The task that a value is. -/
def Task.read (v : Json) : Checked Task := (Task.check v).map Task.settled

/-- The entry that the members of an object make up. -/
def Entry.ofMembers (m : Members) : Checked Entry :=
  (fun id timestamp action taskId changes _ => Entry.mk id timestamp action taskId changes)
    <$> m.check "id" Check.uuid
    <*> m.check "timestamp" (Check.time "timestamp")
    <*> m.check "action" Check.action
    <*> m.check "taskId" Check.text
    <*> m.check "diff" Check.changes
    <*> m.check "actorLabel" Check.actorLabel

/-- The entry that a value is. -/
def Entry.read : Json → Checked Entry
  | .obj m => Entry.ofMembers m
  | v => .fault (.kind "object" v.kind)

/-- The board that the members of an object make up. -/
def Board.ofMembers (m : Members) : Checked Board :=
  Board.mk
    <$> m.check "tasks" (Check.list Task.read)
    <*> m.check "audit" (Check.list Entry.read)
    <*> m.check "reviewMode" Check.flag

/-- The board that a value is. -/
def Board.read : Json → Checked Board
  | .obj m => Board.ofMembers m
  | v => .fault (.kind "object" v.kind)

end Kanban
