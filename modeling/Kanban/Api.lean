import Kanban.Board.Report
import Kanban.Keeper
import Kanban.Search
import Kanban.Text.Lowercase

/-!
# Handlers

What can be asked of the board.  An `Endpoint` is a part of the board or something that is to be
done with it, and `Api.handle` does what a `Request` to an endpoint asks for and gives the reply
to it.  Requests that ask for a part of the board leave it as it is, and so do those that are
answered with an error, save when the board has changed and could not be saved.
-/

namespace Kanban.Api

/-- The method of a request. -/
inductive Method where
  | get
  | head
  | post
  | put
  | delete
  | options
  | other
  deriving DecidableEq

/-- What can be asked for. -/
inductive Endpoint where
  | board
  | searchTasks
  | createTask
  | updateTask (id : Text)
  | deleteTask (id : Text)
  | moveTask (id : Text)
  | reviewMode
  | setReviewMode
  | importBoard
  | audit
  | summary
  | stats
  | health
  deriving DecidableEq

/-- The method by which something is asked for. -/
def Endpoint.method : Endpoint → Method
  | .createTask => .post
  | .updateTask _ => .put
  | .deleteTask _ => .delete
  | .moveTask _ => .post
  | .setReviewMode => .post
  | .importBoard => .post
  | _ => .get

/-- What a handler is told of a request. -/
structure Request where
  /-- The first value of a parameter of the query. -/
  parameter? : Text → Option Text
  /-- The value of the body, and `null` for a body that is no JSON. -/
  value : Json
  body : ByteArray

/-- The members of the object that the body counts as: one whose value counts for nothing is the
empty object.  `none` when it is something else. -/
def Request.members? (r : Request) : Option Members :=
  if r.value.truthy then
    match r.value with
    | .obj m => some m
    | _ => none
  else some []

/-! ### Replies -/

/-- What a reply is made of. -/
inductive Content where
  | json (v : Json)
  | text (s : Text)
  /-- A page for people to read, or nothing. -/
  | page

/-- The reply to a request. -/
structure Reply where
  status : Nat
  content : Content

namespace Reply

/-- A page that says no more than the status. -/
def page (status : Nat) : Reply := ⟨status, .page⟩

/-- The request could not be served. -/
def failed : Reply := page 500

/-- A value. -/
def json (status : Nat) (v : Json) : Reply := ⟨status, .json v⟩

/-- A value that was asked for. -/
def ok (v : Json) : Reply := json 200 v

/-- A new thing. -/
def created (v : Json) : Reply := json 201 v

/-- A reply in which values from the board are shown, which have to be ones that can be written.
The numbers that count something are never too long. -/
def showing (shown : List Json) (r : Reply) : Reply :=
  if shown.all Json.isShort then r else failed

/-- A text, which has to be one that bytes encode. -/
def ofText (s : Text) : Reply := if s.encode?.isSome then ⟨200, .text s⟩ else failed

/-- An error in words. -/
def error (status : Nat) (message : Text) : Reply :=
  json status (.obj [("error", .str message)])

/-- The request is at fault. -/
def bad (message : Text) : Reply := error 400 message

/-- There is no task with the id. -/
def noTask : Reply := error 404 "Task not found"

/-- The reply to a refused draft. -/
def ofRefusal (r : Refusal) : Reply :=
  match r.message? with
  | some message => bad message
  | none => failed

/-- The reply to an operation that has failed: a failure that has words is told by `tell`. -/
def ofFailure (tell : Text → Reply) (f : Keeper.Failure) : Reply := f.message?.elim failed tell

/-- The reply without its content. -/
def head (r : Reply) : Reply := { r with content := .page }

end Reply

/-! ### Asking for parts of the board -/

/-- The number of things in a list, as a value. -/
def countOf {α : Type} (l : List α) : Json := .int l.length

/-- The tasks that match a query. -/
def searchTasks (b : Board) (now : Option Moment) (query : Text) : Reply :=
  match Query.ofText query with
  | .error _ => .failed
  | .ok q =>
    match q.filterBy now b.tasks with
    | .error _ => .failed
    | .ok tasks =>
      let shown := tasks.map Task.toJson
      .showing shown (.ok (.obj [("tasks", .arr shown), ("count", countOf tasks)]))

/-- The entries of the audit log that a request asks for. -/
def selected (b : Board) (r : Request) : List Entry :=
  Entry.select (r.parameter? "action") (r.parameter? "task") b.audit

/-- Entries of the audit log. -/
def auditReply (entries : List Entry) : Reply :=
  let shown := entries.map Entry.toJson
  .showing shown (.ok (.obj [("audit", .arr shown), ("count", countOf entries)]))

/-- The counts of tasks and the review of a board. -/
def statsReply (b : Board) : Reply :=
  match Review.ofTasks b.tasks with
  | .ok review => .ok (.obj (Board.counts b.tasks ++ ([("review", review.toJson)] : Members)))
  | .error _ => .failed

/-- The review flag. -/
def reviewModeReply (b : Board) : Reply := .ok (.obj [("reviewMode", .bool b.reviewMode)])

/-- The sign that requests are served. -/
def healthReply (b : Board) : Reply :=
  .ok (.obj [("status", .str "ok"), ("tasks", countOf b.tasks)])

/-! ### Changing the board -/

section

variable {β : Type} [Backend β]

/-- The reply about a task that may have been changed. -/
def taskReply (k : Keeper β) (id : Text) (changed : Bool) : Reply :=
  match k.board.task? id with
  | some t =>
    .showing [t.toJson] (.ok (.obj [("task", t.toJson), ("changed", .bool changed)]))
  | none => .noTask

/-- The reply to an attempt to change a task.  A failure that has words is told by `tell`. -/
def changeReply (tell : Text → Reply) (id : Text) :
    Except Keeper.Failure (Option Entry) × Keeper β → Reply × Keeper β
  | (.ok e, k) => (taskReply k id e.isSome, k)
  | (.error f, k) => (.ofFailure tell f, k)

/-- A title has to be a text that is not blank. -/
def isTitle : Json → Bool
  | .str s => !(Text.trim s.toList).isEmpty
  | _ => false

/-- Creates a task. -/
def createTask (k : Keeper β) (src : Source) (m : Members) : Reply × Keeper β :=
  if isTitle (m.value "title") then
    match NewTask.ofMembers m with
    | .error r => (.ofRefusal r, k)
    | .ok d =>
      match k.create src d with
      | (.ok (some t), k) =>
        (.showing [t.toJson] (.created (.obj [("task", t.toJson), ("id", .str t.id)])), k)
      | (.ok none, k) => (.failed, k)
      | (.error f, k) => (.ofFailure .bad f, k)
  else (.bad "title is required", k)

/-- Edits a task; the task has to be there before its draft is looked at. -/
def updateTask (k : Keeper β) (src : Source) (id : Text) (m? : Option Members) :
    Reply × Keeper β :=
  match k.board.task? id, m? with
  | none, _ => (.noTask, k)
  | some _, none => (.failed, k)
  | some _, some m =>
    match TaskEdit.ofMembers m with
    | .error r => (.ofRefusal r, k)
    | .ok e => changeReply .bad id (k.update src id e)

/-- Removes a task. -/
def deleteTask (k : Keeper β) (src : Source) (id : Text) : Reply × Keeper β :=
  match k.delete src id with
  | (.ok (some _), k) => (.ok (.obj [("deleted", .str id)]), k)
  | (.ok none, k) => (.noTask, k)
  | (.error _, k) => (.failed, k)

/-- The column that a request names, in lower case and without the blanks around it: empty
for a value that counts for nothing, and `none` for one that is no text. -/
def columnName? (v : Json) : Option Text :=
  match v with
  | .str s => some (Text.ofList (Text.lower (Text.trim s.toList)))
  | v => if v.truthy then none else some ""

/-- Moves a task. -/
def moveTask (k : Keeper β) (src : Source) (id : Text) (m : Members) : Reply × Keeper β :=
  match columnName? (m.value "state") with
  | none => (.failed, k)
  | some name =>
    if name = "" then (.bad "state is required", k)
    else if (k.board.task? id).isNone then (.noTask, k)
    else changeReply (fun _ => .bad ("Invalid state: " ++ name)) id (k.move src id (.str name))

/-- Sets the review flag. -/
def setReviewMode (k : Keeper β) (m : Members) : Reply × Keeper β :=
  match m.value "reviewMode" with
  | .bool value =>
    match k.setReviewMode value with
    | (.ok (), k) => (reviewModeReply k.board, k)
    | (.error _, k) => (.failed, k)
  | _ => (.bad "reviewMode must be a boolean", k)

/-- The reply to an import.  The issues of a snapshot that was rejected can be shown. -/
def importReply (b : Board) : Keeper.Import → Reply
  | .accepted replacements =>
    .ok (.obj [("ok", .bool true),
      ("idReplacements", .arr (replacements.map Replacement.toJson)), ("tasks", countOf b.tasks)])
  | .rejected first more =>
    .json 400 (.obj [("ok", .bool false),
      ("errors", .strs ((first :: more).filterMap Issue.text?))])

/-- Takes over the board of a snapshot. -/
def importBoard (k : Keeper β) (src : Source) (bytes : ByteArray) : Reply × Keeper β :=
  match k.importBytes src bytes with
  | (.ok i, k) => (importReply k.board i, k)
  | (.error _, k) => (.failed, k)

/-- Does something with the members of the body, if it counts as an object. -/
def withMembers (k : Keeper β) (r : Request) (f : Members → Reply × Keeper β) :
    Reply × Keeper β :=
  match r.members? with
  | some m => f m
  | none => (.failed, k)

/-- Does what a request to an endpoint asks for. -/
def handle (k : Keeper β) (src : Source) (r : Request) : Endpoint → Reply × Keeper β
  | .board => (.showing [k.board.toJson] (.ok k.board.toJson), k)
  | .searchTasks => (searchTasks k.board src.now ((r.parameter? "q").getD ""), k)
  | .createTask => withMembers k r (createTask k src)
  | .updateTask id => updateTask k src id r.members?
  | .deleteTask id => deleteTask k src id
  | .moveTask id => withMembers k r (moveTask k src id)
  | .reviewMode => (reviewModeReply k.board, k)
  | .setReviewMode => withMembers k r (setReviewMode k)
  | .importBoard => importBoard k src r.body
  | .audit => (auditReply (selected k.board r), k)
  | .summary =>
    (.ofText (Entry.summary k.board.tasks Entry.usualRecent (selected k.board r)), k)
  | .stats => (statsReply k.board, k)
  | .health => (healthReply k.board, k)

end

end Kanban.Api
