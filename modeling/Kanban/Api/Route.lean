import Kanban.Api.Framework
import Kanban.Api.Message

/-!
# Routes

The parts of the board that a path can name, and the methods that each of them has.  A path
in which several slashes stand in a row leads nowhere, but its sender is shown the way when the
path with single slashes leads somewhere.  `Framework.usual` calls the handlers accordingly.
-/

namespace Kanban.Api

/-- A part of the board. -/
inductive Route where
  | board
  | tasks
  | task (id : String)
  | move (id : String)
  | reviewMode
  | intake
  | audit
  | summary
  | stats
  | health
  /-- A file that goes with the board.  There are none, but they can be asked for. -/
  | asset
  deriving DecidableEq

namespace Route

/-- The parts of a path name a file: something on a single line that starts with no slash,
save that the line may end after the first character. -/
def isAssetName (parts : List String) : Bool :=
  match parts with
  | [] => false
  | first :: _ => first ≠ "" && !(("/".intercalate parts).toList.drop 1).contains '\n'

/-- The route of the parts of a path. -/
def ofParts? : List String → Option Route
  | ["", "api", "board"] => some .board
  | ["", "api", "tasks"] => some .tasks
  | ["", "api", "tasks", id] => if id = "" then none else some (.task id)
  | ["", "api", "tasks", id, "move"] => if id = "" then none else some (.move id)
  | ["", "api", "review-mode"] => some .reviewMode
  | ["", "api", "import"] => some .intake
  | ["", "api", "audit"] => some .audit
  | ["", "api", "audit", "summary"] => some .summary
  | ["", "api", "stats"] => some .stats
  | ["", "health"] => some .health
  | "" :: "static" :: name => if isAssetName name then some .asset else none
  | _ => none

/-- The route of a path. -/
def ofPath? (cs : List Char) : Option Route :=
  ofParts? ((Text.pieces (· == '/') cs).map String.ofList)

/-- The methods by which a part of the board is asked for. -/
def methods : Route → List Method
  | .board => [.get]
  | .tasks => [.get, .post]
  | .task _ => [.put, .delete]
  | .move _ => [.post]
  | .reviewMode => [.get, .post]
  | .intake => [.post]
  | .audit => [.get]
  | .summary => [.get]
  | .stats => [.get]
  | .health => [.get]
  | .asset => [.get]

/-- A route has a method if it is among its methods; the head of what can be got, and the
options of everything, can be asked for as well. -/
def allows (r : Route) : Method → Bool
  | .options => true
  | .head => r.methods.contains .get
  | m => r.methods.contains m

end Route

/-- Where a path and a method lead. -/
inductive Lead where
  | route (r : Route)
  /-- To a part of the board that does not have the method. -/
  | noMethod
  /-- To a route, once slashes are merged. -/
  | elsewhere
  | nowhere

namespace Lead

/-- Slashes in a row as one. -/
def mergeSlashes : List Char → List Char
  | '/' :: '/' :: rest => mergeSlashes ('/' :: rest)
  | c :: rest => c :: mergeSlashes rest
  | [] => []

/-- Where a path and a method lead. -/
def ofRequest (path : String) (m : Method) : Lead :=
  match Route.ofPath? path.toList with
  | some r => if r.allows m then .route r else .noMethod
  | none =>
    match Route.ofPath? (mergeSlashes path.toList) with
    | some r => if r.allows m then .elsewhere else .noMethod
    | none => .nowhere

end Lead

/-- What is asked for by a method at a route; the head of what can be got is got first. -/
def Route.endpoint? : Route → Method → Option Endpoint
  | .board, .get | .board, .head => some .board
  | .tasks, .get | .tasks, .head => some .searchTasks
  | .tasks, .post => some .createTask
  | .task id, .put => some (.updateTask id)
  | .task id, .delete => some (.deleteTask id)
  | .move id, .post => some (.moveTask id)
  | .reviewMode, .get | .reviewMode, .head => some .reviewMode
  | .reviewMode, .post => some .setReviewMode
  | .intake, .post => some .importBoard
  | .audit, .get | .audit, .head => some .audit
  | .summary, .get | .summary, .head => some .summary
  | .stats, .get | .stats, .head => some .stats
  | .health, .get | .health, .head => some .health
  | _, _ => none

/-- The status of the page that answers a method at a route where no handler is called: the
options of everything can be asked for, and there are no files that go with the board. -/
def Method.ownStatus : Method → Nat
  | .options => 200
  | _ => 404

/-- The handlers are called by route and method. -/
def Framework.usual : Framework Message where
  method := Message.method
  dispatch m :=
    match Lead.ofRequest m.path m.method with
    | .route route =>
      match route.endpoint? m.method with
      | some e => .call e m.request
      | none => .page m.method.ownStatus
    | .noMethod => .page 405
    | .elsewhere => .page 308
    | .nowhere => .page 404

end Kanban.Api
