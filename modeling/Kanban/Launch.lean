import Kanban.Keeper
import Kanban.Launch.Options
import Kanban.Settings
import Kanban.Text.Uppercase

/-!
# Launching the program

From options and settings to a program that is ready to serve: the `Service` says where it
listens and how much it reports, and `Launch.openKeeper` opens the board in the place that the
settings name.
-/

namespace Kanban

/-- Where the program listens and how it runs. -/
structure Service where
  host : Yaml.Value
  socket : Yaml.Value
  /-- Errors are shown to those who sent the request. -/
  debug : Bool
  /-- Requests are served side by side. -/
  threaded : Bool
  /-- The weight from which on events are reported. -/
  level : Nat

namespace Launch

/-! ### What is reported -/

/-- The names of the weights of events. -/
def levels : List (String × Nat) :=
  [("NOTSET", 0), ("DEBUG", 10), ("INFO", 20), ("WARN", 30), ("WARNING", 30), ("ERROR", 40),
    ("CRITICAL", 50), ("FATAL", 50)]

/-- The weight from which on events are reported if the settings name no other. -/
def usualLevel : Nat := 20

/-- Names that mean something else than a weight. -/
inductive BadLevel where
  /-- The name of a text. -/
  | text
  /-- The name of a table. -/
  | table
  /-- A value that has no name, since an integer in it is too long. -/
  | longInteger

/-- The weight that a value names, in letters of either case. -/
def level (v : Yaml.Value) : Except BadLevel Nat :=
  match v.plain? with
  | none => throw .longInteger
  | some shown =>
    match shown.string?.map Text.upperAscii with
    | none => pure usualLevel
    | some name =>
      match levels.lookup name with
      | some n => pure n
      | none =>
        if name = "BASIC_FORMAT" then throw .text
        else if name = "_STYLES" then throw .table
        else pure usualLevel

/-! ### Service -/

/-- The host that is asked for, else the one in the settings. -/
def host (o : Options) (s : Settings) : Yaml.Value :=
  match o.host with
  | some h => if h = "" then s.host else .str h
  | none => s.host

/-- The socket that is asked for, else the one in the settings. -/
def socket (o : Options) (s : Settings) : Yaml.Value :=
  match o.socket with
  | some n => if n = 0 then s.socket else .num (.int n)
  | none => s.socket

/-- The service that options and settings ask for. -/
def service (o : Options) (s : Settings) : Except BadLevel Service := do
  pure {
    host := host o s
    socket := socket o s
    debug := false
    threaded := true
    level := ← level s.logLevel }

/-- The board, opened in the place that the settings name, and the file tree after that. -/
def openKeeper (src : Source) (s : Settings) (t : FileTree) :
    Except Keeper.OpenError (Keeper Place) × FileTree :=
  match s.place t with
  | (.error e, t) => (throw (.storage e), t)
  | (.ok p, t) =>
    let (r, w) := Keeper.start src s.accents.truthy (⟨p, 0⟩ : Surroundings Place)
    (r, w.backend.tree?.getD t)

end Launch

end Kanban
