import Kanban.Api.Route
import Kanban.Launch
import Kanban.Uuid
import Kanban.Yaml.Reader
import Std.Time.DateTime.Timestamp

/-!
# The program

Reads options and settings, opens the board, and serves the requests that stand on the lines
of the standard input: a method, a target and, after another blank, a body.  The reply to each
is a line of JSON.  A board in a file is written back after every request that has changed it;
a table lasts as long as the program.
-/

namespace Kanban.Program

/-- How the program is called. -/
def usage : String := "usage: kanban [-h] [--config CONFIG] [--host HOST] [--port PORT]"

/-- The settings file that is looked for when none is named. -/
def usualConfig : String := "taskboard.yaml"

/-- The variable that may name the settings file. -/
def configVariable : String := "TASKBOARD_CONFIG"

/-- The moment a number of nanoseconds after the start of the year 1970, if the calendar has
it. -/
def momentOf (nanoseconds : Int) : Option Moment :=
  let m : Moment := ⟨Date.yearStart 1970 * Moment.day + (nanoseconds / 1000).toNat, some 0⟩
  m.toUtc?

/-- The time and a supply of ids. -/
def source : IO Source := do
  let now ← Std.Time.Timestamp.now
  let bytes ← IO.getRandomBytes 16
  let n := bytes.toList.foldl (fun n b => 256 * n + b.toNat) 0
  pure ⟨momentOf now.toNanosecondsSinceUnixEpoch.val, Uuid.supply (Uuid.random n)⟩

/-- The bytes of a file, if there is one. -/
def bytes? (path : String) : IO (Option ByteArray) :=
  try some <$> IO.FS.readBinFile path
  catch _ => pure none

/-- The home folder of the user; those of other accounts are not looked up. -/
def homes : IO Homes := do
  pure ⟨Path.ofText ((← IO.getEnv "HOME").getD "/"), []⟩

/-- The settings file. -/
def settingsPath (o : Options) : IO Path := do
  let named ← IO.getEnv configVariable
  pure (Path.ofText (([o.config, named].filterMap id).find? (· ≠ "") |>.getD usualConfig))

/-- The settings in a file, if there is one. -/
def settings (file : Path) : IO (Except SettingsError Settings) := do
  match ← bytes? file.text with
  | some bytes => pure (Settings.ofBytes Yaml.read (← homes) bytes)
  | none => pure (Settings.usualFor (← homes))

/-- All beginnings of a location that are not the root. -/
def beginnings (l : Location) : List Location :=
  (List.range l.length).map fun n => l.take (n + 1)

/-- The path of the board's file. -/
def boardPath (s : Settings) : Path := Path.ofText (s.filePath.string?.getD "")

/-- The part of the file system in which the board of the settings is kept. -/
def loadTree (s : Settings) : IO FileTree := do
  let here := (Path.ofText (← IO.currentDir).toString).parts
  let tree : FileTree := ⟨(beginnings here).map (·, .folder), here⟩
  let file := boardPath s
  match ← bytes? file.text with
  | some bytes =>
    let (r, tree) := tree.makeParent file
    match r, file.name? with
    | .ok folder, some name => pure (tree.put (folder ++ [name]) (.file bytes))
    | _, _ => pure tree
  | none => pure tree

/-- Writes the board's file if it is not the same as before. -/
def saveFile (s : Settings) (before after : FileTree) : IO Unit := do
  let file := boardPath s
  match FileStore.read before file, FileStore.read after file with
  | .ok old, .ok (some new) =>
    if old.any (· == new) then pure ()
    else
      let spare := FileStore.spareName file.text
      IO.FS.createDirAll file.parent.text
      IO.FS.writeBinFile spare new
      IO.FS.rename spare file.text
  | _, _ => pure ()

/-- The message on a line, if it has a target. -/
def messageOf? (line : String) : Option Api.Message := do
  let cs := line.toList.filter (· ≠ '\n')
  let rest := (cs.dropWhile (· ≠ ' ')).drop 1
  let target ← Api.Target.ofText? (String.ofList (rest.takeWhile (· ≠ ' ')))
  pure { target with
    method := .ofName (String.ofList (cs.takeWhile (· ≠ ' ')))
    body := (String.ofList ((rest.dropWhile (· ≠ ' ')).drop 1)).toUTF8 }

/-- The reply to a line. -/
def answer (k : Keeper Place) (src : Source) (line : String) : Api.Reply × Keeper Place :=
  match messageOf? line with
  | some m => Api.serve .usual k src m
  | none => (.page 400, k)

/-- The text of a value with an escape for every half of a surrogate pair that stands alone. -/
def escapeHalves (t : Text) : String :=
  String.ofList (t.toList.flatMap fun
    | .char c => [c]
    | .half n => '\\' :: 'u' :: (Text.hexDigits 4 (0xD800 + n)).filterMap Point.char?)

/-- A reply on a line. -/
def replyLine (r : Api.Reply) : String :=
  let content : Members := match r.content with
    | .json v => [("json", v)]
    | .text s => [("text", .str s)]
    | .page => []
  (((Json.obj (("status", .int r.status) :: content)).write? none).map escapeHalves).getD ""

/-- Serves the requests on the lines of the standard input. -/
partial def serve (s : Settings) (k : Keeper Place) : IO Unit := do
  let line ← (← IO.getStdin).getLine
  if line.isEmpty then pure ()
  else
    let before := k.backend.tree?.getD ⟨[], []⟩
    let (reply, k) := answer k (← source) line
    saveFile s before (k.backend.tree?.getD before)
    IO.println (replyLine reply)
    (← IO.getStdout).flush
    serve s k

/-- Opens the board and serves requests. -/
def run (o : Options) (s : Settings) : IO UInt32 := do
  match Launch.service o s with
  | .error _ => IO.eprintln "unknown log level"; pure 1
  | .ok service =>
    let tree ← loadTree s
    match Launch.openKeeper (← source) s tree with
    | (.error _, _) => IO.eprintln "the board cannot be opened"; pure 1
    | (.ok k, after) =>
      saveFile s tree after
      let shown (v : Yaml.Value) : String := (v.plain?.bind Text.string?).getD ""
      IO.eprintln s!"Serving board for {shown service.host}:{shown service.socket}"
      serve s k
      pure 0

end Kanban.Program

open Kanban in
def main (arguments : List String) : IO UInt32 := do
  match Options.ofArguments arguments with
  | .error e =>
    IO.eprintln Program.usage
    pure e.code.toUInt32
  | .ok o =>
    let file ← Program.settingsPath o
    match ← Program.settings file with
    | .error e =>
      IO.eprintln (((e.message? file.text).bind Text.string?).getD s!"Cannot parse {file.text}")
      pure 1
    | .ok s => Program.run o s
