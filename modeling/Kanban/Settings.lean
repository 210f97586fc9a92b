import Kanban.Number.Rounded
import Kanban.Storage.Place
import Kanban.Text.Encoding
import Kanban.Yaml.Display
import Kanban.Yaml.Fault

/-!
# Settings

Where a board is kept and how it is served, as a settings file says.  The file is a mapping in
YAML, in which everything may be left out and what is unknown is passed over; a file that is
missing, or whose value counts for nothing, leaves everything as usual.  Only the kind of
storage and the paths are checked here: all other settings are values of any kind.  How YAML is
read is left to a `Loader`.
-/

namespace Kanban

/-- The kinds of storage. -/
inductive StorageKind where
  | file
  | table
  | memory
  deriving DecidableEq

namespace StorageKind

/-- All kinds of storage. -/
def all : List StorageKind := [.file, .table, .memory]

/-- The name of a kind of storage. -/
def name : StorageKind → Text
  | .file => "file"
  | .table => "sqlite"
  | .memory => "memory"

/-- The kind of storage that a value names. -/
def ofValue? : Yaml.Value → Option StorageKind
  | .str s => all.find? (·.name == s)
  | _ => none

theorem ofValue?_name (k : StorageKind) :
  ofValue? (.str k.name) = some k
  := by
  cases k <;> decide

end StorageKind

/-- Why a settings file is refused. -/
inductive SettingsError where
  /-- There is something that is no file, or cannot be reached. -/
  | unreadable
  /-- The bytes of the file are no text. -/
  | notText
  /-- The text has no value. -/
  | noValue (f : Yaml.Fault)
  /-- The value is no mapping. -/
  | notMapping
  /-- No kind of storage has the name that is shown. -/
  | unknownStorage (shown : Text)
  /-- What should name a kind of storage cannot be shown, since an integer in it is too long. -/
  | longName
  /-- A path is no text. -/
  | notPath (v : Yaml.Value)
  /-- A path starts in the home folder of somebody unknown. -/
  | unknownHome

namespace SettingsError

/-- The names of all kinds of storage, with commas between them. -/
def storageNames : Text := Text.intercalate ", " (StorageKind.all.map StorageKind.name)

/-- What is wrong with a settings file, in words where there are any. -/
def message? (file : Text) : SettingsError → Option Text
  | .notMapping => some (file ++ " must contain a mapping")
  | .unknownStorage shown =>
    some ("Unknown storage backend '" ++ shown ++ "'. Available: " ++ storageNames)
  | _ => none

end SettingsError

/-- What reads YAML: the value of a text, or why it has none. -/
abbrev Loader := String → Except Yaml.Fault Yaml.Value

/-- Where a board is kept and how it is served. -/
structure Settings where
  storage : StorageKind
  filePath : Text
  tablePath : Text
  tableKey : Yaml.Value
  /-- Whether the accents of texts are restored when the board is opened. -/
  accents : Yaml.Value
  host : Yaml.Value
  socket : Yaml.Value
  logLevel : Yaml.Value

namespace Settings

/-- Settings by name. -/
abbrev Entries := List (Text × Yaml.Value)

/-- What is set when the settings file says nothing else. -/
def usual : Entries :=
  [("storage", .str StorageKind.file.name),
    ("state_path", .str "~/.local/share/taskboard/board.json"),
    ("db_path", .str "~/.local/share/taskboard/board.db"),
    ("storage_key", .str TableStore.usualKey),
    ("normalize_text", .bool false),
    ("host", .str "127.0.0.1"),
    ("port", .num (.int 3000)),
    ("log_level", .str "INFO")]

/-- The value of a setting. -/
def setting (m : Entries) (name : Text) : Yaml.Value :=
  ((m.lookup name).orElse fun () => usual.lookup name).getD .null

/-! ### Paths -/

/-- The parts of a path in its shortest spelling. -/
def partsOf (cs : List Point) : List (List Point) :=
  (Text.pieces (· == .char '/') cs).filter fun part => part ≠ [] ∧ part ≠ [.char '.']

/-- The text of a path with a root and parts. -/
def pathText (root : Text) (parts : List (List Point)) : Text :=
  if root = "" ∧ parts = [] then "."
  else root ++ Text.intercalate "/" (parts.map Text.ofList)

/-- The slashes at the start of a path: exactly two are kept, any other number counts as
one. -/
def rootOf (cs : List Point) : Text :=
  match (cs.takeWhile (· == .char '/')).length with
  | 0 => ""
  | 2 => "//"
  | _ => "/"

/-- The home folder that the first part of a path asks for. -/
def home? (homes : Homes) (part : List Point) : Option Path :=
  (Text.ofList part).string?.bind (Path.home? homes)

/-- A path in its shortest spelling, from the home folder where it asks for that. -/
def expand (homes : Homes) (s : Text) : Except SettingsError Text :=
  match rootOf s.toList, partsOf s.toList with
  | root, [] => pure (pathText root [])
  | root, first :: rest =>
    if root = "" ∧ first.head? = some (.char '~') then
      match home? homes first with
      | some home =>
        let parts := home.parts.map fun part : String => (part : Text).toList
        pure (pathText home.root (parts ++ rest))
      | none => throw .unknownHome
    else pure (pathText root (first :: rest))

/-- The path under a name, which has to be a text. -/
def path (homes : Homes) (m : Entries) (name : Text) : Except SettingsError Text :=
  match setting m name with
  | .str s => expand homes s
  | v => throw (.notPath v)

/-! ### Loading -/

/-- The complaint about a value that names no kind of storage. -/
def unknownStorage (v : Yaml.Value) : SettingsError :=
  match v.plain? with
  | some shown => .unknownStorage shown
  | none => .longName

/-- The settings under their names. -/
def ofEntries (homes : Homes) (m : Entries) : Except SettingsError Settings := do
  let storage ← match StorageKind.ofValue? (setting m "storage") with
    | some k => pure k
    | none => throw (unknownStorage (setting m "storage"))
  let filePath ← path homes m "state_path"
  let tablePath ← path homes m "db_path"
  pure {
    storage, filePath, tablePath
    tableKey := setting m "storage_key"
    accents := setting m "normalize_text"
    host := setting m "host"
    socket := setting m "port"
    logLevel := setting m "log_level" }

/-- The settings of somebody who has no settings file. -/
def usualFor (homes : Homes) : Except SettingsError Settings := ofEntries homes []

/-- The members whose keys are texts. -/
def entries (members : List (Yaml.Value × Yaml.Value)) : Entries :=
  members.filterMap fun
    | (.str name, v) => some (name, v)
    | _ => none

/-- The settings in the value of a file. -/
def ofValue (homes : Homes) (v : Yaml.Value) : Except SettingsError Settings :=
  match v with
  | .map members => ofEntries homes (entries members)
  | v => if v.truthy then throw .notMapping else usualFor homes

/-- The text with line feeds for all ends of lines that have a carriage return. -/
def withLineFeeds : List Char → List Char
  | [] => []
  | '\r' :: '\n' :: cs => '\n' :: withLineFeeds cs
  | c :: cs => (if c = '\r' then '\n' else c) :: withLineFeeds cs

/-- The value of the text of a file. -/
def valueOf (load : Loader) (s : String) : Except Yaml.Fault Yaml.Value :=
  load (String.ofList (withLineFeeds s.toList))

/-- The settings in the text of a file. -/
def ofText (load : Loader) (homes : Homes) (s : String) : Except SettingsError Settings :=
  match valueOf load s with
  | .ok v => ofValue homes v
  | .error f => throw (.noValue f)

/-- The settings in the bytes of a file. -/
def ofBytes (load : Loader) (homes : Homes) (bytes : ByteArray) :
    Except SettingsError Settings :=
  match Text.decodeUtf8? bytes with
  | some s => ofText load homes s
  | none => throw .notText

/-- The settings in a file of a tree; all is as usual where there is no such file. -/
def inTree (load : Loader) (homes : Homes) (t : FileTree) (file : Path) :
    Except SettingsError Settings :=
  match t.find file with
  | .ok (some (.file bytes)) => ofBytes load homes bytes
  | .ok none => usualFor homes
  | _ => throw .unreadable

/-- Settings under their names. -/
def toEntries (s : Settings) : Entries :=
  [("storage", .str s.storage.name),
    ("state_path", .str s.filePath),
    ("db_path", .str s.tablePath),
    ("storage_key", s.tableKey),
    ("normalize_text", s.accents),
    ("host", s.host),
    ("port", s.socket),
    ("log_level", s.logLevel)]

/-! ### The place of the board -/

/-- An integer that fits into 64 bits with its sign. -/
def isShort (n : Int) : Bool :=
  let bound : Nat := 1 <<< 63
  n < bound && -n ≤ bound

/-- The key of a row that a text writes. -/
def textKey (s : Text) : RowKey := s.string?.elim .unfit .text

/-- The key of a row that a value writes.  Bytes are no key here. -/
def rowKey : Yaml.Value → RowKey
  | .null => .missing
  | .str s => textKey s
  | .num (.int n) => if isShort n then .text n.repr else .large
  | .num (.float x) =>
    (Number.keyChars? x).elim .missing fun cs => textKey (Text.ofList cs)
  | .bool b => .text (if b then "1" else "0")
  | .date d => ((Yaml.Value.date d).plain?).elim .unfit textKey
  | .moment m => ((Yaml.Value.moment m).plain?).elim .unfit textKey
  | _ => .unfit

/-- The path of a text, which has to be one that the file system knows. -/
def pathOf (s : Text) : Except StorageError Path :=
  match s.string? with
  | some s => pure (Path.ofText s)
  | none => throw .badName

/-- The place where the board is kept. -/
def place (s : Settings) (t : FileTree) : Except StorageError Place × FileTree :=
  match s.storage with
  | .file => ((pathOf s.filePath).map fun p => .file ⟨p, t⟩, t)
  | .table =>
    match pathOf s.tablePath with
    | .ok p =>
      let (r, t) := TableStore.make t p (rowKey s.tableKey)
      (r.map .table, t)
    | .error e => (throw e, t)
  | .memory => (pure (.memory .empty), t)

end Settings

end Kanban
