import Kanban.Storage.FileTree

/-!
# Snapshots in a table

A table in a file keeps one snapshot for each key.  A key may be missing: then nothing is ever
found.
-/

namespace Kanban

/-- What a row is to be found by. -/
inductive RowKey where
  | text (s : String)
  | missing
  /-- Something that is no key. -/
  | unfit
  /-- An integer of more than 64 bits. -/
  | large
  deriving DecidableEq

/-- A key and the table it belongs to, in the file of a path. -/
structure TableStore where
  path : Path
  key : RowKey
  tree : FileTree

namespace TableStore

/-- The key that is used when no other one is asked for. -/
def usualKey : String := "kanban_state_v1"

/-- The path that stands for no file, under which every table is lost at once. -/
def nowhere : String := ":memory:"

/-- The greatest number of bytes in the name of a table, beside which other files are kept. -/
def longestName : Nat := 247

/-- The greatest number of bytes in the location of a table. -/
def longestLocation : Nat := 504

/-- The number of bytes in the text of a location. -/
def locationSize (l : Location) : Nat := l.foldl (fun n part => n + part.utf8ByteSize + 1) 0

/-- The table with a name in a folder, which is made when there is nothing yet.  With a name
that is too long there is an empty file and no table. -/
def makeTable (t : FileTree) (folder : Location) (name : String) :
    Except StorageError Unit × FileTree :=
  let l := FileTree.go folder name
  match t.node? l with
  | none =>
    if !FileTree.admits name then (throw .noTable, t)
    else if longestName < name.utf8ByteSize then (throw .noTable, t.put l (.file ⟨#[]⟩))
    else (pure (), t.put l (.table []))
  | some (.table _) => (pure (), t)
  | some (.file bytes) =>
    if longestName < name.utf8ByteSize then (throw .noTable, t)
    else if bytes.isEmpty then (pure (), t.put l (.table []))
    else (throw .notTable, t)
  | some .folder => (throw .noTable, t)

/-- The table of a path in a folder. -/
def makeAt (t : FileTree) (folder : Location) (p : Path) : Except StorageError Unit × FileTree :=
  if p.isBad then (throw .badName, t)
  else if p.text = nowhere then (pure (), t)
  else
    match p.name? with
    | some name =>
      if longestLocation < locationSize (FileTree.go folder name) then (throw .noTable, t)
      else makeTable t folder name
    | none => (throw .noTable, t)

/-- The table of a path, in folders that are made for it. -/
def make (t : FileTree) (p : Path) (key : RowKey) :
    Except StorageError TableStore × FileTree :=
  match t.makeParent p with
  | (.error e, t) => (throw e, t)
  | (.ok folder, t) =>
    match makeAt t folder p with
    | (.error e, t) => (throw e, t)
    | (.ok (), t) => (pure ⟨p, key, t⟩, t)

/-- The rows of the table. -/
def rows (s : TableStore) : Except StorageError (List (String × ByteArray)) :=
  match s.tree.find s.path with
  | .ok (some (.table rows)) => pure rows
  | .ok (some (.file bytes)) => if bytes.isEmpty then throw .noTable else throw .notTable
  | _ => throw .noTable

/-- The bytes under the key. -/
def read (s : TableStore) : Except StorageError (Option ByteArray) := do
  let rows ← s.rows
  match s.key with
  | .text key => pure (rows.lookup key)
  | .missing => pure none
  | .unfit => throw .badKey
  | .large => throw .largeKey

/-- The rows with bytes put under a key. -/
def putRow (key : String) (bytes : ByteArray) (rows : List (String × ByteArray)) :
    List (String × ByteArray) :=
  (key, bytes) :: rows.filter (·.1 ≠ key)

/-- The tree in which the table has the given rows. -/
def setRows (s : TableStore) (rows : List (String × ByteArray)) : FileTree :=
  match s.tree.walk (s.tree.start s.path) s.path.parts with
  | .ok (some l) => s.tree.put l (.table rows)
  | _ => s.tree

/-- Writing a value under the key, which has to be there. -/
def write (s : TableStore) (value : Option ByteArray) : Except StorageError Unit × TableStore :=
  match s.rows, s.key, value with
  | .error e, _, _ => (throw e, s)
  | .ok _, .unfit, _ => (throw .badKey, s)
  | .ok _, .large, _ => (throw .largeKey, s)
  | .ok _, _, none => (throw .noValue, s)
  | .ok rows, .text key, some bytes =>
    (pure (), { s with tree := s.setRows (putRow key bytes rows) })
  | .ok _, .missing, some _ => (pure (), s)

instance : Backend TableStore where
  load := read
  save bytes s := s.write (some bytes)

end TableStore

end Kanban
