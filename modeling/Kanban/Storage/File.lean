import Kanban.Storage.FileTree

/-!
# Snapshots in a file

A snapshot is kept in a file of its own.  It is written to a file beside it first, which then
takes its place, so at no time does the file hold a part of a snapshot.
-/

namespace Kanban

/-- A file and the tree it is in. -/
structure FileStore where
  path : Path
  tree : FileTree

namespace FileStore

/-- The end of the name of the file that is written first. -/
def spareEnding : String := ".tmp"

/-- The name of the file that is written first. -/
def spareName (name : String) : String := name ++ spareEnding

/-- The bytes of a file; none when there is no file. -/
def read (t : FileTree) (p : Path) : Except StorageError (Option ByteArray) := do
  match ← t.find p with
  | none => pure none
  | some (.file bytes) => pure (some bytes)
  | some _ => throw .refused

/-- The tree in which bytes have been written to the file with a name in a folder. -/
def write (t : FileTree) (folder : Location) (name : String) (bytes : ByteArray) :
    Except StorageError FileTree :=
  let l := folder ++ [name]
  if t.isFolder l || !FileTree.admits name then throw .refused else pure (t.put l (.file bytes))

/-- The tree in which a file has taken the place of another one. -/
def rename (t : FileTree) (source target : Location) : Except StorageError FileTree :=
  match t.node? source with
  | some (.file bytes) =>
    if t.isFolder target then throw .refused else pure ((t.remove source).put target (.file bytes))
  | _ => throw .refused

/-- Writing a file in a folder: first the spare file, then the file itself. -/
def replace (t : FileTree) (folder : Location) (name : String) (bytes : ByteArray) :
    Except StorageError Unit × FileTree :=
  match write t folder (spareName name) bytes with
  | .error e => (throw e, t)
  | .ok t =>
    match rename t (folder ++ [spareName name]) (FileTree.go folder name) with
    | .error e => (throw e, t)
    | .ok t => (pure (), t)

/-- Writing the file of a path, in folders that are made for it. -/
def save (t : FileTree) (p : Path) (bytes : ByteArray) : Except StorageError Unit × FileTree :=
  match t.makeParent p with
  | (.error e, t) => (throw e, t)
  | (.ok folder, t) =>
    match p.name? with
    | none => (throw .unnamed, t)
    | some name =>
      if p.isBad then (throw .badName, t)
      else if p.isLong spareEnding.utf8ByteSize then (throw .refused, t)
      else replace t folder name bytes

instance : Backend FileStore where
  load s := read s.tree s.path
  save bytes s :=
    let (r, tree) := save s.tree s.path bytes
    (r, { s with tree })

end FileStore

end Kanban
