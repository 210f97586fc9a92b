import Kanban.Storage
import Kanban.Storage.Path

/-!
# File trees

The part of a file system that matters here: folders, files and tables of snapshots, each
under the names that lead to it from the root.  A tree knows the folder from which paths
without a root start.
-/

namespace Kanban

/-- What stands under a name. -/
inductive Node where
  | folder
  | file (bytes : ByteArray)
  /-- A table of snapshots by key. -/
  | table (rows : List (String × ByteArray))

/-- The names that lead from the root to a node. -/
abbrev Location := List String

/-- Nodes and the places where they are, and the folder where one works. -/
structure FileTree where
  nodes : List (Location × Node)
  here : Location

namespace FileTree

/-- The node at a location; the root is always a folder. -/
def node? (t : FileTree) (l : Location) : Option Node :=
  if l = [] then some .folder else t.nodes.lookup l

/-- A folder is at the location. -/
def isFolder (t : FileTree) (l : Location) : Bool :=
  match t.node? l with
  | some .folder => true
  | _ => false

/-- The tree without the node at a location. -/
def remove (t : FileTree) (l : Location) : FileTree :=
  { t with nodes := t.nodes.filter (·.1 ≠ l) }

/-- The tree with a node put at a location. -/
def put (t : FileTree) (l : Location) (n : Node) : FileTree :=
  { t with nodes := (l, n) :: (t.remove l).nodes }

/-- Where a part leads from a folder. -/
def go (l : Location) (part : String) : Location :=
  if part = Path.up then l.dropLast else l ++ [part]

/-- The greatest number of bytes in a name. -/
def longestName : Nat := 255

/-- A name that is short enough. -/
def admits (name : String) : Bool := name.utf8ByteSize ≤ longestName

/-- Where the parts of a path lead; nowhere when something on the way is no folder. -/
def walk (t : FileTree) : Location → List String → Except StorageError (Option Location)
  | l, [] => pure (some l)
  | l, part :: rest =>
    if !t.isFolder l then pure none
    else if admits part then t.walk (go l part) rest
    else throw .refused

/-- Where a path starts. -/
def start (t : FileTree) (p : Path) : Location := if p.root = "" then t.here else []

/-- The node that a path leads to, if there is one. -/
def find (t : FileTree) (p : Path) : Except StorageError (Option Node) :=
  if p.isBad then pure none
  else if p.isLong 0 then throw .refused
  else do pure ((← t.walk (t.start p) p.parts).bind t.node?)

/-- The tree in which all parts of a path are folders, and where they lead. -/
def makeFolders (t : FileTree) : Location → List String → Except StorageError Location × FileTree
  | l, [] => (pure l, t)
  | l, part :: rest =>
    if admits part then
      let next := go l part
      match t.node? next with
      | some .folder => t.makeFolders next rest
      | none => (t.put next .folder).makeFolders next rest
      | some _ => (throw .refused, t)
    else (throw .refused, t)

/-- The tree in which the folder of a path is there, and where it is. -/
def makeParent (t : FileTree) (p : Path) : Except StorageError Location × FileTree :=
  if p.parent.isBad then (throw .badName, t)
  else if p.parent.isLong 0 then (throw .refused, t)
  else t.makeFolders (t.start p) p.parent.parts

/-- The locations of all files, without folders. -/
def files (t : FileTree) : List Location :=
  (t.nodes.filter fun (_, n) => match n with
    | .folder => false
    | _ => true).map (·.1)

end FileTree

end Kanban
