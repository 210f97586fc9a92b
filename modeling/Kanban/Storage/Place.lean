import Kanban.Storage.File
import Kanban.Storage.Table

/-!
# Places

A board is kept in a file, in a table or in memory.  A `Place` is any of these, and where it
is part of a file tree, `Place.tree?` is that tree as it is after the last operation.
-/

namespace Kanban

/-- A place where a board can be kept. -/
inductive Place where
  | file (s : FileStore)
  | table (s : TableStore)
  | memory (m : Memory)

namespace Place

/-- The outcome of saving, with the place it was saved in. -/
def inPlace {β : Type} (f : β → Place) (o : Except StorageError Unit × β) :
    Except StorageError Unit × Place :=
  (o.1, f o.2)

instance : Backend Place where
  load
    | .file s => Backend.load s
    | .table s => Backend.load s
    | .memory m => Backend.load m
  save bytes
    | .file s => inPlace .file (Backend.save bytes s)
    | .table s => inPlace .table (Backend.save bytes s)
    | .memory m => inPlace .memory (Backend.save bytes m)

/-- The file tree that the place is in. -/
def tree? : Place → Option FileTree
  | .file s => some s.tree
  | .table s => some s.tree
  | .memory _ => none

/-- The place in another state of its file tree. -/
def inTree (tree : FileTree) : Place → Place
  | .file s => .file { s with tree }
  | .table s => .table { s with tree }
  | .memory m => .memory m

end Place

end Kanban
