/-!
# Storage

A snapshot is kept in some place outside of the program, of which only this is asked: to give
back the bytes that were saved last, if any, and to save new ones.  `Backend` is the class of
such places.  Saving may fail, and may even then have left a trace.  `Memory` is the place
that lasts as long as the program.
-/

namespace Kanban

/-- Why bytes could not be loaded or saved. -/
inductive StorageError where
  /-- The file system, or what stands for it, has refused. -/
  | refused
  /-- A path has no last part that could name a file. -/
  | unnamed
  /-- A path holds a character that no name may hold. -/
  | badName
  /-- There is no table of snapshots, and none can be made. -/
  | noTable
  /-- A file is something else than a table of snapshots. -/
  | notTable
  /-- A row would be without a value. -/
  | noValue
  /-- A key is nothing that rows can be found by. -/
  | badKey
  /-- A key is an integer of more than 64 bits. -/
  | largeKey
  deriving DecidableEq

/-- A place where a snapshot is kept. -/
class Backend (β : Type) where
  load : β → Except StorageError (Option ByteArray)
  save : ByteArray → β → Except StorageError Unit × β

/-- A place in memory. -/
structure Memory where
  content : Option ByteArray
  /-- How often bytes were saved. -/
  saves : Nat
  /-- Saving fails. -/
  failing : Bool

namespace Memory

/-- A place in memory where nothing was saved. -/
def empty : Memory := ⟨none, 0, false⟩

instance : Backend Memory where
  load m := pure m.content
  save bytes m :=
    if m.failing then (throw .refused, m)
    else (pure (), { m with content := some bytes, saves := m.saves + 1 })

end Memory

end Kanban
