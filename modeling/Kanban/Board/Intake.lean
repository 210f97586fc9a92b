import Kanban.Board.Command

/-!
# Taking in snapshots

A snapshot from outside may hold tasks with the same id.  `Board.intake` reads it and gives
every task but the first of an id a fresh one, and `Board.adopt` is the board that results,
with an entry for each id that was replaced in front of the audit log, the last one first.
-/

namespace Kanban

/-- An id that was replaced. -/
structure Replacement where
  oldId : Text
  newId : Text
  deriving DecidableEq

namespace Replacement

/-- A replacement in its written form. -/
def toJson (r : Replacement) : Json := .obj [("oldId", .str r.oldId), ("newId", .str r.newId)]

end Replacement

namespace Board

/-- Tasks with a fresh id for each whose id is among those `seen` before it, and what was
replaced.  The fresh ids are taken in order, from the `i`-th on. -/
def distinguish (fresh : Nat → Text) :
    (seen : List Text) → (i : Nat) → List Task → List Task × List Replacement
  | _, _, [] => ([], [])
  | seen, i, t :: ts =>
    if seen.contains t.id then
      let (us, rs) := distinguish fresh seen (i + 1) ts
      ({ t with id := fresh i } :: us, ⟨t.id, fresh i⟩ :: rs)
    else
      let (us, rs) := distinguish fresh (t.id :: seen) i ts
      (t :: us, rs)

/-- The board of a snapshot, in which no id is repeated, and what was replaced. -/
def intake (fresh : Nat → Text) (snapshot : Json) : Checked (Board × List Replacement) :=
  (read snapshot).map fun b =>
    let (tasks, replacements) := distinguish fresh [] 0 b.tasks
    ({ b with tasks }, replacements)

/-- The entry about a replacement. -/
def replacementEntry (s : Stamp) (i : Nat) (r : Replacement) : Except Refusal Entry :=
  s.entry i .update r.newId [⟨Field.id.key, .str r.oldId, .str r.newId⟩]

/-- The board with an entry for each id that was replaced.  The entries take their ids after
the tasks. -/
def noteReplacements (s : Stamp) (b : Board) (replacements : List Replacement) :
    Except Refusal Board := do
  let entries ← replacements.zipIdx.mapM fun (r, i) =>
    replacementEntry s (replacements.length + i) r
  pure { b with audit := entries.reverse ++ b.audit }

/-- The board that a snapshot becomes, and what was replaced.  A snapshot whose issues cannot all
be shown is refused. -/
def adopt (s : Stamp) (snapshot : Json) :
    Except Refusal (Checked (Board × List Replacement)) :=
  match (intake s.fresh snapshot).shown? with
  | none => throw .longInteger
  | some (.bad first more) => pure (.bad first more)
  | some (.ok (b, replacements)) => do
    pure (.ok (← noteReplacements s b replacements, replacements))

end Board

end Kanban
